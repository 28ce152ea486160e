import Mathlib.Data.Finset.Basic
import AccountApp.Model.State

/-! # The login of the Facebook SDK

What is behind the Facebook dialog: `FBSDKLoginManager`, the completer of the URL it is answered
with, the part of `FBSDKBridgeAPI` that waits for that URL, and the token `FBSDKAccessToken` caches.
Each method is a function on `Facebook`, which is what these classes keep. The app asks for iOS 11,
so a login runs in an authentication session or in the browser.

Blocks that run later are in `pending`: a session or the browser that is open, a request to the
graph that is not answered. The history `log` is not part of the SDK.

A manager is kept by the blocks that refer to it and by nothing else: `fbButton` has it in a local
variable, and the bridge does not own the one that waits for a URL. When no such block is left the
manager is freed, and the block of the app with it (`release`). -/

namespace AccountApp.Dialog.LoginManager

open AccountApp.Model.Data (Dictionary)
open AccountApp.Model.State (Attempt)

/-! ### Data -/

structure NSError where
  domain : String
  code : Int
  /-- `userInfo[NSLocalizedDescriptionKey]` -/
  userDescription : Option String := none
deriving DecidableEq

def NSError.localizedDescription (e : NSError) : String :=
  e.userDescription.getD
    ("The operation couldn’t be completed. (" ++ e.domain ++ " error " ++ toString e.code ++ ".)")

def NSError.description (e : NSError) : String :=
  "Error Domain=" ++ e.domain ++ " Code=" ++ toString e.code ++
    match e.userDescription with
    | some d => " \"" ++ d ++ "\" UserInfo=\x7bNSLocalizedDescription=" ++ d ++ "\x7d"
    | none => " \"(null)\""

def FBSDKErrorInvalidArgument : NSError := ⟨"com.facebook.sdk.core", 2, none⟩
def FBSDKErrorGraphRequestGraphAPI : NSError := ⟨"com.facebook.sdk.core", 8, none⟩
def FBSDKLoginErrorUnknown : NSError := ⟨"com.facebook.sdk.login", 301, none⟩
def FBSDKLoginErrorUserMismatch : NSError := ⟨"com.facebook.sdk.login", 304, none⟩
def FBSDKLoginErrorBadChallengeString : NSError := ⟨"com.facebook.sdk.login", 308, none⟩

def SFVCCanceledLogin : String := "com.apple.SafariServices.Authentication"
def ASCanceledLogin : String := "com.apple.AuthenticationServices.WebAuthenticationSession"

/-- The permissions are sets, as in the source. -/
structure FBSDKAccessToken where
  tokenString : String
  permissions : Finset String
  declinedPermissions : Finset String
  userID : Option String
deriving DecidableEq

/-- A result without error; one that is cancelled has no token. -/
structure FBSDKLoginManagerLoginResult where
  token : Option FBSDKAccessToken
  isCancelled : Bool
  grantedPermissions : Finset String
  declinedPermissions : Option (Finset String)
  token_of_cancelled : isCancelled = true → token = none
deriving DecidableEq

/-- What a handler is called with: the result, or the error. -/
abbrev Reply := Except NSError FBSDKLoginManagerLoginResult

/-- A challenge by its characters. -/
abbrev Challenge := List Char

structure FBSDKLoginCompletionParameters where
  accessTokenString : Option String := none
  nonceString : Option String := none
  permissions : Finset String := ∅
  declinedPermissions : Finset String := ∅
  userID : Option String := none
  challenge : Option Challenge := none
  error : Option NSError := none
deriving DecidableEq

/-- A URL the app is opened with. `parameters` are those of its query and its fragment, `challenge`
and `signedUserID` what the JSON in `state` and in `signed_request` has for them. -/
structure NSURL where
  scheme : String
  host : String
  parameters : Dictionary
  challenge : Option Challenge
  signedUserID : Option String
deriving DecidableEq

inductive FBSDKLoginManagerState where
  | idle | start | performingLogin
deriving DecidableEq

/-- `_handler` is the block of an attempt. -/
structure FBSDKLoginManager where
  handler : Option Attempt := none
  state : FBSDKLoginManagerState := .idle
  usedSFAuthSession : Bool := false
  requestedPermissions : Option (Finset String) := none

/-- A login manager: that of an attempt, or the one made when the app is launched with a URL. -/
inductive Ref where
  | login (a : Attempt)
  | launch
deriving DecidableEq

/-- A block that runs later. -/
inductive Pending where
  /-- the completion handler of an authentication session -/
  | session (m : Ref)
  /-- the completion handler of `UIApplication.openURL` -/
  | openURL (m : Ref)
  | exchangeNonce (m : Ref) (parameters : FBSDKLoginCompletionParameters)
  | requestMe (m : Ref) (parameters : FBSDKLoginCompletionParameters)
  | validate (m : Ref) (currentToken token : FBSDKAccessToken) (granted : Finset String)
      (declined : Option (Finset String))
  /-- a refresh of the token that was current then -/
  | refresh (expectedToken : ℕ)
deriving DecidableEq

/-- The manager a block is for. -/
def managerOf : Pending → Option Ref
  | .session m | .openURL m | .exchangeNonce m _ | .requestMe m _ | .validate m .. => some m
  | .refresh _ => none

inductive Event where
  | launched
  | started (a : Attempt) (challenge : Challenge)
  | completed (m : Ref) (parameters : FBSDKLoginCompletionParameters) (challengePassed : Bool)
  /-- A login replaces the token `old`; `handler` is the block that waits for it, if any. -/
  | cached (m : Ref) (handler : Option Attempt) (old : Option FBSDKAccessToken)
      (token : FBSDKAccessToken)
  | handled (a : Attempt) (reply : Reply)
  | refreshed (token : FBSDKAccessToken)
  | dropped
deriving DecidableEq

structure Facebook where
  /-- `FBSDKSettings.appID` -/
  appID : String
  managers : Ref → FBSDKLoginManager
  /-- `expected_login_challenge` in the keychain -/
  expectedChallenge : Option Challenge
  currentAccessToken : Option FBSDKAccessToken
  /-- which object `currentAccessToken` is -/
  generation : ℕ
  /-- `_pendingURLOpen` of the bridge, which is weak -/
  pendingURLOpen : Option Ref
  /-- `_authenticationSession` of the bridge, by the block in `pending` it has been made with -/
  authenticationSession : Option ℕ
  /-- the manager `_authenticationSessionCompletionHandler` is for -/
  sessionHandler : Option Ref
  expectingBackground : Bool
  isRequestingSFAuthenticationSession : Bool
  pending : ℕ → Option Pending
  next : ℕ
  /-- No login has been started for the attempts from here on. -/
  fresh : Attempt
  log : List Event

namespace Facebook

def emit (e : Event) (f : Facebook) : Facebook := { f with log := e :: f.log }

def modify (m : Ref) (g : FBSDKLoginManager → FBSDKLoginManager) (f : Facebook) : Facebook :=
  { f with managers := Function.update f.managers m (g (f.managers m)) }

/-- A block is kept for later. -/
def await (r : Pending) (f : Facebook) : Facebook :=
  { f with pending := Function.update f.pending f.next (some r), next := f.next + 1 }

/-- The block `p` runs. -/
def answered (p : ℕ) (f : Facebook) : Facebook :=
  { f with pending := Function.update f.pending p none }

def setCurrentAccessToken (token : Option FBSDKAccessToken) (f : Facebook) : Facebook :=
  { f with currentAccessToken := token, generation := f.generation + 1 }

/-- A block refers to the manager. -/
def Retained (m : Ref) (f : Facebook) : Prop :=
  f.sessionHandler = some m ∨ ∃ p < f.next, (f.pending p).bind managerOf = some m

instance (m : Ref) (f : Facebook) : Decidable (f.Retained m) := by
  unfold Retained
  infer_instance

/-- The managers no block refers to are freed. -/
def release (f : Facebook) : Facebook :=
  { f with
    managers := fun m => if f.Retained m then f.managers m else {}
    pendingURLOpen := f.pendingURLOpen.filter fun m => f.Retained m }

end Facebook

/-! ### The completer -/

/-- `scopes` of a URL; an empty string has none. -/
def scopes : Option String → Finset String
  | none => ∅
  | some s => if s = "" then ∅ else ((s.toList.splitOn ',').map String.ofList).toFinset

/-- A string with something in it. -/
def present (s : Option String) : Bool := s.any (· ≠ "")

/-- `queryParamsFromLoginURL` puts the user of `signed_request` in place of `user_id`, and
`setParametersWithDictionary` reads `signed_request` once more if that is empty. -/
def userIDOf (url : NSURL) : Option String :=
  let userID := url.signedUserID.or (url.parameters.lookup "user_id")
  if ¬ present userID ∧ present (url.parameters.lookup "signed_request") then url.signedUserID
  else userID

/-- `fbErrorFromReturnURLParameters`: without `error_message` there is none. -/
def errorFromReturnURLParameters (parameters : Dictionary) : Option NSError :=
  (parameters.lookup "error_message").map fun _ => FBSDKErrorGraphRequestGraphAPI

/-- `initWithURLParameters` -/
def parametersOf (url : NSURL) : FBSDKLoginCompletionParameters :=
  let accessTokenString := url.parameters.lookup "access_token"
  let nonceString := url.parameters.lookup "nonce"
  if present accessTokenString ∨ present nonceString then
    { accessTokenString, nonceString
      permissions := scopes (url.parameters.lookup "granted_scopes")
      declinedPermissions := scopes (url.parameters.lookup "denied_scopes")
      userID := userIDOf url
      challenge := url.challenge }
  else { nonceString, error := errorFromReturnURLParameters url.parameters }

/-- The permissions of a status in the answer of `me/permissions`, by name and status. -/
def permissionsOf (status : String) (response : Dictionary) : Finset String :=
  ((response.filter fun p => p.2 = status).map Prod.fst).toFinset

/-- What the two requests of `FBSDKLoginRequestMeAndPermissions` make of the parameters; the error
of the second one wins. -/
def requested (parameters : FBSDKLoginCompletionParameters)
    (me : Except NSError (Option String)) (permissions : Except NSError Dictionary) :
    FBSDKLoginCompletionParameters :=
  let parameters := match me with
    | .ok userID => { parameters with userID }
    | .error e => { parameters with userID := none, error := some e }
  match permissions with
  | .ok response =>
    { parameters with
      permissions := permissionsOf "granted" response
      declinedPermissions := permissionsOf "declined" response }
  | .error e => { parameters with permissions := ∅, declinedPermissions := ∅, error := some e }

/-- What the answer of `oauth/access_token` makes of them. -/
def exchanged (parameters : FBSDKLoginCompletionParameters)
    (answer : Except NSError (Option String)) : FBSDKLoginCompletionParameters :=
  match answer with
  | .ok accessTokenString => { parameters with accessTokenString }
  | .error e => { parameters with error := some e }

/-! ### The manager -/

def cancelledResult : FBSDKLoginManagerLoginResult := ⟨none, true, ∅, some ∅, fun _ => rfl⟩

def loginResult (token : FBSDKAccessToken) (granted : Finset String)
    (declined : Option (Finset String)) : FBSDKLoginManagerLoginResult :=
  ⟨some token, false, granted, declined, nofun⟩

def invokeHandler (m : Ref) (reply : Reply) (f : Facebook) : Facebook :=
  let handler := (f.managers m).handler
  let f := f.modify m fun manager => { manager with state := .idle, handler := none }
  match handler with
  | some a => f.emit (.handled a reply)
  | none => f

def handleImplicitCancelOfLogIn (m : Ref) (f : Facebook) : Facebook :=
  invokeHandler m (.ok cancelledResult) f

def isPerformingLogin (m : Ref) (f : Facebook) : Bool := (f.managers m).state = .performingLogin

/-- Whether a login can be started; one that is under way in the browser is cancelled. -/
def validateLoginStartState (m : Ref) (f : Facebook) : Bool × Facebook :=
  match (f.managers m).state with
  | .start => ((f.managers m).usedSFAuthSession, f)
  | .performingLogin => (true, handleImplicitCancelOfLogIn m f)
  | .idle => (true, f.modify m fun manager => { manager with state := .start })

/-- `stringForChallenge`, with the random string it is made from. -/
def stringForChallenge (random : Challenge) : Challenge :=
  random.map fun c => if c = '+' then '=' else c

/-- `loadExpectedChallenge` as `completeAuthentication` reads it. -/
def challengeExpected (challenge : Challenge) : Challenge :=
  challenge.map fun c => if c = '+' then ' ' else c

/-- The login makes its token the current one. -/
def cacheToken (m : Ref) (token : FBSDKAccessToken) (f : Facebook) : Facebook :=
  (f.emit (.cached m (f.managers m).handler f.currentAccessToken token)).setCurrentAccessToken
    (some token)

/-- The permissions granted and declined by this login. Those that were granted before are not
reported again unless they have been asked for. -/
def determineRecentlyGrantedPermissions (m : Ref) (parameters : FBSDKLoginCompletionParameters)
    (f : Facebook) : Finset String × Option (Finset String) :=
  let requestedPermissions := (f.managers m).requestedPermissions
  let previouslyGranted : Finset String := (f.currentAccessToken.map (·.permissions)).getD ∅
  let recentlyGranted :=
    if previouslyGranted ≠ ∅ ∧ requestedPermissions.getD ∅ ≠ ∅ then
      parameters.permissions ∩ requestedPermissions.getD ∅
    else parameters.permissions
  (recentlyGranted, requestedPermissions.map (· ∩ parameters.declinedPermissions))

/-- `completeAuthentication` without an error and with a token. -/
def completeWithToken (m : Ref) (tokenString : String)
    (parameters : FBSDKLoginCompletionParameters) (f : Facebook) : Facebook :=
  let (granted, declined) := determineRecentlyGrantedPermissions m parameters f
  if granted = ∅ then
    let declined := if f.currentAccessToken.isSome then declined else none
    invokeHandler m (.ok ⟨none, false, ∅, declined, fun _ => rfl⟩) f
  else
    let token := ⟨tokenString, parameters.permissions, parameters.declinedPermissions,
      parameters.userID⟩
    match f.currentAccessToken with
    | some currentToken => f.await (.validate m currentToken token granted declined)
    | none => invokeHandler m (.ok (loginResult token granted declined)) (cacheToken m token f)

/-- Whether the challenge that has come back is the one expected. -/
def challengePassed (parameters : FBSDKLoginCompletionParameters) (f : Facebook) : Bool :=
  match f.expectedChallenge, parameters.challenge with
  | some expected, some received => challengeExpected expected = received
  | _, _ => false

/-- The error `completeAuthentication` goes on with: one that is there is not overwritten. -/
def errorOf (parameters : FBSDKLoginCompletionParameters) (passed : Bool) : Option NSError :=
  if parameters.error = none ∧ parameters.accessTokenString.isSome ∧ passed = false then
    some FBSDKLoginErrorBadChallengeString
  else parameters.error

def completeAuthentication (m : Ref) (parameters : FBSDKLoginCompletionParameters)
    (f : Facebook) : Facebook :=
  let passed := challengePassed parameters f
  let f := { f.emit (.completed m parameters passed) with expectedChallenge := none }
  match errorOf parameters passed with
  | some error => invokeHandler m (.error error) f
  | none =>
    match parameters.accessTokenString with
    | some tokenString => completeWithToken m tokenString parameters f
    | none => invokeHandler m (.ok ⟨none, true, ∅, none, fun _ => rfl⟩) f

/-- The block of `validateReauthentication`, with the `id` the graph has for the new token. -/
def validated (m : Ref) (currentToken token : FBSDKAccessToken) (granted : Finset String)
    (declined : Option (Finset String)) (actualID : Option String) (f : Facebook) : Facebook :=
  if currentToken.userID.isSome ∧ currentToken.userID = actualID then
    invokeHandler m (.ok (loginResult token granted declined)) (cacheToken m token f)
  else invokeHandler m (.error FBSDKLoginErrorUserMismatch) f

/-- `completeLoginWithHandler` -/
def completeLogin (m : Ref) (parameters : FBSDKLoginCompletionParameters) (f : Facebook) :
    Facebook :=
  match parameters.nonceString with
  | some nonce =>
    if nonce = "" ∨ f.appID = "" then
      completeAuthentication m { parameters with error := some FBSDKErrorInvalidArgument } f
    else f.await (.exchangeNonce m parameters)
  | none =>
    if parameters.accessTokenString.isSome ∧ parameters.userID = none then
      f.await (.requestMe m parameters)
    else completeAuthentication m parameters f

def hasPrefix (s pre : String) : Bool := pre.toList.isPrefixOf s.toList

/-- The URL comes from Facebook, and from an app that may open it. -/
def canOpenURL (url : NSURL) (sourceApplication : String) (f : Facebook) : Bool :=
  (hasPrefix url.scheme ("fb" ++ f.appID) && url.host == "authorize") &&
    (hasPrefix sourceApplication "com.facebook" || hasPrefix sourceApplication "com.apple" ||
      hasPrefix sourceApplication "com.burbn")

/-- `application(_:open:)` of the manager `m`. -/
def openURL (m : Ref) (url : NSURL) (sourceApplication : String) (f : Facebook) : Facebook :=
  if canOpenURL url sourceApplication f then completeLogin m (parametersOf url) f
  else if isPerformingLogin m f then handleImplicitCancelOfLogIn m f
  else f

/-- The block of `logInWithBehavior`. -/
def logInCompletion (m : Ref) (didPerformLogIn : Bool) (error : Option NSError) (f : Facebook) :
    Facebook :=
  if didPerformLogIn then f.modify m fun manager => { manager with state := .performingLogin }
  else if error.any fun e => e.domain = SFVCCanceledLogin ∨ e.domain = ASCanceledLogin then
    handleImplicitCancelOfLogIn m f
  else invokeHandler m (.error (error.getD FBSDKLoginErrorUnknown)) f

/-- How `performBrowserLogIn` shows the dialog: the server decides between a session and the
browser, and without a URL there is neither. -/
inductive Browser where
  | session
  | browser
  | unavailable (error : NSError)
deriving DecidableEq

def performBrowserLogIn (m : Ref) (shown : Browser) (f : Facebook) : Facebook :=
  match shown with
  | .session =>
    let f := f.modify m fun manager => { manager with usedSFAuthSession := true }
    Facebook.await (.session m)
      { f with
        expectingBackground := false
        pendingURLOpen := some m
        sessionHandler := some m
        authenticationSession := some f.next
        isRequestingSFAuthenticationSession := true }
  | .browser =>
    Facebook.await (.openURL m) { f with expectingBackground := true, pendingURLOpen := some m }
  | .unavailable error => logInCompletion m false (some error) f

/-- `logInWithPermissions`, with the block of attempt `a`. -/
def logIn (m : Ref) (permissions : Finset String) (a : Attempt) (random : Challenge)
    (shown : Browser) (f : Facebook) : Facebook :=
  let (start, f) := validateLoginStartState m f
  if start then
    let f := f.modify m fun manager =>
      { manager with
        handler := some a
        requestedPermissions := some permissions
        usedSFAuthSession := false }
    let challenge := stringForChallenge random
    performBrowserLogIn m shown
      { f.emit (.started a challenge) with expectedChallenge := some challenge }
  else f

/-! ### The bridge -/

/-- `application(_:open:)` of the bridge: the session is cancelled, and the manager that waits for a
URL gets it. -/
def bridgeOpenURL (url : NSURL) (sourceApplication : String) (f : Facebook) : Facebook :=
  let pendingURLOpen := f.pendingURLOpen
  let f := { f with authenticationSession := none, pendingURLOpen := none }
  match pendingURLOpen with
  | some m => openURL m url sourceApplication f
  | none => f

/-- The completion handler of a session. What it drops at its end may be of a later session. -/
def sessionCompletion (m : Ref) (answer : Except NSError NSURL) (f : Facebook) : Facebook :=
  let f := { f with isRequestingSFAuthenticationSession := false }
  let f := match answer with
    | .ok url => bridgeOpenURL url "com.apple" (logInCompletion m true none f)
    | .error e => logInCompletion m false (some e) f
  { f with authenticationSession := none, sessionHandler := none }

def applicationDidBecomeActive (f : Facebook) : Facebook :=
  if f.expectingBackground || f.isRequestingSFAuthenticationSession then f
  else
    match f.pendingURLOpen with
    | some m => if isPerformingLogin m f then handleImplicitCancelOfLogIn m f else f
    | none => f

def applicationDidEnterBackground (f : Facebook) : Facebook :=
  { f with isRequestingSFAuthenticationSession := false, expectingBackground := false }

/-! ### The process -/

/-- The process is started; the keychain has the token and the challenge of the one before. -/
def launch (url : Option (NSURL × String)) (f : Facebook) : Facebook :=
  let f := Facebook.emit .launched
    { f with
      managers := fun _ => {}
      pendingURLOpen := none
      authenticationSession := none
      sessionHandler := none
      expectingBackground := false
      isRequestingSFAuthenticationSession := false
      pending := fun _ => none }
  match url with
  | some (url, sourceApplication) => openURL .launch url sourceApplication f
  | none => f

/-! ### The token -/

/-- The current token is dropped: by `logOut`, or since the graph does not accept it any more. -/
def dropToken (f : Facebook) : Facebook := (f.emit .dropped).setCurrentAccessToken none

def logOut (f : Facebook) : Facebook := dropToken f

/-- What a refresh makes of the token that is current when it is answered. -/
def refreshedToken (currentToken : FBSDKAccessToken) (tokenString : Option String)
    (permissions : Option (Finset String × Finset String)) : FBSDKAccessToken where
  tokenString := tokenString.getD currentToken.tokenString
  permissions := (permissions.map Prod.fst).getD currentToken.permissions
  declinedPermissions := (permissions.map Prod.snd).getD currentToken.declinedPermissions
  userID := currentToken.userID

/-- The refreshed token is kept only if the token it is for is still the current one. -/
def refreshed (expectedToken : ℕ) (tokenString : Option String)
    (permissions : Option (Finset String × Finset String)) (f : Facebook) : Facebook :=
  match f.currentAccessToken with
  | some currentToken =>
    if f.generation = expectedToken then
      let token := refreshedToken currentToken tokenString permissions
      (f.emit (.refreshed token)).setCurrentAccessToken (some token)
    else f
  | none => f

end AccountApp.Dialog.LoginManager
