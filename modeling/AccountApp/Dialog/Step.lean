import AccountApp.Dialog.LoginManager
import AccountApp.Lib.Machine

/-! # The login of the Facebook SDK as a machine

An action is a call of the app, an event of the device (the app comes to the front, it is opened with
a URL), or the answer to something that is outstanding. Each is answered once at most; that they are
answered is not assumed, nor is anything about URLs: any app may open this one with any URL, at any
time. A login has a manager of its own, as in `fbButton`. A session that is not the bridge's any more
may be given up by the system, and its block with it.

At the end of an action the managers are freed that no block refers to. -/

namespace AccountApp.Dialog.Step

open AccountApp.Lib
open AccountApp.Model.Data (Dictionary)
open AccountApp.Model.State (Attempt)
open AccountApp.Dialog.LoginManager

inductive Action where
  /-- `LoginManager().logIn`, with the random string of the challenge. -/
  | logIn (a : Attempt) (permissions : Finset String) (random : Challenge) (shown : Browser)
  | logOut
  | openURL (url : NSURL) (sourceApplication : String)
  | didBecomeActive
  | didEnterBackground
  | sessionFinish (p : ℕ) (answer : Except NSError NSURL)
  /-- A session is freed, and its block has not run. -/
  | sessionReleased (p : ℕ)
  | openFinish (p : ℕ) (success : Bool)
  | exchangeFinish (p : ℕ) (answer : Except NSError (Option String))
  | requestMeFinish (p : ℕ) (me : Except NSError (Option String))
      (permissions : Except NSError Dictionary)
  | validateFinish (p : ℕ) (actualID : Option String)
  /-- A refresh of the token is started. -/
  | refreshStart
  | refreshFinish (p : ℕ) (tokenString : Option String)
      (permissions : Option (Finset String × Finset String))
  /-- The graph says that the current token is not valid. -/
  | invalidated
  /-- The process is started, by a URL or not. -/
  | launch (url : Option (NSURL × String))

def perform (f : Facebook) : Action → Option Facebook
  | .logIn a permissions random shown =>
    if f.fresh ≤ a then
      some (logIn (.login a) permissions a random shown { f with fresh := a + 1 })
    else none
  | .logOut => some (logOut f)
  | .openURL url sourceApplication => some (bridgeOpenURL url sourceApplication f)
  | .didBecomeActive => some (applicationDidBecomeActive f)
  | .didEnterBackground => some (applicationDidEnterBackground f)
  | .sessionFinish p answer =>
    match f.pending p with
    | some (.session m) => some (sessionCompletion m answer (f.answered p))
    | _ => none
  | .sessionReleased p =>
    match f.pending p with
    | some (.session _) =>
      if f.authenticationSession = some p then none else some (f.answered p)
    | _ => none
  | .openFinish p success =>
    match f.pending p with
    | some (.openURL m) => some (logInCompletion m success none (f.answered p))
    | _ => none
  | .exchangeFinish p answer =>
    match f.pending p with
    | some (.exchangeNonce m parameters) =>
      some (completeAuthentication m (exchanged parameters answer) (f.answered p))
    | _ => none
  | .requestMeFinish p me permissions =>
    match f.pending p with
    | some (.requestMe m parameters) =>
      some (completeAuthentication m (requested parameters me permissions) (f.answered p))
    | _ => none
  | .validateFinish p actualID =>
    match f.pending p with
    | some (.validate m currentToken token granted declined) =>
      some (validated m currentToken token granted declined actualID (f.answered p))
    | _ => none
  | .refreshStart =>
    if f.currentAccessToken.isSome then some (f.await (.refresh f.generation)) else none
  | .refreshFinish p tokenString permissions =>
    match f.pending p with
    | some (.refresh expectedToken) =>
      some (refreshed expectedToken tokenString permissions (f.answered p))
    | _ => none
  | .invalidated => if f.currentAccessToken.isSome then some (dropToken f) else none
  | .launch url => some (launch url f)

def step (f : Facebook) (act : Action) : Option Facebook := (perform f act).map Facebook.release

/-- The SDK on a device that has been set up: what its keychain holds, and nothing under way. -/
def installed (appID : String) (token : Option FBSDKAccessToken) (challenge : Option Challenge) :
    Facebook where
  appID := appID
  managers := fun _ => {}
  expectedChallenge := challenge
  currentAccessToken := token
  generation := 0
  pendingURLOpen := none
  authenticationSession := none
  sessionHandler := none
  expectingBackground := false
  isRequestingSFAuthenticationSession := false
  pending := fun _ => none
  next := 0
  fresh := 0
  log := []

def Initial (f : Facebook) : Prop :=
  ∃ appID token challenge, f = installed appID token challenge

/-- The states the SDK can get into, whatever the app, the user and the services do. -/
abbrev Reachable (f : Facebook) : Prop := Machine.Reachable step Initial f

abbrev exec (f : Facebook) (as : List Action) : Option Facebook := Machine.exec step f as

theorem reachable_of_exec {appID : String} {token : Option FBSDKAccessToken}
    {challenge : Option Challenge} {f : Facebook} {as : List Action}
    (h : exec (installed appID token challenge) as = some f) : Reachable f :=
  ⟨_, as, ⟨appID, token, challenge, rfl⟩, h⟩

end AccountApp.Dialog.Step
