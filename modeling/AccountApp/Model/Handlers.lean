import AccountApp.Model.State

/-! # The actions and completion blocks of the controllers

Each definition is one `@IBAction` or one completion block of the source, as a function on the
state; `self` is the controller it belongs to and `a` the attempt whose block is run. A block that
starts a request puts it in the slot of its attempt, with the variables the nested block captures.

Console output is an event like any other; the quotes of an `Optional` are put round a text as it
is. -/

namespace AccountApp.Model.Handlers

open AccountApp.Model.Data AccountApp.Model.Screens AccountApp.Model.State

/-! ### ServerManager, initSetup and the main view -/

/-- `loadFBData`: `fetchProfile` with `transferFBData` as its completion. -/
def loadFBData (owner : Option Attempt) (self : Addr) (s : App) : App :=
  s.start (.fetchProfile self owner)

/-- `transferFBData`, which `fetchProfile` calls on the main queue. -/
def transferFBData (self : Addr) (answer : Answer Dictionary) (s : App) : App :=
  let s := match answer with
    | .error e => s.emit (.print ("FETCH PROFILE ERROR: " ++ e.description))
    | .ok _ => s
  s.modify self (ViewController.transferFBData answer)

def initSetup (self : Addr) (s : App) : App :=
  let s := if s.accessToken.isSome then loadFBData none self s else s
  { s with delegate := self }

/-- A new `ViewController` is instantiated from the storyboard and its view is loaded. -/
def instantiateViewController (s : App) : App :=
  initSetup s.next (App.emit (.instantiated s.next)
    { s with
      screens := .main s.next :: s.screens
      vcs := Function.update s.vcs s.next {}
      next := s.next + 1 })

/-- A process is started: nothing of an earlier one is left but what the device keeps. -/
def startProcess (s : App) : App :=
  App.emit .launched
    { s with
      screens := []
      prepared := []
      requests := fun _ => none
      googleUser := none
      launchedAt := s.next }

def launch (s : App) : App := instantiateViewController (startProcess s)

/-! ### The email form -/

def showAuthError (a : Attempt) (self : Addr) (message : String) (s : App) : App :=
  s.showAlert (some a) self (authErrorAlert message)

def firebaseLoginButtonAction (self : Addr) (s : App) : App :=
  let vc := s.vcs self
  let t :=
    if vc.signUpOrIn then
      if vc.filledIn then s.startAuth (.createUser self vc.form)
      else s.showAlert none self errorAlert
    else
      if vc.filledIn then s.startAuth (.signInEmail self vc.emailField vc.passwordField)
      else s.showAlert none self errorAlert
  if s.count vc.passwordField < 6 then t.showAlert none self problemPasswordAlert else t

/-- The call a tap makes when the form is filled in. -/
def formCall (self : Addr) (vc : ViewController) : AuthCall :=
  if vc.signUpOrIn then .createUser self vc.form
  else .signInEmail self vc.emailField vc.passwordField

/-- What a tap does: the call, if the form is filled in, else an alert; and the advice on short
passwords in either case. -/
theorem firebaseLoginButtonAction_cases (self : Addr) (s : App) :
    ∃ t, ((s.vcs self).filledIn = true ∧ t = s.startAuth (formCall self (s.vcs self)) ∨
        (s.vcs self).filledIn = false ∧ t = s.showAlert none self errorAlert) ∧
      (firebaseLoginButtonAction self s = t ∨ s.count (s.vcs self).passwordField < 6 ∧
        firebaseLoginButtonAction self s = t.showAlert none self problemPasswordAlert) := by
  rcases hf : (s.vcs self).filledIn with _ | _
  · refine ⟨_, Or.inr ⟨rfl, rfl⟩, ?_⟩
    by_cases hshort : s.count (s.vcs self).passwordField < 6 <;>
      simp [firebaseLoginButtonAction, hf, hshort]
  · refine ⟨_, Or.inl ⟨rfl, rfl⟩, ?_⟩
    by_cases hshort : s.count (s.vcs self).passwordField < 6 <;>
      cases hmode : (s.vcs self).signUpOrIn <;>
      simp [firebaseLoginButtonAction, formCall, hf, hmode, hshort]

/-- The completion block of `createUser`. -/
def createUserCompletion (a : Attempt) (self : Addr) (form : Form) (answer : Answer User)
    (s : App) : App :=
  match answer with
  | .ok user =>
    let s := { s with writes := Function.update s.writes a (some ⟨user.uid, form.record⟩) }
    (s.showAlert (some a) self registrationAlert).modify self ViewController.switchButtonAction
  | .error e => showAuthError a self e.localizedDescription s

/-- The completion block of `signIn(withEmail:password:)`. -/
def signInEmailCompletion (a : Attempt) (self : Addr) (answer : Answer User) (s : App) : App :=
  match answer with
  | .ok result =>
    match s.currentUser with
    | some user => s.await a (.userRecord self user result.uid)
    | none => s
  | .error e => showAuthError a self e.localizedDescription s

/-- What the closure of the read fills `fireProfileData` with. -/
def fireProfileOf (user : User) (snapshot : Dictionary) : ProfileData where
  email := user.email
  fullName := snapshot.lookup "full_name"
  givenName := snapshot.lookup "first_name"
  familyName := snapshot.lookup "last_name"
  system := some "Firebase"

/-- The closure of `observeSingleEvent`. -/
def userRecordClosure (a : Attempt) (self : Addr) (user : User) (snapshot : Dictionary)
    (s : App) : App :=
  if snapshot.isEmpty then s
  else
    let s := s.modify self fun vc =>
      { vc with fireProfileData := fireProfileOf user snapshot, checkSystem := "Firebase" }
    let s := s.emit (.profileFilled a self (s.vcs self).fireProfileData)
    (s.performSegue a .email self).modify self ViewController.cleanTextFields

/-! ### Facebook -/

def fbButton (self : Addr) (s : App) : App := s.start (.fbDialog self)

/-- The completion block of `LoginManager.logIn`. -/
def logInCompletion (a : Attempt) (self : Addr) (answer : Answer LoginManagerLoginResult)
    (s : App) : App :=
  let s := match answer with
    | .error e => s.emit (.print ("Failed to login: " ++ e.localizedDescription))
    | .ok _ => (loadFBData (some a) self s).modify self fun vc => { vc with checkSystem := "fb" }
  match s.accessToken with
  | none => s.emit (.print "Failed to get access token")
  | some accessToken => s.callAuth a (.signInFacebook self accessToken.tokenString)

/-- The completion block of `signIn(with:)` in `fbButton`. -/
def signInFacebookCompletion (a : Attempt) (self : Addr) (answer : Answer User) (s : App) : App :=
  let s := match answer with
    | .error e => s.emit (.print ("Login error: " ++ e.localizedDescription))
    | .ok _ => s
  s.performSegue a .facebook self

/-! ### Google -/

def googleProfileOf (profile : GIDProfileData) : ProfileData where
  fullName := profile.name
  givenName := profile.givenName
  familyName := profile.familyName
  email := profile.email
  system := some "Google"

/-- `sign(_:didSignInFor:withError:)` of the delegate `self`. -/
def sign (a : Attempt) (self : Addr) (answer : Answer GIDGoogleUser) (s : App) : App :=
  match answer with
  | .error e => s.emit (.print ("google error " ++ e.localizedDescription))
  | .ok user =>
    match user.authentication with
    | none => s
    | some authentication =>
      let s := s.callAuth a
        (.signInGoogle self authentication.idToken authentication.accessToken)
      let s := s.modify self fun vc =>
        { vc with gProfileData := googleProfileOf user.profile, checkSystem := "g" }
      s.performSegue a .google self

/-- The completion block of `signIn(with:)` in `sign(_:didSignInFor:withError:)`. -/
def signInGoogleCompletion (answer : Answer User) (s : App) : App :=
  match answer with
  | .error e => s.emit (.print e.description)
  | .ok _ => s

/-! ### Phone -/

/-- A line with a text that is printed as an `Optional`. -/
def optionalLine (label text : String) : String := label ++ "Optional(\"" ++ text ++ "\")"

def sendCodeButton (self : Addr) (s : App) : App :=
  let number := (s.verifyVCs self).numberField
  (s.showAlert none self (phoneNumberAlert number)).start (.numberAlert self number)

/-- The handler of "Yes" in the alert of `sendCodeButton`. -/
def numberConfirmed (self : Addr) (number : String) (s : App) : App :=
  s.start (.verifyPhone self number)

/-- The completion block of `verifyPhoneNumber`. -/
def verifyPhoneCompletion (a : Attempt) (self : Addr) (answer : Answer String) (s : App) : App :=
  match answer with
  | .error e => s.emit (.print (optionalLine "eror: " e.localizedDescription))
  | .ok verificationID =>
    let s := { s with
      authVID := some verificationID
      verifyVCs := Function.update s.verifyVCs self { s.verifyVCs self with numberField := "" } }
    App.emit (.performLogin a self)
      { s with
        screens := .logIn s.next :: s.screens
        logInVCs := Function.update s.logInVCs s.next {}
        next := s.next + 1 }

def loginButton (self : Addr) (s : App) : App :=
  match s.authVID with
  | none => s.emit .trapped
  | some verificationID =>
    s.startAuth (.signInPhone self verificationID (s.logInVCs self).codeField)

/-- The completion block of `signIn(with:)` in `loginButton`; the segue is "logged". -/
def signInPhoneCompletion (a : Attempt) (self : Addr) (answer : Answer User) (s : App) : App :=
  match answer with
  | .error e => s.emit (.print (optionalLine "error: " e.localizedDescription))
  | .ok user =>
    let s := s.emit (.print (optionalLine "Provider ID: " user.providerID))
    let s := { s with
      logInVCs := Function.update s.logInVCs self
        { s.logInVCs self with phoneProfile := phoneProfileOf user } }
    let profile := (s.logInVCs self).phoneProfile
    (s.emit (.performSegue a .phone self .phone profile)).prepareProfile profile

/-! ### The completion blocks of `Auth.auth()` -/

/-- The completion block that was passed with the call. -/
def authCompletion (a : Attempt) (call : AuthCall) (answer : Answer User) (s : App) : App :=
  match call with
  | .createUser self form => createUserCompletion a self form answer s
  | .signInEmail self _ _ => signInEmailCompletion a self answer s
  | .signInFacebook self _ => signInFacebookCompletion a self answer s
  | .signInGoogle _ _ _ => signInGoogleCompletion answer s
  | .signInPhone self _ _ => signInPhoneCompletion a self answer s

/-! ### Password reset and sign-out -/

/-- `textFieldShouldReturn` of `ResetPasswordViewController`. -/
def resetShouldReturn (self : Addr) (s : App) : App :=
  let email := (s.resetVCs self).emailTextField
  if email.isEmpty then s else s.start (.passwordReset self email)

/-- The completion block of `sendPasswordReset`. -/
def passwordResetCompletion (a : Attempt) (self : Addr) (error : Option NSError) (s : App) : App :=
  match error with
  | none =>
    let s := s.showAlert (some a) self resetPasswordAlert
    { s with
      resetVCs := Function.update s.resetVCs self { s.resetVCs self with emailTextField := "" } }
  | some _ => s

/-- `Auth.auth().signOut()`: without a current user there is nothing to do, else it clears it or
throws and leaves it. -/
def authSignOut (throwing : Option NSError) (s : App) : App :=
  match s.currentUser, throwing with
  | some _, some e => s.emit (.print ("Error signing out: %@ " ++ e.description))
  | some _, none => { s with currentUser := none }
  | none, _ => s

def profileLogout (throwing : Option NSError) (s : App) : App :=
  { authSignOut throwing s with accessToken := none, googleUser := none }

/-- `didTapSignOut`, with `backToMainView`. -/
def didTapSignOut (throwing : Option NSError) (s : App) : App :=
  instantiateViewController ((profileLogout throwing s).emit .signedOut)

end AccountApp.Model.Handlers
