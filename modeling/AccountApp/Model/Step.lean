import AccountApp.Lib.Machine
import AccountApp.Model.Handlers

/-! # The app as a machine

An action is a tap, an edit, the start of the process, an answer of an SDK, or UIKit at work. `step`
says when it is possible and what it does. A tap needs a controller the user can get at and a button
that is not hidden; an answer needs a request that is outstanding, and each request is answered at
most once.
Whatever the services are free to decide (the answer, and when it comes) is in the action. -/

namespace AccountApp.Model.Step

open AccountApp.Lib AccountApp.Model.Data AccountApp.Model.Screens AccountApp.Model.State
open AccountApp.Model.Handlers

/-- A text field. -/
inductive Field where
  | email (self : Addr)
  | firstName (self : Addr)
  | lastName (self : Addr)
  | password (self : Addr)
  | number (self : Addr)
  | code (self : Addr)
  | resetEmail (self : Addr)
deriving DecidableEq

/-- The three owners of a session. -/
inductive Provider where
  | firebase | facebook | google
deriving DecidableEq

inductive Action where
  | launch
  /-- The user edits a text field. -/
  | edit (field : Field) (text : String)
  | switchButtonAction (self : Addr)
  | firebaseLoginButtonAction (self : Addr)
  | fbButton (self : Addr)
  /-- The tap on `googleLoginButton`, which the SDK handles. -/
  | googleLoginButton (self : Addr)
  | phoneAuthButton (self : Addr)
  | resetButton (self : Addr)
  | sendCodeButton (self : Addr)
  /-- "Yes" or "No" in the alert of `sendCodeButton`. -/
  | numberAlert (a : Attempt) (yes : Bool)
  | loginButton (self : Addr)
  | resetShouldReturn (self : Addr)
  /-- The tap on "Sign Out"; Firebase's `signOut` throws if an error is given. -/
  | didTapSignOut (self : Addr) (throwing : Option NSError)
  /-- UIKit presents a profile screen; nothing says when, or that it does. -/
  | present (self : Addr)
  /-- Firebase answers a call of `Auth.auth()`. -/
  | authFinish (a : Attempt) (answer : Answer User)
  /-- The main queue runs the completion block. -/
  | authComplete (a : Attempt)
  | logInFinish (a : Attempt) (answer : Answer LoginManagerLoginResult)
  | fetchFinish (a : Attempt) (answer : Answer Dictionary)
  | googleFinish (a : Attempt) (answer : Answer GIDGoogleUser)
  | readFinish (a : Attempt)
  | writeFinish (a : Attempt) (outcome : WriteOutcome)
  | verifyFinish (a : Attempt) (answer : Answer String)
  | resetFinish (a : Attempt) (error : Option NSError)
  /-- A provider drops its session by itself. -/
  | sessionDropped (provider : Provider)
  /-- The Facebook SDK replaces the cached token. -/
  | tokenRefreshed (token : AccessToken)
  /-- The Facebook SDK caches the token of a login that no dialog waits for: its URL has come late, or
  the app has been launched with it. -/
  | tokenCached (token : AccessToken)
deriving DecidableEq

/-- The user puts a text in a field; hidden fields cannot be edited. -/
def edit (s : App) (text : String) : Field → Option App
  | .email self =>
    if .main self ∈ s.screens then some (s.modify self fun vc => { vc with emailField := text })
    else none
  | .firstName self =>
    if .main self ∈ s.screens ∧ (s.vcs self).firstNameHidden = false then
      some (s.modify self fun vc => { vc with firstNameField := text })
    else none
  | .lastName self =>
    if .main self ∈ s.screens ∧ (s.vcs self).lastNameHidden = false then
      some (s.modify self fun vc => { vc with lastNameField := text })
    else none
  | .password self =>
    if .main self ∈ s.screens then
      some (s.modify self fun vc => { vc with passwordField := text })
    else none
  | .number self =>
    if .verify self ∈ s.screens then
      some { s with
        verifyVCs := Function.update s.verifyVCs self { s.verifyVCs self with numberField := text } }
    else none
  | .code self =>
    if .logIn self ∈ s.screens then
      some { s with
        logInVCs := Function.update s.logInVCs self { s.logInVCs self with codeField := text } }
    else none
  | .resetEmail self =>
    if .reset self ∈ s.screens then
      some { s with
        resetVCs := Function.update s.resetVCs self { s.resetVCs self with emailTextField := text } }
    else none

/-- Firebase answers: a success makes its user the current user. An account that is created is a new
one. -/
def authFinish (a : Attempt) (call : AuthCall) (answer : Answer User) (s : App) : Option App :=
  let t := (s.await a (.authDone call answer)).emit (.authFinished a call answer)
  match answer with
  | .error _ => some t
  | .ok user =>
    if call.flow = none ∧ user.uid ∈ s.accounts then none
    else some { t with currentUser := some user, accounts := user.uid :: s.accounts }

/-- The token a finished Facebook dialog caches. -/
def tokenOf (answer : Answer LoginManagerLoginResult) : Option AccessToken :=
  match answer with
  | .ok result => result.token
  | .error _ => none

def googleUserOf (answer : Answer GIDGoogleUser) (s : App) : Option GIDGoogleUser :=
  match answer with
  | .ok user => some user
  | .error _ => s.googleUser

/-- A write that is applied is laid over the children that are there. -/
def writeFinish (a : Attempt) (w : RecordWrite) (outcome : WriteOutcome) (s : App) : App :=
  App.emit (.recordWritten a outcome)
    { s with
      writes := Function.update s.writes a none
      users := if outcome = .applied then
          Function.update s.users w.uid (Dictionary.update w.values (s.users w.uid))
        else s.users }

def step (s : App) : Action → Option App
  | .launch => some (launch s)
  | .edit field text => edit s text field
  | .switchButtonAction self =>
    if .main self ∈ s.screens then some (s.modify self ViewController.switchButtonAction) else none
  | .firebaseLoginButtonAction self =>
    if .main self ∈ s.screens then some (firebaseLoginButtonAction self s) else none
  | .fbButton self =>
    if .main self ∈ s.screens ∧ (s.vcs self).customFBButtonHidden = false then
      some (fbButton self s)
    else none
  | .googleLoginButton self =>
    if .main self ∈ s.screens ∧ (s.vcs self).googleLoginButtonHidden = false then
      some (s.start .googleDialog)
    else none
  | .phoneAuthButton self =>
    if .main self ∈ s.screens ∧ (s.vcs self).phoneAuthButtonHidden = false then
      some { s with
        screens := .verify s.next :: s.screens
        verifyVCs := Function.update s.verifyVCs s.next {}
        next := s.next + 1 }
    else none
  | .resetButton self =>
    if .main self ∈ s.screens ∧ (s.vcs self).resetButtonHidden = false then
      some { s with
        screens := .reset s.next :: s.screens
        resetVCs := Function.update s.resetVCs s.next {}
        next := s.next + 1 }
    else none
  | .sendCodeButton self =>
    if .verify self ∈ s.screens then some (sendCodeButton self s) else none
  | .numberAlert a yes =>
    match s.requests a with
    | some (.numberAlert self number) =>
      some (if yes then numberConfirmed self number (s.answered a) else s.answered a)
    | _ => none
  | .loginButton self => if .logIn self ∈ s.screens then some (loginButton self s) else none
  | .resetShouldReturn self =>
    if .reset self ∈ s.screens then some (resetShouldReturn self s) else none
  | .didTapSignOut self throwing =>
    if .profile self ∈ s.screens then some (didTapSignOut throwing s) else none
  | .present self => if self ∈ s.prepared then some (s.present self) else none
  | .authFinish a answer =>
    match s.requests a with
    | some (.auth call) => authFinish a call answer s
    | _ => none
  | .authComplete a =>
    match s.requests a with
    | some (.authDone call answer) =>
      some (authCompletion a call answer
        ((s.answered a).emit (.authCompleted a call answer s.currentUser)))
    | _ => none
  | .logInFinish a answer =>
    match s.requests a with
    | some (.fbDialog self) =>
      let s := { s with accessToken := (tokenOf answer).or s.accessToken }
      some (logInCompletion a self answer
        ((s.answered a).emit (.fbLogInCompleted a self answer)))
    | _ => none
  | .fetchFinish a answer =>
    match s.requests a with
    | some (.fetchProfile self owner) =>
      some (transferFBData self answer ((s.answered a).emit (.fetched owner self answer)))
    | _ => none
  | .googleFinish a answer =>
    match s.requests a with
    | some .googleDialog =>
      let s := { s with googleUser := googleUserOf answer s }
      some (sign a s.delegate answer
        ((s.answered a).emit (.googleSignedIn a s.delegate answer)))
    | _ => none
  | .readFinish a =>
    match s.requests a with
    | some (.userRecord self user uid) =>
      some (userRecordClosure a self user (s.snapshot uid)
        ((s.answered a).emit (.recordRead a self uid (s.snapshot uid))))
    | _ => none
  | .writeFinish a outcome =>
    match s.writes a with
    | some w => some (writeFinish a w outcome s)
    | none => none
  | .verifyFinish a answer =>
    match s.requests a with
    | some (.verifyPhone self _) =>
      some (verifyPhoneCompletion a self answer ((s.answered a).emit (.verified a answer)))
    | _ => none
  | .resetFinish a error =>
    match s.requests a with
    | some (.passwordReset self _) => some (passwordResetCompletion a self error (s.answered a))
    | _ => none
  | .sessionDropped provider =>
    match provider with
    | .firebase => some { s with currentUser := none }
    | .facebook => some { s with accessToken := none }
    | .google => some { s with googleUser := none }
  | .tokenRefreshed token =>
    if s.accessToken.isSome then some { s with accessToken := some token } else none
  | .tokenCached token => some { s with accessToken := some token }

/-- `step` as a relation: what is true before an action that is possible, and the state it leaves. -/
inductive Stepped (s : App) : Action → App → Prop
  | launch : Stepped s .launch (launch s)
  | edit {field text t} (h : edit s text field = some t) : Stepped s (.edit field text) t
  | switchButtonAction {self} (hself : .main self ∈ s.screens) :
      Stepped s (.switchButtonAction self) (s.modify self ViewController.switchButtonAction)
  | firebaseLoginButtonAction {self} (hself : .main self ∈ s.screens) :
      Stepped s (.firebaseLoginButtonAction self) (firebaseLoginButtonAction self s)
  | fbButton {self} (hself : .main self ∈ s.screens)
      (hshown : (s.vcs self).customFBButtonHidden = false) :
      Stepped s (.fbButton self) (fbButton self s)
  | googleLoginButton {self} (hself : .main self ∈ s.screens)
      (hshown : (s.vcs self).googleLoginButtonHidden = false) :
      Stepped s (.googleLoginButton self) (s.start .googleDialog)
  | phoneAuthButton {self} (hself : .main self ∈ s.screens)
      (hshown : (s.vcs self).phoneAuthButtonHidden = false) :
      Stepped s (.phoneAuthButton self)
        { s with
          screens := .verify s.next :: s.screens
          verifyVCs := Function.update s.verifyVCs s.next {}
          next := s.next + 1 }
  | resetButton {self} (hself : .main self ∈ s.screens)
      (hshown : (s.vcs self).resetButtonHidden = false) :
      Stepped s (.resetButton self)
        { s with
          screens := .reset s.next :: s.screens
          resetVCs := Function.update s.resetVCs s.next {}
          next := s.next + 1 }
  | sendCodeButton {self} (hself : .verify self ∈ s.screens) :
      Stepped s (.sendCodeButton self) (sendCodeButton self s)
  | numberConfirmed {a self number} (hr : s.requests a = some (.numberAlert self number)) :
      Stepped s (.numberAlert a true) (numberConfirmed self number (s.answered a))
  | numberCancelled {a self number} (hr : s.requests a = some (.numberAlert self number)) :
      Stepped s (.numberAlert a false) (s.answered a)
  | loginButton {self} (hself : .logIn self ∈ s.screens) :
      Stepped s (.loginButton self) (loginButton self s)
  | resetShouldReturn {self} (hself : .reset self ∈ s.screens) :
      Stepped s (.resetShouldReturn self) (resetShouldReturn self s)
  | didTapSignOut {self throwing} (hself : .profile self ∈ s.screens) :
      Stepped s (.didTapSignOut self throwing) (didTapSignOut throwing s)
  | present {self} (hself : self ∈ s.prepared) : Stepped s (.present self) (s.present self)
  | authFinish {a call answer t} (hr : s.requests a = some (.auth call))
      (h : authFinish a call answer s = some t) : Stepped s (.authFinish a answer) t
  | authComplete {a call answer} (hr : s.requests a = some (.authDone call answer)) :
      Stepped s (.authComplete a) (authCompletion a call answer
        ((s.answered a).emit (.authCompleted a call answer s.currentUser)))
  | logInFinish {a self answer u} (hr : s.requests a = some (.fbDialog self))
      (hu : u = { s with accessToken := (tokenOf answer).or s.accessToken }) :
      Stepped s (.logInFinish a answer) (logInCompletion a self answer
        ((u.answered a).emit (.fbLogInCompleted a self answer)))
  | fetchFinish {a self owner answer} (hr : s.requests a = some (.fetchProfile self owner)) :
      Stepped s (.fetchFinish a answer)
        (transferFBData self answer ((s.answered a).emit (.fetched owner self answer)))
  | googleFinish {a answer u} (hr : s.requests a = some .googleDialog)
      (hu : u = { s with googleUser := googleUserOf answer s }) :
      Stepped s (.googleFinish a answer) (sign a s.delegate answer
        ((u.answered a).emit (.googleSignedIn a s.delegate answer)))
  | readFinish {a self user uid} (hr : s.requests a = some (.userRecord self user uid)) :
      Stepped s (.readFinish a) (userRecordClosure a self user (s.snapshot uid)
        ((s.answered a).emit (.recordRead a self uid (s.snapshot uid))))
  | writeFinish {a outcome w} (hw : s.writes a = some w) :
      Stepped s (.writeFinish a outcome) (writeFinish a w outcome s)
  | verifyFinish {a self number answer} (hr : s.requests a = some (.verifyPhone self number)) :
      Stepped s (.verifyFinish a answer)
        (verifyPhoneCompletion a self answer ((s.answered a).emit (.verified a answer)))
  | resetFinish {a self email error} (hr : s.requests a = some (.passwordReset self email)) :
      Stepped s (.resetFinish a error) (passwordResetCompletion a self error (s.answered a))
  | firebaseDropped : Stepped s (.sessionDropped .firebase) { s with currentUser := none }
  | facebookDropped : Stepped s (.sessionDropped .facebook) { s with accessToken := none }
  | googleDropped : Stepped s (.sessionDropped .google) { s with googleUser := none }
  | tokenRefreshed {token} (hs : s.accessToken.isSome = true) :
      Stepped s (.tokenRefreshed token) { s with accessToken := some token }
  | tokenCached {token} : Stepped s (.tokenCached token) { s with accessToken := some token }

theorem stepped {s t : App} {act : Action} (h : step s act = some t) : Stepped s act t := by
  cases act with
  | edit field text => exact .edit h
  | numberAlert a yes =>
    simp only [step] at h
    split at h
    · rename_i hr
      obtain rfl := Option.some.inj h
      cases yes with
      | true => exact .numberConfirmed hr
      | false => exact .numberCancelled hr
    · simp at h
  | authFinish a answer =>
    simp only [step] at h
    split at h
    · rename_i hr
      exact .authFinish hr h
    · simp at h
  | authComplete a | logInFinish a _ | fetchFinish a _ | googleFinish a _ | readFinish a
  | writeFinish a _ | verifyFinish a _ | resetFinish a _ =>
    simp only [step] at h
    split at h
    · obtain rfl := Option.some.inj h
      constructor <;> first | assumption | rfl
    · simp at h
  | sessionDropped provider =>
    cases provider <;> (obtain rfl := Option.some.inj h; constructor)
  | launch | tokenCached token =>
    obtain rfl := Option.some.inj h
    constructor
  | _ =>
    simp only [step] at h
    split_ifs at h with hguard
    obtain rfl := Option.some.inj h
    constructor <;> first | exact hguard | exact hguard.1 | exact hguard.2

/-- The app as it starts its life on a device: installed, with whatever the device holds. -/
def Initial (s : App) : Prop := ∃ d : Device, s = d.installed

/-- **The states the app can get into**: any order of launches, taps and answers, from any device. -/
abbrev Reachable (s : App) : Prop := Machine.Reachable step Initial s

/-- Run a list of actions. -/
abbrev exec (s : App) (as : List Action) : Option App := Machine.exec step s as

theorem reachable_of_exec {device : Device} {as : List Action} {s : App}
    (h : exec device.installed as = some s) : Reachable s := ⟨device.installed, as, ⟨device, rfl⟩, h⟩

end AccountApp.Model.Step
