import AccountApp.Model.Step
import Mathlib.Logic.Relation

/-! # The pieces of the code of a step

A step of the app runs an action or a completion block. `Effect s₀ act k` lists the pieces such code
is made of, each with what is true when it runs: of the state `s₀` before the step (the tap was on a
screen the user can get at, the request was outstanding) or of the state the piece runs in. The pieces
with `k = true` are parts of the answer to an attempt, the others stand for themselves. -/

namespace AccountApp.Books.Effects

open AccountApp.Lib AccountApp.Model.Data AccountApp.Model.Screens AccountApp.Model.State
open AccountApp.Model.Handlers AccountApp.Model.Step
open Relation

/-! ### Who is concerned -/

/-- The controller that has made a call. -/
def caller : AuthCall → Addr
  | .createUser self _ => self
  | .signInEmail self _ _ => self
  | .signInFacebook self _ => self
  | .signInGoogle self _ _ => self
  | .signInPhone self _ _ => self

/-- The controller a request comes back to. The Google dialog comes back to the delegate, whoever
that is by then. -/
def holder : Request → Option Addr
  | .auth call | .authDone call _ => some (caller call)
  | .fbDialog self | .fetchProfile self _ | .userRecord self _ _ | .numberAlert self _
  | .verifyPhone self _ | .passwordReset self _ => some self
  | .googleDialog => none

/-- The address of the controller of a screen. -/
def addr : Screen → Addr
  | .main self | .verify self | .logIn self | .reset self | .profile self => self

/-- The controller a text field belongs to. -/
def fieldOf : Field → Addr
  | .email self | .firstName self | .lastName self | .password self | .number self | .code self
  | .resetEmail self => self

/-- The controller an action concerns: the one that is tapped or presented, or the one the answer
comes back to. Signing out leaves the screen it is tapped on as it is. -/
def target (s : App) : Action → Option Addr
  | .edit field _ => some (fieldOf field)
  | .switchButtonAction self | .firebaseLoginButtonAction self | .fbButton self
  | .googleLoginButton self | .phoneAuthButton self | .resetButton self | .sendCodeButton self
  | .loginButton self | .resetShouldReturn self | .present self => some self
  | .googleFinish .. => some s.delegate
  | .numberAlert a _ | .authFinish a _ | .authComplete a | .logInFinish a _ | .fetchFinish a _
  | .readFinish a | .verifyFinish a _ | .resetFinish a _ => (s.requests a).bind holder
  | .launch | .didTapSignOut .. | .writeFinish .. | .sessionDropped _ | .tokenRefreshed _
  | .tokenCached _ => none

/-- The controller at `i` can be got at: it is on a screen or prepared for one, or a request comes
back to it, or it is the delegate of Google. -/
inductive Reached (s : App) (i : Addr) : Prop
  | screen (c : Screen) (hc : c ∈ s.screens) (hi : addr c = i)
  | prepared (hi : i ∈ s.prepared)
  | request (a : Attempt) (r : Request) (hr : s.requests a = some r) (hi : holder r = some i)
  | delegate (hi : s.delegate = i)

/-- The action concerns the controller at `i`, which can be got at. -/
structure Concerned (s : App) (act : Action) (i : Addr) : Prop where
  reached : Reached s i
  target : target s act = some i

/-! ### The guards of the pieces -/

/-- A call made at a tap. -/
inductive Tap (s : App) : Action → AuthCall → Prop
  | form (self : Addr) (hself : .main self ∈ s.screens) (hf : (s.vcs self).filledIn = true) :
      Tap s (.firebaseLoginButtonAction self) (formCall self (s.vcs self))
  | code (self : Addr) (verificationID : String) (hself : .logIn self ∈ s.screens)
      (hvid : s.authVID = some verificationID) :
      Tap s (.loginButton self) (.signInPhone self verificationID (s.logInVCs self).codeField)

/-- A request that starts a new attempt, calls of `Auth.auth()` apart. -/
inductive Opens (s : App) : Action → Request → Prop
  | loadFBData (self : Addr) (hself : s.next ≤ self) (ht : s.accessToken.isSome = true) :
      Opens s .launch (.fetchProfile self none)
  | fetch (a : Attempt) (self : Addr) (result : LoginManagerLoginResult)
      (hr : s.requests a = some (.fbDialog self)) :
      Opens s (.logInFinish a (.ok result)) (.fetchProfile self (some a))
  | fbButton (self : Addr) (hself : .main self ∈ s.screens)
      (hshown : (s.vcs self).customFBButtonHidden = false) :
      Opens s (.fbButton self) (.fbDialog self)
  | googleLoginButton (self : Addr) (hself : .main self ∈ s.screens)
      (hshown : (s.vcs self).googleLoginButtonHidden = false) :
      Opens s (.googleLoginButton self) .googleDialog
  | sendCodeButton (self : Addr) (hself : .verify self ∈ s.screens) :
      Opens s (.sendCodeButton self) (.numberAlert self (s.verifyVCs self).numberField)
  | numberConfirmed (a : Attempt) (self : Addr) (number : String)
      (hr : s.requests a = some (.numberAlert self number)) :
      Opens s (.numberAlert a true) (.verifyPhone self number)
  | passwordReset (self : Addr) (hself : .reset self ∈ s.screens)
      (hne : (s.resetVCs self).emailTextField.isEmpty = false) :
      Opens s (.resetShouldReturn self) (.passwordReset self (s.resetVCs self).emailTextField)

/-- What an attempt waits for next, without a call. -/
inductive Continues (s : App) : Request → Request → Prop
  | finished (call : AuthCall) (answer : Answer User) :
      Continues s (.auth call) (.authDone call answer)
  | reading (self : Addr) (email password : String) (result user : User)
      (hu : s.currentUser = some user) :
      Continues s (.authDone (.signInEmail self email password) (.ok result))
        (.userRecord self user result.uid)

/-- The call an attempt makes when its dialog comes back: with the token that is cached by then, or
with the tokens Google hands to the delegate. -/
inductive SignsIn (s₀ s : App) : Request → AuthCall → Prop
  | facebook (self : Addr) (token : AccessToken) (ht : s.accessToken = some token) :
      SignsIn s₀ s (.fbDialog self) (.signInFacebook self token.tokenString)
  | google (idToken accessToken : String) :
      SignsIn s₀ s .googleDialog (.signInGoogle s₀.delegate idToken accessToken)

/-- Which action answers the request of attempt `a`, as far as the Facebook dialog goes. -/
def Takes (act : Action) (a : Attempt) : Request → Prop
  | .fbDialog _ => ∃ answer, act = .logInFinish a answer
  | _ => True

/-- The segue to the profile screen that the block of a request performs. -/
inductive Performs (s : App) : Request → Flow → Addr → Prop
  | facebook (self : Addr) (token : String) (answer : Answer User) :
      Performs s (.authDone (.signInFacebook self token) answer) .facebook self
  | google : Performs s .googleDialog .google s.delegate
  | email (self : Addr) (user : User) (uid : String) (hu : s.snapshot uid ≠ []) :
      Performs s (.userRecord self user uid) .email self

/-- The alert a tap shows. -/
inductive Warns (s : App) (self : Addr) : Alert → Prop
  | empty (hself : .main self ∈ s.screens) (hf : (s.vcs self).filledIn = false) :
      Warns s self errorAlert
  | short (hself : .main self ∈ s.screens) (hp : s.count (s.vcs self).passwordField < 6) :
      Warns s self problemPasswordAlert
  | number (hself : .verify self ∈ s.screens) :
      Warns s self (phoneNumberAlert (s.verifyVCs self).numberField)

/-- The alert the block of a request shows. -/
inductive Alerts : Request → Addr → Alert → Prop
  | created (self : Addr) (form : Form) (user : User) :
      Alerts (.authDone (.createUser self form) (.ok user)) self registrationAlert
  | refused (self : Addr) (form : Form) (e : NSError) :
      Alerts (.authDone (.createUser self form) (.error e)) self
        (authErrorAlert e.localizedDescription)
  | failed (self : Addr) (email password : String) (e : NSError) :
      Alerts (.authDone (.signInEmail self email password) (.error e)) self
        (authErrorAlert e.localizedDescription)
  | reset (self : Addr) (email : String) :
      Alerts (.passwordReset self email) self resetPasswordAlert

/-- The events that go with no other change, and when they come. -/
def Spoken (s : App) : Event → Prop
  | .print _ => True
  | .alert none self alert => Warns s self alert
  | .alert (some a) self alert => ∃ r, s.requests a = some r ∧ Alerts r self alert
  | .trapped => s.authVID = none
  | .authFinished a call _ => s.requests a = some (.auth call)
  | .authCompleted a call answer cur =>
    s.requests a = some (.authDone call answer) ∧ cur = s.currentUser
  | .fetched owner self _ => ∃ a, s.requests a = some (.fetchProfile self owner)
  | .recordRead a self uid snapshot =>
    (∃ user, s.requests a = some (.userRecord self user uid)) ∧ snapshot = s.snapshot uid
  | .profileFilled a self profile => ∃ user uid, s.requests a = some (.userRecord self user uid) ∧
      s.snapshot uid ≠ [] ∧ profile = fireProfileOf user (s.snapshot uid)
  | .verified a _ => ∃ self number, s.requests a = some (.verifyPhone self number)
  | .performLogin a self => ∃ number, s.requests a = some (.verifyPhone self number)
  | .launched | .instantiated _ | .authStarted .. | .fbLogInCompleted .. | .googleSignedIn ..
  | .recordWritten .. | .performSegue .. | .presented _ | .signedOut => False

/-- The events that are part of the answer to an attempt. -/
def told : Event → Bool
  | .print _ | .alert none _ _ | .trapped => false
  | _ => true

/-- The form of the controller at `self` is switched: at a tap, or when its registration is done. -/
inductive Switches (s : App) : Action → Addr → Prop
  | tap (self : Addr) : Switches s (.switchButtonAction self) self
  | created (a : Attempt) (self : Addr) (form : Form) (user : User)
      (hr : s.requests a = some (.authDone (.createUser self form) (.ok user))) :
      Switches s (.authComplete a) self

/-- A change of a login screen that does not switch it; `k` says whether it fills a profile. -/
inductive Change : Bool → ViewController → ViewController → Prop
  | email (vc : ViewController) (text : String) : Change false vc { vc with emailField := text }
  | firstName (vc : ViewController) (text : String) (hshown : vc.firstNameHidden = false) :
      Change false vc { vc with firstNameField := text }
  | lastName (vc : ViewController) (text : String) (hshown : vc.lastNameHidden = false) :
      Change false vc { vc with lastNameField := text }
  | password (vc : ViewController) (text : String) :
      Change false vc { vc with passwordField := text }
  | cleaned (vc : ViewController) : Change false vc vc.cleanTextFields
  | facebook (vc : ViewController) : Change true vc { vc with checkSystem := "fb" }
  | fetched (vc : ViewController) (answer : Answer Dictionary) :
      Change true vc (vc.transferFBData answer)
  | google (vc : ViewController) (profile : GIDProfileData) :
      Change true vc { vc with gProfileData := googleProfileOf profile, checkSystem := "g" }
  | read (vc : ViewController) (user : User) (snapshot : Dictionary) :
      Change true vc
        { vc with fireProfileData := fireProfileOf user snapshot, checkSystem := "Firebase" }

/-- The number under which a step starts a request, if it does. -/
def newNumber (s₀ : App) : Action → Attempt
  | .launch => s₀.next + 1
  | _ => s₀.next

section Guards
variable {s₀ s : App} {act : Action} {a : Attempt} {i : Addr}

theorem Reached.main (h : .main i ∈ s.screens) : Reached s i := .screen _ h rfl

theorem Reached.holder {r : Request} (hr : s.requests a = some r) (h : holder r = some i) :
    Reached s i := .request a r hr h

theorem Concerned.tap {c : Screen} (hact : Effects.target s act = some i) (hc : c ∈ s.screens)
    (hi : addr c = i) : Concerned s act i := ⟨.screen c hc hi, hact⟩

theorem Concerned.answer {r : Request}
    (hact : Effects.target s act = (s.requests a).bind Effects.holder)
    (hr : s.requests a = some r) (h : Effects.holder r = some i) : Concerned s act i := by
  refine ⟨.holder hr h, ?_⟩
  rw [hact, hr]
  exact h

theorem Opens.reached {r : Request} (h : Opens s act r) (hi : Effects.holder r = some i) :
    Reached s i ∨ s.next ≤ i := by
  cases h with
  | loadFBData self hself ht =>
    obtain rfl := Option.some.inj hi
    exact Or.inr hself
  | fetch a self result hr | numberConfirmed a self number hr =>
    obtain rfl := Option.some.inj hi
    exact Or.inl (.holder hr rfl)
  | fbButton self hself hshown =>
    obtain rfl := Option.some.inj hi
    exact Or.inl (.main hself)
  | googleLoginButton self hself hshown => exact absurd hi (by simp [Effects.holder])
  | sendCodeButton self hself | passwordReset self hself hne =>
    obtain rfl := Option.some.inj hi
    exact Or.inl (.screen _ hself rfl)

theorem caller_formCall (self : Addr) (vc : ViewController) : caller (formCall self vc) = self := by
  unfold formCall
  split_ifs <;> rfl

theorem Tap.reached {call : AuthCall} (h : Tap s act call) : Reached s (caller call) := by
  cases h with
  | form self hself hf =>
    rw [caller_formCall]
    exact .main hself
  | code self vid hself hvid => exact .screen _ hself rfl

theorem Continues.holder_eq {r r' : Request} (h : Continues s r r') :
    Effects.holder r' = Effects.holder r := by
  cases h <;> rfl

theorem SignsIn.reached {r : Request} {call : AuthCall} (h : SignsIn s₀ s r call)
    (hr : s₀.requests a = some r) : Reached s₀ (caller call) := by
  cases h with
  | facebook self token ht => exact .holder hr rfl
  | google idToken accessToken => exact .delegate rfl

end Guards

/-! ### The pieces -/

/-- A new login screen, which is the delegate of Google from then on. -/
def newMain (s : App) : App :=
  App.emit (.instantiated s.next)
    { s with
      screens := .main s.next :: s.screens
      vcs := Function.update s.vcs s.next {}
      delegate := s.next
      next := s.next + 1 }

def newVerify (s : App) : App :=
  { s with
    screens := .verify s.next :: s.screens
    verifyVCs := Function.update s.verifyVCs s.next {}
    next := s.next + 1 }

def newReset (s : App) : App :=
  { s with
    screens := .reset s.next :: s.screens
    resetVCs := Function.update s.resetVCs s.next {}
    next := s.next + 1 }

/-- The screen for the code, with the ID it is for. -/
def newLogIn (verificationID : String) (s : App) : App :=
  { s with
    authVID := some verificationID
    screens := .logIn s.next :: s.screens
    logInVCs := Function.update s.logInVCs s.next {}
    next := s.next + 1 }

/-- A piece of the code of the step `act` from `s₀`. -/
inductive Effect (s₀ : App) (act : Action) : Bool → App → App → Prop
  | spoken {k s} (e : Event) (he : Spoken s₀ e) (hk : told e = k) : Effect s₀ act k s (s.emit e)
  | changed {k s} (self : Addr) (f : ViewController → ViewController)
      (hself : Concerned s₀ act self) (hf : Change k (s.vcs self) (f (s.vcs self))) :
      Effect s₀ act k s (s.modify self f)
  | switched {s} (self : Addr) (hself : Concerned s₀ act self) (hact : Switches s₀ act self) :
      Effect s₀ act false s (s.modify self ViewController.switchButtonAction)
  | verifyChanged {s} (self : Addr) (vc : PhoneVerifyViewController)
      (hself : Concerned s₀ act self) :
      Effect s₀ act false s { s with verifyVCs := Function.update s.verifyVCs self vc }
  | logInChanged {s} (self : Addr) (vc : PhoneLogInViewController) (hself : Concerned s₀ act self) :
      Effect s₀ act false s { s with logInVCs := Function.update s.logInVCs self vc }
  | resetChanged {s} (self : Addr) (vc : ResetPasswordViewController)
      (hself : Concerned s₀ act self) :
      Effect s₀ act false s { s with resetVCs := Function.update s.resetVCs self vc }
  | started {s} (r : Request) (hr : Opens s₀ act r) (hn : s.next = newNumber s₀ act) :
      Effect s₀ act false s (s.start r)
  | tapped {s} (call : AuthCall) (hc : Tap s₀ act call) (hn : s.next = s₀.next) :
      Effect s₀ act false s (s.startAuth call)
  | answered {s} (a : Attempt) (r : Request) (hr : s₀.requests a = some r)
      (hact : Takes act a r) : Effect s₀ act true s (s.answered a)
  | awaited {s} (a : Attempt) (r r' : Request) (hr : s₀.requests a = some r)
      (hc : Continues s₀ r r') : Effect s₀ act true s (s.await a r')
  | called {s} (a : Attempt) (r : Request) (call : AuthCall) (hr : s₀.requests a = some r)
      (hact : Takes act a r) (hc : SignsIn s₀ s r call) : Effect s₀ act true s (s.callAuth a call)
  | segue {s} (a : Attempt) (r : Request) (flow : Flow) (self : Addr)
      (hr : s₀.requests a = some r) (hp : Performs s₀ r flow self) :
      Effect s₀ act true s (s.performSegue a flow self)
  | logged {s} (a : Attempt) (self : Addr) (vid code : String) (user : User)
      (hr : s₀.requests a = some (.authDone (.signInPhone self vid code) (.ok user))) :
      Effect s₀ act true s
        ((s.emit (.performSegue a .phone self .phone (phoneProfileOf user))).prepareProfile
          (phoneProfileOf user))
  | verifyOpened {s} (self : Addr) (hself : .main self ∈ s₀.screens)
      (hshown : (s₀.vcs self).phoneAuthButtonHidden = false) : Effect s₀ act false s (newVerify s)
  | resetOpened {s} (self : Addr) (hself : .main self ∈ s₀.screens)
      (hshown : (s₀.vcs self).resetButtonHidden = false) : Effect s₀ act false s (newReset s)
  | logInOpened {s} (a : Attempt) (self : Addr) (number verificationID : String)
      (hr : s₀.requests a = some (.verifyPhone self number)) :
      Effect s₀ act true s (newLogIn verificationID s)
  | mainOpened {s} (hact : act = .launch ∨ ∃ self throwing, act = .didTapSignOut self throwing) :
      Effect s₀ act false s (newMain s)
  | launched {s} (hact : act = .launch) : Effect s₀ act false s (startProcess s)
  | presented {s} (self : Addr) (hself : Concerned s₀ act self) (hact : act = .present self)
      (hmem : self ∈ s.prepared) :
      Effect s₀ act false s (s.present self)
  | signedOut {s} (self : Addr) (throwing : Option NSError) (user : Option User)
      (hact : act = .didTapSignOut self throwing) (hself : .profile self ∈ s₀.screens)
      (huser : user = none ∨ user = s.currentUser) :
      Effect s₀ act false s (App.emit .signedOut
        { s with currentUser := user, accessToken := none, googleUser := none })
  | current {s} (a : Attempt) (call : AuthCall) (user : User)
      (hact : act = .authFinish a (.ok user)) (hr : s₀.requests a = some (.auth call))
      (hnew : call.flow = none → user.uid ∉ s₀.accounts) :
      Effect s₀ act true s { s with currentUser := some user, accounts := user.uid :: s.accounts }
  | dialog {s} (a : Attempt) (self : Addr) (answer : Answer LoginManagerLoginResult)
      (hr : s₀.requests a = some (.fbDialog self)) (hact : act = .logInFinish a answer) :
      Effect s₀ act true s (App.emit (.fbLogInCompleted a self answer)
        { s with accessToken := (tokenOf answer).or s.accessToken })
  | googled {s} (a : Attempt) (answer : Answer GIDGoogleUser)
      (hr : s₀.requests a = some .googleDialog) (hact : act = .googleFinish a answer) :
      Effect s₀ act true s (App.emit (.googleSignedIn a s₀.delegate answer)
        { s with googleUser := googleUserOf answer s })
  | recording {s} (a : Attempt) (self : Addr) (form : Form) (user : User)
      (hr : s₀.requests a = some (.authDone (.createUser self form) (.ok user))) :
      Effect s₀ act true s
        { s with writes := Function.update s.writes a (some ⟨user.uid, form.record⟩) }
  | written {s} (a : Attempt) (w : RecordWrite) (outcome : WriteOutcome)
      (hact : act = .writeFinish a outcome) (hw : s₀.writes a = some w) :
      Effect s₀ act true s (writeFinish a w outcome s)
  | firebaseDropped {s} (hact : act = .sessionDropped .firebase) :
      Effect s₀ act false s { s with currentUser := none }
  | facebookDropped {s} (hact : act = .sessionDropped .facebook) :
      Effect s₀ act false s { s with accessToken := none }
  | googleDropped {s} (hact : act = .sessionDropped .google) :
      Effect s₀ act false s { s with googleUser := none }
  | refreshed {s} (token : AccessToken) (hs : s.accessToken.isSome = true)
      (hact : act = .tokenRefreshed token) :
      Effect s₀ act false s { s with accessToken := some token }
  | cached {s} (token : AccessToken) (hact : act = .tokenCached token) :
      Effect s₀ act false s { s with accessToken := some token }

/-- A sequence of pieces. -/
abbrev Runs (s₀ : App) (act : Action) (s t : App) : Prop :=
  ReflTransGen (fun u v => ∃ k, Effect s₀ act k u v) s t

/-- A sequence of pieces that stand for themselves. -/
abbrev Pieces (s₀ : App) (act : Action) (s t : App) : Prop :=
  ReflTransGen (Effect s₀ act false) s t

/-- Addresses and attempts are numbered on. -/
theorem Effect.next_le {s₀ s t : App} {act : Action} {k : Bool} (h : Effect s₀ act k s t) :
    s.next ≤ t.next := by
  cases h with
  | started r hr => exact Nat.le_succ _
  | tapped call hc hn => exact Nat.le_succ _
  | segue a r flow self hr hp => exact Nat.le_succ _
  | logged a self vid code user hr => exact Nat.le_succ _
  | verifyOpened self hself hshown | resetOpened self hself hshown => exact Nat.le_succ _
  | logInOpened a self number vid hr => exact Nat.le_succ _
  | mainOpened hact => exact Nat.le_succ _
  | _ => exact Nat.le_refl _

/-! ### What a step puts on record -/

/-- The events of a step, with what is true before the step when they come. -/
inductive Said (s₀ : App) (act : Action) : Event → Prop
  | spoken (e : Event) (he : Spoken s₀ e) : Said s₀ act e
  | launched (hact : act = .launch) : Said s₀ act .launched
  | instantiated (self : Addr) : Said s₀ act (.instantiated self)
  | signedOut (self : Addr) (hself : .profile self ∈ s₀.screens) : Said s₀ act .signedOut
  | tapped (call : AuthCall) (hc : Tap s₀ act call) : Said s₀ act (.authStarted s₀.next call)
  | called (a : Attempt) (r : Request) (call : AuthCall) (hr : s₀.requests a = some r)
      (s : App) (hc : SignsIn s₀ s r call) : Said s₀ act (.authStarted a call)
  | fbLogInCompleted (a : Attempt) (self : Addr) (answer : Answer LoginManagerLoginResult)
      (hr : s₀.requests a = some (.fbDialog self)) : Said s₀ act (.fbLogInCompleted a self answer)
  | googleSignedIn (a : Attempt) (answer : Answer GIDGoogleUser)
      (hr : s₀.requests a = some .googleDialog) : Said s₀ act (.googleSignedIn a s₀.delegate answer)
  | performSegue (a : Attempt) (r : Request) (flow : Flow) (self : Addr) (handed : Flow)
      (profile : ProfileData) (hr : s₀.requests a = some r) (hp : Performs s₀ r flow self) :
      Said s₀ act (.performSegue a flow self handed profile)
  | logged (a : Attempt) (self : Addr) (vid code : String) (user : User)
      (hr : s₀.requests a = some (.authDone (.signInPhone self vid code) (.ok user))) :
      Said s₀ act (.performSegue a .phone self .phone (phoneProfileOf user))
  | recordWritten (a : Attempt) (w : RecordWrite) (outcome : WriteOutcome)
      (hact : act = .writeFinish a outcome) (hw : s₀.writes a = some w) :
      Said s₀ act (.recordWritten a outcome)
  | presented (self : Addr) : Said s₀ act (.presented self)

/-- The history of `t` is that of `s` with events of this step on top. -/
def Adds (s₀ : App) (act : Action) (s t : App) : Prop :=
  ∃ new, t.log = new ++ s.log ∧ ∀ e ∈ new, Said s₀ act e

section Said
variable {s₀ s t u : App} {act : Action} {e : Event} {k : Bool}

theorem Adds.of_log_eq (h : t.log = s.log) : Adds s₀ act s t :=
  ⟨[], h, fun _ he => absurd he List.not_mem_nil⟩

theorem Adds.one (h : t.log = e :: s.log) (he : Said s₀ act e) : Adds s₀ act s t := by
  refine ⟨[e], h, fun e' he' => ?_⟩
  rw [List.mem_singleton.mp he']
  exact he

theorem Adds.trans (h : Adds s₀ act s t) (h' : Adds s₀ act t u) : Adds s₀ act s u := by
  obtain ⟨l, hl, hsaid⟩ := h
  obtain ⟨l', hl', hsaid'⟩ := h'
  refine ⟨l' ++ l, by rw [hl', hl, List.append_assoc], fun e he => ?_⟩
  exact (List.mem_append.mp he).elim (hsaid' e) (hsaid e)

theorem Effect.adds (h : Effect s₀ act k s t) : Adds s₀ act s t := by
  cases h with
  | spoken e he => exact .one rfl (.spoken e he)
  | tapped call hc hn => exact .one rfl (hn ▸ .tapped call hc)
  | called a r call hr hact hc => exact .one rfl (.called a r call hr s hc)
  | segue a r flow self hr hp => exact .one rfl (.performSegue a r flow self _ _ hr hp)
  | logged a self vid code user hr => exact .one rfl (.logged a self vid code user hr)
  | mainOpened hact => exact .one rfl (.instantiated _)
  | launched hact => exact .one rfl (.launched hact)
  | presented self hself hact hmem => exact .one rfl (.presented self)
  | dialog a self answer hr hact => exact .one rfl (.fbLogInCompleted a self answer hr)
  | googled a answer hr hact => exact .one rfl (.googleSignedIn a answer hr)
  | written a w outcome hact hw => exact .one rfl (.recordWritten a w outcome hact hw)
  | signedOut self throwing user hact hself huser => exact .one rfl (.signedOut self hself)
  | _ => exact .of_log_eq rfl

end Said

end AccountApp.Books.Effects
