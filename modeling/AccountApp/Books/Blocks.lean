import AccountApp.Books.Effects

/-! # What a step does

`split_step` looks at the handlers, once for all that is said about them: an action that takes no
answer is a sequence of pieces, and one that does leaves what `Answers` lists, outcome by outcome.

* `step_preserves`: each outcome is a sequence of pieces too, so what the pieces preserve, the steps
  preserve.
* What concerns an answer as a whole goes by `Answers`: the life of an attempt, the entries in the
  ledger, and what is owed. -/

namespace AccountApp.Books.Blocks

open AccountApp.Lib AccountApp.Model.Data AccountApp.Model.Screens AccountApp.Model.State
open AccountApp.Model.Handlers AccountApp.Model.Step AccountApp.Books.Effects
open Relation

/-! ### The outcomes of an answer -/

/-- The answer to a call is taken, and its completion block is entered. -/
def entered (a : Attempt) (call : AuthCall) (answer : Answer User) (s : App) : App :=
  (s.answered a).emit (.authCompleted a call answer s.currentUser)

/-- The block of the Facebook dialog is entered; the token has been cached. -/
def dialogEntered (a : Attempt) (self : Addr) (answer : Answer LoginManagerLoginResult)
    (s : App) : App :=
  (App.answered a { s with accessToken := (tokenOf answer).or s.accessToken }).emit
    (.fbLogInCompleted a self answer)

/-- What it does before it looks for the token. -/
def dialogBegun (a : Attempt) (self : Addr) (answer : Answer LoginManagerLoginResult)
    (s : App) : App :=
  match answer with
  | .error e => s.emit (.print ("Failed to login: " ++ e.localizedDescription))
  | .ok _ => (loadFBData (some a) self s).modify self fun vc => { vc with checkSystem := "fb" }

/-- The delegate of Google is called. -/
def googleEntered (a : Attempt) (answer : Answer GIDGoogleUser) (s : App) : App :=
  (App.answered a { s with googleUser := googleUserOf answer s }).emit
    (.googleSignedIn a s.delegate answer)

/-- What an action that takes an answer leaves. -/
inductive Answers (s : App) : Action → App → Prop
  | numberConfirmed {a self number} (hr : s.requests a = some (.numberAlert self number)) :
      Answers s (.numberAlert a true) ((s.answered a).start (.verifyPhone self number))
  | numberCancelled {a self number} (hr : s.requests a = some (.numberAlert self number)) :
      Answers s (.numberAlert a false) (s.answered a)
  | refused {a call e} (hr : s.requests a = some (.auth call)) :
      Answers s (.authFinish a (.error e))
        ((s.await a (.authDone call (.error e))).emit (.authFinished a call (.error e)))
  | accepted {a call user} (hr : s.requests a = some (.auth call))
      (hnew : call.flow = none → user.uid ∉ s.accounts) :
      Answers s (.authFinish a (.ok user))
        { (s.await a (.authDone call (.ok user))).emit (.authFinished a call (.ok user)) with
          currentUser := some user
          accounts := user.uid :: s.accounts }
  | created {a self form user}
      (hr : s.requests a = some (.authDone (.createUser self form) (.ok user))) :
      Answers s (.authComplete a) (createUserCompletion a self form (.ok user)
        (entered a (.createUser self form) (.ok user) s))
  | notCreated {a self form e}
      (hr : s.requests a = some (.authDone (.createUser self form) (.error e))) :
      Answers s (.authComplete a) (showAuthError a self e.localizedDescription
        (entered a (.createUser self form) (.error e) s))
  | reading {a self email password result user}
      (hr : s.requests a = some (.authDone (.signInEmail self email password) (.ok result)))
      (hu : s.currentUser = some user) :
      Answers s (.authComplete a)
        ((entered a (.signInEmail self email password) (.ok result) s).await a
          (.userRecord self user result.uid))
  | notReading {a self email password result}
      (hr : s.requests a = some (.authDone (.signInEmail self email password) (.ok result)))
      (hu : s.currentUser = none) :
      Answers s (.authComplete a) (entered a (.signInEmail self email password) (.ok result) s)
  | notSignedIn {a self email password e}
      (hr : s.requests a = some (.authDone (.signInEmail self email password) (.error e))) :
      Answers s (.authComplete a) (showAuthError a self e.localizedDescription
        (entered a (.signInEmail self email password) (.error e) s))
  | facebookDone {a self token answer}
      (hr : s.requests a = some (.authDone (.signInFacebook self token) answer)) :
      Answers s (.authComplete a) (signInFacebookCompletion a self answer
        (entered a (.signInFacebook self token) answer s))
  | googleDone {a self idToken accessToken answer}
      (hr : s.requests a = some (.authDone (.signInGoogle self idToken accessToken) answer)) :
      Answers s (.authComplete a) (signInGoogleCompletion answer
        (entered a (.signInGoogle self idToken accessToken) answer s))
  | phoneDone {a self vid code user}
      (hr : s.requests a = some (.authDone (.signInPhone self vid code) (.ok user))) :
      Answers s (.authComplete a) (signInPhoneCompletion a self (.ok user)
        (entered a (.signInPhone self vid code) (.ok user) s))
  | phoneFailed {a self vid code e}
      (hr : s.requests a = some (.authDone (.signInPhone self vid code) (.error e))) :
      Answers s (.authComplete a) (signInPhoneCompletion a self (.error e)
        (entered a (.signInPhone self vid code) (.error e) s))
  | dialogStopped {a self answer} (hr : s.requests a = some (.fbDialog self))
      (ht : (tokenOf answer).or s.accessToken = none) :
      Answers s (.logInFinish a answer)
        ((dialogBegun a self answer (dialogEntered a self answer s)).emit
          (.print "Failed to get access token"))
  | dialogDone {a self answer} {token : AccessToken} (hr : s.requests a = some (.fbDialog self))
      (ht : (tokenOf answer).or s.accessToken = some token) :
      Answers s (.logInFinish a answer)
        ((dialogBegun a self answer (dialogEntered a self answer s)).callAuth a
          (.signInFacebook self token.tokenString))
  | fetched {a self owner answer} (hr : s.requests a = some (.fetchProfile self owner)) :
      Answers s (.fetchFinish a answer)
        (transferFBData self answer ((s.answered a).emit (.fetched owner self answer)))
  | googleFailed {a e} (hr : s.requests a = some .googleDialog) :
      Answers s (.googleFinish a (.error e)) ((googleEntered a (.error e) s).emit
        (.print ("google error " ++ e.localizedDescription)))
  | googleStopped {a user} (hr : s.requests a = some .googleDialog)
      (ha : user.authentication = none) :
      Answers s (.googleFinish a (.ok user)) (googleEntered a (.ok user) s)
  | google {a user auth} (hr : s.requests a = some .googleDialog)
      (ha : user.authentication = some auth) :
      Answers s (.googleFinish a (.ok user))
        ((((googleEntered a (.ok user) s).callAuth a
          (.signInGoogle s.delegate auth.idToken auth.accessToken)).modify s.delegate fun vc =>
            { vc with
              gProfileData := googleProfileOf user.profile
              checkSystem := "g" }).performSegue a .google s.delegate)
  | readNothing {a self user uid} (hr : s.requests a = some (.userRecord self user uid))
      (hs : s.snapshot uid = []) :
      Answers s (.readFinish a) ((s.answered a).emit (.recordRead a self uid []))
  | read {a self user uid} (hr : s.requests a = some (.userRecord self user uid))
      (hs : s.snapshot uid ≠ []) :
      Answers s (.readFinish a)
        ((((((s.answered a).emit (.recordRead a self uid (s.snapshot uid))).modify self fun vc =>
          { vc with
            fireProfileData := fireProfileOf user (s.snapshot uid)
            checkSystem := "Firebase" }).emit
              (.profileFilled a self (fireProfileOf user (s.snapshot uid)))).performSegue
                a .email self).modify self ViewController.cleanTextFields)
  | written {a w outcome} (hw : s.writes a = some w) :
      Answers s (.writeFinish a outcome) (writeFinish a w outcome s)
  | verified {a self number verificationID}
      (hr : s.requests a = some (.verifyPhone self number)) :
      Answers s (.verifyFinish a (.ok verificationID)) (verifyPhoneCompletion a self
        (.ok verificationID) ((s.answered a).emit (.verified a (.ok verificationID))))
  | notVerified {a self number e} (hr : s.requests a = some (.verifyPhone self number)) :
      Answers s (.verifyFinish a (.error e)) (verifyPhoneCompletion a self (.error e)
        ((s.answered a).emit (.verified a (.error e))))
  | resetDone {a self email error} (hr : s.requests a = some (.passwordReset self email)) :
      Answers s (.resetFinish a error) (passwordResetCompletion a self error (s.answered a))

/-- The attempt an action brings an answer for. -/
def takes : Action → Option Attempt
  | .numberAlert a _ | .authFinish a _ | .authComplete a | .logInFinish a _ | .fetchFinish a _
  | .googleFinish a _ | .readFinish a | .writeFinish a _ | .verifyFinish a _ | .resetFinish a _ =>
    some a
  | _ => none

/-! ### The handlers -/

section Handlers
variable {s t : App} {act : Action} {a : Attempt} {self : Addr}

theorem pieces_instantiate (hact : act = .launch ∨ ∃ i throwing, act = .didTapSignOut i throwing)
    {s₀ : App} (ht : s.accessToken.isSome = true →
      Opens s₀ act (.fetchProfile s.next none) ∧ s.next + 1 = newNumber s₀ act) :
    Pieces s₀ act s (instantiateViewController s) := by
  have hmain : Pieces s₀ act s (newMain s) := .single (.mainOpened hact)
  unfold instantiateViewController initSetup loadFBData
  split_ifs with htoken
  · obtain ⟨hopens, hnumber⟩ := ht htoken
    exact hmain.tail (.started _ hopens hnumber)
  · exact hmain

theorem pieces_launch : Pieces s .launch s (launch s) := by
  refine ReflTransGen.trans (.single (.launched rfl)) (pieces_instantiate (Or.inl rfl) fun ht => ?_)
  exact ⟨.loadFBData _ (Nat.le_refl _) ht, rfl⟩

theorem pieces_profileLogout {throwing : Option NSError} (hself : .profile self ∈ s.screens) :
    Pieces s (.didTapSignOut self throwing) s ((profileLogout throwing s).emit .signedOut) := by
  rcases hu : s.currentUser with _ | user
  · have heq : profileLogout throwing s = { s with accessToken := none, googleUser := none } := by
      simp [profileLogout, authSignOut, hu]
    rw [heq]
    exact .single (.signedOut self throwing s.currentUser rfl hself (Or.inr rfl))
  · rcases throwing with _ | e
    · have heq : profileLogout none s =
          { s with currentUser := none, accessToken := none, googleUser := none } := by
        simp [profileLogout, authSignOut, hu]
      rw [heq]
      exact .single (.signedOut self none none rfl hself (Or.inl rfl))
    · have heq : profileLogout (some e) s =
          { s.emit (.print ("Error signing out: %@ " ++ e.description)) with
            accessToken := none, googleUser := none } := by
        simp [profileLogout, authSignOut, hu]
      rw [heq]
      exact .tail (.single (.spoken (.print _) trivial rfl))
        (.signedOut self (some e) s.currentUser rfl hself (Or.inr rfl))

theorem pieces_didTapSignOut {throwing : Option NSError} (hself : .profile self ∈ s.screens) :
    Pieces s (.didTapSignOut self throwing) s (didTapSignOut throwing s) := by
  refine (pieces_profileLogout hself).trans
    (pieces_instantiate (Or.inr ⟨self, throwing, rfl⟩) fun ht => ?_)
  -- the token has just been dropped
  exact absurd ht (by simp [profileLogout, App.emit])

theorem pieces_edit {field : Field} {text : String} (h : edit s text field = some t) :
    Pieces s (.edit field text) s t := by
  cases field <;> simp only [edit] at h <;> split_ifs at h with hg <;>
    obtain rfl := Option.some.inj h
  · exact .single (.changed _ _ (.tap rfl hg rfl) (.email _ text))
  · exact .single (.changed _ _ (.tap rfl hg.1 rfl) (.firstName _ text hg.2))
  · exact .single (.changed _ _ (.tap rfl hg.1 rfl) (.lastName _ text hg.2))
  · exact .single (.changed _ _ (.tap rfl hg rfl) (.password _ text))
  · exact .single (.verifyChanged _ _ (.tap rfl hg rfl))
  · exact .single (.logInChanged _ _ (.tap rfl hg rfl))
  · exact .single (.resetChanged _ _ (.tap rfl hg rfl))

theorem pieces_firebaseLoginButtonAction (hself : .main self ∈ s.screens) :
    Pieces s (.firebaseLoginButtonAction self) s (firebaseLoginButtonAction self s) := by
  obtain ⟨t, ht, hfinal⟩ := firebaseLoginButtonAction_cases self s
  have hst : Pieces s (.firebaseLoginButtonAction self) s t := by
    rcases ht with ⟨hf, rfl⟩ | ⟨hf, rfl⟩
    · exact .single (.tapped _ (.form self hself hf) rfl)
    · exact .single (.spoken (.alert none self errorAlert) (.empty hself hf) rfl)
  rcases hfinal with heq | ⟨hp, heq⟩ <;> rw [heq]
  · exact hst
  · exact hst.tail (.spoken (.alert none self problemPasswordAlert) (.short hself hp) rfl)

theorem pieces_loginButton (hself : .logIn self ∈ s.screens) :
    Pieces s (.loginButton self) s (loginButton self s) := by
  unfold loginButton
  split
  · rename_i hnone
    exact .single (.spoken .trapped hnone rfl)
  · rename_i vid hvid
    exact .single (.tapped _ (.code self vid hself hvid) rfl)

theorem pieces_resetShouldReturn (hself : .reset self ∈ s.screens) :
    Pieces s (.resetShouldReturn self) s (resetShouldReturn self s) := by
  unfold resetShouldReturn
  simp only
  split_ifs with hempty
  · exact .refl
  · exact .single (.started _ (.passwordReset self hself (by simpa using hempty)) rfl)

theorem answers_authFinish {call : AuthCall} {answer : Answer User}
    (hr : s.requests a = some (.auth call)) (h : authFinish a call answer s = some t) :
    Answers s (.authFinish a answer) t := by
  unfold authFinish at h
  cases answer with
  | error e =>
    obtain rfl := Option.some.inj h
    exact .refused hr
  | ok user =>
    simp only at h
    split_ifs at h with hu
    obtain rfl := Option.some.inj h
    exact .accepted hr fun hf hmem => hu ⟨hf, hmem⟩

theorem answers_authCompletion {call : AuthCall} {answer : Answer User}
    (hr : s.requests a = some (.authDone call answer)) :
    Answers s (.authComplete a) (authCompletion a call answer (entered a call answer s)) := by
  cases call with
  | createUser self form =>
    cases answer with
    | ok user => exact .created hr
    | error e => exact .notCreated hr
  | signInEmail self email password =>
    cases answer with
    | ok result =>
      simp only [authCompletion, signInEmailCompletion]
      split
      · rename_i user hu
        exact .reading hr hu
      · rename_i hu
        exact .notReading hr hu
    | error e => exact .notSignedIn hr
  | signInFacebook self token => exact .facebookDone hr
  | signInGoogle self idToken accessToken => exact .googleDone hr
  | signInPhone self vid code =>
    cases answer with
    | ok user => exact .phoneDone hr
    | error e => exact .phoneFailed hr

theorem accessToken_dialogBegun (answer : Answer LoginManagerLoginResult) :
    (dialogBegun a self answer (dialogEntered a self answer s)).accessToken =
      (tokenOf answer).or s.accessToken := by
  cases answer <;> rfl

theorem answers_logInCompletion {answer : Answer LoginManagerLoginResult}
    (hr : s.requests a = some (.fbDialog self)) :
    Answers s (.logInFinish a answer)
      (logInCompletion a self answer (dialogEntered a self answer s)) := by
  unfold logInCompletion
  extract_lets t
  have ht : t = dialogBegun a self answer (dialogEntered a self answer s) := by
    cases answer <;> rfl
  clear_value t
  subst ht
  split
  · rename_i hnone
    exact .dialogStopped hr ((accessToken_dialogBegun answer).symm.trans hnone)
  · rename_i token hsome
    exact .dialogDone hr ((accessToken_dialogBegun answer).symm.trans hsome)

theorem answers_sign {answer : Answer GIDGoogleUser} (hr : s.requests a = some .googleDialog) :
    Answers s (.googleFinish a answer) (sign a s.delegate answer (googleEntered a answer s)) := by
  cases answer with
  | error e => exact .googleFailed hr
  | ok user =>
    simp only [sign]
    split
    · rename_i ha
      exact .googleStopped hr ha
    · rename_i auth ha
      exact .google hr ha

theorem answers_userRecordClosure {user : User} {uid : String}
    (hr : s.requests a = some (.userRecord self user uid)) :
    Answers s (.readFinish a) (userRecordClosure a self user (s.snapshot uid)
      ((s.answered a).emit (.recordRead a self uid (s.snapshot uid)))) := by
  by_cases hs : s.snapshot uid = []
  · rw [hs]
    exact .readNothing hr hs
  · have hread : Answers s (.readFinish a) _ := .read hr hs
    unfold userRecordClosure
    rw [if_neg (by simpa using hs)]
    simpa [App.modify] using hread

end Handlers

/-- **What a step does**: a sequence of pieces, or it takes an answer. -/
theorem split_step {s t : App} {act : Action} (h : step s act = some t) :
    takes act = none ∧ Pieces s act s t ∨ Answers s act t := by
  cases stepped h with
  | launch => exact Or.inl ⟨rfl, pieces_launch⟩
  | edit h => exact Or.inl ⟨rfl, pieces_edit h⟩
  | switchButtonAction hself =>
    exact Or.inl ⟨rfl, .single (.switched _ (.tap rfl hself rfl) (.tap _))⟩
  | firebaseLoginButtonAction hself =>
    exact Or.inl ⟨rfl, pieces_firebaseLoginButtonAction hself⟩
  | fbButton hself hshown => exact Or.inl ⟨rfl, .single (.started _ (.fbButton _ hself hshown) rfl)⟩
  | googleLoginButton hself hshown =>
    exact Or.inl ⟨rfl, .single (.started _ (.googleLoginButton _ hself hshown) rfl)⟩
  | phoneAuthButton hself hshown => exact Or.inl ⟨rfl, .single (.verifyOpened _ hself hshown)⟩
  | resetButton hself hshown => exact Or.inl ⟨rfl, .single (.resetOpened _ hself hshown)⟩
  | sendCodeButton hself =>
    refine Or.inl ⟨rfl, .tail (.single ?_) (.started _ (.sendCodeButton _ hself) rfl)⟩
    exact .spoken (.alert none _ (phoneNumberAlert _)) (.number hself) rfl
  | numberConfirmed hr => exact Or.inr (.numberConfirmed hr)
  | numberCancelled hr => exact Or.inr (.numberCancelled hr)
  | loginButton hself => exact Or.inl ⟨rfl, pieces_loginButton hself⟩
  | resetShouldReturn hself => exact Or.inl ⟨rfl, pieces_resetShouldReturn hself⟩
  | didTapSignOut hself => exact Or.inl ⟨rfl, pieces_didTapSignOut hself⟩
  | present hself => exact Or.inl ⟨rfl, .single (.presented _ ⟨.prepared hself, rfl⟩ rfl hself)⟩
  | authFinish hr h => exact Or.inr (answers_authFinish hr h)
  | authComplete hr => exact Or.inr (answers_authCompletion hr)
  | logInFinish hr hu =>
    subst hu
    exact Or.inr (answers_logInCompletion hr)
  | fetchFinish hr => exact Or.inr (.fetched hr)
  | googleFinish hr hu =>
    subst hu
    exact Or.inr (answers_sign hr)
  | readFinish hr => exact Or.inr (answers_userRecordClosure hr)
  | writeFinish hw => exact Or.inr (.written hw)
  | @verifyFinish a self number answer hr =>
    cases answer with
    | ok verificationID => exact Or.inr (.verified hr)
    | error e => exact Or.inr (.notVerified hr)
  | resetFinish hr => exact Or.inr (.resetDone hr)
  | firebaseDropped => exact Or.inl ⟨rfl, .single (.firebaseDropped rfl)⟩
  | facebookDropped => exact Or.inl ⟨rfl, .single (.facebookDropped rfl)⟩
  | googleDropped => exact Or.inl ⟨rfl, .single (.googleDropped rfl)⟩
  | tokenRefreshed hs => exact Or.inl ⟨rfl, .single (.refreshed _ hs rfl)⟩
  | tokenCached => exact Or.inl ⟨rfl, .single (.cached _ rfl)⟩

/-! ### The outcomes, piece by piece -/

section Outcomes
variable {s t : App} {act : Action} {a : Attempt} {self : Addr}

theorem runs_answered {r : Request} {e : Event} (hr : s.requests a = some r) (hact : Takes act a r)
    (he : Spoken s e) : Runs s act s ((s.answered a).emit e) :=
  .tail (.single ⟨_, .answered a r hr hact⟩) ⟨_, .spoken e he rfl⟩

theorem runs_entered {call : AuthCall} {answer : Answer User}
    (hr : s.requests a = some (.authDone call answer)) :
    Runs s (.authComplete a) s (entered a call answer s) := runs_answered hr trivial ⟨hr, rfl⟩

theorem runs_finished {call : AuthCall} {answer : Answer User}
    (hr : s.requests a = some (.auth call)) : Runs s (.authFinish a answer) s
      ((s.await a (.authDone call answer)).emit (.authFinished a call answer)) :=
  .tail (.single ⟨_, .awaited a _ _ hr (.finished call answer)⟩)
    ⟨_, .spoken (.authFinished a call answer) hr rfl⟩

theorem runs_dialogBegun {answer : Answer LoginManagerLoginResult}
    (hr : s.requests a = some (.fbDialog self)) :
    Runs s (.logInFinish a answer) s
      (dialogBegun a self answer (dialogEntered a self answer s)) := by
  have hentered : Runs s (.logInFinish a answer) s (dialogEntered a self answer s) :=
    .tail (.single ⟨_, .dialog a self answer hr rfl⟩) ⟨_, .answered a _ hr ⟨answer, rfl⟩⟩
  cases answer with
  | error e => exact hentered.tail ⟨_, .spoken (.print _) trivial rfl⟩
  | ok result =>
    refine (hentered.tail ⟨_, .started _ (.fetch a self result hr) rfl⟩).tail ?_
    exact ⟨_, .changed self (fun vc => { vc with checkSystem := "fb" }) (.answer rfl hr rfl)
      (.facebook _)⟩

theorem runs_googleEntered {answer : Answer GIDGoogleUser} (hr : s.requests a = some .googleDialog) :
    Runs s (.googleFinish a answer) s (googleEntered a answer s) :=
  .tail (.single ⟨_, .googled a answer hr rfl⟩) ⟨_, .answered a _ hr trivial⟩

/-- **An outcome is a sequence of pieces.** -/
theorem Answers.runs (h : Answers s act t) : Runs s act s t := by
  cases h with
  | @numberConfirmed a self number hr =>
    exact .tail (.single ⟨_, .answered a _ hr trivial⟩)
      ⟨_, .started _ (.numberConfirmed a self number hr) rfl⟩
  | numberCancelled hr => exact .single ⟨_, .answered _ _ hr trivial⟩
  | refused hr => exact runs_finished hr
  | accepted hr hnew => exact .tail (runs_finished hr) ⟨_, .current _ _ _ rfl hr hnew⟩
  | @created a self form user hr =>
    refine .tail (.tail (.tail (runs_entered hr) ⟨_, .recording a self form user hr⟩) ⟨_, .spoken
      (.alert (some a) self registrationAlert) ⟨_, hr, .created self form user⟩ rfl⟩) ?_
    exact ⟨_, .switched self (.answer rfl hr rfl) (.created a self form user hr)⟩
  | @notCreated a self form e hr =>
    exact .tail (runs_entered hr) ⟨_, .spoken _ ⟨_, hr, .refused self form e⟩ rfl⟩
  | @reading a self email password result user hr hu =>
    exact .tail (runs_entered hr)
      ⟨_, .awaited a _ _ hr (.reading self email password result user hu)⟩
  | notReading hr hu => exact runs_entered hr
  | @notSignedIn a self email password e hr =>
    exact .tail (runs_entered hr) ⟨_, .spoken _ ⟨_, hr, .failed self email password e⟩ rfl⟩
  | @facebookDone a self token answer hr =>
    cases answer with
    | ok user =>
      exact .tail (runs_entered hr) ⟨_, .segue a _ .facebook self hr (.facebook self token _)⟩
    | error e =>
      exact .tail (.tail (runs_entered hr) ⟨_, .spoken (.print _) trivial rfl⟩)
        ⟨_, .segue a _ .facebook self hr (.facebook self token _)⟩
  | @googleDone a self idToken accessToken answer hr =>
    cases answer with
    | ok user => exact runs_entered hr
    | error e => exact .tail (runs_entered hr) ⟨_, .spoken (.print e.description) trivial rfl⟩
  | @phoneDone a self vid code user hr =>
    simp only [signInPhoneCompletion, Function.update_self]
    refine .tail (.tail ?_ ⟨_, .logInChanged self _ (.answer rfl hr rfl)⟩)
      ⟨_, .logged a self vid code user hr⟩
    exact (runs_entered hr).tail ⟨_, .spoken (.print _) trivial rfl⟩
  | phoneFailed hr => exact .tail (runs_entered hr) ⟨_, .spoken (.print _) trivial rfl⟩
  | dialogStopped hr ht => exact .tail (runs_dialogBegun hr) ⟨_, .spoken (.print _) trivial rfl⟩
  | @dialogDone a self answer token hr ht =>
    exact .tail (runs_dialogBegun hr) ⟨_, .called a _ _ hr ⟨answer, rfl⟩
      (.facebook self token ((accessToken_dialogBegun answer).trans ht))⟩
  | @fetched a self owner answer hr =>
    have hanswered : Runs s (.fetchFinish a answer) s
        ((s.answered a).emit (.fetched owner self answer)) := runs_answered hr trivial ⟨a, hr⟩
    refine .tail ?_ ⟨_, .changed self _ (.answer rfl hr rfl) (.fetched _ answer)⟩
    cases answer with
    | ok result => exact hanswered
    | error e => exact hanswered.tail ⟨_, .spoken (.print _) trivial rfl⟩
  | googleFailed hr => exact .tail (runs_googleEntered hr) ⟨_, .spoken (.print _) trivial rfl⟩
  | googleStopped hr ha => exact runs_googleEntered hr
  | @google a user auth hr ha =>
    have hcalled : Runs s (.googleFinish a (.ok user)) s ((googleEntered a (.ok user) s).callAuth a
        (.signInGoogle s.delegate auth.idToken auth.accessToken)) :=
      (runs_googleEntered hr).tail ⟨_, .called a _ _ hr trivial (.google _ _)⟩
    refine .tail (hcalled.tail ?_) ⟨_, .segue a _ .google s.delegate hr .google⟩
    exact ⟨_, .changed s.delegate _ ⟨.delegate rfl, rfl⟩ (.google _ user.profile)⟩
  | @readNothing a self user uid hr hs =>
    exact runs_answered hr trivial ⟨⟨user, hr⟩, hs.symm⟩
  | @read a self user uid hr hs =>
    have hanswered : Runs s (.readFinish a) s
        ((s.answered a).emit (.recordRead a self uid (s.snapshot uid))) :=
      runs_answered hr trivial ⟨⟨user, hr⟩, rfl⟩
    have hfilled : Runs s (.readFinish a) s (((s.answered a).emit
        (.recordRead a self uid (s.snapshot uid))).modify self fun vc =>
          { vc with
            fireProfileData := fireProfileOf user (s.snapshot uid)
            checkSystem := "Firebase" }) := by
      refine hanswered.tail ?_
      exact ⟨_, .changed self _ (.answer rfl hr rfl) (.read _ user (s.snapshot uid))⟩
    refine .tail (.tail (hfilled.tail ?_)
      ⟨_, .segue a _ .email self hr (.email self user uid hs)⟩)
      ⟨_, .changed self _ (.answer rfl hr rfl) (.cleaned _)⟩
    exact ⟨_, .spoken _ ⟨user, uid, hr, hs, rfl⟩ rfl⟩
  | written hw => exact .single ⟨_, .written _ _ _ rfl hw⟩
  | @verified a self number verificationID hr =>
    have hverified : Runs s (.verifyFinish a (.ok verificationID)) s
        ((s.answered a).emit (.verified a (.ok verificationID))) :=
      runs_answered hr trivial ⟨self, number, hr⟩
    have hchanged := hverified.tail
      ⟨_, .verifyChanged self { s.verifyVCs self with numberField := "" } (.answer rfl hr rfl)⟩
    exact .tail (hchanged.tail ⟨_, .logInOpened a self number verificationID hr⟩)
      ⟨_, .spoken (.performLogin a self) ⟨number, hr⟩ rfl⟩
  | @notVerified a self number e hr =>
    have hverified : Runs s (.verifyFinish a (.error e)) s
        ((s.answered a).emit (.verified a (.error e))) := runs_answered hr trivial ⟨self, number, hr⟩
    exact hverified.tail ⟨_, .spoken (.print _) trivial rfl⟩
  | @resetDone a self email error hr =>
    have hanswered : Runs s (.resetFinish a error) s (s.answered a) :=
      .single ⟨_, .answered a _ hr trivial⟩
    rcases error with _ | e
    · exact (hanswered.tail ⟨_, .spoken (.alert (some a) self resetPasswordAlert)
        ⟨_, hr, .reset self email⟩ rfl⟩).tail ⟨_, .resetChanged self _ (.answer rfl hr rfl)⟩
    · exact hanswered

/-- **A step is a sequence of pieces.** -/
theorem runs_step (h : step s act = some t) : Runs s act s t := by
  rcases split_step h with ⟨-, hpieces⟩ | hanswers
  · exact hpieces.lift id fun _ _ hpiece => ⟨false, hpiece⟩
  · exact hanswers.runs

/-- **What every piece preserves, the step preserves.** The relation may speak of the state before
the step. -/
theorem step_preserves {J : App → Prop} (h0 : J s)
    (hJ : ∀ {k} u v, J u → Effect s act k u v → J v) (h : step s act = some t) : J t := by
  have hall : ∀ u, Runs s act s u → J u := by
    intro u hu
    induction hu with
    | refl => exact h0
    | tail _ hpiece ih =>
      obtain ⟨k, hpiece⟩ := hpiece
      exact hJ _ _ ih hpiece
  exact hall t (runs_step h)

theorem next_step (h : step s act = some t) : s.next ≤ t.next :=
  step_preserves (J := fun u => s.next ≤ u.next) (Nat.le_refl _)
    (fun _ _ hle he => Nat.le_trans hle he.next_le) h

theorem next_exec {as : List Action} (h : exec s as = some t) : s.next ≤ t.next := by
  refine Machine.exec_preserves (I := fun u => s.next ≤ u.next) ?_ (Nat.le_refl _) h
  exact fun u act v hle huv => Nat.le_trans hle (next_step huv)

/-- **What a step puts on record.** -/
theorem adds_step (h : step s act = some t) : Adds s act s t :=
  step_preserves (J := Adds s act s) (.of_log_eq rfl) (fun _ _ hu he => hu.trans he.adds) h

theorem said_of_new {e : Event} (h : step s act = some t) (he : e ∈ t.log) (hnew : e ∉ s.log) :
    Said s act e := by
  obtain ⟨new, hl, hsaid⟩ := adds_step h
  rw [hl] at he
  exact hsaid e ((List.mem_append.mp he).resolve_right hnew)

end Outcomes

/-! ### The launch -/

/-- After a launch nothing is outstanding but the fetch of the new screen. -/
theorem requests_launch {s : App} {a : Attempt} {r : Request}
    (hr : (launch s).requests a = some r) : s.next < a ∧ r = .fetchProfile s.next none := by
  have hlaunch : (launch s).requests = if s.accessToken.isSome then
      Function.update (fun _ => none) (s.next + 1) (some (.fetchProfile s.next none))
        else fun _ => none := by
    unfold launch instantiateViewController initSetup loadFBData
    by_cases ht : s.accessToken.isSome = true
    · rw [if_pos ht]
      exact congrArg App.requests (if_pos ht)
    · rw [if_neg ht]
      exact congrArg App.requests (if_neg ht)
  rw [hlaunch] at hr
  split_ifs at hr
  by_cases ha : a = s.next + 1
  · rw [ha, Function.update_self] at hr
    obtain rfl := Option.some.inj hr
    exact ⟨ha ▸ Nat.lt_succ_self _, rfl⟩
  · rw [Function.update_of_ne ha] at hr
    exact absurd hr (by simp)

theorem log_launch (s : App) : (launch s).log = .instantiated s.next :: .launched :: s.log := by
  unfold launch instantiateViewController initSetup loadFBData
  split_ifs <;> rfl

theorem requests_launch_of_lt {s : App} {a : Attempt} (hlt : a < s.next) :
    (launch s).requests a = none := by
  rcases hr : (launch s).requests a with _ | r
  · rfl
  · exact absurd hlt (Nat.lt_asymm (requests_launch hr).1)

end AccountApp.Books.Blocks
