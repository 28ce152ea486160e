import AccountApp.Attempt.Refine

/-! # The profile screen opens after the sign-in

Three of the flows that open the profile screen wait for Firebase; the Google flow opens it beside
the call of `signIn`, and the Facebook flow opens it whatever the answer was. So the screen opens
only for attempts that have signed in exactly in the runs in which the Google flow gets no tokens
and no Facebook credential is refused (`opensSignedIn_iff`).

The law is about one attempt at a time: it is proved of the views an attempt can get into, by
induction over its moves, and carried over to the app attempt by attempt. -/

namespace AccountApp.Laws.Segue

open AccountApp.Lib AccountApp.Lib.History
open AccountApp.Model.Data AccountApp.Model.Screens AccountApp.Model.State
open AccountApp.Model.Handlers AccountApp.Model.Step
open AccountApp.Attempt.Life AccountApp.Attempt.Refine

/-- A segue to the profile screen comes after the sign-in its own attempt has started, which has
completed without error. -/
def AfterSignIn : Event → List Event → Prop
  | .performSegue a flow _ _ _, past => ∃ call user cur, call.flow = some flow ∧
      .authStarted a call ∈ past ∧ .authCompleted a call (.ok user) cur ∈ past
  | _, _ => True

/-- A sign-in of attempt `a` has completed without error. -/
def SignedIn (a : Attempt) (log : List Event) : Prop :=
  ∃ call user cur, call.flow ≠ none ∧ .authCompleted a call (.ok user) cur ∈ log

/-- Each segue comes after the sign-in of its attempt, and an attempt whose sign-in has failed or is
outstanding has no segue. -/
structure OpensSignedIn (log : List Event) : Prop where
  afterSignIn : Always AfterSignIn log
  signedIn : ∀ a flow self handed profile,
    .performSegue a flow self handed profile ∈ log → SignedIn a log

/-- The answers the app does not wait for: Google's tokens, and the refusal of a Facebook
credential. -/
def unawaited : Event → Bool
  | .authCompleted _ (.signInFacebook ..) (.error _) _ => true
  | .googleSignedIn _ _ answer => usable answer
  | _ => false

theorem opensSignedIn_of_always {log : List Event} (h : Always AfterSignIn log) :
    OpensSignedIn log := by
  refine ⟨h, fun a flow self handed profile hmem => ?_⟩
  obtain ⟨past, hpast⟩ := exists_past hmem
  obtain ⟨call, user, cur, hflow, -, hc⟩ := always_iff.mp h _ past hpast
  refine ⟨call, user, cur, by simp [hflow], ?_⟩
  exact hpast.subset (List.mem_cons_of_mem _ hc)

/-! ### One attempt -/

section Attempt
variable {a : Attempt} {v : View}

theorem law_cons {e : Event} {h : List Event}
    (ih : Always AfterSignIn h ↔ ∀ e ∈ h, unawaited e = false) (he : AfterSignIn e h)
    (hu : unawaited e = false) :
    Always AfterSignIn (e :: h) ↔ ∀ e' ∈ e :: h, unawaited e' = false := by
  rw [always_cons, List.forall_mem_cons, ih]
  exact and_congr_left' (iff_of_true he hu)

/-- **One attempt** opens the screen after its sign-in exactly if it awaits it. -/
theorem afterSignIn_iff (hl : Lived a v) :
    Always AfterSignIn v.trace ↔ ∀ e ∈ v.trace, unawaited e = false := by
  induction hl with
  | refl => simp
  | tail hv hm ih =>
    cases hm with
    | number | opened _ _ | dropped => exact ih
    | tapped call hc => exact law_cons ih trivial rfl
    | @closed b r h new hr hn =>
      have hnew : ∀ e ∈ new, (∀ past, AfterSignIn e past) ∧ unawaited e = false := by
        intro e he
        have hminor := hn e he
        cases e <;> simp_all [minor, AfterSignIn, unawaited]
      rw [always_append fun e he => (hnew e he).1, ih]
      constructor
      · intro H e he
        rcases List.mem_append.mp he with he | he
        · exact (hnew e he).2
        · exact H e he
      · exact fun H e he => H e (List.mem_append_right _ he)
    | logInStopped answer => exact law_cons ih trivial rfl
    | logIn answer token => exact law_cons (law_cons ih trivial rfl) trivial rfl
    | googleStopped self answer hno =>
      have husable : usable answer = false := by
        cases answer with
        | ok user => simp [usable, hno user rfl]
        | error e => rfl
      exact law_cons ih trivial husable
    | @google b h self user auth ha handed profile =>
      have hnot : ∀ call user cur, Event.authCompleted a call (.ok user) cur ∉ h :=
        fun call user cur => Lived.not_completed_of_opening hv rfl rfl
      constructor
      · rintro ⟨⟨call, user', cur, -, -, hc⟩, -⟩
        exact absurd hc (by simpa using hnot call user' cur)
      · intro H
        have husable := H (.googleSignedIn a self (.ok user)) (by simp)
        simp [unawaited, usable, ha] at husable
    | finished answer => exact law_cons ih trivial rfl
    | created cur => exact law_cons (law_cons ih trivial rfl) trivial rfl
    | emailSignedIn user => exact law_cons ih trivial rfl
    | emailSignedOut => exact law_cons ih trivial rfl
    | @formFailed b call e h self cur hc =>
      have hother : unawaited (.authCompleted a call (.error e) cur) = false := by
        cases call with
        | signInFacebook self token => exact absurd (hc .facebook rfl) (by decide)
        | _ => rfl
      exact law_cons (law_cons ih trivial hother) trivial rfl
    | @facebookDone b self token answer h cur handed profile =>
      have hstarted := Lived.started_of_request hv rfl
      cases answer with
      | ok user =>
        refine law_cons (law_cons ih trivial rfl) ?_ rfl
        exact ⟨.signInFacebook self token, user, cur, rfl, List.mem_cons_of_mem _ hstarted,
          List.mem_cons_self⟩
      | error e =>
        have hnot : ∀ call user cur, Event.authCompleted a call (.ok user) cur ∉ h :=
          fun call user cur => Lived.not_completed hv (Or.inr ⟨_, _, rfl⟩)
        constructor
        · rintro ⟨⟨call, user, cur', -, -, hc⟩, -⟩
          exact absurd hc (by simpa using hnot call user cur')
        · intro H
          have hrefused := H (.authCompleted a (.signInFacebook self token) (.error e) cur) (by simp)
          simp [unawaited] at hrefused
    | googleDone cur => exact law_cons ih trivial rfl
    | @phoneDone b self vid code user h cur profile =>
      have hstarted := Lived.started_of_request hv rfl
      refine law_cons (law_cons ih trivial rfl) ?_ rfl
      exact ⟨.signInPhone self vid code, user, cur, rfl, List.mem_cons_of_mem _ hstarted,
        List.mem_cons_self⟩
    | phoneFailed cur => exact law_cons ih trivial rfl
    | readNothing => exact law_cons ih trivial rfl
    | @read b self user uid h snapshot hs handed profile =>
      obtain ⟨email, password, result, -, hc⟩ := Lived.completed_of_reading hv rfl
      obtain ⟨hstarted, -⟩ := Lived.finished_of_completed hv hc
      refine law_cons (law_cons (law_cons ih trivial rfl) trivial rfl) ?_ rfl
      exact ⟨.signInEmail self email password, result, some user, rfl, by simpa using hstarted,
        by simpa using hc⟩

end Attempt

/-! ### The app -/

theorem owner_of_unawaited {e : Event} (h : unawaited e = true) : ∃ a, owner e = some a := by
  cases e <;> simp_all [unawaited, owner]

theorem always_afterSignIn_iff_trace (log : List Event) :
    Always AfterSignIn log ↔ ∀ a, Always AfterSignIn (trace a log) := by
  refine always_iff_forall_filter (fun e past hnone => ?_) fun e a past hkey => ?_
  · cases e <;> simp_all [AfterSignIn, owner]
  · cases e with
    | performSegue b flow self handed profile =>
      obtain rfl : b = a := by simpa [owner] using hkey
      simp [AfterSignIn, owner]
    | _ => exact Iff.rfl

/-- **The profile screen opens after the sign-in exactly in the runs whose sign-ins are awaited**:
those in which no Facebook credential has been refused and Google has handed over no tokens. -/
theorem opensSignedIn_iff {s : App} (h : Reachable s) :
    OpensSignedIn s.log ↔ ∀ e ∈ s.log, unawaited e = false := by
  have hlog : Always AfterSignIn s.log ↔ ∀ e ∈ s.log, unawaited e = false := by
    rw [always_afterSignIn_iff_trace]
    constructor
    · intro H e he
      by_contra hu
      rw [Bool.not_eq_false] at hu
      obtain ⟨a, ha⟩ := owner_of_unawaited hu
      have hawaited := (afterSignIn_iff (lived h a)).mp (H a) e (mem_trace.mpr ⟨he, ha⟩)
      rw [hawaited] at hu
      exact Bool.false_ne_true hu
    · intro H a
      exact (afterSignIn_iff (lived h a)).mpr fun e he => H e (mem_trace.mp he).1
  exact ⟨fun H => hlog.mp H.afterSignIn, fun H => opensSignedIn_of_always (hlog.mpr H)⟩

/-- A login with a phone number. -/
def phoneLogin : List Action :=
  [.launch, .phoneAuthButton 0, .edit (.number 1) "+77010000000", .sendCodeButton 1,
    .numberAlert 2 true, .verifyFinish 3 (.ok "verification"), .edit (.code 4) "123456",
    .loginButton 4, .authFinish 5 (.ok ⟨"u", none, some "+77010000000", "phone"⟩), .authComplete 5]

/-- The login with a phone number opens the screen, and after its sign-in. -/
theorem phoneLogin_opensSignedIn : ∃ s, exec Device.empty.installed phoneLogin = some s ∧
    (s.log.any fun e => e matches .performSegue ..) ∧ OpensSignedIn s.log := by
  have hrun : (exec Device.empty.installed phoneLogin).any (fun s =>
      (s.log.any fun e => e matches .performSegue ..) && s.log.all fun e => !unawaited e) = true := by
    decide
  obtain ⟨s, hs, hlog⟩ := (Option.any_eq_true _ _).mp hrun
  obtain ⟨hopens, hall⟩ := Bool.and_eq_true_iff.mp hlog
  exact ⟨s, hs, hopens, (opensSignedIn_iff (reachable_of_exec hs)).mpr (by simpa using hall)⟩

/-- Firebase refuses the credential of a Facebook login. -/
def refusedFacebookLogin : List Action :=
  [.launch, .fbButton 0, .logInFinish 1 (.ok (.granted "token")),
    .authFinish 1 (.error ⟨"refused", "refused"⟩), .authComplete 1]

/-- **The screen opens for a refused credential.** -/
theorem refusedFacebookLogin_opens : ¬ ∀ s, Reachable s → OpensSignedIn s.log := by
  intro H
  have hlog : (exec Device.empty.installed refusedFacebookLogin).map App.log = some
      [.performSegue 1 .facebook 0 .facebook {},
        .print "Login error: refused",
        .authCompleted 1 (.signInFacebook 0 "token") (.error ⟨"refused", "refused"⟩) none,
        .authFinished 1 (.signInFacebook 0 "token") (.error ⟨"refused", "refused"⟩),
        .authStarted 1 (.signInFacebook 0 "token"),
        .fbLogInCompleted 1 0 (.ok (.granted "token")),
        .instantiated 0, .launched] := by decide
  obtain ⟨s, hs, hl⟩ := Option.map_eq_some_iff.mp hlog
  have hafter := (H s (reachable_of_exec hs)).afterSignIn
  rw [hl, always_cons] at hafter
  obtain ⟨call, user, cur, -, -, hc⟩ := hafter.1
  simp at hc

end AccountApp.Laws.Segue
