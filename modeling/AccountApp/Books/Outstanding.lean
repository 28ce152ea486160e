import Mathlib.Algebra.Order.BigOperators.Group.Finset
import AccountApp.Books.Blocks
import AccountApp.Books.Refine
import AccountApp.Books.Registration
import AccountApp.Lib.Potential

/-! # What the app is owed

A request is owed an answer, and the block that gets it may start further requests. `weight` is the
number of answers that can follow from a request at most: a Facebook dialog is owed its own answer,
that of the fetch, and the two of the sign-in. `owed` adds up the weights of all that is
outstanding.

Every answer lowers `owed`, and nothing raises it but a tap or a launch (`pays_step`). -/

namespace AccountApp.Books.Outstanding

open AccountApp.Lib AccountApp.Lib.Potential AccountApp.Model.Data AccountApp.Model.Screens
open AccountApp.Model.State AccountApp.Model.Handlers AccountApp.Model.Step
open AccountApp.Attempt.Life AccountApp.Attempt.Refine AccountApp.Books.Keeping
open AccountApp.Books.Effects AccountApp.Books.Blocks AccountApp.Books.Registration Finset

/-- What the block of a call can start: the write of the record, or its read. -/
def rest : AuthCall → ℕ
  | .createUser .. | .signInEmail .. => 1
  | .signInFacebook .. | .signInGoogle .. | .signInPhone .. => 0

/-- How many answers can follow from a request. -/
def weight : Request → ℕ
  | .userRecord .. | .fetchProfile .. | .verifyPhone .. | .passwordReset .. => 1
  | .numberAlert .. => 2
  | .authDone call _ => rest call + 1
  | .auth call => rest call + 2
  | .googleDialog => 3
  | .fbDialog _ => 4

/-- The answers attempt `a` is owed. -/
def owedAt (s : App) (a : Attempt) : ℕ :=
  (s.requests a).elim 0 weight + (s.writes a).elim 0 fun _ => 1

/-- The answers the app is owed. -/
def owed (s : App) : ℕ := ∑ a ∈ range s.next, owedAt s a

/-- The actions that answer something. The user answers the alert of `sendCodeButton`. -/
def answers : Action → Bool
  | .numberAlert .. | .authFinish .. | .authComplete _ | .logInFinish .. | .fetchFinish ..
  | .googleFinish .. | .readFinish _ | .writeFinish .. | .verifyFinish .. | .resetFinish .. => true
  | .launch | .edit .. | .switchButtonAction _ | .firebaseLoginButtonAction _ | .fbButton _
  | .googleLoginButton _ | .phoneAuthButton _ | .resetButton _ | .sendCodeButton _ | .loginButton _
  | .resetShouldReturn _ | .didTapSignOut .. | .present _ | .sessionDropped _ | .tokenRefreshed _
  | .tokenCached _ => false

/-- How many answers can follow from a tap or a launch. -/
def brings : Action → ℕ
  | .launch | .resetShouldReturn _ => 1
  | .sendCodeButton _ | .loginButton _ => 2
  | .firebaseLoginButtonAction _ | .googleLoginButton _ => 3
  | .fbButton _ => 4
  | _ => 0

/-- Nothing is outstanding under a number that has not been given out. -/
def Numbered (s : App) : Prop := ∀ a, s.next ≤ a → s.requests a = none ∧ s.writes a = none

theorem numbered {s : App} (h : Reachable s) : Numbered s := by
  intro a ha
  have hnot : ¬ a < s.next := Nat.not_lt.mpr ha
  constructor
  · by_contra hr
    exact hnot (allocated h a hr)
  · by_contra hw
    obtain ⟨w, hw⟩ := Option.ne_none_iff_exists'.mp hw
    obtain ⟨form, user, ⟨self, cur, hrep⟩, -⟩ := (registered (Books.Refine.kept h)).pending a w hw
    exact hnot (lt_of_mem_log h hrep rfl)

/-! ### What a change of the requests or writes does -/

section Owed
variable {s t : App} {a : Attempt} {r : Request}

theorem owed_quiet (hn : t.next = s.next) (hr : t.requests = s.requests)
    (hw : t.writes = s.writes) : owed t = owed s := by
  unfold owed owedAt
  rw [hn, hr, hw]

theorem owed_numbered (hs : Numbered s) (hn : t.next = s.next + 1) (hr : t.requests = s.requests)
    (hw : t.writes = s.writes) : owed t = owed s := by
  obtain ⟨hreq, hwrite⟩ := hs s.next (Nat.le_refl _)
  unfold owed owedAt
  rw [hn, hr, hw, sum_range_succ, hreq, hwrite]
  rfl

theorem owedAt_of_ne {q : Option Request} {b : Attempt} (hb : b ≠ a) (hw : t.writes = s.writes)
    (hr : t.requests = Function.update s.requests a q) : owedAt t b = owedAt s b := by
  unfold owedAt
  rw [hw, hr, Function.update_of_ne hb]

theorem owed_start (hs : Numbered s) : owed (s.start r) = owed s + weight r := by
  have hnew : owedAt (s.start r) s.next = weight r := by
    have hwrite := (hs s.next (Nat.le_refl _)).2
    simp [owedAt, App.start, App.await, hwrite]
  have hold : ∑ b ∈ range s.next, owedAt (s.start r) b = owed s :=
    sum_congr rfl fun b hb => owedAt_of_ne (mem_range.mp hb).ne rfl rfl
  have hnext : (s.start r).next = s.next + 1 := rfl
  rw [owed, hnext, sum_range_succ, hold, hnew]

theorem Numbered.start (hs : Numbered s) : Numbered (s.start r) := by
  intro a ha
  have hlt : s.next < a := ha
  have hne : a ≠ s.next := hlt.ne'
  obtain ⟨hr, hw⟩ := hs a hlt.le
  exact ⟨(Function.update_of_ne hne _ _).trans hr, hw⟩

theorem owed_replaced {q : Option Request} (ha : a < s.next) (hn : t.next = s.next)
    (hw : t.writes = s.writes) (hr : t.requests = Function.update s.requests a q) :
    owed t + (s.requests a).elim 0 weight = owed s + q.elim 0 weight := by
  have hne : ∀ b ≠ a, owedAt t b = owedAt s b := fun b hb => owedAt_of_ne hb hw hr
  have hsum := sum_range_of_ne hne ha
  have hself : owedAt t a = q.elim 0 weight + (s.writes a).elim 0 fun _ => 1 := by
    rw [owedAt, hr, hw, Function.update_self]
  rw [hself, owedAt] at hsum
  rw [owed, owed, hn]
  omega

theorem owed_answered (ha : a < s.next) (hr : s.requests a = some r) :
    owed (s.answered a) + weight r = owed s := by
  have hsum := owed_replaced (t := s.answered a) ha rfl rfl rfl
  rwa [hr] at hsum

theorem owed_await (hr : s.requests a = none) : owed (s.await a r) ≤ owed s + weight r := by
  have hself : owedAt (s.await a r) a ≤ owedAt s a + weight r := by
    simp [owedAt, App.await, hr, Nat.add_comm]
  exact sum_range_le_of_ne (fun b hb => owedAt_of_ne hb rfl rfl) hself

theorem owed_recording {w : RecordWrite} (ht : t.writes = Function.update s.writes a (some w))
    (hn : t.next = s.next) (hr : t.requests = s.requests) : owed t ≤ owed s + 1 := by
  have hself : owedAt t a ≤ owedAt s a + 1 := by
    simp [owedAt, hr, ht, Nat.add_assoc]
  have hne : ∀ b ≠ a, owedAt t b = owedAt s b := by
    intro b hb
    simp only [owedAt, hr, ht, Function.update_of_ne hb]
  rw [owed, owed, hn]
  exact sum_range_le_of_ne hne hself

theorem owed_writeFinish {w : RecordWrite} (outcome : WriteOutcome) (ha : a < s.next)
    (hw : s.writes a = some w) : owed (writeFinish a w outcome s) + 1 = owed s := by
  have hself : owedAt s a = owedAt (writeFinish a w outcome s) a + 1 := by
    simp [owedAt, writeFinish, App.emit, hw]
  have hne : ∀ b ≠ a, owedAt (writeFinish a w outcome s) b = owedAt s b := by
    intro b hb
    have hwrites : (writeFinish a w outcome s).writes b = s.writes b := Function.update_of_ne hb _ _
    rw [owedAt, owedAt, hwrites]
    rfl
  have hsum := sum_range_of_ne hne ha
  have hnext : (writeFinish a w outcome s).next = s.next := rfl
  rw [owed, owed, hnext]
  omega

end Owed

/-! ### The pieces -/

section Pieces
variable {s₀ s t : App} {act : Action} {r : Request}

theorem weight_of_opens (h : Opens s act r) (hact : takes act = none) : weight r ≤ brings act := by
  cases h with
  | fetch a self result hr | numberConfirmed a self number hr =>
    exact absurd hact (by simp [takes])
  | _ => exact Nat.le_refl _

theorem weight_of_tap {call : AuthCall} (h : Tap s act call) :
    weight (.auth call) ≤ brings act ∧ newNumber s act = s.next := by
  cases h with
  | form self hself hf =>
    refine ⟨?_, rfl⟩
    unfold formCall
    split_ifs <;> exact Nat.le_refl _
  | code self vid hself hvid => exact ⟨Nat.le_refl _, rfl⟩

/-- What is true while the code of a tap or a launch runs. It starts one request at most, since it
does so under one number. -/
structure Brought (s₀ : App) (act : Action) (s : App) : Prop where
  numbered : Numbered s
  owed : owed s ≤ owed s₀ + if s.next ≤ newNumber s₀ act then 0 else brings act

theorem Brought.quiet (h : Brought s₀ act s) (hn : t.next = s.next) (hr : t.requests = s.requests)
    (hw : t.writes = s.writes) : Brought s₀ act t where
  numbered a ha := by
    rw [hr, hw]
    exact h.numbered a (hn ▸ ha)
  owed := by
    rw [owed_quiet hn hr hw, hn]
    exact h.owed

theorem Brought.opened (h : Brought s₀ act s) (hn : t.next = s.next + 1)
    (hr : t.requests = s.requests) (hw : t.writes = s.writes) : Brought s₀ act t where
  numbered a ha := by
    rw [hr, hw]
    exact h.numbered a (Nat.le_of_succ_le (hn.symm.trans_le ha))
  owed := by
    have howed := h.owed
    rw [owed_numbered h.numbered hn hr hw, hn]
    split_ifs at howed ⊢ <;> omega

theorem Brought.started (h : Brought s₀ act s) (hn : s.next = newNumber s₀ act)
    (hr : weight r ≤ brings act) : Brought s₀ act (s.start r) where
  numbered := h.numbered.start
  owed := by
    have howed := h.owed
    have hnext : (s.start r).next = s.next + 1 := rfl
    rw [if_pos hn.le] at howed
    rw [owed_start h.numbered, hnext, if_neg (by omega)]
    exact Nat.add_le_add howed hr

theorem Brought.piece (hact : takes act = none) (h : Brought s₀ act s)
    (he : Effect s₀ act false s t) : Brought s₀ act t := by
  cases he with
  | started r hr hn => exact h.started hn (weight_of_opens hr hact)
  | tapped call hc hn =>
    obtain ⟨hweight, hnumber⟩ := weight_of_tap hc
    exact (h.started (r := .auth call) (hn.trans hnumber.symm) hweight).quiet rfl rfl rfl
  | verifyOpened | resetOpened | mainOpened => exact h.opened rfl rfl rfl
  | launched hact' =>
    refine ⟨fun b hb => ⟨rfl, (h.numbered b hb).2⟩, le_trans ?_ h.owed⟩
    exact sum_le_sum fun b _ => Nat.add_le_add_right (Nat.zero_le _) _
  | _ => exact h.quiet rfl rfl rfl

end Pieces

/-! ### The answers -/

section Answers
variable {s t : App} {act : Action} {a : Attempt} {self : Addr} {r : Request}

theorem Numbered.lt (hs : Numbered s) (h : s.requests a ≠ none ∨ s.writes a ≠ none) :
    a < s.next := by
  by_contra hge
  obtain ⟨hr, hw⟩ := hs a (Nat.not_lt.mp hge)
  exact h.elim (· hr) (· hw)

theorem Numbered.answered (hs : Numbered s) (a : Attempt) : Numbered (s.answered a) := by
  intro b hb
  by_cases hba : b = a
  · subst hba
    exact ⟨Function.update_self .., (hs b hb).2⟩
  · exact ⟨(Function.update_of_ne hba _ _).trans (hs b hb).1, (hs b hb).2⟩

theorem Numbered.await (hs : Numbered s) (ha : a < s.next) : Numbered (s.await a r) := by
  intro b hb
  have hne : b ≠ a := (Nat.lt_of_lt_of_le ha hb).ne'
  exact ⟨(Function.update_of_ne hne _ _).trans (hs b hb).1, (hs b hb).2⟩

/-- The answer to `r` is taken, and its block starts less than `r` was worth. -/
theorem owed_rest {k : ℕ} (hs : Numbered s) (hr : s.requests a = some r) (hk : k + 1 ≤ weight r)
    (ht : a < s.next → owed t ≤ owed (s.answered a) + k) : owed t + 1 ≤ owed s := by
  have ha : a < s.next := hs.lt (Or.inl (by simp [hr]))
  have htaken := owed_answered ha hr
  have hleft := ht ha
  omega

theorem one_le_weight (r : Request) : 1 ≤ weight r := by
  cases r <;> simp [weight]

theorem owed_spent (hs : Numbered s) (hr : s.requests a = some r)
    (ht : owed t = owed (s.answered a)) : owed t + 1 ≤ owed s :=
  owed_rest hs hr (k := 0) (one_le_weight r) fun _ => ht.le

theorem owed_finished {call : AuthCall} {answer : Answer User} (hs : Numbered s)
    (hr : s.requests a = some (.auth call)) (hn : t.next = s.next) (hw : t.writes = s.writes)
    (ht : t.requests = Function.update s.requests a (some (.authDone call answer))) :
    owed t + 1 ≤ owed s := by
  have hsum := owed_replaced (hs.lt (Or.inl (by simp [hr]))) hn hw ht
  simp only [hr, Option.elim_some, weight] at hsum
  omega

theorem owed_performSegue (hs : Numbered s) (flow : Flow) :
    owed (s.performSegue a flow self) = owed s := owed_numbered hs rfl rfl rfl

theorem requests_answered (s : App) (a : Attempt) : (s.answered a).requests a = none :=
  Function.update_self ..

theorem owed_dialogBegun {answer : Answer LoginManagerLoginResult} (hs : Numbered s)
    (ha : a < s.next) :
    owed (dialogBegun a self answer (dialogEntered a self answer s)) ≤ owed (s.answered a) + 1 ∧
      (dialogBegun a self answer (dialogEntered a self answer s)).requests a = none := by
  cases answer with
  | error e => exact ⟨Nat.le_add_right _ _, requests_answered s a⟩
  | ok result =>
    refine ⟨(owed_start (r := .fetchProfile self (some a)) (hs.answered a)).le, ?_⟩
    exact (Function.update_of_ne (Nat.ne_of_lt ha) ..).trans (requests_answered s a)

theorem owed_answers (hs : Numbered s) (h : Answers s act t) : owed t + 1 ≤ owed s := by
  cases h with
  | numberConfirmed hr =>
    exact owed_rest hs hr (Nat.le_refl _) fun _ => (owed_start (hs.answered _)).le
  | refused hr => exact owed_finished hs hr rfl rfl rfl
  | accepted hr hnew => exact owed_finished hs hr rfl rfl rfl
  | @created a self form user hr =>
    exact owed_rest hs hr (Nat.le_refl _) fun _ =>
      owed_recording (a := a) (w := ⟨user.uid, form.record⟩) rfl rfl rfl
  | @reading a self email password result user hr hu =>
    refine owed_rest hs hr (Nat.le_refl _) fun _ => ?_
    exact owed_await (s := entered a _ _ s) (requests_answered s a)
  | @facebookDone a self token answer hr =>
    cases answer with
    | ok user | error e =>
      refine owed_spent hs hr ((owed_performSegue ?_ .facebook).trans rfl)
      exact hs.answered a
  | @googleDone a self idToken accessToken answer hr => cases answer <;> exact owed_spent hs hr rfl
  | @fetched a self owner answer hr => cases answer <;> exact owed_spent hs hr rfl
  | @resetDone a self email error hr => cases error <;> exact owed_spent hs hr rfl
  | phoneDone hr | read hr hu | verified hr =>
    exact owed_spent hs hr (owed_numbered (hs.answered _) rfl rfl rfl)
  | dialogStopped hr ht =>
    exact owed_rest hs hr (k := 1) (by simp [weight]) fun ha => (owed_dialogBegun hs ha).1
  | dialogDone hr ht =>
    refine owed_rest hs hr (Nat.le_refl _) fun ha => ?_
    obtain ⟨howed, hnone⟩ := owed_dialogBegun hs ha
    exact (owed_await hnone).trans (Nat.add_le_add_right howed 2)
  | @google a user auth hr ha =>
    refine owed_rest hs hr (Nat.le_refl _) fun ha => ?_
    have hcalled : owed ((s.answered a).await a (.auth (.signInGoogle s.delegate auth.idToken
        auth.accessToken))) ≤ owed (s.answered a) + 2 := owed_await (requests_answered s a)
    refine (owed_performSegue ?_ .google).le.trans hcalled
    exact (hs.answered a).await ha
  | @written a w outcome hw => exact (owed_writeFinish outcome (hs.lt (Or.inr (by simp [hw]))) hw).le
  | _ => exact owed_spent hs ‹_› rfl

end Answers

/-! ### The app -/

theorem answers_eq (act : Action) : answers act = (takes act).isSome := by
  cases act <;> rfl

/-- **A step pays for itself**: an answer lowers what is owed, and a tap raises it by what it brings
at most. -/
theorem pays_step {s t : App} {act : Action} (hs : Numbered s) (h : step s act = some t) :
    (if answers act then 1 else 0) + owed t ≤ owed s + brings act := by
  rcases split_step h with ⟨hact, hpieces⟩ | hanswers
  · have hbrought : Brought s act t := by
      clear h
      induction hpieces with
      | refl => exact ⟨hs, Nat.le_add_right _ _⟩
      | tail _ hpiece ih => exact ih.piece hact hpiece
    have howed := hbrought.owed
    rw [answers_eq, hact, if_neg (by simp)]
    split_ifs at howed <;> omega
  · have howed := owed_answers hs hanswers
    split_ifs <;> omega

end AccountApp.Books.Outstanding
