import AccountApp.Books.Blocks

/-! # What the app does about Facebook

What matters to the SDK, and to what it has told the app: the dialogs that are outstanding, the
token, and two kinds of events, the call of a block of `logIn` and the sign-in with a token
(`byFacebook`). A step of the app leaves all of it as it is (`frame_step`, `token_step`), unless it
is the launch, signing out, or one of those that stand for what the SDK does. The block of a dialog
leaves the other dialogs and signs in with the token that is current (`logInFinish_spec`). -/

namespace AccountApp.Joint.Footprint

open AccountApp.Model.Data AccountApp.Model.Screens AccountApp.Model.State
open AccountApp.Model.Handlers AccountApp.Model.Step AccountApp.Books.Effects AccountApp.Books.Blocks

def byFacebook : Event → Bool
  | .fbLogInCompleted .. | .authStarted _ (.signInFacebook ..) => true
  | _ => false

/-- What a step of the app leaves of it. -/
structure Frame (s t : App) : Prop where
  next : s.next ≤ t.next
  dialog : ∀ a self, a < s.next → s.requests a = some (.fbDialog self) →
    t.requests a = some (.fbDialog self)
  dialogs : ∀ a self, t.requests a = some (.fbDialog self) → s.requests a = some (.fbDialog self)
  log : t.log.filter byFacebook = s.log.filter byFacebook

/-- The process or a dialog is started, or the block of a dialog runs. -/
def interrupts : Action → Bool
  | .launch | .fbButton _ | .logInFinish .. => true
  | _ => false

/-- The step may change the token. -/
def caches : Action → Bool
  | .didTapSignOut .. | .logInFinish .. | .sessionDropped .facebook | .tokenRefreshed _
  | .tokenCached _ => true
  | _ => false

section Frame
variable {s₀ s t : App} {act : Action} {k : Bool} {e : Event} {a : Attempt}

theorem Frame.same (h : Frame s₀ s) (hnext : s.next ≤ t.next) (hrequests : t.requests = s.requests)
    (hlog : t.log.filter byFacebook = s.log.filter byFacebook) : Frame s₀ t where
  next := Nat.le_trans h.next hnext
  dialog b self hb hr := hrequests ▸ h.dialog b self hb hr
  dialogs b self hr := h.dialogs b self (hrequests ▸ hr)
  log := hlog.trans h.log

theorem Frame.asked (h : Frame s₀ s) {q : Option Request} (hnext : s.next ≤ t.next)
    (hrequests : t.requests = Function.update s.requests a q)
    (hq : ∀ self, q ≠ some (.fbDialog self))
    (ha : ∀ self, a < s₀.next → s₀.requests a ≠ some (.fbDialog self))
    (hlog : t.log.filter byFacebook = s.log.filter byFacebook) : Frame s₀ t where
  next := Nat.le_trans h.next hnext
  dialog b self hb hr := by
    have hne : b ≠ a := by
      rintro rfl
      exact ha self hb hr
    rw [hrequests, Function.update_of_ne hne]
    exact h.dialog b self hb hr
  dialogs b self hr := by
    have hne : b ≠ a := by
      rintro rfl
      rw [hrequests, Function.update_self] at hr
      exact hq self hr
    rw [hrequests, Function.update_of_ne hne] at hr
    exact h.dialogs b self hr
  log := hlog.trans h.log

theorem filter_emit (he : byFacebook e = false) :
    (s.emit e).log.filter byFacebook = s.log.filter byFacebook :=
  List.filter_cons_of_neg (by simp [he])

theorem byFacebook_of_spoken (he : Spoken s₀ e) : byFacebook e = false := by
  cases e with
  | authStarted | fbLogInCompleted => exact he.elim
  | _ => rfl

theorem byFacebook_of_tap {call : AuthCall} (hc : Tap s₀ act call) :
    byFacebook (.authStarted a call) = false := by
  cases hc with
  | form self hself hf =>
    unfold formCall
    split_ifs <;> rfl
  | code => rfl

theorem not_dialog_of_opens {r : Request} (hr : Opens s₀ act r) (hact : interrupts act = false)
    (self : Addr) : some r ≠ some (.fbDialog self) := by
  rintro heq
  obtain rfl := Option.some.inj heq
  cases hr
  exact absurd hact (by simp [interrupts])

theorem not_dialog_of_le (hs : s₀.next ≤ a) (self : Addr) (ha : a < s₀.next) :
    s₀.requests a ≠ some (.fbDialog self) := absurd ha (Nat.not_lt_of_le hs)

theorem Frame.effect (h : Frame s₀ s) (hact : interrupts act = false) (he : Effect s₀ act k s t) :
    Frame s₀ t := by
  have hlogIn : ∀ a answer, act ≠ .logInFinish a answer := by
    rintro a answer rfl
    exact absurd hact (by simp [interrupts])
  cases he with
  | spoken e he => exact h.same (Nat.le_refl _) rfl (filter_emit (byFacebook_of_spoken he))
  | started r hr =>
    exact h.asked (a := s.next) (Nat.le_succ _) rfl (not_dialog_of_opens hr hact)
      (not_dialog_of_le h.next) rfl
  | tapped call hc =>
    exact h.asked (a := s.next) (Nat.le_succ _) rfl (fun _ => by simp) (not_dialog_of_le h.next)
      (filter_emit (byFacebook_of_tap hc))
  | answered a r hr hact' =>
    refine h.asked (a := a) (Nat.le_refl _) rfl (fun _ => by simp) (fun self ha hdialog => ?_) rfl
    obtain rfl := Option.some.inj (hr.symm.trans hdialog)
    obtain ⟨answer, hanswer⟩ := hact'
    exact hlogIn a answer hanswer
  | awaited a r r' hr hc =>
    refine h.asked (a := a) (Nat.le_refl _) rfl (fun self heq => ?_) (fun self ha hdialog => ?_) rfl
    · obtain rfl := Option.some.inj heq
      cases hc
    · obtain rfl := Option.some.inj (hr.symm.trans hdialog)
      cases hc
  | called a r call hr hact' hc =>
    cases hc with
    | facebook self token ht =>
      obtain ⟨answer, hanswer⟩ := hact'
      exact absurd hanswer (hlogIn a answer)
    | google idToken accessToken =>
      refine h.asked (a := a) (Nat.le_refl _) rfl (fun _ => by simp) (fun self ha hdialog => ?_)
        (filter_emit rfl)
      exact absurd (hr.symm.trans hdialog) (by simp)
  | launched hact' =>
    subst hact'
    exact absurd hact (by simp [interrupts])
  | dialog a self answer hr hact' => exact absurd hact' (hlogIn a answer)
  | segue | logged | mainOpened => exact h.same (Nat.le_succ _) rfl (filter_emit rfl)
  | verifyOpened | resetOpened | logInOpened => exact h.same (Nat.le_succ _) rfl rfl
  | googled | written | signedOut => exact h.same (Nat.le_refl _) rfl (filter_emit rfl)
  | _ => exact h.same (Nat.le_refl _) rfl rfl

/-- **What a step of the app leaves**, if no process is started and no block of a dialog runs. -/
theorem frame_step (h : step s act = some t) (hact : interrupts act = false) : Frame s t :=
  step_preserves (J := Frame s) ⟨Nat.le_refl _, fun _ _ _ hr => hr, fun _ _ hr => hr, rfl⟩
    (fun _ _ hu he => hu.effect hact he) h

/-- **The app does not change the token** but when it signs out. -/
theorem token_step (h : step s act = some t) (hact : caches act = false) :
    t.accessToken = s.accessToken := by
  refine step_preserves (J := fun u => u.accessToken = s.accessToken) rfl (fun u v hu he => ?_) h
  cases he with
  | signedOut self throwing user hact' | dialog a self answer hr hact' | facebookDropped hact'
  | refreshed token hs hact' | cached token hact' =>
    subst hact'
    exact absurd hact (by simp [caches])
  | _ => exact hu

theorem dialogBegun_spec (a : Attempt) (self : Addr) (answer : Answer LoginManagerLoginResult)
    (s : App) : s.next ≤ (dialogBegun a self answer (dialogEntered a self answer s)).next ∧
      (∀ b ≠ a, b < s.next →
        (dialogBegun a self answer (dialogEntered a self answer s)).requests b = s.requests b) ∧
      (∀ b i, (dialogBegun a self answer (dialogEntered a self answer s)).requests b =
        some (.fbDialog i) → b ≠ a ∧ s.requests b = some (.fbDialog i)) ∧
      (dialogBegun a self answer (dialogEntered a self answer s)).log.filter byFacebook =
        .fbLogInCompleted a self answer :: s.log.filter byFacebook := by
  have hdialogs : ∀ b i, (s.answered a).requests b = some (.fbDialog i) →
      b ≠ a ∧ s.requests b = some (.fbDialog i) := by
    intro b i hr
    have hne : b ≠ a := by
      rintro rfl
      exact absurd ((Function.update_self b ..).symm.trans hr) (by simp)
    exact ⟨hne, (Function.update_of_ne hne ..).symm.trans hr⟩
  cases answer with
  | error e =>
    exact ⟨Nat.le_refl _, fun b hb _ => Function.update_of_ne hb .., hdialogs,
      (filter_emit rfl).trans (List.filter_cons_of_pos rfl)⟩
  | ok result =>
    refine ⟨Nat.le_succ _, fun b hb hlt => ?_, fun b i hr => ?_, List.filter_cons_of_pos rfl⟩
    · exact (Function.update_of_ne (Nat.ne_of_lt hlt) ..).trans (Function.update_of_ne hb ..)
    · -- the request that is started is the fetch
      have hne : b ≠ s.next := by
        rintro rfl
        exact absurd ((Function.update_self s.next ..).symm.trans hr) (by simp)
      exact hdialogs b i ((Function.update_of_ne hne ..).symm.trans hr)

/-- What is put on record when the block of a dialog runs. -/
def logInEvents (a : Attempt) (self : Addr) (answer : Answer LoginManagerLoginResult)
    (token : Option AccessToken) : List Event :=
  (token.map fun token => .authStarted a (.signInFacebook self token.tokenString)).toList ++
    [.fbLogInCompleted a self answer]

/-- What is left when the answer to the dialog of attempt `a` has been taken. -/
structure Answered (s : App) (a : Attempt) (i : Addr) (answer : Answer LoginManagerLoginResult)
    (t : App) : Prop where
  token : t.accessToken = s.accessToken
  next : s.next ≤ t.next
  requests : ∀ b ≠ a, b < s.next → t.requests b = s.requests b
  dialogs : ∀ b j, t.requests b = some (.fbDialog j) → b ≠ a ∧ s.requests b = some (.fbDialog j)
  log : t.log.filter byFacebook =
    logInEvents a i answer s.accessToken ++ s.log.filter byFacebook

/-- **The answer to a dialog**, with the token of the answer being the current one. -/
theorem logInFinish_spec {self : Addr} {answer : Answer LoginManagerLoginResult}
    (hr : s.requests a = some (.fbDialog self))
    (hcurrent : (tokenOf answer).or s.accessToken = s.accessToken) :
    ∃ t, step s (.logInFinish a answer) = some t ∧ Answered s a self answer t := by
  obtain ⟨hnext, hrequests, hdialogs, hlog⟩ := dialogBegun_spec a self answer s
  have htoken : (dialogBegun a self answer (dialogEntered a self answer s)).accessToken =
      s.accessToken := (accessToken_dialogBegun answer).trans hcurrent
  obtain ⟨t, hst⟩ : ∃ t, step s (.logInFinish a answer) = some t :=
    ⟨_, by simp only [step, hr]; rfl⟩
  refine ⟨t, hst, ?_⟩
  rcases split_step hst with ⟨hnone, -⟩ | hanswers
  · exact absurd hnone (by simp [takes])
  · cases hanswers with
    | @dialogStopped _ i _ hr' ht =>
      obtain rfl : self = i := by simpa using hr.symm.trans hr'
      refine ⟨htoken, hnext, hrequests, hdialogs, (filter_emit rfl).trans ?_⟩
      rw [hlog, ← hcurrent, ht]
      rfl
    | @dialogDone _ i _ token hr' ht =>
      obtain rfl : self = i := by simpa using hr.symm.trans hr'
      refine ⟨htoken, hnext, fun b hb hlt => ?_, fun b j hb => ?_, ?_⟩
      · exact (Function.update_of_ne hb ..).trans (hrequests b hb hlt)
      · have hne : b ≠ a := by
          rintro rfl
          exact absurd ((Function.update_self b ..).symm.trans hb) (by simp)
        exact hdialogs b j ((Function.update_of_ne hne ..).symm.trans hb)
      · rw [← hcurrent, ht]
        exact (List.filter_cons_of_pos rfl).trans (congrArg (_ :: ·) hlog)

end Frame
end AccountApp.Joint.Footprint
