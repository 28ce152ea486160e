import AccountApp.Attempt.Refine
import AccountApp.Books.Deliveries
import AccountApp.Books.Blocks
import AccountApp.Lib.Toggle

/-! # The modes of the forms

The form of a `ViewController` is in one of two modes, and its outlets show which (`formOf`). The
mode is changed at the taps on `switchButton` and in the completion block of a `createUser` that has
succeeded, in both by `signUpOrIn = !signUpOrIn` (`switches`).

* `Turned` is what a step does (`turned`): it switches a form, or starts a registration at a tap in
  the mode for it, or keeps all that.
* So after a run a form is in the mode it was in exactly if it has been switched an even number of
  times (`mode_iff`), and a registration that is outstanding has been started at a tap of the run
  (`tap_of_registration`). -/

namespace AccountApp.Books.Modes

open AccountApp.Lib AccountApp.Lib.Machine AccountApp.Lib.Toggle
open AccountApp.Model.Data AccountApp.Model.Screens AccountApp.Model.State
open AccountApp.Model.Handlers AccountApp.Model.Step AccountApp.Attempt.Refine
open AccountApp.Books.Deliveries AccountApp.Books.Effects AccountApp.Books.Blocks

/-- A controller with nothing but its mode and the outlets that show it. -/
def outlets (vc : ViewController) : ViewController where
  firstNameHidden := vc.firstNameHidden
  lastNameHidden := vc.lastNameHidden
  customFBButtonHidden := vc.customFBButtonHidden
  googleLoginButtonHidden := vc.googleLoginButtonHidden
  phoneAuthButtonHidden := vc.phoneAuthButtonHidden
  resetButtonHidden := vc.resetButtonHidden
  title := vc.title
  firebaseLoginButtonTitle := vc.firebaseLoginButtonTitle
  switchButtonTitle := vc.switchButtonTitle
  signUpOrIn := vc.signUpOrIn

/-- The form of a mode. -/
def formOf (mode : Bool) : ViewController := ViewController.setSignUpOrIn mode {}

theorem outlets_setSignUpOrIn (mode : Bool) (vc : ViewController) :
    outlets (vc.setSignUpOrIn mode) = formOf mode := by
  cases mode <;> rfl

theorem outlets_switchButtonAction (vc : ViewController) :
    outlets vc.switchButtonAction = formOf !vc.signUpOrIn := outlets_setSignUpOrIn _ vc

theorem signUpOrIn_switchButtonAction (vc : ViewController) :
    vc.switchButtonAction.signUpOrIn = !vc.signUpOrIn := by
  unfold ViewController.switchButtonAction ViewController.setSignUpOrIn
  split_ifs <;> rfl

theorem outlets_transferFBData (answer : Answer Dictionary) (vc : ViewController) :
    outlets (vc.transferFBData answer) = outlets vc := by
  rw [transferFBData_eq]
  rfl

theorem signUpOrIn_formOf (mode : Bool) : (formOf mode).signUpOrIn = mode := by
  cases mode <;> rfl

theorem signUpOrIn_of_outlets {vc vc' : ViewController} (h : outlets vc = outlets vc') :
    vc.signUpOrIn = vc'.signUpOrIn := by
  have hmode : (outlets vc).signUpOrIn = (outlets vc').signUpOrIn := by rw [h]
  exact hmode

/-! ### Registrations -/

/-- The controller and the form of a registration that has not been completed. -/
def registrationOf : Request → Option (Addr × Form)
  | .auth (.createUser self form) => some (self, form)
  | .authDone (.createUser self form) _ => some (self, form)
  | _ => none

/-- The registration attempt `a` is. -/
def registration (s : App) (a : Attempt) : Option (Addr × Form) :=
  (s.requests a).bind registrationOf

theorem registration_of_request {s : App} {a : Attempt} {r : Request} {q : Addr × Form}
    (h : s.requests a = some r) (hr : registrationOf r = some q) : registration s a = some q := by
  rw [registration, h]
  exact hr

/-! ### What a step does -/

/-- The registration is outstanding before the step, or the step starts it, at a tap in the mode for
it. -/
inductive Registering (s : App) (act : Action) (a : Attempt) (q : Addr × Form) : Prop
  | old (h : registration s a = some q)
  | tap (self : Addr) (hact : act = .firebaseLoginButtonAction self) (ha : a = s.next)
      (hself : .main self ∈ s.screens) (hmode : (s.vcs self).signUpOrIn = true)
      (hq : q = (self, (s.vcs self).form))

/-- The action switches the form of the controller at `self`: a tap on `switchButton`, or the
completion block of a `createUser` that has succeeded. -/
def switches (self : Addr) (s : App) : Action → Bool
  | .switchButtonAction i => i == self
  | .authComplete a =>
    match s.requests a with
    | some (.authDone (.createUser i _) (.ok _)) => i == self
    | _ => false
  | _ => false

/-- What a step does to the forms and to the registrations that are outstanding. A form that was not
on screen before is a new one, in the mode for signing in. -/
structure Turned (s : App) (act : Action) (t : App) : Prop where
  next : s.next ≤ t.next
  screens : ∀ i, .main i ∈ t.screens → .main i ∈ s.screens ∨ s.next ≤ i ∧ i < t.next
  outlets : ∀ i, outlets (t.vcs i) =
      outlets (if switches i s act then (s.vcs i).switchButtonAction else s.vcs i) ∨
    s.next ≤ i ∧ outlets (t.vcs i) = formOf false
  registrations : ∀ a q, registration t a = some q → Registering s act a q

section Turned
variable {s₀ s t : App} {act : Action} {k : Bool} {a : Attempt}

theorem Turned.then (h : Turned s₀ act s) (hn : s.next ≤ t.next)
    (hs : ∀ i, .main i ∈ t.screens → .main i ∈ s.screens ∨ s.next ≤ i ∧ i < t.next)
    (hv : ∀ i, Modes.outlets (t.vcs i) = Modes.outlets (s.vcs i) ∨
      s.next ≤ i ∧ Modes.outlets (t.vcs i) = formOf false)
    (hr : ∀ a q, registration t a = some q → registration s a = some q ∨ Registering s₀ act a q) :
    Turned s₀ act t where
  next := Nat.le_trans h.next hn
  screens i hi := by
    rcases hs i hi with hi | ⟨hle, hlt⟩
    · exact (h.screens i hi).imp_right fun hnew => ⟨hnew.1, Nat.lt_of_lt_of_le hnew.2 hn⟩
    · exact Or.inr ⟨Nat.le_trans h.next hle, hlt⟩
  outlets i := by
    rcases hv i with heq | ⟨hle, heq⟩
    · rw [heq]
      exact h.outlets i
    · exact Or.inr ⟨Nat.le_trans h.next hle, heq⟩
  registrations a q hq := (hr a q hq).elim (h.registrations a q) id

theorem Turned.same (h : Turned s₀ act s) (hn : s.next ≤ t.next) (hs : t.screens = s.screens)
    (hv : t.vcs = s.vcs) (hr : t.requests = s.requests) : Turned s₀ act t := by
  refine h.then hn (fun i hi => Or.inl (hs ▸ hi)) (fun i => Or.inl (by rw [hv])) fun a q hq => ?_
  rw [registration, hr] at hq
  exact Or.inl hq

theorem Turned.opened (h : Turned s₀ act s) {c : Screen} (hmain : ∀ i, c ≠ .main i)
    (hn : s.next ≤ t.next) (hs : t.screens = c :: s.screens) (hv : t.vcs = s.vcs)
    (hr : t.requests = s.requests) : Turned s₀ act t := by
  refine h.then hn (fun i hi => ?_) (fun i => Or.inl (by rw [hv])) fun a q hq => ?_
  · rw [hs] at hi
    exact Or.inl ((List.mem_cons.mp hi).resolve_left (hmain i).symm)
  · rw [registration, hr] at hq
    exact Or.inl hq

theorem Turned.requested (h : Turned s₀ act s) {r : Option Request} (hn : s.next ≤ t.next)
    (hs : t.screens = s.screens) (hv : t.vcs = s.vcs)
    (hr : t.requests = Function.update s.requests a r)
    (hq : ∀ q, r.bind registrationOf = some q → Registering s₀ act a q) : Turned s₀ act t := by
  refine h.then hn (fun i hi => Or.inl (hs ▸ hi)) (fun i => Or.inl (by rw [hv])) fun b q hb => ?_
  unfold registration at hb ⊢
  rw [hr] at hb
  by_cases hba : b = a
  · subst hba
    rw [Function.update_self] at hb
    exact Or.inr (hq q hb)
  · rw [Function.update_of_ne hba] at hb
    exact Or.inl hb

theorem Turned.modified (h : Turned s₀ act s) (self : Addr) {f : ViewController → ViewController}
    (hf : Modes.outlets (f (s.vcs self)) = Modes.outlets (s.vcs self)) :
    Turned s₀ act (s.modify self f) := by
  refine h.then (Nat.le_refl _) (fun _ hi => Or.inl hi) (fun i => Or.inl ?_) fun _ _ hq => Or.inl hq
  have hvcs : (s.modify self f).vcs = Function.update s.vcs self (f (s.vcs self)) := rfl
  by_cases hi : i = self
  · rw [hi, hvcs, Function.update_self, hf]
  · rw [hvcs, Function.update_of_ne hi]

theorem outlets_of_change {k : Bool} {vc vc' : ViewController} (h : Change k vc vc') :
    outlets vc' = outlets vc := by
  cases h with
  | fetched vc answer => exact outlets_transferFBData answer vc
  | _ => rfl

theorem registrationOf_of_opens {r : Request} (h : Opens s act r) : registrationOf r = none := by
  cases h <;> rfl

theorem registrationOf_of_signsIn {r : Request} {call : AuthCall} (h : SignsIn s₀ s r call) :
    registrationOf (.auth call) = none := by
  cases h <;> rfl

/-- A registration that Firebase has answered is still the same one. -/
theorem registrationOf_of_continues {r r' : Request} {q : Addr × Form} (h : Continues s r r')
    (hq : registrationOf r' = some q) : registrationOf r = some q := by
  cases h with
  | finished call answer => cases call <;> exact hq
  | reading self email password result user hu => exact absurd hq (by simp [registrationOf])

theorem registering_of_tap {call : AuthCall} {q : Addr × Form} (h : Tap s act call)
    (hq : registrationOf (.auth call) = some q) : Registering s act s.next q := by
  cases h with
  | form self hself hf =>
    rcases hmode : (s.vcs self).signUpOrIn with _ | _
    · rw [formCall, hmode] at hq
      exact absurd hq (by simp [registrationOf])
    · rw [formCall, hmode] at hq
      exact .tap self rfl rfl hself hmode (Option.some.inj hq).symm
  | code self vid hself hvid => exact absurd hq (by simp [registrationOf])

theorem switches_of {i : Addr} (h : Switches s act i) : switches i s act = true := by
  cases h with
  | tap self => simp [switches]
  | created a self form user hr => simp [switches, hr]

/-- **A piece of a step that switches no form.** -/
theorem Turned.effect (hno : ∀ i, switches i s₀ act = false) (h : Turned s₀ act s)
    (he : Effect s₀ act k s t) : Turned s₀ act t := by
  cases he with
  | changed self f hself hf => exact h.modified self (outlets_of_change hf)
  | switched self hself hact =>
    have hyes := switches_of hact
    rw [hno] at hyes
    exact absurd hyes Bool.false_ne_true
  | started r hr =>
    refine h.requested (r := some r) (Nat.le_succ _) rfl rfl rfl fun q hq => ?_
    exact absurd ((registrationOf_of_opens hr).symm.trans hq) (by simp)
  | tapped call hc hn =>
    refine h.requested (r := some (.auth call)) (Nat.le_succ _) rfl rfl rfl fun q hq => ?_
    rw [hn]
    exact registering_of_tap hc hq
  | answered a r hr hact =>
    exact h.requested (r := none) (Nat.le_refl _) rfl rfl rfl fun q hq => absurd hq (by simp)
  | awaited a r r' hr hc =>
    refine h.requested (r := some r') (Nat.le_refl _) rfl rfl rfl fun q hq => .old ?_
    exact registration_of_request hr (registrationOf_of_continues hc hq)
  | called a r call hr hact hc =>
    refine h.requested (r := some (.auth call)) (Nat.le_refl _) rfl rfl rfl fun q hq => ?_
    exact absurd ((registrationOf_of_signsIn hc).symm.trans hq) (by simp)
  | segue a r flow self hr hp => exact h.same (Nat.le_succ _) rfl rfl rfl
  | logged a self vid code user hr => exact h.same (Nat.le_succ _) rfl rfl rfl
  | presented self hself hact =>
    exact h.opened (c := .profile self) (by simp) (Nat.le_refl _) rfl rfl rfl
  | verifyOpened self hself hshown =>
    exact h.opened (c := .verify s.next) (by simp) (Nat.le_succ _) rfl rfl rfl
  | resetOpened self hself hshown =>
    exact h.opened (c := .reset s.next) (by simp) (Nat.le_succ _) rfl rfl rfl
  | logInOpened a self number vid hr =>
    exact h.opened (c := .logIn s.next) (by simp) (Nat.le_succ _) rfl rfl rfl
  | mainOpened hact =>
    refine h.then (Nat.le_succ _) (fun i hi => ?_) (fun i => ?_) fun _ _ hq => Or.inl hq
    · rcases List.mem_cons.mp hi with heq | hi
      · obtain rfl := Screen.main.inj heq
        exact Or.inr ⟨Nat.le_refl _, Nat.lt_succ_self _⟩
      · exact Or.inl hi
    · have hvcs : (newMain s).vcs = Function.update s.vcs s.next {} := rfl
      by_cases hi : i = s.next
      · rw [hvcs, hi, Function.update_self]
        exact Or.inr ⟨Nat.le_refl _, rfl⟩
      · rw [hvcs, Function.update_of_ne hi]
        exact Or.inl rfl
  | launched hact =>
    refine h.then (Nat.le_refl _) (fun i hi => ?_) (fun _ => Or.inl rfl) fun a q hq => ?_
    · exact absurd hi List.not_mem_nil
    · exact absurd hq (by simp [registration, startProcess, App.emit])
  | _ => exact h.same (Nat.le_refl _) rfl rfl rfl

theorem Turned.refl (hno : ∀ i, switches i s act = false) : Turned s act s where
  next := Nat.le_refl _
  screens _ hi := Or.inl hi
  outlets i := by
    rw [hno i]
    exact Or.inl rfl
  registrations _ _ hq := .old hq

theorem Turned.switched (self : Addr) (hsw : ∀ i, switches i s act = (self == i))
    (hn : t.next = s.next) (hs : t.screens = s.screens)
    (hv : t.vcs = Function.update s.vcs self (s.vcs self).switchButtonAction)
    (hr : ∀ a q, registration t a = some q → registration s a = some q) : Turned s act t where
  next := Nat.le_of_eq hn.symm
  screens i hi := Or.inl (hs ▸ hi)
  outlets i := by
    rw [hsw, hv]
    by_cases hi : i = self
    · subst hi
      rw [Function.update_self, beq_self_eq_true, if_pos rfl]
      exact Or.inl rfl
    · rw [Function.update_of_ne hi, if_neg (by simpa using Ne.symm hi)]
      exact Or.inl rfl
  registrations a q hq := .old (hr a q hq)

theorem turned_created {self : Addr} {form : Form} {user : User}
    (hr : s.requests a = some (.authDone (.createUser self form) (.ok user)))
    (h : step s (.authComplete a) = some t) : Turned s (.authComplete a) t := by
  simp only [step, hr, Option.some.injEq] at h
  subst h
  refine .switched self (fun i => ?_) rfl rfl rfl fun b q hb => ?_
  · simp only [switches, hr]
  · have hreq : (authCompletion a (.createUser self form) (.ok user) ((s.answered a).emit
        (.authCompleted a (.createUser self form) (.ok user) s.currentUser))).requests =
          Function.update s.requests a none := rfl
    rw [registration, hreq] at hb
    by_cases hba : b = a
    · rw [hba, Function.update_self] at hb
      exact absurd hb (by simp)
    · rwa [Function.update_of_ne hba] at hb

/-- **A step** switches a form, starts a registration, or keeps all that. -/
theorem turned (h : step s act = some t) : Turned s act t := by
  by_cases hsw : ∃ i, switches i s act = true
  · obtain ⟨i, hi⟩ := hsw
    cases act with
    | switchButtonAction self =>
      cases stepped h with
      | switchButtonAction hself => exact .switched self (fun i => rfl) rfl rfl rfl fun _ _ hq => hq
    | authComplete a =>
      simp only [switches] at hi
      split at hi
      · rename_i hr
        exact turned_created hr h
      · exact absurd hi Bool.false_ne_true
    | _ => exact absurd hi Bool.false_ne_true
  · have hno : ∀ i, switches i s act = false := fun i => by simpa using fun hi => hsw ⟨i, hi⟩
    exact step_preserves (J := Turned s act) (.refl hno) (fun _ _ hu he => hu.effect hno he) h

end Turned

/-! ### Runs -/

section Runs
variable {s t : App} {act : Action} {as : List Action} {self : Addr}

/-- The form of a new controller comes up in the mode for signing in. -/
theorem outlets_step (h : step s act = some t) (self : Addr) :
    outlets (t.vcs self) = outlets (s.vcs self) ∨ ∃ mode, outlets (t.vcs self) = formOf mode := by
  rcases (turned h).outlets self with heq | ⟨-, heq⟩
  · by_cases hsw : switches self s act = true
    · rw [if_pos hsw, outlets_switchButtonAction] at heq
      exact Or.inr ⟨_, heq⟩
    · rw [if_neg hsw] at heq
      exact Or.inl heq
  · exact Or.inr ⟨false, heq⟩

/-- **The outlets of every form show its mode.** -/
theorem outlets_eq (h : Reachable s) (self : Addr) :
    outlets (s.vcs self) = formOf (s.vcs self).signUpOrIn := by
  refine Machine.Reachable.invariant
    (I := fun s => outlets (s.vcs self) = formOf (s.vcs self).signUpOrIn) ?_ ?_ h
  · rintro _ ⟨device, rfl⟩
    rfl
  · intro s act t _ hs hst
    rcases outlets_step hst self with heq | ⟨mode, heq⟩
    · rw [heq, signUpOrIn_of_outlets heq, hs]
    · have hmode : (t.vcs self).signUpOrIn = mode :=
        (congrArg ViewController.signUpOrIn heq).trans (signUpOrIn_formOf mode)
      rw [heq, hmode]

theorem lt_of_mem_screens (h : Reachable s) (hself : .main self ∈ s.screens) : self < s.next := by
  have hall : ∀ i, .main i ∈ s.screens → i < s.next := by
    refine Machine.Reachable.invariant (I := fun s => ∀ i, .main i ∈ s.screens → i < s.next) ?_ ?_ h
    · rintro _ ⟨device, rfl⟩ i hi
      exact absurd hi List.not_mem_nil
    · intro s act t _ hs hst i hi
      rcases (turned hst).screens i hi with hi | ⟨-, hlt⟩
      · exact Nat.lt_of_lt_of_le (hs i hi) (turned hst).next
      · exact hlt
  exact hall self hself

/-- **One step** changes the mode of a form that has been made if it switches it, and only then. -/
theorem mode_step (hlt : self < s.next) (h : step s act = some t) : (t.vcs self).signUpOrIn =
    if switches self s act then !(s.vcs self).signUpOrIn else (s.vcs self).signUpOrIn := by
  rcases (turned h).outlets self with heq | ⟨hle, -⟩
  · rw [signUpOrIn_of_outlets heq]
    split_ifs
    · exact signUpOrIn_switchButtonAction _
    · rfl
  · exact absurd hlt (Nat.not_lt.mpr hle)

/-- How often the form of the controller at `self` is switched in a run. -/
def timesSwitched (self : Addr) (s : App) (as : List Action) : Nat :=
  Toggle.count step (switches self) s as

/-- **A run** leaves a form in the mode it was in exactly if it switches it an even number of
times. -/
theorem mode_iff (hlt : self < s.next) (hrun : exec s as = some t) :
    (t.vcs self).signUpOrIn = (s.vcs self).signUpOrIn ↔ Even (timesSwitched self s as) :=
  flag_exec_iff (I := fun s => self < s.next) (m := fun s => (s.vcs self).signUpOrIn)
    (fun _ _ _ hlt h => Nat.lt_of_lt_of_le hlt (turned h).next) (fun _ _ _ hlt h => mode_step hlt h)
    hlt hrun

/-- How often the form of the controller at `self` is switched in a run since attempt `a` has been
started. -/
def switchedSince (a : Attempt) (self : Addr) (s : App) (as : List Action) : Nat :=
  Toggle.count step (fun s act => decide (a < s.next) && switches self s act) s as

/-- **A registration has been started at a tap** in the mode for it, on the form it belongs to; the
form has been switched since as often as in the run after the tap. -/
theorem tap_of_registration {device : Device} {a : Attempt} {q : Addr × Form}
    (hrun : exec device.installed as = some s) (hq : registration s a = some q) :
    ∃ after s₀ s₁, Reachable s₀ ∧ .main q.1 ∈ s₀.screens ∧ (s₀.vcs q.1).signUpOrIn = true ∧
      q.2 = (s₀.vcs q.1).form ∧ s₀.next = a ∧
      step s₀ (.firebaseLoginButtonAction q.1) = some s₁ ∧ exec s₁ after = some s ∧
      switchedSince a q.1 device.installed as = timesSwitched q.1 s₁ after := by
  obtain ⟨before, act, after, s₀, s₁, rfl, hbefore, hstep, hafter, hno, hyes⟩ :=
    exists_step (Q := fun s => registration s a = some q) hrun
      (by simp [registration, Device.installed]) hq
  rcases (turned hstep).registrations a q hyes with hold | ⟨i, rfl, rfl, hself, hmode, rfl⟩
  · exact absurd hold hno
  · have hs₀ : Reachable s₀ := reachable_of_exec hbefore
    have hlt : s₀.next < s₁.next := by
      refine allocated (hs₀.next hstep) _ fun hnone => ?_
      rw [registration, hnone] at hyes
      exact absurd hyes (by simp)
    refine ⟨after, s₀, s₁, hs₀, hself, hmode, rfl, rfl, hstep, hafter, ?_⟩
    exact count_since (J := fun s => s₀.next < s.next)
      (fun _ _ _ hlt h => Nat.lt_of_lt_of_le hlt (turned h).next) hbefore hstep hafter
      (Nat.lt_irrefl _) hlt

end Runs

end AccountApp.Books.Modes
