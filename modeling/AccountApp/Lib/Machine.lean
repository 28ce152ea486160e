import Mathlib.Data.List.Basic

/-! # Machines driven by actions

A machine is a partial step function `step : S → A → Option S`: the action is chosen outside (by a
user, a scheduler, the network), and `step s a = none` says that `a` is not possible in `s`.

* `exec` runs a list of actions; `Reachable` are the states it reaches from an initial state, and
  `Reachable.invariant` is the induction over them.
* `StaysUntil B P` and `EachUntil B C` look at a run up to its first action in `B`: the states
  visited are in `P`, the steps taken are in `C`. `staysUntil_iff` turns the first into the second
  when each step decides whether `P` survives it. -/

namespace AccountApp.Lib.Machine

variable {S A : Type*} (step : S → A → Option S)

/-- Run the actions in order; `none` as soon as one is not possible. -/
def exec : S → List A → Option S
  | s, [] => some s
  | s, a :: as => (step s a).bind fun t => exec t as

/-- The states reached from an initial state. -/
def Reachable (init : S → Prop) (s : S) : Prop := ∃ s₀ as, init s₀ ∧ exec step s₀ as = some s

variable {step}

@[simp] theorem exec_nil (s : S) : exec step s [] = some s := rfl

theorem exec_cons {s u : S} {a : A} {as : List A} :
    exec step s (a :: as) = some u ↔ ∃ t, step s a = some t ∧ exec step t as = some u := by
  simp [exec, Option.bind_eq_some_iff]

theorem exec_append {s u : S} {as bs : List A} :
    exec step s (as ++ bs) = some u ↔ ∃ t, exec step s as = some t ∧ exec step t bs = some u := by
  induction as generalizing s with
  | nil => simp
  | cons a as ih =>
    simp only [List.cons_append, exec_cons, ih]
    constructor
    · rintro ⟨t, hst, t', htt', hu⟩; exact ⟨t', ⟨t, hst, htt'⟩, hu⟩
    · rintro ⟨t', ⟨t, hst, htt'⟩, hu⟩; exact ⟨t, hst, t', htt', hu⟩

theorem exec_preserves_of {I : S → Prop} {P : A → Prop}
    (hI : ∀ s a t, I s → P a → step s a = some t → I t) {s t : S} {as : List A} (h : I s)
    (has : ∀ a ∈ as, P a) (hrun : exec step s as = some t) : I t := by
  induction as generalizing s with
  | nil => rw [exec_nil, Option.some.injEq] at hrun; exact hrun ▸ h
  | cons a as ih =>
    obtain ⟨u, hsu, hut⟩ := exec_cons.mp hrun
    obtain ⟨ha, has⟩ := List.forall_mem_cons.mp has
    exact ih (hI s a u h ha hsu) has hut

/-- **What every step preserves, every run preserves.** -/
theorem exec_preserves {I : S → Prop} (hI : ∀ s a t, I s → step s a = some t → I t) {s t : S}
    {as : List A} (h : I s) (hrun : exec step s as = some t) : I t :=
  exec_preserves_of (P := fun _ => True) (fun s a t hs _ => hI s a t hs) h (fun _ _ => trivial) hrun

section Reachable
variable {init : S → Prop} {s t : S}

theorem Reachable.initial (h : init s) : Reachable step init s := ⟨s, [], h, rfl⟩

theorem Reachable.exec (h : Reachable step init s) {as : List A}
    (hrun : Machine.exec step s as = some t) : Reachable step init t := by
  obtain ⟨s₀, bs, h0, hb⟩ := h
  exact ⟨s₀, bs ++ as, h0, exec_append.mpr ⟨s, hb, hrun⟩⟩

theorem Reachable.next (h : Reachable step init s) {a : A} (hst : step s a = some t) :
    Reachable step init t := by
  have hrun : Machine.exec step s [a] = some t := exec_cons.mpr ⟨t, hst, rfl⟩
  exact h.exec hrun

/-- **Induction over the reachable states.** -/
theorem Reachable.invariant {I : S → Prop} (h0 : ∀ s, init s → I s)
    (hI : ∀ s a t, Reachable step init s → I s → step s a = some t → I t)
    (h : Reachable step init s) : I s := by
  obtain ⟨s₀, as, hs, hrun⟩ := h
  have key : Reachable step init s ∧ I s := by
    refine exec_preserves (I := fun s => Reachable step init s ∧ I s) ?_
      ⟨Reachable.initial hs, h0 s₀ hs⟩ hrun
    rintro u a v ⟨hr, hu⟩ huv
    exact ⟨hr.next huv, hI u a v hr hu huv⟩
  exact key.2

end Reachable

/-! ### Runs up to an action -/

variable (step) in
/-- Every state visited before the first action in `B` satisfies `P`. -/
def StaysUntil (B : S → A → Prop) (P : S → Prop) : S → List A → Prop
  | s, [] => P s
  | s, a :: as => P s ∧ (¬ B s a → ∀ t, step s a = some t → StaysUntil B P t as)

variable (step) in
/-- Every step taken before the first action in `B` satisfies `C`. -/
def EachUntil (B C : S → A → Prop) : S → List A → Prop
  | _, [] => True
  | s, a :: as => ¬ B s a → C s a ∧ ∀ t, step s a = some t → EachUntil B C t as

theorem StaysUntil.head {B : S → A → Prop} {P : S → Prop} {s : S} {as : List A}
    (h : StaysUntil step B P s as) : P s := by
  cases as with
  | nil => exact h
  | cons a as => exact h.1

/-- **Staying in `P` step by step.** If a step from a state of `P` that is not in `B` keeps `P`
exactly when it is in `C`, a run from a state of `P` stays in `P` exactly when its steps are in
`C`. -/
theorem staysUntil_iff {B C : S → A → Prop} {P : S → Prop}
    (hC : ∀ s a t, P s → ¬ B s a → step s a = some t → (P t ↔ C s a)) {s u : S} {as : List A}
    (hrun : exec step s as = some u) (hs : P s) :
    StaysUntil step B P s as ↔ EachUntil step B C s as := by
  induction as generalizing s with
  | nil => simp [StaysUntil, EachUntil, hs]
  | cons a as ih =>
    obtain ⟨t, hst, htu⟩ := exec_cons.mp hrun
    simp only [StaysUntil, EachUntil, hs, true_and, hst, Option.some.injEq, forall_eq']
    refine imp_congr_right fun hB => ?_
    have hstep := hC s a t hs hB hst
    constructor
    · intro h
      exact ⟨hstep.mp h.head, (ih htu h.head).mp h⟩
    · rintro ⟨hc, h⟩
      exact (ih htu (hstep.mpr hc)).mpr h

end AccountApp.Lib.Machine
