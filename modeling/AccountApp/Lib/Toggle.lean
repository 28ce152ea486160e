import Mathlib.Algebra.Group.Nat.Even
import AccountApp.Lib.Machine

/-! # Flags that are toggled

A step of a run may toggle a flag of the state. `count` is the number of the steps of a run that do;
after the run the flag is what it was exactly if this number is even (`flag_exec_iff`), however many
other steps there are.

* `exists_step` finds the step that has started something: what holds at the end of a run and did
  not hold at its start begins to hold with one of its steps.
* `count_since`: the steps that are taken since then, if what has begun to hold goes on to hold, are
  those of the rest of the run. -/

namespace AccountApp.Lib.Toggle

open AccountApp.Lib.Machine

variable {S A : Type*} (step : S → A → Option S)

/-- How many steps of the run satisfy `p`. -/
def count (p : S → A → Bool) : S → List A → Nat
  | _, [] => 0
  | s, a :: as => (if p s a then 1 else 0) + (step s a).elim 0 fun t => count p t as

variable {step}

@[simp] theorem count_nil (p : S → A → Bool) (s : S) : count step p s [] = 0 := rfl

theorem count_cons {p : S → A → Bool} {s t : S} {a : A} {as : List A} (h : step s a = some t) :
    count step p s (a :: as) = (if p s a then 1 else 0) + count step p t as := by
  rw [count, h]
  rfl

theorem count_append {p : S → A → Bool} {s t : S} {as bs : List A} (h : exec step s as = some t) :
    count step p s (as ++ bs) = count step p s as + count step p t bs := by
  induction as generalizing s with
  | nil =>
    rw [exec_nil, Option.some.injEq] at h
    subst h
    simp
  | cons a as ih =>
    obtain ⟨u, hsu, hut⟩ := exec_cons.mp h
    rw [List.cons_append, count_cons hsu, count_cons hsu, ih hut, Nat.add_assoc]

/-- **A flag that is toggled** by the steps in `p`, and by no other, is what it was exactly after an
even number of them. -/
theorem flag_exec_iff {I : S → Prop} {m : S → Bool} {p : S → A → Bool}
    (hI : ∀ s a t, I s → step s a = some t → I t)
    (hm : ∀ s a t, I s → step s a = some t → m t = if p s a then !m s else m s) {s t : S}
    {as : List A} (hs : I s) (hrun : exec step s as = some t) :
    m t = m s ↔ Even (count step p s as) := by
  induction as generalizing s with
  | nil =>
    rw [exec_nil, Option.some.injEq] at hrun
    subst hrun
    simp
  | cons a as ih =>
    obtain ⟨u, hsu, hut⟩ := exec_cons.mp hrun
    have hrest := ih (hI s a u hs hsu) hut
    have hfirst := hm s a u hs hsu
    rw [count_cons hsu]
    by_cases hp : p s a = true
    · rw [if_pos hp] at hfirst ⊢
      rw [Nat.even_add, ← hrest, hfirst]
      cases m t <;> cases m s <;> decide
    · rw [if_neg hp] at hfirst ⊢
      rw [Nat.zero_add, ← hrest, hfirst]

/-- **The step that starts it.** -/
theorem exists_step {Q : S → Prop} {s u : S} {as : List A} (hrun : exec step s as = some u)
    (hs : ¬ Q s) (hu : Q u) : ∃ before a after v w, as = before ++ a :: after ∧
      exec step s before = some v ∧ step v a = some w ∧ exec step w after = some u ∧
        ¬ Q v ∧ Q w := by
  induction as generalizing s with
  | nil =>
    rw [exec_nil, Option.some.injEq] at hrun
    subst hrun
    exact absurd hu hs
  | cons a as ih =>
    obtain ⟨t, hst, htu⟩ := exec_cons.mp hrun
    by_cases ht : Q t
    · exact ⟨[], a, as, s, t, rfl, rfl, hst, htu, hs, ht⟩
    · obtain ⟨before, b, after, v, w, rfl, hv, hvw, hw, hno, hyes⟩ := ih htu ht
      exact ⟨a :: before, b, after, v, w, rfl, exec_cons.mpr ⟨t, hst, hv⟩, hvw, hw, hno, hyes⟩

/-! ### What is taken since a condition holds -/

section Since
variable {J : S → Prop} {p q : S → A → Bool}

theorem count_eq_zero (hJ : ∀ s a t, J s → step s a = some t → J t)
    (hp : ∀ s a, p s a = true → J s) {s t : S} {as : List A} (hrun : exec step s as = some t)
    (ht : ¬ J t) : count step p s as = 0 := by
  induction as generalizing s with
  | nil => rfl
  | cons a as ih =>
    have hs : ¬ p s a = true := fun h => ht (exec_preserves hJ (hp s a h) hrun)
    obtain ⟨u, hsu, hut⟩ := exec_cons.mp hrun
    rw [count_cons hsu, if_neg hs, ih hut]

theorem count_congr (hJ : ∀ s a t, J s → step s a = some t → J t)
    (hpq : ∀ s a, J s → p s a = q s a) {s t : S} {as : List A} (hs : J s)
    (hrun : exec step s as = some t) : count step p s as = count step q s as := by
  induction as generalizing s with
  | nil => rfl
  | cons a as ih =>
    obtain ⟨u, hsu, hut⟩ := exec_cons.mp hrun
    rw [count_cons hsu, count_cons hsu, hpq s a hs, ih (hJ s a u hs hsu) hut]

/-- **The steps since `J` holds** are those of the run after the step with which it began to. -/
theorem count_since [DecidablePred J] (hJ : ∀ s a t, J s → step s a = some t → J t) {s v w u : S}
    {a : A} {before after : List A} (hbefore : exec step s before = some v)
    (hstep : step v a = some w) (hafter : exec step w after = some u) (hv : ¬ J v) (hw : J w) :
    count step (fun s a => decide (J s) && q s a) s (before ++ a :: after) =
      count step q w after := by
  have hnone : count step (fun s a => decide (J s) && q s a) s before = 0 :=
    count_eq_zero hJ (fun s a h => by simpa using (Bool.and_eq_true_iff.mp h).1) hbefore hv
  have hrest : count step (fun s a => decide (J s) && q s a) w after = count step q w after :=
    count_congr hJ (fun s a hs => by simp [hs]) hw hafter
  rw [count_append hbefore, hnone, count_cons hstep, hrest]
  simp [hv]

end Since

end AccountApp.Lib.Toggle
