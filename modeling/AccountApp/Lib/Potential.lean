import Mathlib
import AccountApp.Lib.Machine

/-! # Potentials

A potential `Φ` measures the work that is still to be done. A step has a cost, which it pays out of
the potential, and an action may bring in new work, its credit.

* `exec_potential`: what holds of a step, that cost and new potential are covered by the old
  potential and the credit, holds of a run.
* `exists_exec_done`: if some of the actions bring nothing in and cost something, and one of them is
  possible as long as there is work left, then a run of them alone comes to an end.
* `sum_range_of_ne`: sums that differ in one term, for potentials that are sums. -/

namespace AccountApp.Lib.Potential

open AccountApp.Lib.Machine Finset

variable {S A : Type*} {step : S → A → Option S} {I : S → Prop} {Φ : S → ℕ}

section Runs
variable {cost credit : A → ℕ}

/-- **The accounting of a run.** -/
theorem exec_potential (hI : ∀ s a t, I s → step s a = some t → I t)
    (hΦ : ∀ s a t, I s → step s a = some t → cost a + Φ t ≤ Φ s + credit a) {s t : S} {as : List A}
    (hs : I s) (hrun : exec step s as = some t) :
    (as.map cost).sum + Φ t ≤ Φ s + (as.map credit).sum := by
  induction as generalizing s with
  | nil =>
    rw [exec_nil, Option.some.injEq] at hrun
    simp [hrun]
  | cons a as ih =>
    obtain ⟨u, hsu, hut⟩ := exec_cons.mp hrun
    have hfirst := hΦ s a u hs hsu
    have hrest := ih (hI s a u hs hsu) hut
    simp only [List.map_cons, List.sum_cons]
    omega

/-- The actions that cost one unit are counted. -/
theorem sum_map_ite (p : A → Bool) (as : List A) :
    (as.map fun a => if p a = true then 1 else 0).sum = as.countP p := by
  induction as with
  | nil => rfl
  | cons a as ih =>
    rw [List.map_cons, List.sum_cons, ih, List.countP_cons]
    exact Nat.add_comm _ _

/-- **Work that nothing is added to comes to an end.** -/
theorem exists_exec_done {B : A → Prop} {Done : S → Prop}
    (hI : ∀ s a t, I s → step s a = some t → I t)
    (hΦ : ∀ s a t, I s → B a → step s a = some t → Φ t < Φ s)
    (hprog : ∀ s, I s → ¬ Done s → ∃ a t, B a ∧ step s a = some t) {s : S} (hs : I s) :
    ∃ as t, (∀ a ∈ as, B a) ∧ exec step s as = some t ∧ Done t := by
  induction hn : Φ s using Nat.strong_induction_on generalizing s with
  | _ n ih =>
    by_cases hdone : Done s
    · exact ⟨[], s, by simp, rfl, hdone⟩
    · obtain ⟨a, u, ha, hsu⟩ := hprog s hs hdone
      have hlt : Φ u < n := hn ▸ hΦ s a u hs ha hsu
      obtain ⟨as, t, has, hrun, ht⟩ := ih (Φ u) hlt (hI s a u hs hsu) rfl
      exact ⟨a :: as, t, List.forall_mem_cons.mpr ⟨ha, has⟩, exec_cons.mpr ⟨u, hsu, hrun⟩, ht⟩

end Runs

/-! ### Potentials that are sums -/

section Sums
variable {f g : ℕ → ℕ} {a n : ℕ}

theorem sum_range_of_ne (hne : ∀ b ≠ a, g b = f b) (ha : a < n) :
    ∑ b ∈ range n, g b + f a = ∑ b ∈ range n, f b + g a := by
  have hmem : a ∈ range n := mem_range.mpr ha
  have herase : ∑ b ∈ (range n).erase a, g b = ∑ b ∈ (range n).erase a, f b :=
    sum_congr rfl fun b hb => hne b (ne_of_mem_erase hb)
  rw [← add_sum_erase _ g hmem, ← add_sum_erase _ f hmem, herase]
  omega

theorem sum_range_le_of_ne {k : ℕ} (hne : ∀ b ≠ a, g b = f b) (hk : g a ≤ f a + k) :
    ∑ b ∈ range n, g b ≤ ∑ b ∈ range n, f b + k := by
  by_cases ha : a < n
  · have hsum := sum_range_of_ne hne ha
    omega
  · have hsame : ∑ b ∈ range n, g b = ∑ b ∈ range n, f b := by
      refine sum_congr rfl fun b hb => hne b ?_
      rintro rfl
      exact ha (mem_range.mp hb)
    rw [hsame]
    exact Nat.le_add_right _ _

end Sums

end AccountApp.Lib.Potential
