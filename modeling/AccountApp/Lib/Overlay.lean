import Mathlib.Data.List.Basic

/-! # Partial records laid over each other

A partial record is a function `K → Option V`. Laying a new record over an old one keeps, at each
key, the new value if there is one and the old value otherwise: this is what a store does that
updates field by field. `overlays` lays a whole history of records (the newest first) over each
other.

* `overlays_apply`: at each key the result has the newest value the history holds for it.
* `overlays_cons_eq_iff`: the result is the newest record alone exactly when no older record has a
  key the newest lacks. -/

namespace AccountApp.Lib.Overlay

variable {K V : Type*}

/-- The new record laid over the old one. -/
def overlay (new old : K → Option V) : K → Option V := fun k => (new k).or (old k)

/-- The records of a history laid over each other, the newest on top. -/
def overlays : List (K → Option V) → K → Option V
  | [] => fun _ => none
  | r :: h => overlay r (overlays h)

@[simp] theorem overlays_nil (k : K) : overlays ([] : List (K → Option V)) k = none := rfl

@[simp] theorem overlays_cons (r : K → Option V) (h : List (K → Option V)) (k : K) :
    overlays (r :: h) k = (r k).or (overlays h k) := rfl

/-- **The newest value wins, key by key.** -/
theorem overlays_apply (h : List (K → Option V)) (k : K) :
    overlays h k = h.findSome? fun r => r k := by
  induction h with
  | nil => rfl
  | cons r h ih =>
    rw [overlays_cons, ih, List.findSome?_cons]
    cases r k <;> rfl

theorem overlays_eq_none_iff {h : List (K → Option V)} {k : K} :
    overlays h k = none ↔ ∀ r ∈ h, r k = none := by
  rw [overlays_apply, List.findSome?_eq_none_iff]

/-- **The newest record alone**: at a key, older records do not show through exactly when none of
them has the key or the newest has it itself. -/
theorem overlays_cons_eq_iff {r : K → Option V} {h : List (K → Option V)} {k : K} :
    overlays (r :: h) k = r k ↔ (r k = none → ∀ r' ∈ h, r' k = none) := by
  rw [overlays_cons, ← overlays_eq_none_iff]
  cases hr : r k with
  | none => simp
  | some v => simp

end AccountApp.Lib.Overlay
