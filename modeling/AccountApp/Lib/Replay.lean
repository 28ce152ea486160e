import Mathlib.Data.List.Basic

/-! # States that are replayed

If each event of a history (the newest first) says how a state changes, the state can be computed
from the history: `replay record init` runs the events from the oldest to the newest.

* `replay_append` and `replay_quiet`: a history is replayed piece by piece, and events that record
  nothing can be dropped.
* `replay_congr`: histories that agree on the events that record something leave the same state,
  whatever else they hold. -/

namespace AccountApp.Lib.Replay

variable {E S : Type*} {record : E → S → S} {init : S}

/-- The state after a history. -/
def replay (record : E → S → S) (init : S) (log : List E) : S := log.foldr record init

@[simp] theorem replay_nil : replay record init [] = init := rfl

@[simp] theorem replay_cons (e : E) (log : List E) :
    replay record init (e :: log) = record e (replay record init log) := rfl

theorem replay_append (new log : List E) :
    replay record init (new ++ log) = replay record (replay record init log) new :=
  List.foldr_append

theorem replay_quiet {new : List E} (hnew : ∀ e ∈ new, ∀ s, record e s = s) :
    replay record init new = init := by
  induction new with
  | nil => rfl
  | cons e new ih =>
    obtain ⟨he, hrest⟩ := List.forall_mem_cons.mp hnew
    rw [replay_cons, ih hrest, he]

section Filter
variable {p : E → Bool}

theorem replay_filter (hp : ∀ e, p e = false → ∀ s, record e s = s) (log : List E) :
    replay record init (log.filter p) = replay record init log := by
  induction log with
  | nil => rfl
  | cons e log ih =>
    rcases he : p e with _ | _
    · rw [List.filter_cons_of_neg (by simp [he]), ih, replay_cons, hp e he]
    · rw [List.filter_cons_of_pos he, replay_cons, ih, replay_cons]

/-- **Only the events that record something matter.** -/
theorem replay_congr (hp : ∀ e, p e = false → ∀ s, record e s = s) {log log' : List E}
    (h : log.filter p = log'.filter p) : replay record init log = replay record init log' := by
  rw [← replay_filter hp log, h, replay_filter hp log']

end Filter

end AccountApp.Lib.Replay
