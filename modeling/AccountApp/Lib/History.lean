import Mathlib.Data.List.Basic

/-! # Histories

A history is the list of the entries recorded so far, the newest first: the tail of `e :: past` is
what had been recorded when `e` came.

* `Always P` holds of a history each of whose entries is in the relation `P` with its past.
* `since reset pick` collects what `pick` reads off the entries after the last `reset` entry. -/

namespace AccountApp.Lib.History

variable {E V : Type*}

/-- Every entry is in the relation `P` with what was recorded before it. -/
def Always (P : E → List E → Prop) : List E → Prop
  | [] => True
  | e :: past => P e past ∧ Always P past

section Always
variable {P : E → List E → Prop} {h h' : List E}

@[simp] theorem always_nil : Always P [] := trivial

@[simp] theorem always_cons {e : E} : Always P (e :: h) ↔ P e h ∧ Always P h := Iff.rfl

theorem always_iff : Always P h ↔ ∀ e past, e :: past <:+ h → P e past := by
  induction h with
  | nil => simp
  | cons e h ih =>
    simp only [always_cons, ih, List.suffix_cons_iff, List.cons.injEq]
    constructor
    · rintro ⟨he, hh⟩ e' past (⟨rfl, rfl⟩ | hs)
      · exact he
      · exact hh e' past hs
    · intro H
      exact ⟨H e h (Or.inl ⟨rfl, rfl⟩), fun e' past hs => H e' past (Or.inr hs)⟩

theorem Always.of_suffix (hP : Always P h) (hs : h' <:+ h) : Always P h' :=
  always_iff.mpr fun e past he => always_iff.mp hP e past (he.trans hs)

theorem always_append {new : List E} (hnew : ∀ e ∈ new, ∀ past, P e past) :
    Always P (new ++ h) ↔ Always P h := by
  induction new with
  | nil => rfl
  | cons e new ih =>
    obtain ⟨he, hrest⟩ := List.forall_mem_cons.mp hnew
    rw [List.cons_append, always_cons, ih hrest]
    exact and_iff_right (he _)

theorem exists_past {e : E} (he : e ∈ h) : ∃ past, e :: past <:+ h := by
  obtain ⟨new, past, rfl⟩ := List.append_of_mem he
  exact ⟨past, new, rfl⟩

/-- **A law kept key by key.** A law about the entries of each key, and the past of that key alone,
holds of a history if it holds of the entries of each key taken by themselves. -/
theorem always_iff_forall_filter {K : Type*} [DecidableEq K] {key : E → Option K}
    (hnone : ∀ e past, key e = none → P e past)
    (hkey : ∀ e k past, key e = some k →
      (P e past ↔ P e (past.filter fun e' => key e' = some k))) :
    Always P h ↔ ∀ k, Always P (h.filter fun e => key e = some k) := by
  induction h with
  | nil => simp
  | cons e h ih =>
    rw [always_cons, ih]
    constructor
    · rintro ⟨he, hh⟩ k
      by_cases hk : key e = some k
      · rw [List.filter_cons_of_pos (by simpa using hk), always_cons]
        exact ⟨(hkey e k h hk).mp he, hh k⟩
      · rw [List.filter_cons_of_neg (by simpa using hk)]
        exact hh k
    · intro H
      have hpart : ∀ k, Always P (h.filter fun e => key e = some k) := by
        intro k
        exact (H k).of_suffix ((List.suffix_cons e h).filter _)
      refine ⟨?_, hpart⟩
      rcases hk : key e with _ | k
      · exact hnone e h hk
      · have hcons := H k
        rw [List.filter_cons_of_pos (by simpa using hk), always_cons] at hcons
        exact (hkey e k h hk).mpr hcons.1

end Always

/-! ### What was read since the last reset -/

/-- What `pick` reads off the entries newer than the last one in `reset`, the newest first. -/
def since (reset : E → Bool) (pick : E → Option V) : List E → List V
  | [] => []
  | e :: past =>
    if reset e then []
    else match pick e with
      | some v => v :: since reset pick past
      | none => since reset pick past

section Since
variable {reset : E → Bool} {pick : E → Option V} {e : E} {past : List E}

theorem since_reset (h : reset e = true) : since reset pick (e :: past) = [] := by
  simp [since, h]

theorem since_some {v : V} (h : reset e = false) (hv : pick e = some v) :
    since reset pick (e :: past) = v :: since reset pick past := by
  simp [since, h, hv]

theorem since_none (h : reset e = false) (hv : pick e = none) :
    since reset pick (e :: past) = since reset pick past := by
  simp [since, h, hv]

theorem exists_of_mem_since {h : List E} {v : V} (hv : v ∈ since reset pick h) :
    ∃ e ∈ h, pick e = some v := by
  induction h with
  | nil => exact absurd hv List.not_mem_nil
  | cons e h ih =>
    unfold since at hv
    split_ifs at hv
    · exact absurd hv List.not_mem_nil
    · split at hv
      · rename_i w hw
        rcases List.mem_cons.mp hv with rfl | hv
        · exact ⟨e, List.mem_cons_self, hw⟩
        · obtain ⟨e', he', hpick⟩ := ih hv
          exact ⟨e', List.mem_cons_of_mem _ he', hpick⟩
      · obtain ⟨e', he', hpick⟩ := ih hv
        exact ⟨e', List.mem_cons_of_mem _ he', hpick⟩

end Since

end AccountApp.Lib.History
