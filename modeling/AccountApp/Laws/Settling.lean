import AccountApp.Books.Outstanding

/-! # The app comes to rest

A completion block may start further requests, and these have blocks of their own. No chain of
blocks goes on forever: `answers_le` bounds the answers of a run by what its taps bring in, and over
the whole life of the app nothing else is ever answered (`answers_of_taps`). An app that nobody
touches comes to rest: after at most `owed` answers nothing is outstanding any more (`settles`). -/

namespace AccountApp.Laws.Settling

open AccountApp.Lib AccountApp.Lib.Machine AccountApp.Lib.Potential
open AccountApp.Model.Data AccountApp.Model.State AccountApp.Model.Step
open AccountApp.Books.Outstanding

/-- Nothing is outstanding. -/
def Idle (s : App) : Prop := ∀ a, s.requests a = none ∧ s.writes a = none

section Settling
variable {s t : App} {as : List Action}

/-- **Whatever is outstanding can be answered**, be it with an error. -/
theorem exists_answer (h : ¬ Idle s) : ∃ act t, answers act = true ∧ step s act = some t := by
  have hsome : ∃ act, answers act = true ∧ (step s act).isSome = true := by
    obtain ⟨a, ha⟩ := not_forall.mp h
    rcases hw : s.writes a with _ | w
    · rcases hr : s.requests a with _ | r
      · exact absurd ⟨hr, hw⟩ ha
      · cases r with
        | auth call => exact ⟨.authFinish a (.error ⟨"", ""⟩), rfl, by simp [step, hr, authFinish]⟩
        | authDone call answer => exact ⟨.authComplete a, rfl, by simp [step, hr]⟩
        | fbDialog self => exact ⟨.logInFinish a (.error ⟨"", ""⟩), rfl, by simp [step, hr]⟩
        | fetchProfile self owner => exact ⟨.fetchFinish a (.error ⟨"", ""⟩), rfl, by simp [step, hr]⟩
        | googleDialog => exact ⟨.googleFinish a (.error ⟨"", ""⟩), rfl, by simp [step, hr]⟩
        | userRecord self user uid => exact ⟨.readFinish a, rfl, by simp [step, hr]⟩
        | numberAlert self number => exact ⟨.numberAlert a false, rfl, by simp [step, hr]⟩
        | verifyPhone self number => exact ⟨.verifyFinish a (.error ⟨"", ""⟩), rfl, by simp [step, hr]⟩
        | passwordReset self email => exact ⟨.resetFinish a none, rfl, by simp [step, hr]⟩
    · exact ⟨.writeFinish a .lost, rfl, by simp [step, hw]⟩
  obtain ⟨act, hact, hstep⟩ := hsome
  obtain ⟨t, ht⟩ := Option.isSome_iff_exists.mp hstep
  exact ⟨act, t, hact, ht⟩

/-- **The answers of a run** are paid for by its taps and by what was outstanding before. -/
theorem answers_le (h : Reachable s) (hrun : exec s as = some t) :
    as.countP answers + owed t ≤ owed s + (as.map brings).sum := by
  rw [← sum_map_ite]
  refine exec_potential (I := Reachable) ?_ ?_ h hrun
  · exact fun u act v hu huv => hu.next huv
  · exact fun u act v hu huv => pays_step (numbered hu) huv

/-- **Every answer is paid for by a tap or a launch**: over the life of the app on a device, the
answers that have come and those that can still come are no more than the taps have brought in. -/
theorem answers_of_taps {device : Device} (hrun : exec device.installed as = some s) :
    as.countP answers + owed s ≤ (as.map brings).sum := by
  have hinstalled : owed device.installed = 0 := rfl
  have hle := answers_le (.initial ⟨device, rfl⟩) hrun
  rwa [hinstalled, Nat.zero_add] at hle

/-- The Facebook login, with the dialog, the fetch, and the sign-in with its block. -/
theorem facebookTap_answers : ∃ s, exec Device.empty.installed [.launch, .fbButton 0,
    .logInFinish 1 (.ok (.granted "token")), .fetchFinish 2 (.ok []),
    .authFinish 1 (.ok ⟨"uid", none, none, "facebook.com"⟩), .authComplete 1] = some s ∧
      4 + owed s ≤ 5 := by
  have hrun : (exec Device.empty.installed [.launch, .fbButton 0,
    .logInFinish 1 (.ok (.granted "token")), .fetchFinish 2 (.ok []),
    .authFinish 1 (.ok ⟨"uid", none, none, "facebook.com"⟩), .authComplete 1]).isSome = true := by
    decide
  obtain ⟨s, hs⟩ := Option.isSome_iff_exists.mp hrun
  exact ⟨s, hs, answers_of_taps hs⟩

theorem brings_of_answers {act : Action} (h : answers act = true) : brings act = 0 := by
  cases act <;> first | rfl | exact absurd h Bool.false_ne_true

/-- **The app comes to rest.** Answers alone, of the services or of the user to the alert of
`sendCodeButton`, in whatever order and whatever they say, are never more than the app was owed, and
they can go on until nothing is outstanding. -/
theorem settles (h : Reachable s) (has : ∀ act ∈ as, answers act = true)
    (hrun : exec s as = some t) : ∃ bs u, (∀ act ∈ bs, answers act = true) ∧
      exec t bs = some u ∧ Idle u ∧ (as ++ bs).length ≤ owed s := by
  have hlt : ∀ u act v, Reachable u → answers act = true → step u act = some v →
      owed v < owed u := by
    intro u act v hu hact huv
    have hpays := pays_step (numbered hu) huv
    rw [if_pos hact, brings_of_answers hact] at hpays
    omega
  obtain ⟨bs, u, hbs, hu, hidle⟩ := exists_exec_done (I := Reachable)
    (fun u act v hu huv => hu.next huv) hlt (fun u hu => exists_answer) (h.exec hrun)
  refine ⟨bs, u, hbs, hu, hidle, ?_⟩
  have hall : ∀ act ∈ as ++ bs, answers act = true := by
    intro act hact
    exact (List.mem_append.mp hact).elim (has act) (hbs act)
  have hle := answers_le h (exec_append.mpr ⟨t, hrun, hu⟩)
  have hcount : (as ++ bs).countP answers = (as ++ bs).length := List.countP_eq_length.mpr hall
  have hfree : ((as ++ bs).map brings).sum = 0 := by
    refine List.sum_eq_zero fun n hn => ?_
    obtain ⟨act, hact, rfl⟩ := List.mem_map.mp hn
    exact brings_of_answers (hall act hact)
  omega

/-- The Facebook dialog has been answered; the fetch and the sign-in remain. -/
theorem facebookTap_settles : ∃ s t bs u, exec Device.empty.installed [.launch, .fbButton 0] = some s ∧
    exec s [.logInFinish 1 (.ok (.granted "token"))] = some t ∧ exec t bs = some u ∧ Idle u ∧
      1 + bs.length ≤ 4 := by
  have hrun : ((exec Device.empty.installed [.launch, .fbButton 0]).bind fun s =>
      (exec s [.logInFinish 1 (.ok (.granted "token"))]).map fun _ => owed s) = some 4 := by decide
  obtain ⟨s, hs, hst⟩ := Option.bind_eq_some_iff.mp hrun
  obtain ⟨t, ht, howed⟩ := Option.map_eq_some_iff.mp hst
  obtain ⟨bs, u, -, hu, hidle, hlen⟩ := settles (reachable_of_exec hs) (by simp [answers]) ht
  refine ⟨s, t, bs, u, hs, ht, hu, hidle, ?_⟩
  rwa [howed, List.length_append] at hlen

end Settling

end AccountApp.Laws.Settling
