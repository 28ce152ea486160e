import AccountApp.Dialog.Challenges
import AccountApp.Lib.Toggle

/-! # Which URL a completion goes back to

Parameters are completed at once, or after one request to the graph in which they are kept. Their
challenge does not change on the way: so whatever is completed has come with a URL that the app has
been opened with, and that may be opened (`url_of_completed`). -/

namespace AccountApp.Dialog.Origins

open AccountApp.Lib AccountApp.Lib.Machine AccountApp.Lib.Toggle
open AccountApp.Dialog.LoginManager AccountApp.Dialog.Step AccountApp.Dialog.Effects
open AccountApp.Dialog.Handlers AccountApp.Dialog.Challenges

variable {c : Option Challenge} {f f₀ g : Facebook} {act : Action} {as : List Action}

/-- Parameters with the challenge have been completed. -/
def Completed (c : Option Challenge) (f : Facebook) : Prop :=
  ∃ m parameters passed, .completed m parameters passed ∈ f.log ∧ parameters.challenge = c

/-- Parameters with the challenge are kept. -/
def Carried (c : Option Challenge) (f : Facebook) : Prop :=
  ∃ p r parameters, f.pending p = some r ∧ parametersIn r = some parameters ∧
    parameters.challenge = c

/-- The action brings the challenge with a URL that may be opened. -/
def Brings (c : Option Challenge) (f : Facebook) (act : Action) : Prop :=
  ∃ url sourceApplication, urlOf act = some (url, sourceApplication) ∧
    canOpenURL url sourceApplication f = true ∧ c = (parametersOf url).challenge

theorem brings_congr (happ : g.appID = f.appID) : Brings c g act ↔ Brings c f act := by
  simp only [Brings, canOpenURL, happ]

/-- At the beginning of a step nothing new is kept. -/
theorem brings_of_brought (hb : Begins f act f₀) (h : Brought f₀ act c) :
    Brings c f act ∨ Carried c f := by
  cases h with
  | url url sourceApplication hact hopen h =>
    exact Or.inl ((brings_congr hb.appID).mp ⟨url, sourceApplication, hact, hopen, h⟩)
  | block p r parameters hp hr h =>
    cases hb with
    | restarted url => exact absurd (hp : none = some r) (Option.some_ne_none r).symm
    | _ => exact Or.inr ⟨p, r, parameters, hp, hr, h.symm⟩

theorem Completed.of_effect (he : Effect f₀ act f g) (h : Completed c g) :
    Completed c f ∨ Brought f₀ act c := by
  obtain ⟨m, parameters, passed, hmem, hc⟩ := h
  have hold : .completed m parameters passed ∈ f.log ∨ Brought f₀ act c := by
    cases he with
    | consumed m' ps hm hb =>
      rcases List.mem_cons.mp hmem with heq | hmem
      · obtain ⟨-, rfl, -⟩ := Event.completed.inj heq
        exact Or.inr (hc ▸ hb)
      · exact Or.inl hmem
    | refused m' reply hm hreply =>
      rw [invokeHandler_eq] at hmem
      refine Or.inl ((List.mem_append.mp hmem).resolve_left ?_)
      rcases (f.managers m').handler with _ | a <;> simp
    | granted m' token granted declined hm hs =>
      rw [invokeHandler_eq] at hmem
      have hcached : .completed m parameters passed ∈ (cacheToken m' token f).log := by
        refine (List.mem_append.mp hmem).resolve_left ?_
        rcases ((cacheToken m' token f).managers m').handler with _ | a <;> simp
      exact Or.inl ((List.mem_cons.mp hcached).resolve_left (by simp))
    | dropped | refreshed => exact Or.inl ((List.mem_cons.mp hmem).resolve_left (by simp))
    | _ => exact Or.inl hmem
  exact hold.imp_left fun hmem => ⟨m, parameters, passed, hmem, hc⟩

theorem Completed.of_begins (hb : Begins f act f₀) (h : Completed c f₀) : Completed c f := by
  obtain ⟨m, parameters, passed, hmem, hc⟩ := h
  refine ⟨m, parameters, passed, ?_, hc⟩
  cases hb with
  | same => exact hmem
  | begun | restarted => exact (List.mem_cons.mp hmem).resolve_left (by simp)

theorem Carried.of_effect (he : Effect f₀ act f g) (h : Carried c g) :
    Carried c f ∨ Brought f₀ act c := by
  obtain ⟨p, r, parameters, hp, hr, hc⟩ := h
  have hold : f.pending p = some r ∨ Brought f₀ act c := by
    cases he with
    | answered q =>
      by_cases hq : p = q
      · simp [Facebook.answered, hq] at hp
      · exact Or.inl (by simpa [Facebook.answered, hq] using hp)
    | awaited r' hm hproper hb =>
      by_cases hq : p = f.next
      · obtain rfl : r' = r := by simpa [Facebook.await, hq] using hp
        exact Or.inr (hc ▸ hb parameters hr)
      · exact Or.inl (by simpa [Facebook.await, hq] using hp)
    | refused | granted =>
      rw [invokeHandler_eq] at hp
      exact Or.inl hp
    | _ => exact Or.inl hp
  exact hold.imp_left fun hp => ⟨p, r, parameters, hp, hr, hc⟩

theorem completed_step (hf : Numbered f) (hst : step f act = some g) (h : Completed c g) :
    Completed c f ∨ Brings c f act ∨ Carried c f := by
  obtain ⟨f₀, hbegins, hg⟩ := step_preserves
    (J := fun f₀ g => Completed c g → Completed c f ∨ Brought f₀ act c) hf
    (fun f₀ hb h => Or.inl (h.of_begins hb))
    (fun f₀ f' g' _ hf' he h => (h.of_effect he).elim hf' Or.inr) (fun _ _ hf' => hf') hst
  exact (hg h).imp_right (brings_of_brought hbegins)

theorem carried_step (hf : Numbered f) (hst : step f act = some g) (h : Carried c g) :
    Brings c f act ∨ Carried c f := by
  obtain ⟨f₀, hbegins, hg⟩ := step_preserves
    (J := fun f₀ g => Carried c g → Carried c f₀ ∨ Brought f₀ act c) hf (fun _ _ => Or.inl)
    (fun f₀ f' g' _ hf' he h => (h.of_effect he).elim hf' Or.inr) (fun _ _ hf' => hf') hst
  rcases hg h with ⟨p, r, parameters, hp, hr, hc⟩ | hbrought
  · exact brings_of_brought hbegins (.block p r parameters hp hr hc.symm)
  · exact brings_of_brought hbegins hbrought

theorem appID_exec (hf : Reachable f) (hrun : exec f as = some g) : g.appID = f.appID := by
  have happ : Reachable g ∧ g.appID = f.appID := by
    refine exec_preserves (I := fun u => Reachable u ∧ u.appID = f.appID) ?_ ⟨hf, rfl⟩ hrun
    rintro u act v ⟨hu, happ⟩ huv
    obtain ⟨f₀, hb, hv⟩ := step_preserves (J := fun f₀ g => g.appID = f₀.appID) (numbered hu)
      (fun _ _ => rfl) (fun _ _ _ _ hg he => he.appID.trans hg) (fun _ _ hg => hg) huv
    exact ⟨hu.next huv, (hv.trans hb.appID).trans happ⟩
  exact happ.2

theorem url_of_carried {appID : String} {token : Option FBSDKAccessToken}
    {challenge : Option Challenge} (hrun : exec (installed appID token challenge) as = some f)
    (h : Carried c f) : ∃ act ∈ as, Brings c (installed appID token challenge) act := by
  have hinitial : Reachable (installed appID token challenge) :=
    .initial ⟨appID, token, challenge, rfl⟩
  obtain ⟨before, act, after, u, v, rfl, hu, huv, -, hno, hyes⟩ := exists_step (Q := Carried c) hrun
    (by rintro ⟨p, r, parameters, hp, -⟩; simp [installed] at hp) h
  refine ⟨act, by simp, ?_⟩
  have hbrings := (carried_step (numbered (hinitial.exec hu)) huv hyes).resolve_right hno
  exact (brings_congr (appID_exec hinitial hu)).mp hbrings

/-- **Whatever is completed has come with a URL** that the app has been opened with and that may be
opened. -/
theorem url_of_completed {appID : String} {token : Option FBSDKAccessToken}
    {challenge : Option Challenge} (hrun : exec (installed appID token challenge) as = some f)
    {m : Ref} {parameters : FBSDKLoginCompletionParameters} {passed : Bool}
    (he : .completed m parameters passed ∈ f.log) :
    ∃ act ∈ as, ∃ url sourceApplication, urlOf act = some (url, sourceApplication) ∧
      canOpenURL url sourceApplication (installed appID token challenge) = true ∧
      parameters.challenge = (parametersOf url).challenge := by
  have hinitial : Reachable (installed appID token challenge) :=
    .initial ⟨appID, token, challenge, rfl⟩
  obtain ⟨before, act, after, u, v, rfl, hu, huv, -, hno, hyes⟩ :=
    exists_step (Q := Completed parameters.challenge) hrun
      (by rintro ⟨m, ps, passed, hmem, -⟩; exact absurd hmem List.not_mem_nil)
      ⟨m, parameters, passed, he, rfl⟩
  rcases (completed_step (numbered (hinitial.exec hu)) huv hyes).resolve_left hno with hb | hc
  · exact ⟨act, by simp, (brings_congr (appID_exec hinitial hu)).mp hb⟩
  · obtain ⟨act', hact', hb⟩ := url_of_carried hu hc
    exact ⟨act', List.mem_append_left _ hact', hb⟩

theorem sessionLogin_url : ∃ f, exec (installed "1" none none) sessionLogin = some f ∧
    ∃ act ∈ sessionLogin, ∃ url sourceApplication, urlOf act = some (url, sourceApplication) ∧
      canOpenURL url sourceApplication (installed "1" none none) = true ∧
      sessionLoginParameters.challenge = (parametersOf url).challenge := by
  obtain ⟨f, hf, hlog⟩ := Option.map_eq_some_iff.mp sessionLogin_log
  have hcompleted : .completed (.login 0) sessionLoginParameters true ∈ f.log := by
    rw [hlog]
    exact List.mem_cons_of_mem _ (List.mem_cons_of_mem _ List.mem_cons_self)
  exact ⟨f, hf, url_of_completed hf hcompleted⟩

end AccountApp.Dialog.Origins
