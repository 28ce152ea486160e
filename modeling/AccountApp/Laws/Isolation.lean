import AccountApp.Books.Blocks
import AccountApp.Laws.Registration

/-! # Controllers apart

The code of a step changes one controller at most, the one the action concerns: a run without an
action that concerns a controller leaves it as it is (`frame_exec`), whatever happens elsewhere.

A controller can be got at (`Reached`) if it is on a screen or prepared for one, or a request comes
back to it, or it is the delegate of Google; one that cannot be got at is out of reach for good
(`unreached_step`). A launch puts all controllers of the process before it out of reach, and it drops
the requests that were outstanding, the writes apart, which the database keeps. So whatever happens
afterwards, no controller of the old process changes, and all that is still heard of one of its
attempts is what has become of its write (`relaunch_leaves`). -/

namespace AccountApp.Laws.Isolation

open AccountApp.Lib AccountApp.Lib.Machine
open AccountApp.Model.Data AccountApp.Model.Screens AccountApp.Model.State
open AccountApp.Model.Handlers AccountApp.Model.Step
open AccountApp.Attempt.Life AccountApp.Books.Effects AccountApp.Books.Blocks
open AccountApp.Laws.Registration (registration)

/-- Whatever controller is at `i`, it is as before. -/
structure Untouched (i : Addr) (s t : App) : Prop where
  vcs : t.vcs i = s.vcs i
  verifyVCs : t.verifyVCs i = s.verifyVCs i
  logInVCs : t.logInVCs i = s.logInVCs i
  resetVCs : t.resetVCs i = s.resetVCs i
  profileVCs : t.profileVCs i = s.profileVCs i

section Untouched
variable {i : Addr} {s t u : App}

theorem Untouched.refl (i : Addr) (s : App) : Untouched i s s := ⟨rfl, rfl, rfl, rfl, rfl⟩

theorem Untouched.trans (h : Untouched i s t) (h' : Untouched i t u) : Untouched i s u :=
  ⟨h'.vcs.trans h.vcs, h'.verifyVCs.trans h.verifyVCs, h'.logInVCs.trans h.logInVCs,
    h'.resetVCs.trans h.resetVCs, h'.profileVCs.trans h.profileVCs⟩

end Untouched

/-! ### The actions of a controller -/

section Frame
variable {i : Addr} {s₀ s t : App} {act : Action} {k : Bool}

/-- What is true of a controller the action does not concern while the code of the step runs. -/
structure Framed (i : Addr) (s₀ s : App) : Prop where
  next : s₀.next ≤ s.next
  untouched : Untouched i s₀ s

theorem Framed.then (h : Framed i s₀ s) (hn : s.next ≤ t.next) (ht : Untouched i s t) :
    Framed i s₀ t := ⟨Nat.le_trans h.next hn, h.untouched.trans ht⟩

theorem Framed.effect (hi : target s₀ act ≠ some i) (hlt : i < s₀.next) (h : Framed i s₀ s)
    (he : Effect s₀ act k s t) : Framed i s₀ t := by
  have hfresh : ∀ {α : Type} (f : Addr → α) (v : α), Function.update f s.next v i = f i :=
    fun f v => Function.update_of_ne (Nat.ne_of_lt (Nat.lt_of_lt_of_le hlt h.next)) ..
  have hother : ∀ {α : Type} {self : Addr} (_ : Concerned s₀ act self) (f : Addr → α) (v : α),
      Function.update f self v i = f i := by
    intro α self hself f v
    refine Function.update_of_ne ?_ ..
    rintro rfl
    exact hi hself.target
  cases he with
  | changed self f hself hf => exact h.then (Nat.le_refl _) ⟨hother hself .., rfl, rfl, rfl, rfl⟩
  | verifyChanged self vc hself =>
    exact h.then (Nat.le_refl _) ⟨rfl, hother hself .., rfl, rfl, rfl⟩
  | logInChanged self vc hself =>
    exact h.then (Nat.le_refl _) ⟨rfl, rfl, hother hself .., rfl, rfl⟩
  | resetChanged self vc hself =>
    exact h.then (Nat.le_refl _) ⟨rfl, rfl, rfl, hother hself .., rfl⟩
  | segue a r flow self hr hp => exact h.then (Nat.le_succ _) ⟨rfl, rfl, rfl, rfl, hfresh ..⟩
  | logged a self vid code user hr => exact h.then (Nat.le_succ _) ⟨rfl, rfl, rfl, rfl, hfresh ..⟩
  | verifyOpened self hself hshown => exact h.then (Nat.le_succ _) ⟨rfl, hfresh .., rfl, rfl, rfl⟩
  | resetOpened self hself hshown => exact h.then (Nat.le_succ _) ⟨rfl, rfl, rfl, hfresh .., rfl⟩
  | logInOpened a self number vid hr =>
    exact h.then (Nat.le_succ _) ⟨rfl, rfl, hfresh .., rfl, rfl⟩
  | mainOpened hact => exact h.then (Nat.le_succ _) ⟨hfresh .., rfl, rfl, rfl, rfl⟩
  | switched self hself hact => exact h.then (Nat.le_refl _) ⟨hother hself .., rfl, rfl, rfl, rfl⟩
  | presented self hself hact hmem =>
    exact h.then (Nat.le_refl _) ⟨rfl, rfl, rfl, rfl, hother hself ..⟩
  | started | tapped => exact h.then (Nat.le_succ _) ⟨rfl, rfl, rfl, rfl, rfl⟩
  | _ => exact h.then (Nat.le_refl _) ⟨rfl, rfl, rfl, rfl, rfl⟩

theorem frame_step (hi : target s act ≠ some i) (hlt : i < s.next) (h : step s act = some t) :
    Framed i s t :=
  step_preserves (J := Framed i s) ⟨Nat.le_refl _, .refl i s⟩
    (fun _ _ hframed he => hframed.effect hi hlt he) h

end Frame

/-! ### Out of reach -/

section Reached
variable {i : Addr} {s₀ s t u : App} {act : Action} {k : Bool}

/-- Nothing that can be got at is new but what is at an address that has been free before. -/
theorem unreached_of (hi : ¬ Reached s i)
    (hs : ∀ c ∈ t.screens, c ∈ s.screens ∨ addr c ≠ i)
    (hp : ∀ j ∈ t.prepared, j ∈ s.prepared ∨ j ≠ i)
    (hr : ∀ a r, t.requests a = some r → s.requests a = some r ∨ holder r ≠ some i)
    (hd : t.delegate = s.delegate ∨ t.delegate ≠ i) : ¬ Reached t i := by
  intro ht
  cases ht with
  | screen c hc hci =>
    rcases hs c hc with hc | hne
    · exact hi (.screen c hc hci)
    · exact hne hci
  | prepared hj =>
    rcases hp i hj with hj | hne
    · exact hi (.prepared hj)
    · exact hne rfl
  | request a r hr' hri =>
    rcases hr a r hr' with hr' | hne
    · exact hi (.request a r hr' hri)
    · exact hne hri
  | delegate hdi =>
    rcases hd with heq | hne
    · exact hi (.delegate (heq ▸ hdi))
    · exact hne hdi

theorem unreached_requested {a : Attempt} {r : Option Request} (hi : ¬ Reached s i)
    (hs : t.screens = s.screens) (hp : t.prepared = s.prepared) (hd : t.delegate = s.delegate)
    (hreq : t.requests = Function.update s.requests a r)
    (hr : ∀ r', r = some r' → holder r' ≠ some i) : ¬ Reached t i := by
  refine unreached_of hi (fun c hc => Or.inl (hs ▸ hc)) (fun j hj => Or.inl (hp ▸ hj))
    (fun b r' hb => ?_) (Or.inl hd)
  rw [hreq] at hb
  by_cases hba : b = a
  · rw [hba, Function.update_self] at hb
    exact Or.inr (hr r' hb)
  · rw [Function.update_of_ne hba] at hb
    exact Or.inl hb

/-- What is true of a controller out of reach while the code of a step runs. -/
structure Left (i : Addr) (s₀ s : App) : Prop where
  next : s₀.next ≤ s.next
  unreached : ¬ Reached s i
  untouched : Untouched i s₀ s

theorem Left.same (h : Left i s₀ s) (hn : t.next = s.next) (hs : t.screens = s.screens)
    (hp : t.prepared = s.prepared) (hr : t.requests = s.requests) (hd : t.delegate = s.delegate)
    (ht : Untouched i s t) : Left i s₀ t where
  next := hn ▸ h.next
  unreached := unreached_of h.unreached (fun _ hc => Or.inl (hs ▸ hc)) (fun _ hj => Or.inl (hp ▸ hj))
    (fun _ _ ha => Or.inl (hr ▸ ha)) (Or.inl hd)
  untouched := h.untouched.trans ht

theorem Left.opened (h : Left i s₀ s) (hlt : i < s₀.next) (hn : t.next = s.next + 1)
    (hs : ∀ c ∈ t.screens, c ∈ s.screens ∨ addr c = s.next)
    (hp : ∀ j ∈ t.prepared, j ∈ s.prepared ∨ j = s.next) (hr : t.requests = s.requests)
    (hd : t.delegate = s.delegate ∨ t.delegate = s.next) (ht : Untouched i s t) : Left i s₀ t where
  next := hn ▸ Nat.le_succ_of_le h.next
  unreached := by
    have hne : s.next ≠ i := Nat.ne_of_gt (Nat.lt_of_lt_of_le hlt h.next)
    refine unreached_of h.unreached (fun c hc => ?_) (fun j hj => ?_)
      (fun _ _ ha => Or.inl (hr ▸ ha)) ?_
    · exact (hs c hc).imp_right fun (heq : addr c = s.next) => heq ▸ hne
    · exact (hp j hj).imp_right fun (heq : j = s.next) => heq ▸ hne
    · exact hd.imp_right fun (heq : t.delegate = s.next) => heq ▸ hne
  untouched := h.untouched.trans ht

theorem mem_opened {c c' : Screen} {l : List Screen} (hc : addr c = s.next) (h : c' ∈ c :: l) :
    c' ∈ l ∨ addr c' = s.next :=
  (List.mem_cons.mp h).symm.imp_right fun heq => (congrArg addr heq).trans hc

theorem Left.requested (h : Left i s₀ s) {a : Attempt} {r : Option Request}
    (hn : s.next ≤ t.next) (hs : t.screens = s.screens) (hp : t.prepared = s.prepared)
    (hd : t.delegate = s.delegate) (hreq : t.requests = Function.update s.requests a r)
    (hr : ∀ r', r = some r' → holder r' ≠ some i) (ht : Untouched i s t) : Left i s₀ t where
  next := Nat.le_trans h.next hn
  unreached := unreached_requested h.unreached hs hp hd hreq hr
  untouched := h.untouched.trans ht

theorem Left.effect (hi : ¬ Reached s₀ i) (hlt : i < s₀.next) (h : Left i s₀ s)
    (he : Effect s₀ act k s t) : Left i s₀ t := by
  have hfresh : ∀ {α : Type} (f : Addr → α) (v : α), Function.update f s.next v i = f i :=
    fun f v => Function.update_of_ne (Nat.ne_of_lt (Nat.lt_of_lt_of_le hlt h.next)) ..
  have hother : ∀ {α : Type} {self : Addr} (_ : Reached s₀ self) (f : Addr → α) (v : α),
      Function.update f self v i = f i := by
    intro α self hself f v
    refine Function.update_of_ne ?_ ..
    rintro rfl
    exact hi hself
  have hcaller : ∀ {call : AuthCall}, Reached s₀ (caller call) →
      ∀ r, some (Request.auth call) = some r → holder r ≠ some i := by
    rintro call hcall r hr hri
    obtain rfl := Option.some.inj hr
    obtain rfl := Option.some.inj hri
    exact hi hcall
  cases he with
  | changed self f hself hf =>
    exact h.same rfl rfl rfl rfl rfl ⟨hother hself.reached .., rfl, rfl, rfl, rfl⟩
  | switched self hself hact =>
    exact h.same rfl rfl rfl rfl rfl ⟨hother hself.reached .., rfl, rfl, rfl, rfl⟩
  | verifyChanged self vc hself =>
    exact h.same rfl rfl rfl rfl rfl ⟨rfl, hother hself.reached .., rfl, rfl, rfl⟩
  | logInChanged self vc hself =>
    exact h.same rfl rfl rfl rfl rfl ⟨rfl, rfl, hother hself.reached .., rfl, rfl⟩
  | resetChanged self vc hself =>
    exact h.same rfl rfl rfl rfl rfl ⟨rfl, rfl, rfl, hother hself.reached .., rfl⟩
  | started r hr =>
    refine h.requested (Nat.le_succ _) rfl rfl rfl rfl (fun r' heq => ?_) ⟨rfl, rfl, rfl, rfl, rfl⟩
    obtain rfl := Option.some.inj heq
    exact fun hri => (hr.reached hri).elim hi (Nat.not_le.mpr hlt)
  | tapped call hc hn =>
    exact h.requested (Nat.le_succ _) rfl rfl rfl rfl (hcaller hc.reached)
      ⟨rfl, rfl, rfl, rfl, rfl⟩
  | answered a r hr hact =>
    exact h.requested (Nat.le_refl _) rfl rfl rfl rfl (fun r' heq => by simp at heq)
      ⟨rfl, rfl, rfl, rfl, rfl⟩
  | awaited a r r' hr hc =>
    refine h.requested (Nat.le_refl _) rfl rfl rfl rfl (fun q heq hq => ?_)
      ⟨rfl, rfl, rfl, rfl, rfl⟩
    obtain rfl := Option.some.inj heq
    exact hi (.holder hr (hc.holder_eq.symm.trans hq))
  | called a r call hr hact hc =>
    exact h.requested (Nat.le_refl _) rfl rfl rfl rfl (hcaller (hc.reached hr))
      ⟨rfl, rfl, rfl, rfl, rfl⟩
  | segue | logged =>
    exact h.opened hlt rfl (fun c hc => Or.inl hc) (fun j hj => (List.mem_cons.mp hj).symm) rfl
      (Or.inl rfl) ⟨rfl, rfl, rfl, rfl, hfresh ..⟩
  | verifyOpened self hself hshown =>
    exact h.opened hlt rfl (fun c hc => mem_opened rfl hc) (fun j hj => Or.inl hj) rfl (Or.inl rfl)
      ⟨rfl, hfresh .., rfl, rfl, rfl⟩
  | resetOpened self hself hshown =>
    exact h.opened hlt rfl (fun c hc => mem_opened rfl hc) (fun j hj => Or.inl hj) rfl (Or.inl rfl)
      ⟨rfl, rfl, rfl, hfresh .., rfl⟩
  | logInOpened a self number vid hr =>
    exact h.opened hlt rfl (fun c hc => mem_opened rfl hc) (fun j hj => Or.inl hj) rfl (Or.inl rfl)
      ⟨rfl, rfl, hfresh .., rfl, rfl⟩
  | mainOpened hact =>
    exact h.opened hlt rfl (fun c hc => mem_opened rfl hc) (fun j hj => Or.inl hj) rfl (Or.inr rfl)
      ⟨hfresh .., rfl, rfl, rfl, rfl⟩
  | launched hact =>
    refine ⟨h.next, ?_, h.untouched.trans ⟨rfl, rfl, rfl, rfl, rfl⟩⟩
    exact unreached_of h.unreached (fun c hc => absurd hc List.not_mem_nil)
      (fun j hj => absurd hj List.not_mem_nil)
      (fun a r ha => by simp [startProcess, App.emit] at ha) (Or.inl rfl)
  | presented self hself hact hmem =>
    refine ⟨h.next, ?_, h.untouched.trans ⟨rfl, rfl, rfl, rfl, hother hself.reached ..⟩⟩
    have hne : self ≠ i := fun heq => hi (heq ▸ hself.reached)
    refine unreached_of h.unreached (fun c hc => ?_) (fun j hj => Or.inl (List.mem_of_mem_erase hj))
      (fun a r ha => Or.inl ha) (Or.inl rfl)
    refine (List.mem_cons.mp hc).symm.imp_right ?_
    rintro rfl
    exact hne
  | _ => exact h.same rfl rfl rfl rfl rfl ⟨rfl, rfl, rfl, rfl, rfl⟩

/-- **One step** leaves a controller that is out of reach as it is, and out of reach. -/
theorem unreached_step (hi : ¬ Reached s i) (hlt : i < s.next) (h : step s act = some t) :
    Left i s t :=
  step_preserves (J := Left i s) ⟨Nat.le_refl _, hi, .refl i s⟩
    (fun _ _ hleft he => hleft.effect hi hlt he) h

theorem unreached_exec {as : List Action} (hi : ¬ Reached s i) (hlt : i < s.next)
    (hrun : exec s as = some t) : Left i s t := by
  refine exec_preserves (I := Left i s) (fun u act v hu huv => ?_)
    ⟨Nat.le_refl _, hi, .refl i s⟩ hrun
  have hstep := unreached_step hu.unreached (Nat.lt_of_lt_of_le hlt hu.next) huv
  exact ⟨Nat.le_trans hu.next hstep.next, hstep.unreached, hu.untouched.trans hstep.untouched⟩

/-! ### The relaunch -/

/-- After a launch there is the new screen, and what it has started. -/
theorem unreached_launch (hlt : i < s.next) : ¬ Reached (launch s) i := by
  have hne : s.next ≠ i := Nat.ne_of_gt hlt
  have hscreens : (launch s).screens = [.main s.next] := by
    unfold launch instantiateViewController initSetup loadFBData
    split_ifs <;> rfl
  have hprepared : (launch s).prepared = [] := by
    unfold launch instantiateViewController initSetup loadFBData
    split_ifs <;> rfl
  have hdelegate : (launch s).delegate = s.next := rfl
  intro h
  cases h with
  | screen c hc hi =>
    rw [hscreens, List.mem_singleton] at hc
    subst hc
    exact hne hi
  | prepared hi =>
    rw [hprepared] at hi
    exact absurd hi List.not_mem_nil
  | request a r hr hi =>
    obtain ⟨-, rfl⟩ := requests_launch hr
    exact hne (Option.some.inj hi)
  | delegate hi => exact hne (hdelegate ▸ hi)

theorem untouched_launch (hlt : i < s.next) : Untouched i s (launch s) := by
  have hne : i ≠ s.next := Nat.ne_of_lt hlt
  unfold launch instantiateViewController initSetup loadFBData
  split_ifs <;> exact ⟨Function.update_of_ne hne .., rfl, rfl, rfl, rfl⟩

/-! ### The attempts of before -/

/-- The event carries the number of attempt `a`: it is one of its own, or of the fetch it has started,
or it is what has become of its write. -/
def carries (a : Attempt) : Event → Bool
  | .fetched parent _ _ => parent = some a
  | .recordWritten b _ => b = a
  | e => owner e = some a

/-- Nothing will come back to attempt `a` or to a fetch of it. -/
structure Over (a : Attempt) (s : App) : Prop where
  started : a < s.next
  request : s.requests a = none
  fetch : ∀ b self, s.requests b ≠ some (.fetchProfile self (some a))

/-- What a step puts on record for an attempt that is over: what has become of its write. -/
theorem not_carries_of_said {e : Event} (ho : Over i s) (h : Said s act e)
    (hact : ∀ outcome, act ≠ .writeFinish i outcome) : carries i e = false := by
  have hne : ∀ {b r}, s.requests b = some r → b ≠ i := by
    rintro b r hr rfl
    exact absurd (ho.request.symm.trans hr) (by simp)
  cases h with
  | spoken e he =>
    cases e with
    | alert cause self alert =>
      rcases cause with _ | b
      · simp [carries, owner]
      · obtain ⟨r, hr, -⟩ := he
        simp [carries, owner, hne hr]
    | authFinished b call answer => simp [carries, owner, hne he]
    | authCompleted b call answer cur => simp [carries, owner, hne he.1]
    | fetched parent self answer =>
      obtain ⟨b, hr⟩ := he
      have hparent : parent ≠ some i := fun heq => ho.fetch b self (heq ▸ hr)
      simpa [carries] using hparent
    | recordRead b self uid snapshot =>
      obtain ⟨⟨user, hr⟩, -⟩ := he
      simp [carries, owner, hne hr]
    | profileFilled b self profile =>
      obtain ⟨user, uid, hr, -⟩ := he
      simp [carries, owner, hne hr]
    | verified b answer =>
      obtain ⟨self, number, hr⟩ := he
      simp [carries, owner, hne hr]
    | performLogin b self =>
      obtain ⟨number, hr⟩ := he
      simp [carries, owner, hne hr]
    | print line | trapped => rfl
    | _ => exact he.elim
  | tapped call hc => simp [carries, owner, Nat.ne_of_gt ho.started]
  | called b r call hr | fbLogInCompleted b self answer hr | googleSignedIn b answer hr
  | performSegue b r flow self handed profile hr | logged b self vid code user hr =>
    simp [carries, owner, hne hr]
  | recordWritten b w outcome hact' hw =>
    have hb : b ≠ i := by
      rintro rfl
      exact hact outcome hact'
    simp [carries, hb]
  | launched | instantiated | signedOut | presented => rfl

theorem Over.asked (ho : Over i s) {a : Attempt} {q : Option Request} (hn : s.next ≤ t.next)
    (hr : t.requests = Function.update s.requests a q) (ha : a ≠ i)
    (hq : ∀ self, q ≠ some (.fetchProfile self (some i))) : Over i t where
  started := Nat.lt_of_lt_of_le ho.started hn
  request := by rw [hr, Function.update_of_ne ha.symm, ho.request]
  fetch b self := by
    rw [hr]
    by_cases hb : b = a
    · rw [hb, Function.update_self]
      exact hq self
    · rw [Function.update_of_ne hb]
      exact ho.fetch b self

theorem Over.effect (h₀ : Over i s₀) (hact : ∀ outcome, act ≠ .writeFinish i outcome)
    (ho : Over i s ∧ s.writes i = s₀.writes i) (he : Effect s₀ act k s t) :
    Over i t ∧ t.writes i = s₀.writes i := by
  obtain ⟨ho, hw⟩ := ho
  have hne : ∀ {b r}, s₀.requests b = some r → b ≠ i := by
    rintro b r hr rfl
    exact absurd (h₀.request.symm.trans hr) (by simp)
  have hsame : s.next ≤ t.next → t.requests = s.requests → t.writes = s.writes →
      Over i t ∧ t.writes i = s₀.writes i := by
    intro hn hr hwrites
    exact ⟨⟨Nat.lt_of_lt_of_le ho.started hn, hr ▸ ho.request, hr ▸ ho.fetch⟩, hwrites ▸ hw⟩
  cases he with
  | started r hr =>
    refine ⟨ho.asked (Nat.le_succ _) rfl (Nat.ne_of_gt ho.started) fun self heq => ?_, hw⟩
    obtain rfl := Option.some.inj heq
    cases hr with
    | fetch _ self result hr => exact hne hr rfl
  | tapped call hc hn =>
    exact ⟨ho.asked (Nat.le_succ _) rfl (Nat.ne_of_gt ho.started) fun self => by simp, hw⟩
  | answered a r hr hact' => exact ⟨ho.asked (Nat.le_refl _) rfl (hne hr) fun self => by simp, hw⟩
  | awaited a r r' hr hc =>
    refine ⟨ho.asked (Nat.le_refl _) rfl (hne hr) fun self heq => ?_, hw⟩
    obtain rfl := Option.some.inj heq
    cases hc
  | called a r call hr hact' hc =>
    exact ⟨ho.asked (Nat.le_refl _) rfl (hne hr) fun self => by simp, hw⟩
  | launched hact' => exact ⟨⟨ho.started, rfl, fun b self => by simp [startProcess, App.emit]⟩, hw⟩
  | recording a self form user hr =>
    exact ⟨⟨ho.started, ho.request, ho.fetch⟩, (Function.update_of_ne (hne hr).symm ..).trans hw⟩
  | written a w outcome hact' hw' =>
    have ha : i ≠ a := by
      rintro rfl
      exact hact outcome hact'
    exact ⟨⟨ho.started, ho.request, ho.fetch⟩, (Function.update_of_ne ha ..).trans hw⟩
  | segue | logged | verifyOpened | resetOpened | logInOpened | mainOpened =>
    exact hsame (Nat.le_succ _) rfl rfl
  | _ => exact hsame (Nat.le_refl _) rfl rfl

/-- What has been put on record with the number of attempt `a`. -/
def marks (a : Attempt) (log : List Event) : List Event := log.filter (carries a)

/-- **One step** after attempt `i` is over leaves its write, or it decides it. -/
theorem over_step (ho : Over i s) (h : step s act = some t) : Over i t ∧
    (t.writes i = s.writes i ∧ marks i t.log = marks i s.log ∨
      ∃ w outcome, s.writes i = some w ∧ act = .writeFinish i outcome ∧ t.writes i = none ∧
        marks i t.log = .recordWritten i outcome :: marks i s.log) := by
  by_cases hact : ∃ outcome, act = .writeFinish i outcome
  · obtain ⟨outcome, rfl⟩ := hact
    cases stepped h with
    | @writeFinish _ _ w hw =>
      refine ⟨⟨ho.started, ho.request, ho.fetch⟩, Or.inr ⟨w, outcome, hw, rfl, ?_, ?_⟩⟩
      · exact Function.update_self ..
      · exact List.filter_cons_of_pos (by simp [carries])
  · have hno : ∀ outcome, act ≠ .writeFinish i outcome := fun outcome heq => hact ⟨outcome, heq⟩
    obtain ⟨hover, hwrite⟩ := step_preserves (J := fun u => Over i u ∧ u.writes i = s.writes i)
      ⟨ho, rfl⟩ (fun _ _ hu he => ho.effect hno hu he) h
    refine ⟨hover, Or.inl ⟨hwrite, ?_⟩⟩
    obtain ⟨new, hl, hsaid⟩ := adds_step h
    have hnew : new.filter (carries i) = [] := by
      refine List.filter_eq_nil_iff.mpr fun e he => ?_
      simp [not_carries_of_said ho (hsaid e he) hno]
    rw [marks, hl, List.filter_append, hnew]
    rfl

theorem over_exec {as : List Action} (ho : Over i s) (hrun : exec s as = some t) : Over i t ∧
    (t.writes i = s.writes i ∧ marks i t.log = marks i s.log ∨
      ∃ w outcome, s.writes i = some w ∧ .writeFinish i outcome ∈ as ∧ t.writes i = none ∧
        marks i t.log = .recordWritten i outcome :: marks i s.log) := by
  induction as generalizing s with
  | nil =>
    obtain rfl := Option.some.inj hrun
    exact ⟨ho, Or.inl ⟨rfl, rfl⟩⟩
  | cons act as ih =>
    obtain ⟨u, hsu, hut⟩ := exec_cons.mp hrun
    obtain ⟨hu, hstep⟩ := over_step ho hsu
    obtain ⟨ht, hrest⟩ := ih hu hut
    refine ⟨ht, ?_⟩
    rcases hstep with ⟨hwrite, hmarks⟩ | ⟨w, outcome, hw, rfl, hnone, hmarks⟩
    · rw [← hwrite, ← hmarks]
      refine hrest.imp_right fun ⟨w, outcome, hw, hmem, hdone⟩ => ?_
      exact ⟨w, outcome, hw, List.mem_cons_of_mem _ hmem, hdone⟩
    · -- the write is decided once
      rcases hrest with ⟨hwrite', hmarks'⟩ | ⟨w', outcome', hw', -⟩
      · exact Or.inr ⟨w, outcome, hw, List.mem_cons_self, hwrite'.trans hnone,
          hmarks'.trans hmarks⟩
      · exact absurd (hnone.symm.trans hw') (by simp)

theorem over_launch (hlt : i < s.next) : Over i (launch s) where
  started := by
    have hlaunch : step s .launch = some (launch s) := rfl
    exact Nat.lt_of_lt_of_le hlt (next_step hlaunch)
  request := requests_launch_of_lt hlt
  fetch b self hr := by
    obtain ⟨-, heq⟩ := requests_launch hr
    exact absurd heq (by simp)

theorem writes_launch (s : App) : (launch s).writes = s.writes := by
  unfold launch instantiateViewController initSetup loadFBData
  split_ifs <;> rfl

/-- **A relaunch leaves the old process behind.** Whatever happens afterwards, no controller of the
process before it is changed, and nothing is heard of its attempts but what becomes of a write that
was pending. -/
theorem relaunch_leaves {as : List Action} (h : step s .launch = some t) (hrun : exec t as = some u)
    (hlt : i < s.next) : Untouched i s u ∧ u.requests i = none ∧
      (u.writes i = s.writes i ∧ marks i u.log = marks i s.log ∨
        ∃ w outcome, s.writes i = some w ∧ .writeFinish i outcome ∈ as ∧ u.writes i = none ∧
          marks i u.log = .recordWritten i outcome :: marks i s.log) := by
  have hnext : i < t.next := Nat.lt_of_lt_of_le hlt (next_step h)
  obtain rfl := Option.some.inj h
  have hleft := unreached_exec (unreached_launch hlt) hnext hrun
  have hmarks : marks i (launch s).log = marks i s.log := by
    rw [log_launch]
    rfl
  obtain ⟨hover, hrest⟩ := over_exec (over_launch hlt) hrun
  rw [writes_launch, hmarks] at hrest
  exact ⟨(untouched_launch hlt).trans hleft.untouched, hover.request, hrest⟩

/-- The app is killed while a record is being written; in the new process the write is applied. -/
theorem killedRegistration_left : ∃ s t u, exec Device.empty.installed registration = some s ∧
    step s .launch = some t ∧ exec t [.fbButton 2, .writeFinish 1 .applied] = some u ∧
    Untouched 1 s u ∧ u.requests 1 = none ∧
      (u.writes 1 = s.writes 1 ∧ marks 1 u.log = marks 1 s.log ∨
        ∃ w outcome, s.writes 1 = some w ∧
          .writeFinish 1 outcome ∈ [Action.fbButton 2, .writeFinish 1 .applied] ∧
          u.writes 1 = none ∧ marks 1 u.log = .recordWritten 1 outcome :: marks 1 s.log) := by
  have hrun : ((exec Device.empty.installed registration).bind fun s =>
      (step s .launch).bind fun t => (exec t [.fbButton 2, .writeFinish 1 .applied]).map
        fun _ => s.next) = some 2 := by decide
  obtain ⟨s, hs, hst⟩ := Option.bind_eq_some_iff.mp hrun
  obtain ⟨t, ht, htu⟩ := Option.bind_eq_some_iff.mp hst
  obtain ⟨u, hu, hnext⟩ := Option.map_eq_some_iff.mp htu
  exact ⟨s, t, u, hs, ht, hu, relaunch_leaves ht hu (hnext ▸ Nat.one_lt_two)⟩

end Reached

end AccountApp.Laws.Isolation
