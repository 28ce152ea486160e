import AccountApp.Dialog.Effects
import AccountApp.Lib.History

/-! # Every handler is called once at most

A login that has been started since the launch has been called back, and not twice, or its handler
waits in a manager that is kept, or it is lost: it is not called in any further run (`handled_once`).

What may still come back to a manager can be traced: to the URL the bridge waits for, or to a block
that is kept. A manager nothing comes back to is left alone for good (`never_called`). That is what
happens to a login in the browser as soon as the browser is open, for its manager is freed, and to
one in a session when another login is started and the session is given up. -/

namespace AccountApp.Dialog.Handlers

open Relation
open AccountApp.Lib AccountApp.Lib.Machine AccountApp.Lib.History
open AccountApp.Model.State (Attempt)
open AccountApp.Dialog.LoginManager AccountApp.Dialog.Step AccountApp.Dialog.Effects

/-! ### The calls -/

/-- The handler of attempt `a` is called. -/
def isHandled (a : Attempt) : Event → Bool
  | .handled b _ => b == a
  | _ => false

def calls (a : Attempt) (log : List Event) : ℕ := log.countP (isHandled a)

/-- 1 if the handler of attempt `a` waits. -/
def waiting (a : Attempt) (f : Facebook) : ℕ :=
  if (f.managers (.login a)).handler = none then 0 else 1

def relaunched : Event → Bool
  | .launched => true
  | _ => false

def startedBy : Event → Option Attempt
  | .started a _ => some a
  | _ => none

/-- The logins started since the launch. -/
def logins (log : List Event) : List Attempt := since relaunched startedBy log

/-- The event says nothing about handlers. -/
def quiet : Event → Bool
  | .launched | .started .. | .handled .. => false
  | _ => true

/-- The state of the handlers: a login has the handler of its own attempt, which waits or has been
called, and not twice. -/
structure Handled (f : Facebook) : Prop where
  own : ∀ a b, (f.managers (.login a)).handler = some b → b = a
  launch : (f.managers .launch).handler = none
  fresh : ∀ a, f.fresh ≤ a →
    (f.managers (.login a)).handler = none ∧ calls a f.log = 0 ∧ a ∉ logins f.log
  le : ∀ a, calls a f.log + waiting a f ≤ 1

section Handled
variable {f₀ f g : Facebook} {act : Action} {e : Event} {log : List Event}

theorem calls_other {a : Attempt} (he : isHandled a e = false) :
    calls a (e :: log) = calls a log := List.countP_cons_of_neg (by simp [he])

theorem calls_quiet (he : quiet e = true) (a : Attempt) : calls a (e :: log) = calls a log := by
  cases e with
  | launched | started | handled => exact absurd he Bool.false_ne_true
  | _ => exact calls_other rfl

theorem logins_quiet (he : quiet e = true) : logins (e :: log) = logins log := by
  cases e with
  | launched | started | handled => exact absurd he Bool.false_ne_true
  | _ => exact since_none rfl rfl

theorem calls_handled (a b : Attempt) (reply : Reply) :
    calls a (.handled b reply :: log) = calls a log + if b = a then 1 else 0 := by
  simp [calls, List.countP_cons, isHandled]

theorem logins_handled (b : Attempt) (reply : Reply) :
    logins (.handled b reply :: log) = logins log := since_none rfl rfl

theorem Handled.same (h : Handled f) (hfresh : g.fresh = f.fresh)
    (hhandler : ∀ m, (g.managers m).handler = (f.managers m).handler)
    (hcalls : ∀ a, calls a g.log = calls a f.log) (hlogins : logins g.log = logins f.log) :
    Handled g where
  own a b hb := h.own a b ((hhandler _).symm.trans hb)
  launch := (hhandler _).trans h.launch
  fresh a ha := by
    rw [hcalls, hlogins, hhandler]
    exact h.fresh a (hfresh ▸ ha)
  le a := by
    rw [hcalls, waiting, hhandler]
    exact h.le a

theorem Handled.login (h : Handled f) {m : Ref} {b : Attempt}
    (hm : (f.managers m).handler = some b) : m = .login b := by
  cases m with
  | login a => rw [h.own a b hm]
  | launch => exact absurd (h.launch.symm.trans hm) (by simp)

theorem Handled.lt (h : Handled f) {m : Ref} {b : Attempt}
    (hm : (f.managers m).handler = some b) : b < f.fresh := by
  obtain rfl := h.login hm
  by_contra hb
  obtain ⟨hnone, -, -⟩ := h.fresh b (Nat.le_of_not_lt hb)
  rw [hnone] at hm
  simp at hm

theorem Handled.lt_of_mem (h : Handled f) {a : Attempt} (ha : a ∈ logins f.log) :
    a < f.fresh := by
  by_contra hle
  exact (h.fresh a (Nat.le_of_not_lt hle)).2.2 ha

theorem Handled.sum_invoked (h : Handled f) (m : Ref) (reply : Reply) (a : Attempt) :
    calls a (invokeHandler m reply f).log + waiting a (invokeHandler m reply f) =
      calls a f.log + waiting a f := by
  rcases hm : (f.managers m).handler with _ | b
  · rw [log_unhandled hm, waiting, handler_unhandled hm, waiting]
  · obtain rfl := h.login hm
    rw [log_invokeHandler hm, calls_handled, waiting, handler_invokeHandler, waiting]
    by_cases hab : a = b
    · subst hab
      simp [hm]
    · have hne : (Ref.login a) ≠ .login b := fun heq => hab (Ref.login.inj heq)
      simp [hne, Ne.symm hab]

theorem Handled.invoked (h : Handled f) (m : Ref) (reply : Reply) :
    Handled (invokeHandler m reply f) := by
  refine ⟨fun a c hc => ?_, ?_, fun a ha => ?_, fun a => (h.sum_invoked m reply a).trans_le (h.le a)⟩
  · rw [handler_invokeHandler] at hc
    split_ifs at hc
    exact h.own a c hc
  · rw [handler_invokeHandler]
    split_ifs
    · rfl
    · exact h.launch
  · have hfresh : (invokeHandler m reply f).fresh = f.fresh := by rw [invokeHandler_eq]
    rw [hfresh] at ha
    obtain ⟨hnone, hno, hnot⟩ := h.fresh a ha
    rw [handler_invokeHandler, hnone, ite_self]
    rcases hm : (f.managers m).handler with _ | b
    · rw [log_unhandled hm]
      exact ⟨rfl, hno, hnot⟩
    · have hba : b ≠ a := Nat.ne_of_lt (Nat.lt_of_lt_of_le (h.lt hm) ha)
      rw [log_invokeHandler hm, calls_handled, logins_handled, if_neg hba]
      exact ⟨rfl, hno, hnot⟩

theorem Handled.emit (h : Handled f) (he : quiet e = true) (hfresh : g.fresh = f.fresh)
    (hmanagers : g.managers = f.managers) (hlog : g.log = e :: f.log) : Handled g :=
  h.same hfresh (fun m => by rw [hmanagers]) (fun a => by rw [hlog, calls_quiet he])
    (by rw [hlog, logins_quiet he])

theorem Handled.effect (h : Handled f) (he : Effect f₀ act f g) : Handled g := by
  cases he with
  | changed m k hm hk =>
    exact h.same rfl (handler_modify fun manager => (hk manager).1) (fun _ => rfl) rfl
  | refused m reply hm hreply => exact h.invoked m reply
  | granted m token granted declined hm hs =>
    have hcached : Handled (cacheToken m token f) := h.emit rfl rfl rfl rfl
    exact hcached.invoked m _
  | consumed m parameters hm => exact h.emit rfl rfl rfl rfl
  | dropped => exact h.emit rfl rfl rfl rfl
  | refreshed currentToken tokenString permissions hcurrent => exact h.emit rfl rfl rfl rfl
  | _ => exact h.same rfl (fun _ => rfl) (fun _ => rfl) rfl

theorem Handled.of_restarted (h : Handled f) : Handled (restarted f) := by
  have hcalls : ∀ a, calls a (restarted f).log = calls a f.log := fun a => calls_other rfl
  refine ⟨fun a b hb => ?_, rfl, fun a ha => ⟨rfl, ?_, ?_⟩, fun a => ?_⟩
  · exact absurd (hb : none = some b) (Option.some_ne_none b).symm
  · exact (hcalls a).trans (h.fresh a ha).2.1
  · rw [show logins (restarted f).log = [] from since_reset rfl]
    exact List.not_mem_nil
  · rw [hcalls]
    exact Nat.le_trans (Nat.le_add_right _ _) (h.le a)

theorem logins_begun (a : Attempt) (permissions : Finset String) (random : Challenge) :
    logins (begun a permissions random f).log = a :: logins f.log := since_some rfl rfl

theorem Handled.sum_begun (h : Handled f) {a : Attempt} (ha : f.fresh ≤ a)
    (permissions : Finset String) (random : Challenge) (b : Attempt) :
    calls b (begun a permissions random f).log + waiting b (begun a permissions random f) =
      if b = a then 1 else calls b f.log + waiting b f := by
  have hcalls : calls b (begun a permissions random f).log = calls b f.log := calls_other rfl
  rw [hcalls]
  split_ifs with hba
  · have hself : ((begun a permissions random f).managers (.login a)).handler = some a := by
      simp [begun, Facebook.emit]
    rw [hba, (h.fresh a ha).2.1, waiting, hself]
    rfl
  · have hother : (begun a permissions random f).managers (.login b) = f.managers (.login b) :=
      Function.update_of_ne (by simpa using hba) ..
    rw [waiting, waiting, hother]

theorem Handled.of_begun (h : Handled f) {a : Attempt} (ha : f.fresh ≤ a)
    (permissions : Finset String) (random : Challenge) : Handled (begun a permissions random f) := by
  have hother : ∀ m, m ≠ .login a →
      (begun a permissions random f).managers m = f.managers m := fun m hm =>
    Function.update_of_ne hm ..
  refine ⟨fun b c hc => ?_, ?_, fun b hb => ?_, fun b => ?_⟩
  · by_cases hba : b = a
    · subst hba
      simpa [begun, Facebook.emit, eq_comm] using hc
    · rw [hother (.login b) (by simpa using hba)] at hc
      exact h.own b c hc
  · rw [hother .launch (by simp)]
    exact h.launch
  · have hlt : a < b := hb
    have hba : b ≠ a := Nat.ne_of_gt hlt
    have hcalls : calls b (begun a permissions random f).log = calls b f.log := calls_other rfl
    rw [hother (.login b) (by simpa using hba), hcalls, logins_begun, List.mem_cons]
    obtain ⟨hnone', hno', hnot'⟩ := h.fresh b (Nat.le_trans ha (Nat.le_of_lt hlt))
    exact ⟨hnone', hno', fun hmem => hmem.elim hba hnot'⟩
  · rw [h.sum_begun ha]
    split_ifs
    · exact Nat.le_refl 1
    · exact h.le b

theorem Handled.begins (h : Handled f) (hb : Begins f act f₀) : Handled f₀ := by
  cases hb with
  | same => exact h
  | restarted url => exact h.of_restarted
  | begun a permissions random shown ha => exact h.of_begun ha permissions random

theorem handler_release (m : Ref) : (f.release.managers m).handler =
    if f.Retained m then (f.managers m).handler else none := by
  unfold Facebook.release
  split_ifs with hm
  · exact congrArg _ (if_pos hm)
  · exact congrArg _ (if_neg hm)

theorem Handled.released (h : Handled f) : Handled f.release where
  own a b hb := by
    rw [handler_release] at hb
    split_ifs at hb
    exact h.own a b hb
  launch := by
    rw [handler_release, h.launch, ite_self]
  fresh a ha := by
    obtain ⟨hnone, hrest⟩ := h.fresh a ha
    rw [handler_release, hnone, ite_self]
    exact ⟨rfl, hrest⟩
  le a := by
    refine Nat.le_trans (Nat.add_le_add_left ?_ _) (h.le a)
    rw [waiting, handler_release, waiting]
    split_ifs <;> simp_all

theorem handled (h : Reachable f) : Handled f := by
  refine h.invariant ?_ fun u act v hu hhandled huv => ?_
  · rintro u ⟨appID, token, challenge, rfl⟩
    exact ⟨fun a b hb => absurd hb (by simp [installed]), rfl,
      fun a _ => ⟨rfl, rfl, List.not_mem_nil⟩, fun a => Nat.zero_le 1⟩
  · obtain ⟨f₀, -, hv⟩ := step_preserves (J := fun _ g => Handled g) (numbered hu)
      (fun f₀ hb => hhandled.begins hb) (fun f₀ f' g' _ hf' he => hf'.effect he)
      (fun _ _ hf' => hf'.released) huv
    exact hv

end Handled

/-! ### Logins nothing comes back to -/

section Stuck
variable {f₀ f g : Facebook} {act : Action} {a b : Attempt} {n : ℕ} {as : List Action}

/-- Nothing comes back to the login of attempt `a`, whose handler has been called `n` times. -/
structure Stuck (a : Attempt) (n : ℕ) (f : Facebook) : Prop where
  fresh : a < f.fresh
  waits : ¬ Waits f (.login a)
  calls_eq : calls a f.log = n
  handled : Handled f

theorem not_concerned (ha : a < f.fresh) (hw : ¬ Waits f (.login a)) (hb : Begins f act f₀) :
    ¬ Concerned f₀ act (.login a) := by
  intro hm
  cases hb with
  | same _ hact =>
    cases hm with
    | waits hwaits => exact hw hwaits
    | started _ permissions random shown hact' _ =>
      subst hact'
      exact absurd hact (by simp [initiates])
  | begun b permissions random shown hb =>
    cases hm with
    | waits hwaits => exact hw (waits_of_eq hwaits rfl rfl)
    | started _ permissions' random' shown' hact _ =>
      obtain ⟨rfl, -⟩ := Action.logIn.inj hact
      exact Nat.not_le_of_lt ha hb
  | restarted url =>
    cases hm with
    | started _ permissions random shown hact _ => exact absurd hact (by simp)
    | waits hwaits =>
      cases hwaits with
      | url h => exact absurd (h : none = some _) (Option.some_ne_none _).symm
      | block p r hr hm => exact absurd (hr : none = some _) (Option.some_ne_none _).symm

theorem Stuck.begins (h : Stuck a n f) (hb : Begins f act f₀) : Stuck a n f₀ := by
  have hw : ¬ Waits f₀ (.login a) := fun hw =>
    not_concerned h.fresh h.waits hb (.waits hw)
  have hhandled := h.handled.begins hb
  cases hb with
  | same => exact h
  | restarted url => exact ⟨h.fresh, hw, (calls_other rfl).trans h.calls_eq, hhandled⟩
  | begun b permissions random shown hb =>
    have hlt : a < b := Nat.lt_of_lt_of_le h.fresh hb
    exact ⟨Nat.lt_succ_of_lt hlt, hw, (calls_other rfl).trans h.calls_eq, hhandled⟩

theorem Stuck.effect (hm : ¬ Concerned f₀ act (.login a)) (h : Stuck a n f)
    (he : Effect f₀ act f g) : Stuck a n g where
  fresh := he.fresh.symm ▸ h.fresh
  waits hw := (he.waits hw).elim h.waits hm
  handled := h.handled.effect he
  calls_eq := by
    refine Eq.trans ?_ h.calls_eq
    -- the handler that is called is that of another login
    have hinvoked : ∀ {m : Ref} {reply : Reply} {f' : Facebook}, Handled f' → Concerned f₀ act m →
        calls a (invokeHandler m reply f').log = calls a f'.log := by
      intro m reply f' hf' hconcerned
      rcases hb : (f'.managers m).handler with _ | b
      · rw [log_unhandled hb]
      · have hne : b ≠ a := by
          rintro rfl
          exact hm (hf'.login hb ▸ hconcerned)
        rw [log_invokeHandler hb, calls_handled, if_neg hne, Nat.add_zero]
    cases he with
    | refused m reply hconcerned hreply => exact hinvoked h.handled hconcerned
    | granted m token granted declined hconcerned hs =>
      have hcached : Handled (cacheToken m token f) := h.handled.emit rfl rfl rfl rfl
      exact (hinvoked hcached hconcerned).trans (calls_quiet rfl a)
    | consumed | dropped | refreshed => exact calls_quiet rfl a
    | _ => rfl

theorem Stuck.step (h : Stuck a n f) (hf : Numbered f) (hst : step f act = some g) :
    Stuck a n g := by
  obtain ⟨f₀, -, hg⟩ := step_preserves (J := fun _ u => Stuck a n u) hf (fun _ hb => h.begins hb)
    (fun _ _ _ hb hu he => hu.effect (not_concerned h.fresh h.waits hb) he)
    (fun _ _ hu => ⟨hu.fresh, fun hw => hu.waits (waits_of_release hw), hu.calls_eq,
      hu.handled.released⟩) hst
  exact hg

theorem never_called (hf : Reachable f) (ha : a < f.fresh) (hw : ¬ Waits f (.login a))
    (hrun : exec f as = some g) : calls a g.log = calls a f.log := by
  have hstuck : Reachable g ∧ Stuck a (calls a f.log) g := by
    refine exec_preserves (I := fun u => Reachable u ∧ Stuck a (calls a f.log) u) ?_
      ⟨hf, ha, hw, rfl, handled hf⟩ hrun
    rintro u act v ⟨hu, hstuck⟩ huv
    exact ⟨hu.next huv, hstuck.step (numbered hu) huv⟩
  exact hstuck.2.calls_eq

/-- The bridge waits for the URL of the login that is started, and for no other. -/
theorem waits_of_logIn {permissions : Finset String} {random : Challenge} {shown : Browser}
    (hf : Numbered f) (ha : a < f.fresh) (hshown : ∀ error, shown ≠ .unavailable error)
    (hst : Step.step f (.logIn b permissions random shown) = some g) (hw : Waits g (.login a)) :
    ∃ p r, f.pending p = some r ∧ managerOf r = some (.login a) := by
  obtain ⟨g', hg', rfl⟩ := Option.map_eq_some_iff.mp hst
  simp only [perform] at hg'
  split_ifs at hg' with hb
  obtain rfl := Option.some.inj hg'
  rw [logIn_eq (hf.manager b hb)] at hw
  have hne : (Ref.login b) ≠ .login a := by
    rintro heq
    exact Nat.not_le_of_lt ha (Ref.login.inj heq ▸ hb)
  -- a block is kept for the login `b`, and the others are those of before
  have hblock : ∀ {r₀ : Pending} {p : ℕ} {r : Pending}, managerOf r₀ = some (.login b) →
      Function.update f.pending f.next (some r₀) p = some r → managerOf r = some (.login a) →
      f.pending p = some r := by
    intro r₀ p r hr₀ hr hm
    by_cases hpn : p = f.next
    · rw [hpn, Function.update_self] at hr
      obtain rfl := Option.some.inj hr
      exact absurd (Option.some.inj (hr₀.symm.trans hm)) hne
    · rwa [Function.update_of_ne hpn] at hr
  cases shown with
  | unavailable error => exact absurd rfl (hshown error)
  | session | browser =>
    cases waits_of_release hw with
    | url h => exact absurd (Option.some.inj h) hne
    | block p r hr hm => exact ⟨p, r, hblock rfl hr hm, hm⟩

theorem calls_logIn {permissions : Finset String} {random : Challenge} {shown : Browser}
    (hf : Numbered f) (hshown : ∀ error, shown ≠ .unavailable error)
    (hst : Step.step f (.logIn b permissions random shown) = some g) :
    calls a g.log = calls a f.log := by
  obtain ⟨g', hg', rfl⟩ := Option.map_eq_some_iff.mp hst
  simp only [perform] at hg'
  split_ifs at hg' with hb
  obtain rfl := Option.some.inj hg'
  rw [logIn_eq (hf.manager b hb)]
  cases shown with
  | unavailable error => exact absurd rfl (hshown error)
  | session | browser => exact calls_other rfl

/-- **A login is given up when another one is started**: if nothing but its URL was to come back,
its handler is not called any more. -/
theorem superseded {h : Facebook} {permissions : Finset String} {random : Challenge}
    {shown : Browser} (hf : Reachable f) (ha : a < f.fresh)
    (hshown : ∀ error, shown ≠ .unavailable error)
    (hp : ∀ p r, f.pending p = some r → managerOf r ≠ some (.login a))
    (hst : Step.step f (.logIn b permissions random shown) = some g)
    (hrun : Step.exec g as = some h) : calls a h.log = calls a f.log := by
  have hw : ¬ Waits g (.login a) := by
    intro hw
    obtain ⟨p, r, hr, hm⟩ := waits_of_logIn (numbered hf) ha hshown hst hw
    exact hp p r hr hm
  have hfresh : a < g.fresh := by
    obtain ⟨f₀, hb, hg⟩ := step_preserves (J := fun f₀ g => g.fresh = f₀.fresh) (numbered hf)
      (fun _ _ => rfl) (fun _ _ _ _ hg he => he.fresh.trans hg) (fun _ _ hg => hg) hst
    rw [hg]
    cases hb with
    | same => exact ha
    | begun b permissions random shown hb => exact Nat.lt_succ_of_lt (Nat.lt_of_lt_of_le ha hb)
  exact (never_called (hf.next hst) hfresh hw hrun).trans (calls_logIn (numbered hf) hshown hst)

end Stuck

/-! ### What becomes of a login -/

section Fate
variable {f₀ f g : Facebook} {act : Action} {a : Attempt}

/-- A login that has been started since the launch has been called back or waits, or nothing comes
back to it. -/
def Accounted (f : Facebook) : Prop :=
  ∀ a ∈ logins f.log, calls a f.log + waiting a f = 1 ∨ ¬ Waits f (.login a)

theorem logins_effect (he : Effect f₀ act f g) : logins g.log = logins f.log := by
  have hinvoked : ∀ m reply, logins (invokeHandler m reply f).log = logins f.log := by
    intro m reply
    rcases hb : (f.managers m).handler with _ | b
    · rw [log_unhandled hb]
    · rw [log_invokeHandler hb, logins_handled]
  cases he with
  | refused m reply hm hreply => exact hinvoked m reply
  | granted m token granted declined hm hs =>
    rcases hb : ((cacheToken m token f).managers m).handler with _ | b
    · rw [log_unhandled hb]
      exact logins_quiet rfl
    · rw [log_invokeHandler hb, logins_handled]
      exact logins_quiet rfl
  | consumed | dropped | refreshed => exact logins_quiet rfl
  | _ => rfl

theorem Handled.sum_effect (h : Handled f) (he : Effect f₀ act f g) (a : Attempt) :
    calls a g.log + waiting a g = calls a f.log + waiting a f := by
  cases he with
  | changed m k hm hk =>
    rw [waiting, handler_modify fun manager => (hk manager).1]
    rfl
  | refused m reply hm hreply => exact h.sum_invoked m reply a
  | granted m token granted declined hm hs =>
    have hcached : Handled (cacheToken m token f) := h.emit rfl rfl rfl rfl
    exact (hcached.sum_invoked m _ a).trans (congrArg (· + _) (calls_quiet rfl a))
  | consumed | dropped | refreshed => exact congrArg (· + _) (calls_quiet rfl a)
  | _ => rfl

theorem sum_begins (hhandled : Handled f) (hb : Begins f act f₀) (ha : a ∈ logins f₀.log) :
    calls a f₀.log + waiting a f₀ = 1 ∨
      a ∈ logins f.log ∧ calls a f₀.log + waiting a f₀ = calls a f.log + waiting a f := by
  cases hb with
  | same => exact Or.inr ⟨ha, rfl⟩
  | restarted url =>
    rw [show logins (restarted f).log = [] from since_reset rfl] at ha
    exact absurd ha List.not_mem_nil
  | begun b permissions random shown hb =>
    rw [hhandled.sum_begun hb]
    split_ifs with hab
    · exact Or.inl rfl
    · rw [logins_begun, List.mem_cons] at ha
      exact Or.inr ⟨ha.resolve_left hab, rfl⟩

theorem Accounted.step (h : Accounted f) (hf : Numbered f) (hhandled : Handled f)
    (hst : step f act = some g) : Accounted g := by
  obtain ⟨f₀, g', hb, hruns, rfl⟩ := runs_step hf hst
  have hg' : Handled g' ∧ logins g'.log = logins f₀.log ∧
      (∀ a, calls a g'.log + waiting a g' = calls a f₀.log + waiting a f₀) ∧
      ∀ a, ¬ Concerned f₀ act (.login a) → ¬ Waits g' (.login a) := by
    refine runs_preserve (J := fun u => Handled u ∧ logins u.log = logins f₀.log ∧
      (∀ a, calls a u.log + waiting a u = calls a f₀.log + waiting a f₀) ∧
      ∀ a, ¬ Concerned f₀ act (.login a) → ¬ Waits u (.login a))
      ⟨hhandled.begins hb, rfl, fun _ => rfl, fun a hm hw => hm (.waits hw)⟩ ?_ hruns
    rintro u v ⟨hu, hlogins, hsum, hwaits⟩ he
    exact ⟨hu.effect he, (logins_effect he).trans hlogins,
      fun a => (hu.sum_effect he a).trans (hsum a),
      fun a hm hw => (he.waits hw).elim (hwaits a hm) hm⟩
  obtain ⟨-, hlogins, hsum, hwaits⟩ := hg'
  have htidy : Tidy g'.release := tidy_release ((hf.begins hb).runs hruns)
  intro a ha
  by_cases hretained : g'.Retained (.login a)
  · -- its manager is kept, so its handler is as it was
    have hkept : calls a g'.release.log + waiting a g'.release = calls a f₀.log + waiting a f₀ := by
      rw [waiting, handler_release, if_pos hretained]
      exact hsum a
    rcases sum_begins hhandled hb (hlogins ▸ ha) with hone | ⟨hold, heq⟩
    · exact Or.inl (hkept.trans hone)
    · refine (h a hold).imp (fun hone => hkept.trans (heq.trans hone)) fun hw hw' => ?_
      exact hwaits a (not_concerned (hhandled.lt_of_mem hold) hw hb) (waits_of_release hw')
  · exact Or.inr (htidy.waits _ hretained)

theorem accounted (h : Reachable f) : Accounted f := by
  refine h.invariant ?_ fun u act v hu haccounted huv =>
    haccounted.step (numbered hu) (handled hu) huv
  rintro u ⟨appID, token, challenge, rfl⟩
  exact fun a ha => absurd ha List.not_mem_nil

theorem logins_runs (h : Runs f₀ act f g) : logins g.log = logins f.log :=
  runs_preserve (J := fun u => logins u.log = logins f.log) rfl
    (fun _ _ hu he => (logins_effect he).trans hu) h

theorem mem_logins_step (hf : Numbered f) (hst : step f act = some g)
    (hact : ∀ url, act ≠ .launch url) (ha : a ∈ logins f.log) : a ∈ logins g.log := by
  obtain ⟨f₀, g', hb, hruns, rfl⟩ := runs_step hf hst
  have hg' : logins g'.log = logins f₀.log := logins_runs hruns
  show a ∈ logins g'.log
  rw [hg']
  cases hb with
  | same => exact ha
  | begun b permissions random shown hb =>
    rw [logins_begun]
    exact List.mem_cons_of_mem _ ha
  | restarted url => exact absurd rfl (hact url)

theorem mem_logins_logIn {permissions : Finset String} {random : Challenge} {shown : Browser}
    (hf : Numbered f) (hst : step f (.logIn a permissions random shown) = some g) :
    a ∈ logins g.log := by
  obtain ⟨f₀, g', hb, hruns, rfl⟩ := runs_step hf hst
  show a ∈ logins g'.log
  rw [logins_runs hruns]
  cases hb with
  | same _ hact => exact absurd hact (by simp [initiates])
  | begun => exact List.mem_cons_self

theorem mem_logins_exec {as : List Action} (hf : Reachable f) (hrun : exec f as = some g)
    (has : ∀ act ∈ as, ∀ url, act ≠ .launch url) (ha : a ∈ logins f.log) : a ∈ logins g.log := by
  have hall : Reachable g ∧ a ∈ logins g.log := by
    refine exec_preserves_of (I := fun u => Reachable u ∧ a ∈ logins u.log) ?_ ⟨hf, ha⟩ has hrun
    rintro u act v ⟨hu, hmem⟩ hact huv
    exact ⟨hu.next huv, mem_logins_step (numbered hu) huv hact hmem⟩
  exact hall.2

theorem calls_le_one (h : Reachable f) (a : Attempt) : calls a f.log ≤ 1 :=
  Nat.le_trans (Nat.le_add_right _ _) ((handled h).le a)

theorem fate_of_login (h : Reachable f) (ha : a ∈ logins f.log) : calls a f.log = 1 ∨
    ((f.managers (.login a)).handler = some a ∧ f.Retained (.login a)) ∨
    ∀ as g, exec f as = some g → calls a g.log = 0 := by
  have hhandled := handled h
  have hle := calls_le_one h a
  rcases hhandler : (f.managers (.login a)).handler with _ | b
  · by_cases hcalls : calls a f.log = 1
    · exact Or.inl hcalls
    · have hzero : calls a f.log = 0 := by omega
      have hw : ¬ Waits f (.login a) := by
        refine (accounted h a ha).resolve_left ?_
        rw [hzero, waiting, hhandler]
        simp
      exact Or.inr (Or.inr fun as g hrun =>
        (never_called h (hhandled.lt_of_mem ha) hw hrun).trans hzero)
  · obtain rfl := hhandled.own a b hhandler
    refine Or.inr (Or.inl ⟨rfl, ?_⟩)
    by_contra hretained
    rw [(tidy h).manager _ hretained] at hhandler
    exact absurd hhandler (by simp)

/-- **The handler of a login is called once at most**, and of a login that has been started since the
launch it has been called, or it waits in a manager that is kept, or it is never called. -/
theorem handled_once (h : Reachable f) (a : Attempt) : calls a f.log ≤ 1 ∧
    (a ∈ logins f.log → calls a f.log = 1 ∨
      ((f.managers (.login a)).handler = some a ∧ f.Retained (.login a)) ∨
      ∀ as g, exec f as = some g → calls a g.log = 0) :=
  ⟨calls_le_one h a, fate_of_login h⟩

/-- The URL Facebook opens the app with after a login. -/
def answerURL : NSURL := ⟨"fb1", "authorize", [("access_token", "T")], some ['r', '='], none⟩

/-- A login in a session. -/
def sessionLogin : List Action :=
  [.logIn 0 {"public_profile"} ['r', '+'] .session, .sessionFinish 0 (.ok answerURL),
    .requestMeFinish 1 (.ok (some "7")) (.ok [("public_profile", "granted")])]

theorem sessionLogin_once : ∃ f, exec (installed "1" none none) sessionLogin = some f ∧
    calls 0 f.log ≤ 1 ∧ (0 ∈ logins f.log → calls 0 f.log = 1 ∨
      ((f.managers (.login 0)).handler = some 0 ∧ f.Retained (.login 0)) ∨
      ∀ as g, exec f as = some g → calls 0 g.log = 0) := by
  have hrun : (exec (installed "1" none none) sessionLogin).isSome = true := by decide
  obtain ⟨f, hf⟩ := Option.isSome_iff_exists.mp hrun
  exact ⟨f, hf, handled_once (reachable_of_exec hf) 0⟩

/-- In the browser the handler is lost as soon as the browser is open. -/
example : (exec (installed "1" none none)
    [.logIn 0 {"public_profile"} ['r', '+'] .browser, .openFinish 0 true]).map
    (fun f => (logins f.log, (f.managers (.login 0)).handler, f.pendingURLOpen)) =
    some ([0], none, none) := by decide

end Fate
end AccountApp.Dialog.Handlers
