import Mathlib.Data.List.Basic
import AccountApp.Books.Refine

/-! # The verification ID

The screen for the number and the screen for the code share one slot of `UserDefaults`. The screen
for the code comes up only after a success has filled the slot, so it is never empty at a tap on Log
In. Every success overwrites it: what it holds is the ID of the request that has succeeded last in
this launch (`loginButton_authVID`), whatever the order in which the numbers were confirmed. The
requests are numbered at "Yes", in the order of the confirmations (`lt_of_confirmed`). -/

namespace AccountApp.Laws.Phone

open AccountApp.Lib AccountApp.Lib.History
open AccountApp.Model.Data AccountApp.Model.Screens AccountApp.Model.State
open AccountApp.Model.Handlers AccountApp.Model.Step
open AccountApp.Attempt.Life AccountApp.Attempt.Refine
open AccountApp.Books.Keeping AccountApp.Books.Refine

/-- The app is launched. -/
def launching : Event → Bool
  | .launched => true
  | _ => false

/-- The request that succeeds, with the ID it returns. -/
def success : Event → Option (Attempt × String)
  | .verified a (.ok verificationID) => some (a, verificationID)
  | _ => none

/-- The requests that have succeeded in this launch, the last one first. -/
def successes (log : List Event) : List (Attempt × String) := since launching success log

/-- The requests of this launch have succeeded in the order in which their numbers were
confirmed. -/
def InOrder (log : List Event) : Prop := (successes log).Pairwise fun p q => q.1 < p.1

/-- The slot, by the history: a screen for the code comes after a success, and the slot holds what
the last success has returned. -/
structure Slot (d : Ledger) : Prop where
  succeeded : d.logIns ≠ [] → successes d.log ≠ []
  slot : ∀ p older, successes d.log = p :: older → d.authVID = some p.2

section Slot
variable {d d' : Ledger}

theorem Slot.other (h : Slot d) {l : List Event} (hl : d'.logIns = d.logIns)
    (hv : d'.authVID = d.authVID)
    (hnew : ∀ e ∈ l, launching e = false ∧ success e = none) (hlog : d'.log = l ++ d.log) :
    Slot d' := by
  have hs : successes d'.log = successes d.log := by
    rw [hlog]
    clear hlog
    induction l with
    | nil => rfl
    | cons e l ih =>
      obtain ⟨⟨hlaunch, hno⟩, hrest⟩ := List.forall_mem_cons.mp hnew
      exact (since_none hlaunch hno).trans (ih hrest)
  refine ⟨?_, ?_⟩
  · rw [hl, hs]
    exact h.succeeded
  · rw [hv, hs]
    exact h.slot

theorem quiet_of_plain {e : Event} (he : plain e = true) :
    launching e = false ∧ success e = none := by
  cases e with
  | launched => exact absurd he Bool.false_ne_true
  | verified a answer =>
    cases answer with
    | ok verificationID => exact absurd he Bool.false_ne_true
    | error e => exact ⟨rfl, rfl⟩
  | _ => exact ⟨rfl, rfl⟩

theorem Slot.entry (h : Slot d) (he : Entry d d') : Slot d' := by
  cases he with
  | noted e he => exact h.other (l := [e]) rfl rfl (by simpa using quiet_of_plain he) rfl
  | launched => exact ⟨fun hne => absurd rfl hne, fun p older hs => absurd hs (by simp [Ledger.note,
      successes, since, launching])⟩
  | verified a verificationID self =>
    have hs : successes (.verified a (.ok verificationID) :: d.log) =
        (a, verificationID) :: successes d.log := since_some rfl rfl
    refine ⟨fun _ => by rw [Ledger.note, hs]; exact List.cons_ne_nil _ _, fun p older hp => ?_⟩
    rw [Ledger.note, hs] at hp
    obtain ⟨rfl, -⟩ := List.cons.inj hp
    rfl
  | facebookDone a self token answer cur lines hl =>
    refine h.other (l := .performSegue a .facebook self
      (ViewController.selected (d.vcs self).checkSystem) (d.vcs self).prepare ::
        (lines ++ [.authCompleted a (.signInFacebook self token) answer cur]))
      rfl rfl ?_ (by simp)
    exact forall_mem_facebookDone quiet_of_plain hl ⟨rfl, rfl⟩ ⟨rfl, rfl⟩
  | google a self user call hu =>
    exact h.other (l := [_, _, _]) rfl rfl (by simp [launching, success]) rfl
  | read a self user uid hs =>
    exact h.other (l := [_, _, _]) rfl rfl (by simp [launching, success]) rfl
  | known uid => exact h.other (l := []) rfl rfl (by simp) rfl
  | _ => exact h.other (l := [_]) rfl rfl (by simp [launching, success]) rfl

theorem slot (h : Kept d) : Slot d := by
  refine h.invariant (fun device => ⟨?_, ?_⟩) fun _ _ _ hd he => hd.entry he
  · exact fun hne => absurd rfl hne
  · exact fun p older hs => absurd hs (by simp [ledger, Device.installed, successes, since])

end Slot

/-- The requests are numbered in the order of the confirmations: the one of a number that is
confirmed now gets a greater number than all that have succeeded. -/
theorem lt_of_confirmed {s t : App} {b : Attempt} (h : Reachable s)
    (hyes : step s (.numberAlert b true) = some t) :
    (∃ self number, t.requests s.next = some (.verifyPhone self number)) ∧
      ∀ p ∈ successes s.log, p.1 < s.next := by
  constructor
  · cases stepped hyes with
    | @numberConfirmed _ self number hr => exact ⟨self, number, Function.update_self ..⟩
  · rintro ⟨a, verificationID⟩ hp
    obtain ⟨e, he, hsuccess⟩ := exists_of_mem_since hp
    refine lt_of_mem_log h he ?_
    cases e with
    | verified c answer =>
      cases answer with
      | ok id =>
        obtain ⟨rfl, -⟩ := Prod.mk.inj (Option.some.inj hsuccess)
        rfl
      | error e => simp [success] at hsuccess
    | _ => simp [success] at hsuccess

/-- **At every tap on Log In the slot holds the ID of the request that has succeeded last in this
launch.** So the forced unwrap does not trap, and if the requests have succeeded in the order of the
confirmations, it is the ID of the number confirmed last. -/
theorem loginButton_authVID {s t : App} {self : Addr} (h : Reachable s)
    (htap : step s (.loginButton self) = some t) : ∃ a verificationID older,
      successes s.log = (a, verificationID) :: older ∧
      s.authVID = some verificationID ∧
      t = s.startAuth (.signInPhone self verificationID (s.logInVCs self).codeField) ∧
      (InOrder s.log → ∀ p ∈ older, p.1 < a) := by
  have hslot : Slot (ledger s) := slot (kept h)
  cases stepped htap with
  | loginButton hself =>
    have hlogIns : (ledger s).logIns ≠ [] := by
      have hmem : self ∈ s.screens.filterMap logInOf := List.mem_filterMap.mpr ⟨_, hself, rfl⟩
      exact List.ne_nil_of_mem hmem
    obtain ⟨⟨a, verificationID⟩, older, hs⟩ :=
      List.exists_cons_of_ne_nil (hslot.succeeded hlogIns)
    have hvid : s.authVID = some verificationID := hslot.slot _ older hs
    refine ⟨a, verificationID, older, hs, hvid, ?_, fun hin => ?_⟩
    · unfold loginButton
      rw [hvid]
    · have hs' : successes s.log = (a, verificationID) :: older := hs
      rw [InOrder, hs', List.pairwise_cons] at hin
      exact hin.1

/-- Two numbers are confirmed one after the other. -/
def twoNumbers : List Action :=
  [.launch, .phoneAuthButton 0, .edit (.number 1) "+77010000001", .sendCodeButton 1,
    .numberAlert 2 true, .edit (.number 1) "+77010000002", .sendCodeButton 1, .numberAlert 4 true]

/-- The requests succeed in the order of the confirmations. -/
theorem twoNumbers_inOrder : ∃ s t, exec Device.empty.installed (twoNumbers ++
    [.verifyFinish 3 (.ok "first"), .verifyFinish 5 (.ok "second")]) = some s ∧
      step s (.loginButton 7) = some t ∧
      ∃ a older, successes s.log = (a, "second") :: older ∧ s.authVID = some "second" ∧
        ∀ p ∈ older, p.1 < a := by
  have hrun : (exec Device.empty.installed (twoNumbers ++
      [.verifyFinish 3 (.ok "first"), .verifyFinish 5 (.ok "second")])).map (fun s =>
        ((step s (.loginButton 7)).isSome, successes s.log)) =
          some (true, [(5, "second"), (3, "first")]) := by decide
  obtain ⟨s, hs, hl⟩ := Option.map_eq_some_iff.mp hrun
  obtain ⟨hstep, hsucc⟩ := Prod.mk.inj hl
  obtain ⟨t, ht⟩ := Option.isSome_iff_exists.mp hstep
  obtain ⟨a, vid, older, hall, hvid, -, horder⟩ := loginButton_authVID (reachable_of_exec hs) ht
  have hin : InOrder s.log := by
    rw [InOrder, hsucc]
    decide
  obtain ⟨heq, -⟩ := List.cons.inj (hall.symm.trans hsucc)
  obtain ⟨rfl, rfl⟩ := Prod.mk.inj heq
  exact ⟨s, t, hs, ht, 5, older, hall, hvid, horder hin⟩

/-- **A late success replaces the ID of a newer request.** -/
theorem twoNumbers_late : ¬ ∀ s t self, Reachable s → step s (.loginButton self) = some t →
    ∃ a verificationID, (a, verificationID) ∈ successes s.log ∧
      s.authVID = some verificationID ∧ ∀ p ∈ successes s.log, p.1 ≤ a := by
  intro H
  have hrun : (exec Device.empty.installed (twoNumbers ++
      [.verifyFinish 5 (.ok "second"), .verifyFinish 3 (.ok "first")])).map (fun s =>
        ((step s (.loginButton 6)).isSome, successes s.log, s.authVID)) =
          some (true, [(3, "first"), (5, "second")], some "first") := by decide
  obtain ⟨s, hs, hl⟩ := Option.map_eq_some_iff.mp hrun
  simp only [Prod.mk.injEq] at hl
  obtain ⟨hstep, hsucc, hvid⟩ := hl
  obtain ⟨t, ht⟩ := Option.isSome_iff_exists.mp hstep
  obtain ⟨a, vid, hmem, hvid', hmax⟩ := H s t 6 (reachable_of_exec hs) ht
  rw [hsucc] at hmem hmax
  rw [hvid] at hvid'
  have ha := hmax (5, "second") (by simp)
  simp only [List.mem_cons, Prod.mk.injEq, List.not_mem_nil, or_false] at hmem
  rcases hmem with ⟨rfl, -⟩ | ⟨-, rfl⟩
  · exact absurd ha (by decide)
  · exact absurd hvid' (by decide)

end AccountApp.Laws.Phone
