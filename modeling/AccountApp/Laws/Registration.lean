import AccountApp.Books.Refine
import AccountApp.Books.Registration

/-! # Registration and the profile it leads to

The completion block of `createUser` starts the write of the record and reports the account without
waiting for it, so registration is all-or-nothing exactly in the runs in which no write is rejected
or lost (`allOrNothing_iff`). What is written is the form of the tap, captured by the block: if the
write is applied, a sign-in reads back the names that stood there, whatever has happened to the
fields since (`readBack`). -/

namespace AccountApp.Laws.Registration

open AccountApp.Lib AccountApp.Lib.History
open AccountApp.Model.Data AccountApp.Model.Screens AccountApp.Model.State
open AccountApp.Model.Handlers AccountApp.Model.Step
open AccountApp.Attempt.Life AccountApp.Attempt.Refine
open AccountApp.Books.Keeping AccountApp.Books.Refine AccountApp.Books.Registration

/-! ### All or nothing -/

/-- The form has shown the alert for the account it has created. -/
def ShownRegistered (log : List Event) (a : Attempt) (form : Form) (user : User) : Prop :=
  Reported log a form user ∧ ∃ self, .alert (some a) self registrationAlert ∈ log

/-- A read finds the record of an account that has been reported as registered and whose write has
been decided: it does not end in the silent return. -/
def FindsRecord : Event → List Event → Prop
  | .recordRead _ _ uid snapshot, past => ∀ a form user, ShownRegistered past a form user →
      Decided past a → user.uid = uid → snapshot ≠ []
  | _, _ => True

/-- Each account reported as registered has, once its write is decided, a record with the email and
the names that were submitted; and a sign-in to it finds one. -/
structure AllOrNothing (s : App) : Prop where
  record : ∀ a form user, ShownRegistered s.log a form user → Decided s.log a →
    (s.users user.uid).lookup "email" = some form.email ∧
    (s.users user.uid).lookup "full_name" = some form.fullName ∧
    (s.users user.uid).lookup "first_name" = some form.firstName ∧
    (s.users user.uid).lookup "last_name" = some form.lastName
  found : Always FindsRecord s.log

/-- Every write that has been decided has been applied. -/
def WritesApplied (log : List Event) : Prop :=
  ∀ a outcome, .recordWritten a outcome ∈ log → outcome = .applied

theorem WritesApplied.of_suffix {log past : List Event} (h : WritesApplied log)
    (hs : past <:+ log) : WritesApplied past := fun a o ho => h a o (hs.subset ho)

theorem record_of_applied {d : Ledger} (h : Registered d) (hw : WritesApplied d.log) {a : Attempt}
    {form : Form} {user : User} (hr : Reported d.log a form user) (hd : Decided d.log a) :
    d.users user.uid = form.record := by
  obtain ⟨outcome, ho⟩ := hd
  obtain rfl := hw a outcome ho
  rw [h.record a form user (h.reported a form user hr), if_pos ho]

theorem findsRecord_entry {d d' : Ledger} (hr : Registered d)
    (ih : WritesApplied d.log → Always FindsRecord d.log) (he : Entry d d')
    (hw : WritesApplied d'.log) : Always FindsRecord d'.log := by
  have hold : ∀ {l : List Event}, (∀ e ∈ l, ∀ past, FindsRecord e past) →
      WritesApplied (l ++ d.log) → Always FindsRecord (l ++ d.log) := by
    intro l hnew hw
    exact (always_append hnew).mpr (ih (hw.of_suffix (List.suffix_append ..)))
  cases he with
  | noted e he =>
    refine hold (l := [e]) (fun e' he' past => ?_) hw
    obtain rfl := List.mem_singleton.mp he'
    cases e' with
    | recordRead a self uid snapshot => exact absurd he Bool.false_ne_true
    | _ => trivial
  | facebookDone a self token answer cur lines hl =>
    refine ⟨trivial, ?_⟩
    have htail := hw.of_suffix (List.suffix_cons ..)
    rw [always_append]
    · exact ⟨trivial, ih (htail.of_suffix ((List.suffix_cons ..).trans (List.suffix_append ..)))⟩
    · intro e he past
      have hplain := hl e he
      cases e with
      | recordRead a self uid snapshot => exact absurd hplain Bool.false_ne_true
      | _ => trivial
  | read a self user uid snapshot hs hne =>
    have hpast : WritesApplied d.log := hw.of_suffix ⟨[_, _, _], rfl⟩
    exact ⟨trivial, trivial, fun _ _ _ _ _ _ => hne, ih hpast⟩
  | readNothing a self uid hs =>
    have hpast : WritesApplied d.log := hw.of_suffix (List.suffix_cons ..)
    refine ⟨fun b form user hshown hdec huid => ?_, ih hpast⟩
    subst huid
    have hshows := hr.visible hshown.1 hdec hs
    rw [record_of_applied hr hpast hshown.1 hdec] at hshows
    exact fun _ => form.record_ne_nil hshows.symm
  | known uid => exact ih hw
  | google a self user call hu =>
    exact ⟨trivial, trivial, trivial, ih (hw.of_suffix ⟨[_, _, _], rfl⟩)⟩
  | _ => exact ⟨trivial, ih (hw.of_suffix (List.suffix_cons ..))⟩

/-- **Registration is all-or-nothing exactly in the runs in which every write that is decided is
applied.** -/
theorem allOrNothing_iff {s : App} (h : Reachable s) : AllOrNothing s ↔ WritesApplied s.log := by
  have hreg : Registered (ledger s) := registered (kept h)
  constructor
  · intro H a outcome ho
    obtain ⟨form, user, hrep⟩ := hreg.decided a ⟨outcome, ho⟩
    obtain ⟨self, cur, hc⟩ := hrep
    have halert := (lived h a).alert_of_created (mem_trace.mpr ⟨hc, rfl⟩)
    obtain ⟨hemail, -⟩ := H.record a form user
      ⟨⟨self, cur, hc⟩, self, (mem_trace.mp halert).1⟩ ⟨outcome, ho⟩
    have hrecord := hreg.record a form user (hreg.reported a form user ⟨self, cur, hc⟩)
    by_cases happlied : .recordWritten a .applied ∈ s.log
    · exact hreg.outcome a outcome .applied ho happlied
    · have hnil : s.users user.uid = [] := hrecord.trans (if_neg happlied)
      rw [hnil] at hemail
      exact absurd hemail (by simp)
  · intro H
    refine ⟨fun a form user hshown hdec => ?_, ?_⟩
    · have hrecord : s.users user.uid = form.record := record_of_applied hreg H hshown.1 hdec
      rw [hrecord]
      exact ⟨rfl, rfl, rfl, rfl⟩
    · exact (kept h).invariant (I := fun d => WritesApplied d.log → Always FindsRecord d.log)
        (fun _ _ => trivial) (fun _ _ hd ih he => findsRecord_entry (registered hd) ih he) H

/-- The form is filled in for a registration. -/
def filledForm : List Action :=
  [.launch, .switchButtonAction 0, .edit (.email 0) "u@mail.kz", .edit (.firstName 0) "U",
    .edit (.lastName 0) "N", .edit (.password 0) "secret"]

/-- Firebase makes the account, and the form reports it. -/
def answers : List Action :=
  [.authFinish 1 (.ok ⟨"u", some "u@mail.kz", none, "password"⟩), .authComplete 1]

def registration : List Action := filledForm ++ .firebaseLoginButtonAction 0 :: answers

/-- If the write is applied, all is done. -/
theorem registration_all : ∃ s,
    exec Device.empty.installed (registration ++ [.writeFinish 1 .applied]) = some s ∧
      .recordWritten 1 .applied ∈ s.log ∧ AllOrNothing s := by
  have hrun : (exec Device.empty.installed (registration ++ [.writeFinish 1 .applied])).map
      (fun s => s.log.filter fun e => e matches .recordWritten ..) =
        some [.recordWritten 1 .applied] := by decide
  obtain ⟨s, hs, hl⟩ := Option.map_eq_some_iff.mp hrun
  refine ⟨s, hs, ?_, (allOrNothing_iff (reachable_of_exec hs)).mpr fun a outcome ho => ?_⟩
  · exact List.mem_of_mem_filter (hl ▸ List.mem_cons_self)
  · have hmem : .recordWritten a outcome ∈ s.log.filter fun e => e matches .recordWritten .. :=
      List.mem_filter.mpr ⟨ho, rfl⟩
    rw [hl, List.mem_singleton] at hmem
    exact (Event.recordWritten.inj hmem).2

/-- **The account is reported as registered and has no record**: the write is rejected. -/
theorem registration_nothing : ¬ ∀ s, Reachable s → AllOrNothing s := by
  intro H
  have hrun : (exec Device.empty.installed (registration ++ [.writeFinish 1 .rejected])).map
      (fun s => (s.users "u", s.log.take 3)) =
        some ([], [.recordWritten 1 .rejected, .alert (some 1) 0 registrationAlert,
          .authCompleted 1 (.createUser 0 ⟨"u@mail.kz", "U", "N", "secret"⟩)
            (.ok ⟨"u", some "u@mail.kz", none, "password"⟩)
            (some ⟨"u", some "u@mail.kz", none, "password"⟩)]) := by decide
  obtain ⟨s, hs, hl⟩ := Option.map_eq_some_iff.mp hrun
  obtain ⟨husers, htake⟩ := Prod.mk.inj hl
  have hmem : ∀ e ∈ s.log.take 3, e ∈ s.log := fun e he => List.mem_of_mem_take he
  rw [htake] at hmem
  simp only [List.forall_mem_cons] at hmem
  obtain ⟨hwritten, halert, hcompleted, -⟩ := hmem
  obtain ⟨hemail, -⟩ := (H s (reachable_of_exec hs)).record 1 _ _
    ⟨⟨0, _, hcompleted⟩, 0, halert⟩ ⟨.rejected, hwritten⟩
  rw [husers] at hemail
  exact absurd hemail (by simp)

/-! ### What is written is read back -/

theorem names_of_read {s t : App} {b : Attempt} {self : Addr} {user : User} {uid : String}
    {form : Form} (hr : s.requests b = some (.userRecord self user uid))
    (hrecord : s.snapshot uid = form.record) (h : step s (.readFinish b) = some t) :
    (t.vcs self).fireProfileData.givenName = some form.firstName ∧
      (t.vcs self).fireProfileData.familyName = some form.lastName ∧
      (t.vcs self).fireProfileData.fullName = some form.fullName := by
  simp only [step, hr, Option.some.injEq] at h
  have hne : form.record.isEmpty = false := rfl
  have hvc : ((t.vcs self)).fireProfileData = fireProfileOf user form.record := by
    rw [← h, hrecord]
    simp [userRecordClosure, hne, App.modify, App.performSegue, App.prepareProfile, App.emit,
      ViewController.cleanTextFields]
  rw [hvc]
  exact ⟨rfl, rfl, rfl⟩

theorem started_of_tap {s t : App} {self : Addr} (hmode : (s.vcs self).signUpOrIn = true)
    (hfilled : (s.vcs self).filledIn = true)
    (h : step s (.firebaseLoginButtonAction self) = some t) :
    .authStarted s.next (.createUser self (s.vcs self).form) ∈ t.log := by
  cases stepped h with
  | firebaseLoginButtonAction hself =>
    obtain ⟨u, hu, hfinal⟩ := firebaseLoginButtonAction_cases self s
    have hstarted : .authStarted s.next (.createUser self (s.vcs self).form) ∈ u.log := by
      rcases hu with ⟨-, rfl⟩ | ⟨hno, -⟩
      · unfold formCall
        rw [if_pos hmode]
        exact List.mem_cons_self
      · rw [hfilled] at hno
        exact absurd hno.symm Bool.false_ne_true
    rcases hfinal with heq | ⟨-, heq⟩
    · rw [heq]
      exact hstarted
    · rw [heq]
      exact List.mem_cons_of_mem _ hstarted

/-- **What registration writes is what sign-in reads back.** Once the write of a registration has
been applied, a sign-in to the account sets the names to those that stood in the form at its tap. -/
theorem readBack {s₀ s₁ s t : App} {self i : Addr} {as : List Action} {b : Attempt}
    {call : AuthCall} {user current : User} {cur : Option User} (h : Reachable s₀)
    (hmode : (s₀.vcs self).signUpOrIn = true) (hfilled : (s₀.vcs self).filledIn = true)
    (htap : step s₀ (.firebaseLoginButtonAction self) = some s₁) (hrun : exec s₁ as = some s)
    (hcreated : .authCompleted s₀.next call (.ok user) cur ∈ s.log)
    (happlied : .recordWritten s₀.next .applied ∈ s.log)
    (hread : s.requests b = some (.userRecord i current user.uid))
    (hdelivered : step s (.readFinish b) = some t) :
    (t.vcs i).fireProfileData.givenName = some (s₀.vcs self).firstNameField ∧
      (t.vcs i).fireProfileData.familyName = some (s₀.vcs self).lastNameField ∧
      (t.vcs i).fireProfileData.fullName =
        some ((s₀.vcs self).firstNameField ++ " " ++ (s₀.vcs self).lastNameField) := by
  have hs₁ : Reachable s₁ := h.next htap
  have hs : Reachable s := hs₁.exec hrun
  have hstarted : .authStarted s₀.next (.createUser self (s₀.vcs self).form) ∈ s.log :=
    mem_log_of_exec (allocated hs₁) hrun (started_of_tap hmode hfilled htap) rfl
  obtain rfl := (lived hs s₀.next).eq_of_started (mem_trace.mpr ⟨hstarted, rfl⟩)
    (mem_trace.mpr ⟨hcreated, rfl⟩)
  have hreg : Registered (ledger s) := registered (kept hs)
  have hissued := hreg.reported s₀.next _ user ⟨self, cur, hcreated⟩
  have hrecord : s.users user.uid = (s₀.vcs self).form.record :=
    (hreg.record s₀.next _ user hissued).trans (if_pos happlied)
  have hshown : s.snapshot user.uid = s.users user.uid :=
    hreg.visible ⟨self, cur, hcreated⟩ ⟨.applied, happlied⟩ (visible_snapshot user.uid)
  exact names_of_read hread (hshown.trans hrecord) hdelivered

/-- The answers to a registration, and a sign-in to its account up to the read of the record. -/
def signInAfter : List Action := answers ++
  [.writeFinish 1 .applied, .edit (.email 0) "u@mail.kz", .edit (.password 0) "secret",
    .firebaseLoginButtonAction 0, .authFinish 2 (.ok ⟨"u", some "u@mail.kz", none, "password"⟩),
    .authComplete 2]

/-- The names of a registration are read back. -/
theorem registration_readBack : ∃ s t,
    exec Device.empty.installed (filledForm ++ .firebaseLoginButtonAction 0 :: signInAfter) = some s ∧
      step s (.readFinish 2) = some t ∧ (t.vcs 0).fireProfileData.givenName = some "U" ∧
        (t.vcs 0).fireProfileData.familyName = some "N" ∧
        (t.vcs 0).fireProfileData.fullName = some "U N" := by
  have hform : (exec Device.empty.installed filledForm).map
      (fun s => (s.next, (s.vcs 0).signUpOrIn, (s.vcs 0).form)) =
        some (1, true, ⟨"u@mail.kz", "U", "N", "secret"⟩) := by decide
  have hlog : (exec Device.empty.installed
      (filledForm ++ .firebaseLoginButtonAction 0 :: signInAfter)).map (fun s =>
        (s.requests 2, (step s (.readFinish 2)).isSome, s.log.filter fun e =>
          e matches .recordWritten .. | .authCompleted 1 _ _ _)) = some
        (some (.userRecord 0 ⟨"u", some "u@mail.kz", none, "password"⟩ "u"), true,
          [.recordWritten 1 .applied, .authCompleted 1
            (.createUser 0 ⟨"u@mail.kz", "U", "N", "secret"⟩)
            (.ok ⟨"u", some "u@mail.kz", none, "password"⟩)
            (some ⟨"u", some "u@mail.kz", none, "password"⟩)]) := by decide
  obtain ⟨s, hs, hl⟩ := Option.map_eq_some_iff.mp hlog
  obtain ⟨s₀, hs₀, hform⟩ := Option.map_eq_some_iff.mp hform
  obtain ⟨s₀', hs₀', hrest⟩ := Machine.exec_append.mp hs
  obtain rfl := Option.some.inj (hs₀.symm.trans hs₀')
  obtain ⟨s₁, htap, hrun⟩ := Machine.exec_cons.mp hrest
  simp only [Prod.mk.injEq] at hform hl
  obtain ⟨hnext, hmode, hfields⟩ := hform
  obtain ⟨hread, hstep, hfilter⟩ := hl
  obtain ⟨t, ht⟩ := Option.isSome_iff_exists.mp hstep
  have hfilled : (s₀.vcs 0).filledIn = true := by
    have hform := hfields
    unfold ViewController.form at hform
    obtain ⟨he, hf, hl, hp⟩ := Form.mk.inj hform
    simp [ViewController.filledIn, hmode, he, hf, hl, hp]
  have hwritten : .recordWritten 1 .applied ∈ s.log :=
    List.mem_of_mem_filter (hfilter ▸ List.mem_cons_self)
  have hcreated : .authCompleted 1 (.createUser 0 ⟨"u@mail.kz", "U", "N", "secret"⟩)
      (.ok ⟨"u", some "u@mail.kz", none, "password"⟩)
      (some ⟨"u", some "u@mail.kz", none, "password"⟩) ∈ s.log :=
    List.mem_of_mem_filter (hfilter ▸ List.mem_cons_of_mem _ List.mem_cons_self)
  have hnames := readBack (reachable_of_exec hs₀) hmode hfilled htap hrun (hnext ▸ hcreated)
    (hnext ▸ hwritten) hread ht
  obtain ⟨-, hf, hl, -⟩ := Form.mk.inj hfields
  rw [hf, hl] at hnames
  exact ⟨s, t, hs, ht, hnames⟩

end AccountApp.Laws.Registration
