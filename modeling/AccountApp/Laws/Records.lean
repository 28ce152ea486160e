import AccountApp.Books.Origins
import AccountApp.Laws.Registration
import AccountApp.Lib.Toggle

/-! # The records of the database

The app writes a record once, for an account it has just created. So no record is ever overwritten
or deleted (`record_kept`), and each is either one the database had before the app was installed, or
what stood in a form that was completely filled in when its button was tapped, field by field
(`record_of_form`): the fields may have changed since, but no record mixes two forms. -/

namespace AccountApp.Laws.Records

open AccountApp.Lib AccountApp.Lib.Machine AccountApp.Lib.Toggle
open AccountApp.Model.Data AccountApp.Model.Screens AccountApp.Model.State
open AccountApp.Model.Handlers AccountApp.Model.Step
open AccountApp.Books.Keeping AccountApp.Books.Effects AccountApp.Books.Blocks
open AccountApp.Books.Origins
open AccountApp.Books.Registration AccountApp.Books.Refine
open AccountApp.Laws.Registration (filledForm answers)

section Records
variable {s₀ s t : App} {act : Action} {device : Device} {as : List Action} {uid : String}

/-- A write that is pending is that of a new account, with no record yet. -/
theorem pending_write {a : Attempt} {w : RecordWrite} (h : Reachable s) (hw : s.writes a = some w) :
    s.users w.uid = [] ∧ ∃ form user, Issued s.log a form user ∧ w = ⟨user.uid, form.record⟩ := by
  have hregistered := registered (kept h)
  obtain ⟨form, user, hrep, rfl⟩ := hregistered.pending a w hw
  have hiss := hregistered.reported a form user hrep
  have hnot : .recordWritten a .applied ∉ s.log := fun hmem => hregistered.undecided a _ hw ⟨_, hmem⟩
  refine ⟨?_, form, user, hiss, rfl⟩
  exact (hregistered.record a form user hiss).trans (if_neg hnot)

theorem users_eq (hst : step s act = some t) (hact : ∀ a outcome, act ≠ .writeFinish a outcome) :
    t.users = s.users := by
  refine step_preserves (J := fun u => u.users = s.users) rfl (fun u v hu he => ?_) hst
  cases he with
  | written a w outcome heq hw => exact absurd heq (hact a outcome)
  | _ => exact hu

theorem users_step (h : Reachable s) (hst : step s act = some t) (uid : String) :
    t.users uid = s.users uid ∨ s.users uid = [] ∧ ∃ a form user, Issued s.log a form user ∧
      t.users uid = form.record := by
  by_cases hact : ∃ a outcome, act = .writeFinish a outcome
  · obtain ⟨a, outcome, rfl⟩ := hact
    cases stepped hst with
    | @writeFinish _ _ w hw =>
      obtain ⟨hempty, form, user, hiss, rfl⟩ := pending_write h hw
      by_cases huid : uid = user.uid
      · subst huid
        cases outcome with
        | applied =>
          refine Or.inr ⟨hempty, a, form, user, hiss, ?_⟩
          simp only [writeFinish, App.emit, if_true, Function.update_self]
          rw [hempty, Dictionary.update_nil]
        | rejected | lost => exact Or.inl rfl
      · cases outcome with
        | applied => exact Or.inl (Function.update_of_ne huid _ _)
        | rejected | lost => exact Or.inl rfl
  · refine Or.inl (congrFun (users_eq hst fun a outcome heq => hact ⟨a, outcome, heq⟩) uid)

/-- **A record is never overwritten or deleted.** -/
theorem record_kept (h : Reachable s) (hrun : exec s as = some t) (hu : s.users uid ≠ []) :
    t.users uid = s.users uid := by
  have hkept : Reachable t ∧ t.users uid = s.users uid := by
    refine exec_preserves (I := fun u => Reachable u ∧ u.users uid = s.users uid) ?_ ⟨h, rfl⟩ hrun
    rintro u act v ⟨hreach, heq⟩ huv
    refine ⟨hreach.next huv, ?_⟩
    rcases users_step hreach huv uid with hsame | ⟨hempty, -⟩
    · exact hsame.trans heq
    · exact absurd (heq.symm.trans hempty) hu
  exact hkept.2

/-- A registration whose form is emptied before Firebase answers. -/
def emptiedRegistration : List Action := filledForm ++ .firebaseLoginButtonAction 0 ::
  .edit (.firstName 0) "" :: answers ++ [.writeFinish 1 .applied]

/-- The app is launched again. -/
theorem registration_kept : ∃ s t, exec Device.empty.installed emptiedRegistration = some s ∧
    exec s [.launch] = some t ∧ t.users "u" = s.users "u" := by
  have hrun : ((exec Device.empty.installed emptiedRegistration).bind fun s =>
      (exec s [.launch]).map fun _ => s.users "u") =
        some (Form.record ⟨"u@mail.kz", "U", "N", "secret"⟩) := by decide
  obtain ⟨s, hs, hst⟩ := Option.bind_eq_some_iff.mp hrun
  obtain ⟨t, ht, hu⟩ := Option.map_eq_some_iff.mp hst
  exact ⟨s, t, hs, ht, record_kept (reachable_of_exec hs) ht (by simp [hu])⟩

theorem tap_of_issued {a : Attempt} {form : Form} {user : User}
    (hrun : exec device.installed as = some s) (hiss : Issued s.log a form user) :
    ∃ before self after v, as = before ++ .firebaseLoginButtonAction self :: after ∧
      exec device.installed before = some v ∧ (v.vcs self).signUpOrIn = true ∧
      (v.vcs self).filledIn = true ∧ form = (v.vcs self).form := by
  obtain ⟨self, hfinished⟩ := hiss
  obtain ⟨before, act, after, u, x, rfl, hu, hux, -, hno, hyes⟩ :=
    exists_step (Q := fun u => .authFinished a (.createUser self form) (.ok user) ∈ u.log) hrun
      (by simp [Device.installed]) hfinished
  have hr : u.requests a = some (.auth (.createUser self form)) := by
    cases said_of_new hux hyes hno with
    | spoken e he => exact he
  obtain ⟨before, tap, between, o, v, w, rfl, hv, -, -, rfl, hbegins, -⟩ :=
    exists_begin hu hr ⟨_, rfl⟩
  cases hbegins with
  | registration self hself hmode hf =>
    exact ⟨before, self, between ++ act :: after, v, by simp, hv, hmode, hf, rfl⟩

/-- **Every record** is one the database had before, or the form of a tap, complete and unchanged. -/
theorem record_of_form (hrun : exec device.installed as = some s) (uid : String) :
    s.users uid = device.users uid ∨ ∃ before self after v,
      as = before ++ .firebaseLoginButtonAction self :: after ∧
      exec device.installed before = some v ∧ (v.vcs self).signUpOrIn = true ∧
      (v.vcs self).filledIn = true ∧ s.users uid = (v.vcs self).form.record := by
  have hissued : s.users uid = device.users uid ∨
      ∃ a form user, Issued s.log a form user ∧ s.users uid = form.record := by
    have hrecords : Reachable s ∧ (s.users uid = device.users uid ∨
        ∃ a form user, Issued s.log a form user ∧ s.users uid = form.record) := by
      refine exec_preserves (I := fun u => Reachable u ∧ (u.users uid = device.users uid ∨
        ∃ a form user, Issued u.log a form user ∧ u.users uid = form.record)) ?_
        ⟨.initial ⟨device, rfl⟩, Or.inl rfl⟩ hrun
      rintro u act v ⟨hreach, hrecord⟩ huv
      refine ⟨hreach.next huv, ?_⟩
      have hlog : ∀ {a form user}, Issued u.log a form user → Issued v.log a form user := by
        rintro a form user ⟨self, hmem⟩
        obtain ⟨new, hl, -⟩ := adds_step huv
        exact ⟨self, hl ▸ List.mem_append_right new hmem⟩
      rcases users_step hreach huv uid with hsame | ⟨-, a, form, user, hiss, heq⟩
      · rw [hsame]
        exact hrecord.imp_right fun ⟨a, form, user, hiss, heq⟩ => ⟨a, form, user, hlog hiss, heq⟩
      · exact Or.inr ⟨a, form, user, hlog hiss, heq⟩
    exact hrecords.2
  refine hissued.imp_right ?_
  rintro ⟨a, form, user, hiss, heq⟩
  obtain ⟨before, self, after, v, hsplit, hv, hmode, hf, rfl⟩ := tap_of_issued hrun hiss
  exact ⟨before, self, after, v, hsplit, hv, hmode, hf, heq⟩

theorem registration_record : ∃ s, exec Device.empty.installed emptiedRegistration = some s ∧
    (s.users "u" = Device.empty.users "u" ∨ ∃ before self after v,
      emptiedRegistration = before ++ .firebaseLoginButtonAction self :: after ∧
      exec Device.empty.installed before = some v ∧ (v.vcs self).signUpOrIn = true ∧
      (v.vcs self).filledIn = true ∧ s.users "u" = (v.vcs self).form.record) := by
  have hrun : (exec Device.empty.installed emptiedRegistration).isSome = true := by decide
  obtain ⟨s, hs⟩ := Option.isSome_iff_exists.mp hrun
  exact ⟨s, hs, record_of_form hs "u"⟩

end Records

end AccountApp.Laws.Records
