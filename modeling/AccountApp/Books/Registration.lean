import AccountApp.Books.Keeping

/-! # The accounts and their records

A registration goes through three events: Firebase issues the account (`Issued`), the completion
block reports it (`Reported`), and the write of its record is decided. `Registered` ties the
database to them: accounts have distinct uids, at most one write of each is pending, and the record
of an account is the form of the tap that has created it if the write has been applied, and empty
otherwise (`Registered.record`). -/

namespace AccountApp.Books.Registration

open AccountApp.Lib AccountApp.Lib.History
open AccountApp.Model.Data AccountApp.Model.Screens AccountApp.Model.State
open AccountApp.Books.Keeping

/-- Attempt `a` has made the account of `user`, at the tap of the given form. -/
def Issued (log : List Event) (a : Attempt) (form : Form) (user : User) : Prop :=
  ∃ self, .authFinished a (.createUser self form) (.ok user) ∈ log

/-- The completion block has reported it. -/
def Reported (log : List Event) (a : Attempt) (form : Form) (user : User) : Prop :=
  ∃ self cur, .authCompleted a (.createUser self form) (.ok user) cur ∈ log

/-- It is known what has become of the write of attempt `a`. -/
def Decided (log : List Event) (a : Attempt) : Prop := ∃ outcome, .recordWritten a outcome ∈ log

/-- The events of registrations. -/
def registering : Event → Bool
  | .authFinished _ call answer => registers call answer
  | .authCompleted _ call answer _ => registers call answer
  | .recordWritten .. => true
  | _ => false

/-- The state of the registrations, by the history. -/
structure Registered (d : Ledger) : Prop where
  known : ∀ uid, d.users uid ≠ [] → uid ∈ d.accounts
  issued : ∀ a form user, Issued d.log a form user → user.uid ∈ d.accounts
  once : ∀ a form user form' user', Issued d.log a form user → Issued d.log a form' user' →
    form = form' ∧ user = user'
  unique : ∀ a form user b form' user', Issued d.log a form user → Issued d.log b form' user' →
    user.uid = user'.uid → a = b
  reported : ∀ a form user, Reported d.log a form user → Issued d.log a form user
  pending : ∀ a w, d.writes a = some w →
    ∃ form user, Reported d.log a form user ∧ w = ⟨user.uid, form.record⟩
  undecided : ∀ a w, d.writes a = some w → ¬ Decided d.log a
  decided : ∀ a, Decided d.log a → ∃ form user, Reported d.log a form user
  outcome : ∀ a o o', .recordWritten a o ∈ d.log → .recordWritten a o' ∈ d.log → o = o'
  record : ∀ a form user, Issued d.log a form user →
    d.users user.uid = if .recordWritten a .applied ∈ d.log then form.record else []

section Registered
variable {d d' : Ledger}

theorem Registered.other (h : Registered d) (hw : d'.writes = d.writes) (hu : d'.users = d.users)
    (ha : ∀ uid ∈ d.accounts, uid ∈ d'.accounts)
    (hl : ∀ e, registering e = true → (e ∈ d'.log ↔ e ∈ d.log)) : Registered d' := by
  have hi : ∀ a form user, Issued d'.log a form user ↔ Issued d.log a form user :=
    fun a form user => exists_congr fun self => hl _ rfl
  have hr : ∀ a form user, Reported d'.log a form user ↔ Reported d.log a form user :=
    fun a form user => exists_congr fun self => exists_congr fun cur => hl _ rfl
  have hd : ∀ a, Decided d'.log a ↔ Decided d.log a := fun a => exists_congr fun o => hl _ rfl
  refine ⟨?_, ?_, ?_, ?_, ?_, ?_, ?_, ?_, ?_, ?_⟩
  · intro uid huid
    rw [hu] at huid
    exact ha uid (h.known uid huid)
  · intro a form user hiss
    exact ha _ (h.issued a form user ((hi a form user).mp hiss))
  · intro a form user form' user' hiss hiss'
    exact h.once a form user form' user' ((hi ..).mp hiss) ((hi ..).mp hiss')
  · intro a form user b form' user' hiss hiss'
    exact h.unique a form user b form' user' ((hi ..).mp hiss) ((hi ..).mp hiss')
  · intro a form user hrep
    exact (hi ..).mpr (h.reported a form user ((hr ..).mp hrep))
  · intro a w hpend
    rw [hw] at hpend
    obtain ⟨form, user, hrep, heq⟩ := h.pending a w hpend
    exact ⟨form, user, (hr ..).mpr hrep, heq⟩
  · intro a w hpend
    rw [hw] at hpend
    rw [hd]
    exact h.undecided a w hpend
  · intro a hdec
    obtain ⟨form, user, hrep⟩ := h.decided a ((hd a).mp hdec)
    exact ⟨form, user, (hr ..).mpr hrep⟩
  · intro a o o' ho ho'
    exact h.outcome a o o' ((hl _ rfl).mp ho) ((hl _ rfl).mp ho')
  · intro a form user hiss
    rw [hu, h.record a form user ((hi ..).mp hiss)]
    exact if_congr (hl _ rfl).symm rfl rfl

theorem Registered.noted (h : Registered d) {l : List Event}
    (hnew : ∀ e ∈ l, registering e = false) (hw : d'.writes = d.writes)
    (hu : d'.users = d.users) (ha : ∀ uid ∈ d.accounts, uid ∈ d'.accounts)
    (hl : d'.log = l ++ d.log) : Registered d' := by
  refine h.other hw hu ha fun e he => ?_
  rw [hl, List.mem_append]
  refine or_iff_right fun hmem => ?_
  rw [hnew e hmem] at he
  exact Bool.false_ne_true he

theorem registering_of_plain {e : Event} (he : plain e = true) : registering e = false := by
  cases e with
  | authFinished a call answer => simpa [plain, registering] using he
  | authCompleted a call answer cur =>
    cases call with
    | signInFacebook self token => exact absurd he Bool.false_ne_true
    | _ => simpa [plain, registering] using he
  | recordWritten a outcome => exact absurd he Bool.false_ne_true
  | _ => rfl

theorem Registered.issue (h : Registered d) (a : Attempt) (self : Addr) (form : Form) (user : User)
    (hu : user.uid ∉ d.accounts) (hf : ∀ call answer, .authFinished a call answer ∉ d.log) :
    Registered ({ d with accounts := user.uid :: d.accounts }.note
      (.authFinished a (.createUser self form) (.ok user))) := by
  have hnot : ∀ form user, ¬ Issued d.log a form user := fun form user ⟨i, hi⟩ => hf _ _ hi
  have hnone : .recordWritten a .applied ∉ d.log := by
    intro hdec
    obtain ⟨form', user', hrep⟩ := h.decided a ⟨_, hdec⟩
    exact hnot form' user' (h.reported a form' user' hrep)
  have hi : ∀ b f u, Issued (.authFinished a (.createUser self form) (.ok user) :: d.log) b f u ↔
      (b = a ∧ f = form ∧ u = user) ∨ Issued d.log b f u := by
    intro b f u
    unfold Issued
    simp only [List.mem_cons, Event.authFinished.injEq, AuthCall.createUser.injEq, Answer.ok.injEq,
      exists_or]
    refine or_congr_left ?_
    constructor
    · rintro ⟨i, rfl, ⟨-, rfl⟩, rfl⟩
      exact ⟨rfl, rfl, rfl⟩
    · rintro ⟨rfl, rfl, rfl⟩
      exact ⟨self, rfl, ⟨rfl, rfl⟩, rfl⟩
  have hr : ∀ b f u, Reported (.authFinished a (.createUser self form) (.ok user) :: d.log) b f u ↔
      Reported d.log b f u := by simp [Reported]
  have hd : ∀ b, Decided (.authFinished a (.createUser self form) (.ok user) :: d.log) b ↔
      Decided d.log b := by simp [Decided]
  refine ⟨?_, ?_, ?_, ?_, ?_, ?_, ?_, ?_, ?_, ?_⟩
  · exact fun uid huid => List.mem_cons_of_mem _ (h.known uid huid)
  · intro b f u hiss
    rcases (hi b f u).mp hiss with ⟨-, -, rfl⟩ | hiss
    · exact List.mem_cons_self
    · exact List.mem_cons_of_mem _ (h.issued b f u hiss)
  · intro b f u f' u' hiss hiss'
    rcases (hi b f u).mp hiss with ⟨rfl, rfl, rfl⟩ | hold
    · rcases (hi ..).mp hiss' with ⟨-, rfl, rfl⟩ | hold'
      · exact ⟨rfl, rfl⟩
      · exact absurd hold' (hnot f' u')
    · rcases (hi ..).mp hiss' with ⟨rfl, -, -⟩ | hold'
      · exact absurd hold (hnot f u)
      · exact h.once b f u f' u' hold hold'
  · intro b f u c f' u' hiss hiss' huid
    rcases (hi b f u).mp hiss with ⟨rfl, rfl, rfl⟩ | hold
    · rcases (hi ..).mp hiss' with ⟨rfl, -, -⟩ | hold'
      · rfl
      · exact absurd (huid ▸ h.issued c f' u' hold') hu
    · rcases (hi ..).mp hiss' with ⟨rfl, rfl, rfl⟩ | hold'
      · exact absurd (huid ▸ h.issued b f u hold) hu
      · exact h.unique b f u c f' u' hold hold' huid
  · intro b f u hrep
    exact (hi ..).mpr (Or.inr (h.reported b f u ((hr ..).mp hrep)))
  · intro b w hpend
    obtain ⟨f, u, hrep, heq⟩ := h.pending b w hpend
    exact ⟨f, u, (hr ..).mpr hrep, heq⟩
  · intro b w hpend hdec
    exact h.undecided b w hpend ((hd b).mp hdec)
  · intro b hdec
    obtain ⟨f, u, hrep⟩ := h.decided b ((hd b).mp hdec)
    exact ⟨f, u, (hr ..).mpr hrep⟩
  · intro b o o' ho ho'
    exact h.outcome b o o' (by simpa [Ledger.note] using ho) (by simpa [Ledger.note] using ho')
  · intro b f u hiss
    rcases (hi b f u).mp hiss with ⟨rfl, rfl, rfl⟩ | hiss
    · rw [if_neg (by simpa [Ledger.note] using hnone)]
      by_contra hne
      exact hu (h.known u.uid hne)
    · simpa [Ledger.note] using h.record b f u hiss

theorem Registered.report (h : Registered d) (a : Attempt) (self : Addr) (form : Form) (user : User)
    (cur : Option User) (hf : .authFinished a (.createUser self form) (.ok user) ∈ d.log)
    (hc : ∀ call answer cur, .authCompleted a call answer cur ∉ d.log) :
    Registered ({ d with
      writes := Function.update d.writes a (some ⟨user.uid, form.record⟩) }.note
        (.authCompleted a (.createUser self form) (.ok user) cur)) := by
  have hnot : ¬ Decided d.log a := by
    intro hdec
    obtain ⟨f, u, i, c, hrep⟩ := h.decided a hdec
    exact hc _ _ _ hrep
  have hi : ∀ b f u, Issued (.authCompleted a (.createUser self form) (.ok user) cur :: d.log) b f u
      ↔ Issued d.log b f u := by simp [Issued]
  have hmono : ∀ b f u, Reported d.log b f u →
      Reported (.authCompleted a (.createUser self form) (.ok user) cur :: d.log) b f u :=
    fun b f u ⟨i, c, hmem⟩ => ⟨i, c, List.mem_cons_of_mem _ hmem⟩
  have hd : ∀ b, Decided (.authCompleted a (.createUser self form) (.ok user) cur :: d.log) b ↔
      Decided d.log b := by simp [Decided]
  refine ⟨h.known, ?_, ?_, ?_, ?_, ?_, ?_, ?_, ?_, ?_⟩
  · exact fun b f u hiss => h.issued b f u ((hi ..).mp hiss)
  · exact fun b f u f' u' hiss hiss' => h.once b f u f' u' ((hi ..).mp hiss) ((hi ..).mp hiss')
  · exact fun b f u c f' u' hiss hiss' =>
      h.unique b f u c f' u' ((hi ..).mp hiss) ((hi ..).mp hiss')
  · rintro b f u ⟨i, c, hmem⟩
    rcases List.mem_cons.mp hmem with heq | hmem
    · obtain ⟨rfl, heq, heq', -⟩ := Event.authCompleted.inj heq
      obtain ⟨-, rfl⟩ := AuthCall.createUser.inj heq
      obtain rfl := Answer.ok.inj heq'
      exact ⟨self, List.mem_cons_of_mem _ hf⟩
    · exact (hi ..).mpr (h.reported b f u ⟨i, c, hmem⟩)
  · intro b w hpend
    by_cases hb : b = a
    · subst hb
      have hw : Function.update d.writes b (some ⟨user.uid, form.record⟩) b = some w := hpend
      rw [Function.update_self] at hw
      exact ⟨form, user, ⟨self, cur, List.mem_cons_self⟩, (Option.some.inj hw).symm⟩
    · obtain ⟨f, u, hrep, heq⟩ := h.pending b w ((Function.update_of_ne hb ..).symm.trans hpend)
      exact ⟨f, u, hmono b f u hrep, heq⟩
  · intro b w hpend hdec
    have hdec' := (hd b).mp hdec
    by_cases hb : b = a
    · exact hnot (hb ▸ hdec')
    · exact h.undecided b w ((Function.update_of_ne hb ..).symm.trans hpend) hdec'
  · intro b hdec
    obtain ⟨f, u, hrep⟩ := h.decided b ((hd b).mp hdec)
    exact ⟨f, u, hmono b f u hrep⟩
  · intro b o o' ho ho'
    exact h.outcome b o o' (by simpa [Ledger.note] using ho) (by simpa [Ledger.note] using ho')
  · intro b f u hiss
    simpa [Ledger.note] using h.record b f u ((hi ..).mp hiss)

theorem Registered.write (h : Registered d) (a : Attempt) (w : RecordWrite)
    (outcome : WriteOutcome) (hw : d.writes a = some w) : Registered ({ d with
      writes := Function.update d.writes a none
      users := if outcome = WriteOutcome.applied then
          Function.update d.users w.uid (Dictionary.update w.values (d.users w.uid))
        else d.users }.note (.recordWritten a outcome)) := by
  obtain ⟨form, user, hrep, rfl⟩ := h.pending a w hw
  have hiss := h.reported a form user hrep
  have hnot : ∀ o, .recordWritten a o ∉ d.log := fun o ho => h.undecided a _ hw ⟨o, ho⟩
  have hempty : d.users user.uid = [] := by
    rw [h.record a form user hiss, if_neg (hnot _)]
  have hi : ∀ b f u, Issued (.recordWritten a outcome :: d.log) b f u ↔ Issued d.log b f u := by
    simp [Issued]
  have hr : ∀ b f u, Reported (.recordWritten a outcome :: d.log) b f u ↔
      Reported d.log b f u := by simp [Reported]
  refine ⟨?_, ?_, ?_, ?_, ?_, ?_, ?_, ?_, ?_, ?_⟩
  · intro uid huid
    by_cases heq : uid = user.uid
    · exact heq ▸ h.issued a form user hiss
    · refine h.known uid fun hnil => huid ?_
      simp only [Ledger.note]
      split_ifs
      · rw [Function.update_of_ne heq, hnil]
      · exact hnil
  · exact fun b f u hb => h.issued b f u ((hi ..).mp hb)
  · exact fun b f u f' u' hb hb' => h.once b f u f' u' ((hi ..).mp hb) ((hi ..).mp hb')
  · exact fun b f u c f' u' hb hb' => h.unique b f u c f' u' ((hi ..).mp hb) ((hi ..).mp hb')
  · exact fun b f u hb => (hi ..).mpr (h.reported b f u ((hr ..).mp hb))
  · intro b v hpend
    have hne : b ≠ a := by
      rintro rfl
      exact absurd ((Function.update_self ..).symm.trans hpend) (by simp)
    obtain ⟨f, u, hb, heq⟩ := h.pending b v ((Function.update_of_ne hne ..).symm.trans hpend)
    exact ⟨f, u, (hr ..).mpr hb, heq⟩
  · rintro b v hpend ⟨o, ho⟩
    have hne : b ≠ a := by
      rintro rfl
      exact absurd ((Function.update_self ..).symm.trans hpend) (by simp)
    refine h.undecided b v ((Function.update_of_ne hne ..).symm.trans hpend) ⟨o, ?_⟩
    simpa [Ledger.note, hne] using ho
  · rintro b ⟨o, ho⟩
    rcases List.mem_cons.mp ho with heq | ho
    · obtain ⟨rfl, -⟩ := Event.recordWritten.inj heq
      exact ⟨form, user, (hr ..).mpr hrep⟩
    · obtain ⟨f, u, hb⟩ := h.decided b ⟨o, ho⟩
      exact ⟨f, u, (hr ..).mpr hb⟩
  · intro b o o' ho ho'
    by_cases hb : b = a
    · subst hb
      have heq : ∀ o, .recordWritten b o ∈ (.recordWritten b outcome :: d.log) → o = outcome := by
        intro o ho
        rcases List.mem_cons.mp ho with heq | ho
        · exact (Event.recordWritten.inj heq).2
        · exact absurd ho (hnot o)
      exact (heq o ho).trans (heq o' ho').symm
    · exact h.outcome b o o' (by simpa [Ledger.note, hb] using ho)
        (by simpa [Ledger.note, hb] using ho')
  · intro b f u hb
    have hb' := (hi ..).mp hb
    by_cases heq : u.uid = user.uid
    · -- the account the write belongs to
      obtain rfl := h.unique b f u a form user hb' hiss heq
      obtain ⟨rfl, rfl⟩ := h.once b f u form user hb' hiss
      simp only [Ledger.note, List.mem_cons, Event.recordWritten.injEq, true_and, hnot, or_false]
      by_cases ho : outcome = .applied
      · rw [if_pos ho, if_pos ho.symm, Function.update_self, hempty, Dictionary.update_nil]
      · rw [if_neg ho, if_neg (Ne.symm ho), hempty]
    · -- another account, whose attempt is another one
      have hne : b ≠ a := by
        rintro rfl
        exact heq (congrArg User.uid (h.once b f u form user hb' hiss).2)
      have hsame : (if outcome = WriteOutcome.applied then Function.update d.users user.uid
          (Dictionary.update form.record (d.users user.uid)) else d.users) u.uid =
            d.users u.uid := by
        split_ifs
        · exact Function.update_of_ne heq ..
        · rfl
      rw [Ledger.note]
      simp only
      rw [hsame, h.record b f u hb']
      refine if_congr ?_ rfl rfl
      simp [hne]

theorem Registered.entry (h : Registered d) (he : Entry d d') : Registered d' := by
  cases he with
  | noted e he =>
    exact h.noted (l := [e]) (by simpa using registering_of_plain he) rfl rfl (fun _ hu => hu) rfl
  | launched => exact h.noted (l := [_]) (by simp [registering]) rfl rfl (fun _ hu => hu) rfl
  | instantiated self | facebook a self result | fetched owner self answer
  | readNothing a self uid hs | verified a verificationID self =>
    exact h.noted (l := [_]) (by simp [registering]) rfl rfl (fun _ hu => hu) rfl
  | facebookDone a self token answer cur lines hl =>
    refine h.noted (l := .performSegue a .facebook self
      (ViewController.selected (d.vcs self).checkSystem) (d.vcs self).prepare ::
        (lines ++ [.authCompleted a (.signInFacebook self token) answer cur]))
      ?_ rfl rfl (fun _ hu => hu) (by simp)
    exact forall_mem_facebookDone registering_of_plain hl rfl rfl
  | google a self user call hu =>
    exact h.noted (l := [_, _, _]) (by simp [registering]) rfl rfl (fun _ hu => hu) rfl
  | read a self user uid snapshot hs hne =>
    exact h.noted (l := [_, _, _]) (by simp [registering]) rfl rfl (fun _ hu => hu) rfl
  | known uid =>
    exact h.noted (l := []) (by simp) rfl rfl (fun _ hu => List.mem_cons_of_mem _ hu) rfl
  | issued a self form user hu hf => exact h.issue a self form user hu hf
  | created a self form user cur hf hc => exact h.report a self form user cur hf hc
  | written a w outcome hw => exact h.write a w outcome hw

/-- **The database of every ledger that is kept** is that of its registrations. -/
theorem registered (h : Kept d) : Registered d := by
  refine h.invariant (fun device => ?_) fun _ _ _ hd he => hd.entry he
  have hnone : ∀ e, e ∉ (ledger device.installed).log := fun e => List.not_mem_nil
  refine ⟨device.mem_accounts, ?_, ?_, ?_, ?_, ?_, ?_, ?_, ?_, ?_⟩
  · exact fun a form user ⟨i, hi⟩ => absurd hi (hnone _)
  · exact fun a form user form' user' ⟨i, hi⟩ => absurd hi (hnone _)
  · exact fun a form user b form' user' ⟨i, hi⟩ => absurd hi (hnone _)
  · exact fun a form user ⟨i, cur, hi⟩ => absurd hi (hnone _)
  · exact fun a w hw => absurd hw (by simp [ledger, Device.installed])
  · exact fun a w hw => absurd hw (by simp [ledger, Device.installed])
  · exact fun a ⟨o, ho⟩ => absurd ho (hnone _)
  · exact fun a o o' ho => absurd ho (hnone _)
  · exact fun a form user ⟨i, hi⟩ => absurd hi (hnone _)

/-- **The record of an account is all that can be shown of it** once its write has been decided: no
other write is pending for it. -/
theorem Registered.visible (h : Registered d) {a : Attempt} {form : Form} {user : User}
    {snapshot : Dictionary} (hrep : Reported d.log a form user) (hdec : Decided d.log a)
    (hv : Visible d user.uid snapshot) : snapshot = d.users user.uid := by
  cases hv with
  | record => rfl
  | laid b w hw hu hrest =>
    obtain ⟨form', user', hrep', rfl⟩ := h.pending b w hw
    obtain rfl := h.unique b form' user' a form user (h.reported b form' user' hrep')
      (h.reported a form user hrep) hu
    exact absurd hdec (h.undecided b _ hw)

end Registered

end AccountApp.Books.Registration
