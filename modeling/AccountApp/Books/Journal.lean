import AccountApp.Books.Keeping
import AccountApp.Lib.Replay

/-! # The controllers, replayed

The stored properties of a login screen are a function of the history: `record` says what an event
makes of them, and `replayed` that every controller is what its history makes of a new one. So they
depend on the events of the controller itself and on nothing else (`concerns`).

The segue to the profile screen hands over what `prepare(for:sender:)` takes from the controller
when it is performed; `Hands` says so about the history alone. -/

namespace AccountApp.Books.Journal

open AccountApp.Lib.History AccountApp.Lib.Replay
open AccountApp.Model.Data AccountApp.Model.Screens AccountApp.Model.State
open AccountApp.Model.Handlers AccountApp.Books.Keeping

/-- The controller whose stored properties an event writes, and what it makes of them. -/
def written : Event → Option (Addr × (ViewController → ViewController))
  | .instantiated i => some (i, fun _ => {})
  | .fbLogInCompleted _ i (.ok _) => some (i, fun vc => { vc with checkSystem := "fb" })
  | .fetched _ i answer => some (i, ViewController.transferFBData answer)
  | .googleSignedIn _ i (.ok user) =>
    if user.authentication.isSome then
      some (i, fun vc =>
        { vc with gProfileData := googleProfileOf user.profile, checkSystem := "g" })
    else none
  | .profileFilled _ i profile =>
    some (i, fun vc => { vc with fireProfileData := profile, checkSystem := "Firebase" })
  | _ => none

/-- The event writes a stored property of the controller at `self`. -/
def concerns (self : Addr) (e : Event) : Bool := (written e).any fun w => w.1 == self

/-- What an event makes of the controller at `self`. -/
def record (self : Addr) (e : Event) (vc : ViewController) : ViewController :=
  match written e with
  | some (i, f) => if i = self then f vc else vc
  | none => vc

/-- The controller at `self`, by the history. -/
def controller (self : Addr) (log : List Event) : ViewController := replay (record self) {} log

section Record
variable {self i : Addr} {e : Event} {f : ViewController → ViewController} {vc : ViewController}

theorem record_of_none (he : written e = none) (self : Addr) (vc : ViewController) :
    record self e vc = vc := by
  unfold record
  rw [he]

theorem record_self (he : written e = some (i, f)) : record i e vc = f vc := by
  unfold record
  rw [he]
  exact if_pos rfl

theorem record_of_ne (he : written e = some (i, f)) (hne : self ≠ i) : record self e vc = vc := by
  unfold record
  rw [he]
  exact if_neg hne.symm

theorem record_of_not_concerns (he : concerns self e = false) (vc : ViewController) :
    record self e vc = vc := by
  rcases hw : written e with _ | ⟨i, f⟩
  · exact record_of_none hw self vc
  · refine record_of_ne hw ?_
    rintro rfl
    simp [concerns, hw] at he

theorem controller_congr {log log' : List Event}
    (h : log.filter (concerns self) = log'.filter (concerns self)) :
    controller self log = controller self log' :=
  replay_congr (fun _ he => record_of_not_concerns he) h

theorem controller_append {new log : List Event} (hnew : ∀ e ∈ new, written e = none) :
    controller self (new ++ log) = controller self log := by
  unfold controller
  rw [replay_append]
  exact replay_quiet fun e he => record_of_none (hnew e he) self

end Record

/-- What a segue to the profile screen hands over. The phone flow has its own screen. -/
def Hands : Event → List Event → Prop
  | .performSegue _ flow self handed profile, past => flow = .phone ∨
    handed = ViewController.selected (controller self past).checkSystem ∧
      profile = (controller self past).prepare
  | _, _ => True

/-- The controllers and the handovers are those of the history. -/
structure Replayed (d : Ledger) : Prop where
  vcs : ∀ self, d.vcs self = controller self d.log
  handed : Always Hands d.log

theorem written_of_plain {e : Event} (he : plain e = true) : written e = none := by
  cases e with
  | fbLogInCompleted a i answer =>
    cases answer with
    | ok result => exact absurd he Bool.false_ne_true
    | error e => rfl
  | googleSignedIn a i answer =>
    cases answer with
    | ok user =>
      have hno : user.authentication.isSome = false := by simpa [plain, usable] using he
      simp [written, hno]
    | error e => rfl
  | instantiated i | fetched owner i answer | profileFilled a i profile =>
    exact absurd he Bool.false_ne_true
  | _ => rfl

theorem hands_of_plain {e : Event} (he : plain e = true) (past : List Event) : Hands e past := by
  cases e with
  | performSegue a flow i handed profile =>
    obtain ⟨rfl, -⟩ : flow = .phone ∧ handed = .phone := by simpa [plain] using he
    exact Or.inl rfl
  | _ => trivial

section Replayed
variable {d d' : Ledger} {e : Event} {i : Addr} {f : ViewController → ViewController}

theorem Replayed.quiet (h : Replayed d) (hvcs : d'.vcs = d.vcs) (hlog : d'.log = e :: d.log)
    (hw : written e = none) (he : Hands e d.log) : Replayed d' where
  vcs self := by
    rw [hvcs, hlog, h.vcs]
    exact (record_of_none hw self _).symm
  handed := by
    rw [hlog]
    exact ⟨he, h.handed⟩

/-- The controller at `i` is written. -/
theorem Replayed.wrote (h : Replayed d) (hvcs : d'.vcs = Function.update d.vcs i (f (d.vcs i)))
    (hlog : d'.log = e :: d.log) (hw : written e = some (i, f)) (he : Hands e d.log) :
    Replayed d' where
  vcs self := by
    rw [hvcs, hlog]
    by_cases hi : self = i
    · subst hi
      rw [Function.update_self, h.vcs]
      exact (record_self hw).symm
    · rw [Function.update_of_ne hi, h.vcs]
      exact (record_of_ne hw hi).symm
  handed := by
    rw [hlog]
    exact ⟨he, h.handed⟩

theorem Replayed.same (h : Replayed d) (hvcs : d'.vcs = d.vcs) (hlog : d'.log = d.log) :
    Replayed d' := by
  refine ⟨fun self => ?_, ?_⟩
  · rw [hvcs, hlog]
    exact h.vcs self
  · rw [hlog]
    exact h.handed

theorem Replayed.hands_prepare (h : Replayed d) (a : Attempt) (flow : Flow) (self : Addr)
    {past : List Event} (hpast : controller self past = controller self d.log) :
    Hands (.performSegue a flow self (ViewController.selected (d.vcs self).checkSystem)
      (d.vcs self).prepare) past := by
  rw [Hands, hpast, h.vcs]
  exact Or.inr ⟨rfl, rfl⟩

theorem Replayed.facebookDone (h : Replayed d) (a : Attempt) (self : Addr) (token : String)
    (answer : Answer User) (cur : Option User) {lines : List Event}
    (hl : ∀ e ∈ lines, plain e = true) : Replayed { d with
      log := .performSegue a .facebook self (ViewController.selected (d.vcs self).checkSystem)
          (d.vcs self).prepare ::
        (lines ++ .authCompleted a (.signInFacebook self token) answer cur :: d.log) } := by
  have hnew : ∀ e ∈ lines, written e = none := fun e he => written_of_plain (hl e he)
  have hlines : ∀ i, controller i (lines ++ .authCompleted a (.signInFacebook self token) answer
      cur :: d.log) = controller i d.log := fun i => controller_append hnew
  refine ⟨fun i => ?_, h.hands_prepare a .facebook self (hlines self), ?_⟩
  · exact (h.vcs i).trans (hlines i).symm
  · rw [always_append fun e he past => hands_of_plain (hl e he) past]
    exact ⟨trivial, h.handed⟩

theorem Replayed.googleDone (h : Replayed d) (a : Attempt) (self : Addr) (user : GIDGoogleUser)
    (call : AuthCall) (hu : usable (.ok user) = true) : Replayed { d with
      vcs := Function.update d.vcs self { d.vcs self with
        gProfileData := googleProfileOf user.profile, checkSystem := "g" }
      log := .performSegue a .google self .google (googleProfileOf user.profile) ::
        .authStarted a call :: .googleSignedIn a self (.ok user) :: d.log } := by
  have hw : written (.googleSignedIn a self (.ok user)) = some (self, fun vc =>
      { vc with gProfileData := googleProfileOf user.profile, checkSystem := "g" }) := if_pos hu
  have hsigned : Replayed { d with
      vcs := Function.update d.vcs self { d.vcs self with
        gProfileData := googleProfileOf user.profile, checkSystem := "g" }
      log := .googleSignedIn a self (.ok user) :: d.log } := h.wrote rfl rfl hw trivial
  have hstarted : Replayed { d with
      vcs := Function.update d.vcs self { d.vcs self with
        gProfileData := googleProfileOf user.profile, checkSystem := "g" }
      log := .authStarted a call :: .googleSignedIn a self (.ok user) :: d.log } :=
    hsigned.quiet rfl rfl rfl trivial
  refine hstarted.quiet rfl rfl rfl ?_
  have hhands := hstarted.hands_prepare a .google self rfl
  simpa [ViewController.selected, ViewController.prepare] using hhands

theorem Replayed.read (h : Replayed d) (a : Attempt) (self : Addr) (user : User) (uid : String)
    (snapshot : Dictionary) : Replayed { d with
      vcs := Function.update d.vcs self { d.vcs self with
        fireProfileData := fireProfileOf user (snapshot), checkSystem := "Firebase" }
      log := .performSegue a .email self .email (fireProfileOf user (snapshot)) ::
        .profileFilled a self (fireProfileOf user (snapshot)) ::
        .recordRead a self uid (snapshot) :: d.log } := by
  have hread : Replayed { d with log := .recordRead a self uid (snapshot) :: d.log } :=
    h.quiet rfl rfl rfl trivial
  have hfilled : Replayed { d with
      vcs := Function.update d.vcs self { d.vcs self with
        fireProfileData := fireProfileOf user (snapshot), checkSystem := "Firebase" }
      log := .profileFilled a self (fireProfileOf user (snapshot)) ::
        .recordRead a self uid (snapshot) :: d.log } := hread.wrote rfl rfl rfl trivial
  refine hfilled.quiet rfl rfl rfl ?_
  have hhands := hfilled.hands_prepare a .email self rfl
  simpa [ViewController.selected, ViewController.prepare] using hhands

theorem Replayed.entry (h : Replayed d) (he : Entry d d') : Replayed d' := by
  cases he with
  | noted e he => exact h.quiet rfl rfl (written_of_plain he) (hands_of_plain he d.log)
  | launched => exact h.quiet rfl rfl rfl trivial
  | instantiated i => exact h.wrote (f := fun _ => {}) rfl rfl rfl trivial
  | facebook a i result =>
    exact h.wrote (f := fun vc => { vc with checkSystem := "fb" }) rfl rfl rfl trivial
  | fetched owner i answer =>
    exact h.wrote (f := ViewController.transferFBData answer) rfl rfl rfl trivial
  | facebookDone a i token answer cur lines hl => exact h.facebookDone a i token answer cur hl
  | google a i user call hu => exact h.googleDone a i user call hu
  | read a i user uid snapshot hs hne => exact h.read a i user uid snapshot
  | readNothing a i uid hs => exact h.quiet rfl rfl rfl trivial
  | known uid => exact h.same rfl rfl
  | issued a i form user hu hf => exact h.quiet rfl rfl rfl trivial
  | created a i form user cur hf hc => exact h.quiet rfl rfl rfl trivial
  | written a w outcome hw => exact h.quiet rfl rfl rfl trivial
  | verified a verificationID i => exact h.quiet rfl rfl rfl trivial

/-- **The controllers are what their histories make of them.** -/
theorem replayed (h : Kept d) : Replayed d :=
  h.invariant (fun _ => ⟨fun _ => rfl, trivial⟩) fun _ _ _ hd he => hd.entry he

end Replayed

end AccountApp.Books.Journal
