import AccountApp.Books.Deliveries
import AccountApp.Books.Keeping

/-! # What the controllers hold

The stored properties of a `ViewController`, read off the history: `checkSystem` is the tag of the
last flow that has written it since the controller was instantiated, and `fbProfileData` is what the
answers delivered to it since then amount to (`Held`). `gProfileData` and `fireProfileData`
never carry the tag of Facebook.

The segue of the Facebook flow is the one that hands over a profile it has not filled itself;
`Handed` says what it hands over. -/

namespace AccountApp.Books.Controllers

open AccountApp.Lib.History
open AccountApp.Model.Data AccountApp.Model.Screens AccountApp.Model.State
open AccountApp.Model.Handlers AccountApp.Books.Deliveries AccountApp.Books.Keeping

/-- The controller at `self` is a new one. -/
def born (self : Addr) : Event → Bool
  | .instantiated i => i == self
  | _ => false

/-- The flow that writes `checkSystem` of the controller at `self` with the event. -/
def writer (self : Addr) : Event → Option Flow
  | .fbLogInCompleted _ i (.ok _) => if i = self then some .facebook else none
  | .googleSignedIn _ i answer => if i = self ∧ usable answer = true then some .google else none
  | .recordRead _ i _ snapshot => if i = self ∧ snapshot ≠ [] then some .email else none
  | _ => none

/-- The answer that is delivered to `transferFBData` of the controller at `self`. -/
def delivered (self : Addr) : Event → Option (Answer Dictionary)
  | .fetched _ i answer => if i = self then some answer else none
  | _ => none

/-- The last flow that has written `checkSystem` of the controller at `self`. -/
def lastWriter (self : Addr) (log : List Event) : Option Flow :=
  (since (born self) (writer self) log).head?

/-- The answers delivered to the controller at `self`, the newest first. -/
def deliveries (self : Addr) (log : List Event) : List (Answer Dictionary) :=
  since (born self) (delivered self) log

/-- The value of `checkSystem` a flow writes. -/
def tag : Option Flow → String
  | some .facebook => "fb"
  | some .google => "g"
  | some .email => "Firebase"
  | some .phone | none => ""

theorem selected_tag {flow : Option Flow} :
    ViewController.selected (tag flow) = .facebook ↔ flow = some .facebook := by
  rcases flow with _ | flow
  · decide
  · cases flow <;> decide

/-- What a segue of the Facebook flow hands over: the profile Facebook has given, if Facebook has
been the last to write `checkSystem`, and else a profile that is not tagged with it. -/
def Handed : Event → List Event → Prop
  | .performSegue _ .facebook self handed profile, past =>
    (handed = .facebook ↔ lastWriter self past = some .facebook) ∧
      (lastWriter self past = some .facebook → profile = profileAfter (deliveries self past)) ∧
      (lastWriter self past ≠ some .facebook → profile.system ≠ some "Facebook")
  | _, _ => True

/-- The stored properties, by the history. -/
structure Held (d : Ledger) : Prop where
  checkSystem : ∀ self, (d.vcs self).checkSystem = tag (lastWriter self d.log)
  facebook : ∀ self, (d.vcs self).fbProfileData = profileAfter (deliveries self d.log)
  google : ∀ self, (d.vcs self).gProfileData.system ≠ some "Facebook"
  firebase : ∀ self, (d.vcs self).fireProfileData.system ≠ some "Facebook"
  handed : Always Handed d.log

/-! ### Events -/

section Events
variable {self : Addr} {e : Event} {past : List Event}

theorem lastWriter_cons (hb : born self e = false) (hw : writer self e = none) :
    lastWriter self (e :: past) = lastWriter self past := by
  unfold lastWriter
  rw [since_none hb hw]

theorem lastWriter_written {f : Flow} (hb : born self e = false)
    (hw : writer self e = some f) : lastWriter self (e :: past) = some f := by
  unfold lastWriter
  rw [since_some hb hw]
  rfl

theorem lastWriter_born (hb : born self e = true) : lastWriter self (e :: past) = none := by
  unfold lastWriter
  rw [since_reset hb]
  rfl

theorem deliveries_cons (hb : born self e = false) (hd : delivered self e = none) :
    deliveries self (e :: past) = deliveries self past := since_none hb hd

theorem deliveries_delivered {v : Answer Dictionary} (hb : born self e = false)
    (hd : delivered self e = some v) :
    deliveries self (e :: past) = v :: deliveries self past := since_some hb hd

theorem deliveries_born (hb : born self e = true) : deliveries self (e :: past) = [] :=
  since_reset hb

/-- An event concerns no controller if it neither makes one, nor writes a `checkSystem`, nor
delivers an answer. -/
structure Remote (e : Event) : Prop where
  born : ∀ self, born self e = false
  writer : ∀ self, writer self e = none
  delivered : ∀ self, delivered self e = none

theorem remote_of_plain (he : plain e = true) : Remote e := by
  cases e with
  | fbLogInCompleted a i answer =>
    cases answer with
    | ok result => exact absurd he Bool.false_ne_true
    | error e => exact ⟨fun _ => rfl, fun _ => rfl, fun _ => rfl⟩
  | googleSignedIn a i answer =>
    have hno : usable answer = false := by simpa [plain] using he
    exact ⟨fun _ => rfl, fun _ => by simp [Controllers.writer, hno], fun _ => rfl⟩
  | instantiated i | fetched owner i answer | recordRead a i uid snapshot =>
    exact absurd he Bool.false_ne_true
  | _ => exact ⟨fun _ => rfl, fun _ => rfl, fun _ => rfl⟩

theorem handed_of_plain (he : plain e = true) : Handed e past := by
  cases e with
  | performSegue a flow i handed profile =>
    obtain ⟨rfl, -⟩ : flow = .phone ∧ handed = .phone := by simpa [plain] using he
    trivial
  | _ => trivial

theorem Remote.lastWriter (h : Remote e) (self : Addr) :
    lastWriter self (e :: past) = lastWriter self past :=
  lastWriter_cons (h.born self) (h.writer self)

theorem Remote.deliveries (h : Remote e) (self : Addr) :
    deliveries self (e :: past) = deliveries self past :=
  deliveries_cons (h.born self) (h.delivered self)

theorem lastWriter_append {new : List Event} (hnew : ∀ e ∈ new, Remote e) (self : Addr) :
    Controllers.lastWriter self (new ++ past) = Controllers.lastWriter self past := by
  induction new with
  | nil => rfl
  | cons e new ih =>
    obtain ⟨he, hrest⟩ := List.forall_mem_cons.mp hnew
    rw [List.cons_append, he.lastWriter, ih hrest]

theorem deliveries_append {new : List Event} (hnew : ∀ e ∈ new, Remote e) (self : Addr) :
    Controllers.deliveries self (new ++ past) = Controllers.deliveries self past := by
  induction new with
  | nil => rfl
  | cons e new ih =>
    obtain ⟨he, hrest⟩ := List.forall_mem_cons.mp hnew
    rw [List.cons_append, he.deliveries, ih hrest]

theorem remote_performSegue (a : Attempt) (flow : Flow) (i : Addr) (handed : Flow)
    (profile : ProfileData) : Remote (.performSegue a flow i handed profile) :=
  ⟨fun _ => rfl, fun _ => rfl, fun _ => rfl⟩

theorem remote_authStarted (a : Attempt) (call : AuthCall) : Remote (.authStarted a call) :=
  ⟨fun _ => rfl, fun _ => rfl, fun _ => rfl⟩

theorem remote_authCompleted (a : Attempt) (call : AuthCall) (answer : Answer User)
    (cur : Option User) : Remote (.authCompleted a call answer cur) :=
  ⟨fun _ => rfl, fun _ => rfl, fun _ => rfl⟩

end Events

/-! ### The invariant -/

section Held
variable {d d' : Ledger}

theorem Held.remote (h : Held d) (hvcs : d'.vcs = d.vcs)
    (hw : ∀ i, lastWriter i d'.log = lastWriter i d.log)
    (hd : ∀ i, deliveries i d'.log = deliveries i d.log) (hlog : Always Handed d'.log) :
    Held d' where
  checkSystem i := by rw [hvcs, hw]; exact h.checkSystem i
  facebook i := by rw [hvcs, hd]; exact h.facebook i
  google i := by rw [hvcs]; exact h.google i
  firebase i := by rw [hvcs]; exact h.firebase i
  handed := hlog

theorem Held.changed (h : Held d) {self : Addr} {vc : ViewController}
    (hvcs : d'.vcs = Function.update d.vcs self vc)
    (hother : ∀ i ≠ self, lastWriter i d'.log = lastWriter i d.log ∧
      deliveries i d'.log = deliveries i d.log)
    (hc : vc.checkSystem = tag (lastWriter self d'.log))
    (hf : vc.fbProfileData = profileAfter (deliveries self d'.log))
    (hg : vc.gProfileData.system ≠ some "Facebook")
    (he : vc.fireProfileData.system ≠ some "Facebook") (hlog : Always Handed d'.log) :
    Held d' := by
  have hself : d'.vcs self = vc := by rw [hvcs, Function.update_self]
  have hne : ∀ i ≠ self, d'.vcs i = d.vcs i := by
    intro i hi
    rw [hvcs, Function.update_of_ne hi]
  refine ⟨fun i => ?_, fun i => ?_, fun i => ?_, fun i => ?_, hlog⟩
  all_goals by_cases hi : i = self
  · rw [hi, hself, hc]
  · rw [hne i hi, (hother i hi).1]
    exact h.checkSystem i
  · rw [hi, hself, hf]
  · rw [hne i hi, (hother i hi).2]
    exact h.facebook i
  · rw [hi, hself]
    exact hg
  · rw [hne i hi]
    exact h.google i
  · rw [hi, hself]
    exact he
  · rw [hne i hi]
    exact h.firebase i

theorem Held.noted (h : Held d) {e : Event} (hr : Remote e)
    (he : Handed e d.log) : Held (d.note e) :=
  h.remote rfl (fun i => hr.lastWriter i) (fun i => hr.deliveries i) ⟨he, h.handed⟩

theorem Held.instantiated (h : Held d) (self : Addr) : Held ({ d with
    vcs := Function.update d.vcs self {} }.note (.instantiated self)) := by
  have hborn : born self (.instantiated self) = true := by simp [born]
  refine h.changed rfl (fun i hi => ?_) ?_ ?_ (by decide) (by decide) ⟨trivial, h.handed⟩
  · have hb : born i (.instantiated self) = false := by simpa [born] using hi.symm
    exact ⟨lastWriter_cons hb rfl, deliveries_cons hb rfl⟩
  · rw [Ledger.note, lastWriter_born hborn]
    rfl
  · rw [Ledger.note, deliveries_born hborn]
    rfl

theorem Held.opened (h : Held d) (a : Attempt) (self : Addr) (result : LoginManagerLoginResult) :
    Held ({ d with
      vcs := Function.update d.vcs self { d.vcs self with checkSystem := "fb" } }.note
        (.fbLogInCompleted a self (.ok result))) := by
  refine h.changed rfl (fun i hi => ?_) ?_ ?_ (h.google self) (h.firebase self)
    ⟨trivial, h.handed⟩
  · exact ⟨lastWriter_cons rfl (if_neg hi.symm), deliveries_cons rfl rfl⟩
  · rw [Ledger.note, lastWriter_written (f := .facebook) rfl (by simp [writer])]
    rfl
  · rw [Ledger.note, deliveries_cons rfl rfl]
    exact h.facebook self

theorem Held.fetched (h : Held d) (owner : Option Attempt) (self : Addr)
    (answer : Answer Dictionary) : Held ({ d with
      vcs := Function.update d.vcs self ((d.vcs self).transferFBData answer) }.note
        (.fetched owner self answer)) := by
  rw [transferFBData_eq]
  refine h.changed rfl (fun i hi => ?_) ?_ ?_ (h.google self) (h.firebase self)
    ⟨trivial, h.handed⟩
  · exact ⟨lastWriter_cons rfl rfl, deliveries_cons rfl (if_neg hi.symm)⟩
  · rw [Ledger.note, lastWriter_cons rfl rfl]
    exact h.checkSystem self
  · rw [Ledger.note, deliveries_delivered (v := answer) rfl (by simp [delivered]),
      profileAfter_cons, h.facebook self]

/-- **The segue of the Facebook flow** hands over the profile the tag selects. -/
theorem Held.handed_prepare (h : Held d) (a : Attempt) (self : Addr) {past : List Event}
    (hw : lastWriter self past = lastWriter self d.log)
    (hd : deliveries self past = deliveries self d.log) :
    Handed (.performSegue a .facebook self (ViewController.selected (d.vcs self).checkSystem)
      (d.vcs self).prepare) past := by
  have hc := h.checkSystem self
  rw [Handed, hw, hd]
  refine ⟨?_, fun hfb => ?_, fun hfb => ?_⟩
  · rw [hc]
    exact selected_tag
  · rw [ViewController.prepare_eq, hc, selected_tag.mpr hfb]
    exact h.facebook self
  · have hne : ViewController.selected (d.vcs self).checkSystem ≠ .facebook := by
      rw [hc]
      exact fun heq => hfb (selected_tag.mp heq)
    rw [ViewController.prepare_eq]
    rcases hs : ViewController.selected (d.vcs self).checkSystem
    · exact absurd hs hne
    · exact h.google self
    · exact h.firebase self
    · exact h.firebase self

theorem Held.facebookDone (h : Held d) (a : Attempt) (self : Addr) (token : String)
    (answer : Answer User) (cur : Option User) {lines : List Event}
    (hl : ∀ e ∈ lines, plain e = true) : Held { d with
      log := .performSegue a .facebook self (ViewController.selected (d.vcs self).checkSystem)
          (d.vcs self).prepare ::
        (lines ++ .authCompleted a (.signInFacebook self token) answer cur :: d.log) } := by
  have hcompleted := remote_authCompleted a (.signInFacebook self token) answer cur
  have hlines : ∀ e ∈ lines, Remote e := fun e he => remote_of_plain (hl e he)
  have hw : ∀ i, lastWriter i (lines ++ .authCompleted a (.signInFacebook self token) answer cur ::
      d.log) = lastWriter i d.log := by
    intro i
    rw [lastWriter_append hlines, hcompleted.lastWriter]
  have hd : ∀ i, deliveries i (lines ++ .authCompleted a (.signInFacebook self token) answer cur ::
      d.log) = deliveries i d.log := by
    intro i
    rw [deliveries_append hlines, hcompleted.deliveries]
  refine h.remote rfl (fun i => ?_) (fun i => ?_) ⟨h.handed_prepare a self (hw self) (hd self), ?_⟩
  · rw [(remote_performSegue ..).lastWriter, hw]
  · rw [(remote_performSegue ..).deliveries, hd]
  · rw [always_append fun e he past => handed_of_plain (hl e he)]
    exact ⟨trivial, h.handed⟩

theorem Held.googleDone (h : Held d) (a : Attempt) (self : Addr) (user : GIDGoogleUser)
    (call : AuthCall) (hu : usable (.ok user) = true) : Held { d with
      vcs := Function.update d.vcs self { d.vcs self with
        gProfileData := googleProfileOf user.profile, checkSystem := "g" }
      log := .performSegue a .google self .google (googleProfileOf user.profile) ::
        .authStarted a call :: .googleSignedIn a self (.ok user) :: d.log } := by
  refine h.changed rfl (fun i hi => ?_) ?_ ?_ (by simp [googleProfileOf]) (h.firebase self)
    ⟨trivial, trivial, trivial, h.handed⟩
  · have hno : writer i (.googleSignedIn a self (.ok user)) = none := by
      simp [writer, hi.symm]
    rw [(remote_performSegue ..).lastWriter, (remote_authStarted ..).lastWriter,
      (remote_performSegue ..).deliveries, (remote_authStarted ..).deliveries]
    exact ⟨lastWriter_cons rfl hno, deliveries_cons rfl rfl⟩
  · rw [(remote_performSegue ..).lastWriter, (remote_authStarted ..).lastWriter,
      lastWriter_written (f := .google) rfl (by simp [writer, hu])]
    rfl
  · rw [(remote_performSegue ..).deliveries, (remote_authStarted ..).deliveries,
      deliveries_cons rfl rfl]
    exact h.facebook self

theorem Held.read (h : Held d) (a : Attempt) (self : Addr) (user : User) (uid : String)
    {snapshot : Dictionary} (hs : snapshot ≠ []) : Held { d with
      vcs := Function.update d.vcs self { d.vcs self with
        fireProfileData := fireProfileOf user (snapshot), checkSystem := "Firebase" }
      log := .performSegue a .email self .email (fireProfileOf user (snapshot)) ::
        .profileFilled a self (fireProfileOf user (snapshot)) ::
        .recordRead a self uid (snapshot) :: d.log } := by
  have hfilled : Remote (.profileFilled a self (fireProfileOf user (snapshot))) :=
    ⟨fun _ => rfl, fun _ => rfl, fun _ => rfl⟩
  refine h.changed rfl (fun i hi => ?_) ?_ ?_ (h.google self) (by simp [fireProfileOf])
    ⟨trivial, trivial, trivial, h.handed⟩
  · have hno : writer i (.recordRead a self uid (snapshot)) = none := by
      simp [writer, hi.symm]
    rw [(remote_performSegue ..).lastWriter, hfilled.lastWriter,
      (remote_performSegue ..).deliveries, hfilled.deliveries]
    exact ⟨lastWriter_cons rfl hno, deliveries_cons rfl rfl⟩
  · rw [(remote_performSegue ..).lastWriter, hfilled.lastWriter,
      lastWriter_written (f := .email) rfl (by simp [writer, hs])]
    rfl
  · rw [(remote_performSegue ..).deliveries, hfilled.deliveries, deliveries_cons rfl rfl]
    exact h.facebook self

theorem Held.entry (h : Held d) (he : Entry d d') : Held d' := by
  cases he with
  | noted e he => exact h.noted (remote_of_plain he) (handed_of_plain he)
  | launched => exact h.remote rfl (fun _ => rfl) (fun _ => rfl) ⟨trivial, h.handed⟩
  | instantiated self => exact h.instantiated self
  | facebook a self result => exact h.opened a self result
  | fetched owner self answer => exact h.fetched owner self answer
  | facebookDone a self token answer cur lines hl => exact h.facebookDone a self token answer cur hl
  | google a self user call hu => exact h.googleDone a self user call hu
  | read a self user uid snapshot hs hne => exact h.read a self user uid hne
  | readNothing a self uid hs =>
    refine h.noted ⟨fun _ => rfl, fun i => ?_, fun _ => rfl⟩ trivial
    simp [writer]
  | known uid => exact h.remote rfl (fun _ => rfl) (fun _ => rfl) h.handed
  | issued a self form user hu hf =>
    exact h.remote rfl (fun _ => rfl) (fun _ => rfl) ⟨trivial, h.handed⟩
  | created a self form user cur hf hc =>
    exact h.remote rfl (fun _ => rfl) (fun _ => rfl) ⟨trivial, h.handed⟩
  | written a w outcome hw =>
    exact h.remote rfl (fun _ => rfl) (fun _ => rfl) ⟨trivial, h.handed⟩
  | verified a verificationID self =>
    exact h.remote rfl (fun _ => rfl) (fun _ => rfl) ⟨trivial, h.handed⟩

/-- **The stored properties of every ledger that is kept are those the history says.** -/
theorem held (h : Kept d) : Held d :=
  h.invariant (fun _ => ⟨fun _ => rfl, fun _ => rfl, fun _ => nofun, fun _ => nofun, trivial⟩)
    fun _ _ _ hd he => hd.entry he

end Held

end AccountApp.Books.Controllers
