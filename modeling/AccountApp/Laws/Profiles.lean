import AccountApp.Books.Controllers
import AccountApp.Books.Blocks
import AccountApp.Books.Journal
import AccountApp.Laws.Handover
import AccountApp.Laws.Phone

/-! # What the profile screens show

What a segue hands over is a function of the events of its controller alone: two runs in which these
agree hand over the same profile, whatever else happens in them (`handed_of_own`). Each segue makes a
controller of its own, which keeps the profile; UIKit presents it at most once, and from then on its
screen shows this profile (`screens_shown`).

The screen says that the connection has failed if the profile has no `system`. No Google, email or
phone login comes to that, and one with Facebook does in two cases only: nothing has written
`checkSystem` since the screen is there, as after a dialog with an error; or Facebook has been the
last to write it, and no answer with a name has come yet (`connectionFailed_iff`). -/

namespace AccountApp.Laws.Profiles

open AccountApp.Lib AccountApp.Lib.Machine AccountApp.Lib.History AccountApp.Lib.Overlay
open AccountApp.Model.Data AccountApp.Model.Screens AccountApp.Model.State
open AccountApp.Model.Handlers AccountApp.Model.Step
open AccountApp.Books.Deliveries AccountApp.Books.Keeping AccountApp.Books.Controllers
open AccountApp.Books.Journal AccountApp.Books.Effects AccountApp.Books.Blocks
open AccountApp.Books.Refine
open AccountApp.Laws.Phone (launching)
open AccountApp.Laws.Handover (facebookLogin)

/-- The profile screen of a profile. -/
def present (profile : ProfileData) : ProfileViewController :=
  ProfileViewController.present { profileInfo := profile }

theorem title_present (profile : ProfileData) :
    (present profile).title = "Oops..." ↔ profile.system = none := by
  unfold present ProfileViewController.present ProfileViewController.viewDidAppear
    ProfileViewController.viewDidLoad
  rcases profile.system with _ | system
  · simp
  · simp only [reduceCtorEq, iff_false]
    intro h
    have hhead := congrArg (fun t => t.toList.head?) h
    simp [String.toList_append] at hhead

/-! ### The controller alone -/

section Own
variable {s s' : App} {self : Addr}

/-- **The stored properties of a controller** are what its own events make of a new one. -/
theorem vcs_of_own (h : Reachable s) (self : Addr) :
    bare (s.vcs self) = controller self (s.log.filter (concerns self)) := by
  have hreplayed := (replayed (kept h)).vcs self
  refine hreplayed.trans (controller_congr ?_)
  rw [List.filter_filter]
  simp [ledger]

/-- **Noninterference.** Segues of a controller hand over the same if its events before them have
been the same, whatever has happened to other controllers and to the services. -/
theorem handed_of_own (h : Reachable s) (h' : Reachable s') {a b : Attempt} {flow flow' : Flow}
    {handed handed' : Flow} {profile profile' : ProfileData} {past past' : List Event}
    (he : .performSegue a flow self handed profile :: past <:+ s.log)
    (he' : .performSegue b flow' self handed' profile' :: past' <:+ s'.log)
    (hflow : flow ≠ .phone) (hflow' : flow' ≠ .phone)
    (hown : past.filter (concerns self) = past'.filter (concerns self)) :
    handed = handed' ∧ profile = profile' := by
  have hhands := always_iff.mp (replayed (kept h)).handed _ _ he
  have hhands' := always_iff.mp (replayed (kept h')).handed _ _ he'
  obtain ⟨rfl, rfl⟩ := hhands.resolve_left hflow
  obtain ⟨rfl, rfl⟩ := hhands'.resolve_left hflow'
  rw [controller_congr hown]
  exact ⟨rfl, rfl⟩

/-- The screen for a number is opened in between, and Firebase refuses the credential. -/
def refusedLogin : List Action :=
  [.launch, .fbButton 0, .logInFinish 1 (.ok (.granted "token")), .phoneAuthButton 0,
    .fetchFinish 2 (.ok [("name", "A B")]), .authFinish 1 (.error ⟨"refused", "refused"⟩),
    .authComplete 1]

theorem facebookLogin_replayed : ∃ s, exec Device.empty.installed facebookLogin = some s ∧
    bare (s.vcs 0) = controller 0 (s.log.filter (concerns 0)) := by
  have hrun : (exec Device.empty.installed facebookLogin).isSome = true := by decide
  obtain ⟨s, hs⟩ := Option.isSome_iff_exists.mp hrun
  exact ⟨s, hs, vcs_of_own (reachable_of_exec hs) 0⟩

/-- Both logins hand over what Facebook has answered. -/
theorem facebookLogin_refusedLogin : ∃ s s' past past' handed handed' profile profile',
    exec Device.empty.installed facebookLogin = some s ∧
    exec Device.empty.installed refusedLogin = some s' ∧
    .performSegue 1 .facebook 0 handed profile :: past <:+ s.log ∧
    .performSegue 1 .facebook 0 handed' profile' :: past' <:+ s'.log ∧
    handed = handed' ∧ profile = profile' := by
  have hlog : (exec Device.empty.installed facebookLogin).map App.log = some
      (.performSegue 1 .facebook 0 .facebook { fullName := "A B", system := "Facebook" } ::
        [.authCompleted 1 (.signInFacebook 0 "token") (.ok ⟨"u", none, none, "facebook.com"⟩)
          (some ⟨"u", none, none, "facebook.com"⟩),
        .authFinished 1 (.signInFacebook 0 "token") (.ok ⟨"u", none, none, "facebook.com"⟩),
        .fetched (some 1) 0 (.ok [("name", "A B")]),
        .authStarted 1 (.signInFacebook 0 "token"),
        .fbLogInCompleted 1 0 (.ok (.granted "token")), .instantiated 0, .launched]) := by decide
  have hlog' : (exec Device.empty.installed refusedLogin).map App.log = some
      (.performSegue 1 .facebook 0 .facebook { fullName := "A B", system := "Facebook" } ::
        [.print "Login error: refused",
        .authCompleted 1 (.signInFacebook 0 "token") (.error ⟨"refused", "refused"⟩) none,
        .authFinished 1 (.signInFacebook 0 "token") (.error ⟨"refused", "refused"⟩),
        .fetched (some 1) 0 (.ok [("name", "A B")]),
        .authStarted 1 (.signInFacebook 0 "token"),
        .fbLogInCompleted 1 0 (.ok (.granted "token")), .instantiated 0, .launched]) := by decide
  obtain ⟨s, hs, hl⟩ := Option.map_eq_some_iff.mp hlog
  obtain ⟨s', hs', hl'⟩ := Option.map_eq_some_iff.mp hlog'
  have hsame := handed_of_own (reachable_of_exec hs) (reachable_of_exec hs') ⟨[], hl.symm⟩
    ⟨[], hl'.symm⟩ (by decide) (by decide) rfl
  exact ⟨s, s', _, _, _, _, _, _, hs, hs', ⟨[], hl.symm⟩, ⟨[], hl'.symm⟩, hsame⟩

end Own

/-! ### The connection has failed -/

/-- What the tag of a controller says about its profiles. -/
inductive Tagged (vc : ViewController) : Prop
  | untagged (hc : vc.checkSystem = "") (hf : vc.fireProfileData = {})
  | facebook (hc : vc.checkSystem = "fb")
  | google (hc : vc.checkSystem = "g") (hg : vc.gProfileData.system = some "Google")
  | email (hc : vc.checkSystem = "Firebase") (hf : vc.fireProfileData.system = some "Firebase")

/-- The Facebook flow has nothing to show when its segue is performed: nothing has been written, or
no answer has had a name. -/
def Nameless (self : Addr) (past : List Event) : Prop :=
  lastWriter self past = none ∨ lastWriter self past = some .facebook ∧
    ∀ response, .ok response ∈ deliveries self past → response.lookup "name" = none

/-- A profile without `system` is handed over exactly in the Facebook flow with nothing to show; the
phone flow fills in its own. -/
def FailsNameless : Event → List Event → Prop
  | .performSegue _ flow self _ profile, past => flow = .phone ∨
    (profile.system = none ↔ flow = .facebook ∧ Nameless self past)
  | _, _ => True

section Failed
variable {d d' : Ledger} {self : Addr}

theorem Tagged.transferFBData {vc : ViewController} (h : Tagged vc) (answer : Answer Dictionary) :
    Tagged (vc.transferFBData answer) := by
  rw [transferFBData_eq]
  cases h with
  | untagged hc hf => exact .untagged hc hf
  | facebook hc => exact .facebook hc
  | google hc hg => exact .google hc hg
  | email hc hf => exact .email hc hf

theorem tagged (h : Kept d) (self : Addr) : Tagged (d.vcs self) := by
  have hupdate : ∀ {vcs : Addr → ViewController} {i : Addr} {vc : ViewController},
      (∀ j, Tagged (vcs j)) → Tagged vc → ∀ j, Tagged (Function.update vcs i vc j) := by
    intro vcs i vc hvcs hvc j
    by_cases hj : j = i
    · subst hj
      rw [Function.update_self]
      exact hvc
    · rw [Function.update_of_ne hj]
      exact hvcs j
  refine (h.invariant (I := fun d => ∀ j, Tagged (d.vcs j)) (fun _ j => .untagged rfl rfl)
    fun d d' _ ih he => ?_) self
  cases he with
  | instantiated i => exact hupdate ih (.untagged rfl rfl)
  | facebook a i result => exact hupdate ih (.facebook rfl)
  | fetched owner i answer => exact hupdate ih ((ih i).transferFBData answer)
  | google a i user call hu => exact hupdate ih (.google rfl rfl)
  | read a i user uid hs => exact hupdate ih (.email rfl rfl)
  | _ => exact ih

theorem lastWriter_ne_phone (past : List Event) : lastWriter self past ≠ some .phone := by
  intro hlast
  have hmem : .phone ∈ since (born self) (writer self) past := List.mem_of_mem_head? hlast
  obtain ⟨e, -, he⟩ := exists_of_mem_since hmem
  cases e with
  | fbLogInCompleted a i answer => cases answer <;> simp [writer] at he
  | _ => simp [writer] at he

/-- Without a name the answers of Facebook leave `system` unset. -/
theorem system_profileAfter (history : List (Answer Dictionary)) :
    (profileAfter history).system = none ↔
      ∀ response, .ok response ∈ history → response.lookup "name" = none := by
  have hsystem : (profileAfter history).system = none ↔ latest history "name" = none := by
    rw [profileAfter_eq]
    simp [profileOf]
  rw [hsystem, latest, overlays_eq_none_iff]
  simp [mem_responses, fields]

/-- **What the Facebook flow hands over** has no `system` exactly if it has nothing to show. -/
theorem system_prepare (h : Kept d) (self : Addr) :
    (d.vcs self).prepare.system = none ↔ Nameless self d.log := by
  have hc := (held h).checkSystem self
  have hphone : lastWriter self d.log ≠ some .phone := lastWriter_ne_phone d.log
  unfold Nameless ViewController.prepare
  rcases hlast : lastWriter self d.log with _ | flow
  · cases tagged h self with
    | untagged htag hf => simp [htag, hf]
    | _ => simp_all [tag]
  · cases flow with
    | facebook =>
      have htag : (d.vcs self).checkSystem = "fb" := by rw [hc, hlast]; rfl
      simp [htag, (held h).facebook self, system_profileAfter]
    | google =>
      cases tagged h self with
      | google htag hg => simp [htag, hg]
      | _ => simp_all [tag]
    | email =>
      cases tagged h self with
      | email htag hf => simp [htag, hf]
      | _ => simp_all [tag]
    | phone => exact absurd hlast hphone

theorem failsNameless_of_plain {e : Event} (he : plain e = true) (past : List Event) :
    FailsNameless e past := by
  cases e with
  | performSegue a flow i handed profile =>
    obtain ⟨rfl, -⟩ : flow = .phone ∧ handed = .phone := by simpa [plain] using he
    exact Or.inl rfl
  | _ => trivial

theorem failsNameless_entry (hd : Kept d) (ih : Always FailsNameless d.log) (he : Entry d d') :
    Always FailsNameless d'.log := by
  cases he with
  | noted e he => exact ⟨failsNameless_of_plain he _, ih⟩
  | known uid => exact ih
  | facebookDone a i token answer cur lines hl =>
    have hlines : ∀ e ∈ lines, Remote e := fun e he => remote_of_plain (hl e he)
    have hcompleted := remote_authCompleted a (.signInFacebook i token) answer cur
    refine ⟨Or.inr ?_, ?_⟩
    · rw [system_prepare hd i, Nameless, Nameless, lastWriter_append hlines, hcompleted.lastWriter,
        deliveries_append hlines, hcompleted.deliveries]
      exact (and_iff_right rfl).symm
    · rw [always_append fun e he past => failsNameless_of_plain (hl e he) past]
      exact ⟨trivial, ih⟩
  | google a i user call hu | read a i user uid hs =>
    refine ⟨Or.inr (iff_of_false ?_ ?_), trivial, trivial, ih⟩
    · simp [googleProfileOf, fireProfileOf]
    · simp
  | _ => exact ⟨trivial, ih⟩

end Failed

/-- The phone flow hands over the profile of the user who has signed in. -/
theorem profile_of_phone {s : App} (h : Reachable s) {a : Attempt} {self : Addr} {handed : Flow}
    {profile : ProfileData} (he : .performSegue a .phone self handed profile ∈ s.log) :
    ∃ user, profile = phoneProfileOf user := by
  refine h.invariant (I := fun u => .performSegue a .phone self handed profile ∈ u.log →
    ∃ user, profile = phoneProfileOf user) ?_ ?_ he
  · rintro u ⟨device, rfl⟩ hmem
    exact absurd hmem List.not_mem_nil
  · intro u act v _ ih huv hmem
    by_cases hold : .performSegue a .phone self handed profile ∈ u.log
    · exact ih hold
    · cases said_of_new huv hmem hold with
      | spoken e he => exact he.elim
      | performSegue a r flow self handed profile hr hp => cases hp
      | logged a self vid code user hr => exact ⟨user, rfl⟩

/-- **A profile screen says that the connection has failed** exactly when the Facebook flow has
nothing to show. -/
theorem connectionFailed_iff {s : App} (h : Reachable s) {a : Attempt} {flow : Flow} {self : Addr}
    {handed : Flow} {profile : ProfileData} {past : List Event}
    (he : .performSegue a flow self handed profile :: past <:+ s.log) :
    (present profile).title = "Oops..." ↔ flow = .facebook ∧ Nameless self past := by
  have hfails : Always FailsNameless s.log :=
    (kept h).invariant (I := fun d => Always FailsNameless d.log)
      (fun _ => trivial) (fun _ _ => failsNameless_entry)
  rw [title_present]
  rcases always_iff.mp hfails _ _ he with rfl | hiff
  · obtain ⟨user, rfl⟩ := profile_of_phone h (he.subset List.mem_cons_self)
    simp [phoneProfileOf]
  · exact hiff

/-- Firebase answers before the graph does. -/
theorem firebaseFirst_fails : ∃ s past, exec Device.empty.installed [.launch, .fbButton 0,
    .logInFinish 1 (.ok (.granted "token")), .authFinish 1 (.ok ⟨"u", none, none, "facebook.com"⟩),
    .authComplete 1] = some s ∧
    .performSegue 1 .facebook 0 .facebook {} :: past <:+ s.log ∧ Nameless 0 past := by
  have hlog : (exec Device.empty.installed [.launch, .fbButton 0,
    .logInFinish 1 (.ok (.granted "token")), .authFinish 1 (.ok ⟨"u", none, none, "facebook.com"⟩),
    .authComplete 1]).map App.log = some (.performSegue 1 .facebook 0 .facebook {} ::
      [.authCompleted 1 (.signInFacebook 0 "token") (.ok ⟨"u", none, none, "facebook.com"⟩)
          (some ⟨"u", none, none, "facebook.com"⟩),
        .authFinished 1 (.signInFacebook 0 "token") (.ok ⟨"u", none, none, "facebook.com"⟩),
        .authStarted 1 (.signInFacebook 0 "token"),
        .fbLogInCompleted 1 0 (.ok (.granted "token")), .instantiated 0, .launched]) := by decide
  obtain ⟨s, hs, hl⟩ := Option.map_eq_some_iff.mp hlog
  have hnameless := (connectionFailed_iff (reachable_of_exec hs) ⟨[], hl.symm⟩).mp rfl
  exact ⟨s, _, hs, ⟨[], hl.symm⟩, hnameless.2⟩

/-! ### The screens -/

/-- The controller of a profile screen. -/
def profileAt : Screen → Option Addr
  | .profile self => some self
  | _ => none

/-- The controllers of the profile screens, the newest on top. -/
def opened (s : App) : List Addr := s.screens.filterMap profileAt

/-- The profile a segue hands over. -/
def handedOver : Event → Option ProfileData
  | .performSegue _ _ _ _ profile => some profile
  | _ => none

/-- The controller UIKit presents. -/
def presentedAt : Event → Option Addr
  | .presented self => some self
  | _ => none

/-- The profile the controller at `self` has been given. -/
def given (s : App) (self : Addr) : ProfileData := (s.profileVCs self).profileInfo

/-- The profile controllers of the process: those that have been presented, and those that have
not. -/
structure Shown (s : App) : Prop where
  screens : ∀ self ∈ opened s, s.profileVCs self = present (given s self)
  prepared : ∀ self ∈ s.prepared, s.profileVCs self = { profileInfo := given s self }
  order : opened s = since launching presentedAt s.log
  distinct : (opened s ++ s.prepared).Nodup
  given : ((opened s ++ s.prepared).map (given s)).Perm (since launching handedOver s.log)
  lt : ∀ self ∈ opened s ++ s.prepared, self < s.next

theorem given_present (vc : ProfileViewController) : vc.present.profileInfo = vc.profileInfo := by
  unfold ProfileViewController.present ProfileViewController.viewDidAppear
  split <;> rfl

section Shown
variable {s₀ s t : App} {act : Action} {k : Bool}

theorem Shown.same (h : Shown s) (hs : opened t = opened s) (hprepared : t.prepared = s.prepared)
    (hp : t.profileVCs = s.profileVCs)
    (ho : since launching presentedAt t.log = since launching presentedAt s.log)
    (hl : since launching handedOver t.log = since launching handedOver s.log)
    (hn : s.next ≤ t.next) : Shown t := by
  have hgiven : Profiles.given t = Profiles.given s := by
    unfold Profiles.given
    rw [hp]
  constructor
  · rw [hs, hp, hgiven]
    exact h.screens
  · rw [hprepared, hp, hgiven]
    exact h.prepared
  · rw [hs, ho]
    exact h.order
  · rw [hs, hprepared]
    exact h.distinct
  · rw [hs, hprepared, hl, hgiven]
    exact h.given
  · rw [hs, hprepared]
    exact fun self hself => Nat.lt_of_lt_of_le (h.lt self hself) hn

theorem Shown.prepareProfile (h : Shown s) {profile : ProfileData} {e : Event}
    (he : handedOver e = some profile) (hpresented : presentedAt e = none)
    (hno : launching e = false) : Shown ((s.emit e).prepareProfile profile) := by
  have hkept : ∀ self ∈ opened s ++ s.prepared,
      ((s.emit e).prepareProfile profile).profileVCs self = s.profileVCs self :=
    fun self hself => Function.update_of_ne (Nat.ne_of_lt (h.lt self hself)) ..
  have hgiven : ∀ self ∈ opened s ++ s.prepared,
      Profiles.given ((s.emit e).prepareProfile profile) self = Profiles.given s self :=
    fun self hself => congrArg ProfileViewController.profileInfo (hkept self hself)
  have hnew : ((s.emit e).prepareProfile profile).profileVCs s.next = { profileInfo := profile } :=
    Function.update_self ..
  have hperm : (opened s ++ s.next :: s.prepared).Perm (s.next :: (opened s ++ s.prepared)) :=
    List.perm_middle
  constructor
  · intro self hself
    have hmem := List.mem_append_left s.prepared hself
    rw [hkept self hmem, hgiven self hmem]
    exact h.screens self hself
  · intro self hself
    rcases List.mem_cons.mp hself with heq | hself
    · have hself : self = s.next := heq
      rw [hself, Profiles.given, hnew]
    · have hmem := List.mem_append_right (opened s) hself
      rw [hkept self hmem, hgiven self hmem]
      exact h.prepared self hself
  · exact h.order.trans (since_none hno hpresented).symm
  · refine hperm.nodup_iff.mpr (List.nodup_cons.mpr ⟨fun hmem => ?_, h.distinct⟩)
    exact absurd (h.lt _ hmem) (Nat.lt_irrefl _)
  · have hlog : since launching handedOver ((s.emit e).prepareProfile profile).log =
        profile :: since launching handedOver s.log := since_some hno he
    rw [hlog]
    refine (hperm.map _).trans ?_
    rw [List.map_cons, List.map_congr_left hgiven, Profiles.given, hnew]
    exact h.given.cons profile
  · intro self hself
    rcases List.mem_cons.mp (hperm.mem_iff.mp hself) with rfl | hmem
    · exact Nat.lt_succ_self _
    · exact Nat.lt_succ_of_lt (h.lt self hmem)

theorem Shown.present (h : Shown s) {self : Addr} (hself : self ∈ s.prepared) :
    Shown (s.present self) := by
  have hgiven : Profiles.given (s.present self) = Profiles.given s := by
    funext i
    unfold Profiles.given App.present
    by_cases hi : i = self
    · subst hi
      exact (congrArg _ (Function.update_self ..)).trans (given_present _)
    · exact congrArg _ (Function.update_of_ne hi ..)
  have hkept : ∀ i ≠ self, (s.present self).profileVCs i = s.profileVCs i :=
    fun i hi => Function.update_of_ne hi ..
  have hnew : (s.present self).profileVCs self = (s.profileVCs self).present :=
    Function.update_self ..
  have hperm : (opened (s.present self) ++ (s.present self).prepared).Perm
      (opened s ++ s.prepared) :=
    List.perm_middle.symm.trans ((List.perm_cons_erase hself).symm.append_left _)
  have hdistinct := hperm.nodup_iff.mpr h.distinct
  constructor
  · intro i hi
    rw [hgiven]
    rcases List.mem_cons.mp hi with rfl | hi
    · rw [hnew, h.prepared i hself]
      rfl
    · have hne : i ≠ self := (List.nodup_append.mp h.distinct).2.2 i hi self hself
      rw [hkept i hne]
      exact h.screens i hi
  · intro i hi
    have hne : self ≠ i :=
      (List.nodup_append.mp hdistinct).2.2 self List.mem_cons_self i hi
    rw [hkept i hne.symm, hgiven]
    exact h.prepared i (List.mem_of_mem_erase hi)
  · have hlog : since launching presentedAt (s.present self).log =
        self :: since launching presentedAt s.log := since_some rfl rfl
    rw [hlog, ← h.order]
    rfl
  · exact hdistinct
  · rw [hgiven]
    exact (hperm.map _).trans h.given
  · exact fun i hi => h.lt i (hperm.mem_iff.mp hi)

theorem quiet_of_spoken {e : Event} (he : Spoken s e) :
    launching e = false ∧ presentedAt e = none ∧ handedOver e = none := by
  cases e with
  | launched | presented self | performSegue a flow i handed profile => exact he.elim
  | _ => exact ⟨rfl, rfl, rfl⟩

theorem Shown.effect (h : Shown s) (he : Effect s₀ act k s t) : Shown t := by
  cases he with
  | spoken e he =>
    obtain ⟨hno, hpresented, hhanded⟩ := quiet_of_spoken he
    exact h.same rfl rfl rfl (since_none hno hpresented) (since_none hno hhanded) (Nat.le_refl _)
  | segue a r flow self hr hp => exact h.prepareProfile rfl rfl rfl
  | logged a self vid code user hr => exact h.prepareProfile rfl rfl rfl
  | presented self hself hact hmem => exact h.present hmem
  | launched hact =>
    refine ⟨fun self hself => ?_, fun self hself => ?_, rfl, List.nodup_nil, .refl _,
      fun self hself => ?_⟩ <;> exact absurd hself List.not_mem_nil
  | verifyOpened | resetOpened | logInOpened | started =>
    exact h.same rfl rfl rfl rfl rfl (Nat.le_succ _)
  | mainOpened | tapped =>
    exact h.same rfl rfl rfl (since_none rfl rfl) (since_none rfl rfl) (Nat.le_succ _)
  | called | dialog | googled | written | signedOut =>
    exact h.same rfl rfl rfl (since_none rfl rfl) (since_none rfl rfl) (Nat.le_refl _)
  | _ => exact h.same rfl rfl rfl rfl rfl (Nat.le_refl _)

theorem shown (h : Reachable s) : Shown s := by
  refine h.invariant (I := Shown) ?_ fun u act v _ hu huv =>
    step_preserves hu (fun _ _ hw he => hw.effect he) huv
  rintro u ⟨device, rfl⟩
  refine ⟨fun self hself => ?_, fun self hself => ?_, rfl, List.nodup_nil, .refl _,
    fun self hself => ?_⟩ <;> exact absurd hself List.not_mem_nil

end Shown

end AccountApp.Laws.Profiles
