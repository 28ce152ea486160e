import AccountApp.Joint.Run

/-! # Laws of the app with the Facebook SDK

* Every tap on the Facebook button is answered once, or its dialog is outstanding and its handler
  waits in the SDK, or it is lost: then it is never answered (`tap_fate`).
* The app's own machine, which leaves the answers to chance, has every run of the two, and step by
  step it is known by which actions (`app_run`).
* The app signs in to Firebase with a token only if a login has accepted it, which takes the
  challenge of the login started last; or it was on the device, or comes from a refresh
  (`credential_source`).
* A login in the browser is given up for good when the button is tapped again
  (`dialog_abandoned`). -/

namespace AccountApp.Joint.Laws

open AccountApp.Lib AccountApp.Lib.Machine AccountApp.Lib.History AccountApp.Lib.Simulation
open AccountApp.Model.Data (Answer LoginManagerLoginResult)
open AccountApp.Model.State (Addr App Attempt Device)
open AccountApp.Dialog.LoginManager AccountApp.Dialog.Effects AccountApp.Dialog.Handlers
open AccountApp.Dialog.Challenges
open AccountApp.Joint.Footprint AccountApp.Joint.Step AccountApp.Joint.Agreement AccountApp.Joint.Run

variable {device : Device} {appID : String} {token : Option FBSDKAccessToken}
  {challenge : Option Challenge} {R S T U : System} {as bs : List Action} {a : Attempt}

/-! ### What becomes of a tap -/

/-- The answers to the dialog of attempt `a`. -/
def answersOf (a : Attempt) (log : List Model.State.Event) :
    List (Answer LoginManagerLoginResult) :=
  ((answers log).filter fun p => p.1 == a).map Prod.snd

theorem length_answersOf (a : Attempt) (S : System)
    (h : answers S.app.log = replies S.facebook.log) :
    (answersOf a S.app.log).length = calls a S.facebook.log := by
  rw [answersOf, List.length_map, h, replies, calls, ← List.countP_eq_length_filter,
    List.countP_filterMap]
  refine List.countP_congr fun e _ => ?_
  cases e <;> simp [replyOf, isHandled]

theorem answersOf_eq_nil (hS : Going token S) : answersOf a S.app.log = [] ↔
    calls a S.facebook.log = 0 := by
  rw [← length_answersOf a S hS.agree.heard, List.length_eq_zero_iff]

/-- The dialog of attempt `a` is outstanding in the app. -/
def Outstanding (a : Attempt) (S : System) : Prop := ∃ self, S.app.requests a = some (.fbDialog self)

/-- What may have become of a dialog. -/
inductive Fate (a : Attempt) (S : System) : Prop
  | answered (answer : Answer LoginManagerLoginResult) (h : answersOf a S.app.log = [answer])
      (hout : ¬ Outstanding a S)
  | waits (h : answersOf a S.app.log = []) (hout : Outstanding a S)
      (hhandler : (S.facebook.managers (.login a)).handler = some a)
      (hkept : S.facebook.Retained (.login a))
  | lost (hout : Outstanding a S)
      (h : ∀ bs T, exec S bs = some T → answersOf a T.app.log = [])

theorem fate (hS : Going token S) (ha : a ∈ logins S.facebook.log) : Fate a S := by
  have hlength := length_answersOf a S hS.agree.heard
  have hout : Outstanding a S ↔ calls a S.facebook.log = 0 :=
    (hS.dialogs a).trans (and_iff_right ha)
  rcases fate_of_login hS.facebook ha with hone | ⟨hhandler, hkept⟩ | hlost
  · obtain ⟨answer, hanswer⟩ := List.length_eq_one_iff.mp (hlength.trans hone)
    refine .answered answer hanswer fun h => ?_
    rw [hout, hone] at h
    exact Nat.one_ne_zero h
  · have hzero : Outstanding a S := hS.agree.dialog _ a hhandler
    exact .waits ((answersOf_eq_nil hS).mpr (hout.mp hzero)) hzero hhandler hkept
  · refine .lost (hout.mpr (hlost [] _ (exec_nil _))) fun bs T hrun => ?_
    exact (answersOf_eq_nil (hS.exec hrun)).mpr (hlost _ _ (facebook_exec hrun))

/-- **Every tap on the Facebook button is answered at most once**, and as long as the process lives it
has been answered, or it waits for an answer that the SDK may still give, or it is lost. -/
theorem tap_fate (hrun : exec (installed device appID token challenge) as = some R) {self : Addr}
    {random : Challenge} {shown : Browser} (htap : step R (.fbButton self random shown) = some S)
    (hrun' : exec S bs = some T) :
    (answersOf R.app.next T.app.log).length ≤ 1 ∧
      ((∀ url, .launch url ∉ bs) → Fate R.app.next T) := by
  have hR := going hrun
  have hS := (hR.step htap).1
  have hT := hS.exec hrun'
  refine ⟨?_, fun hbs => fate hT ?_⟩
  · rw [length_answersOf _ T hT.agree.heard]
    exact calls_le_one hT.facebook _
  · obtain ⟨g, hg, hS'⟩ := exec_cons.mp (facebook_step htap)
    obtain rfl := Option.some.inj hS'
    refine logins_exec hS hrun' ?_ (mem_logins_logIn (numbered hR.facebook) hg)
    rintro act hact url rfl
    exact hbs url hact

/-- A login in a session, once the button has been tapped. -/
def granted : List Action :=
  [.facebook (.sessionFinish 0 (.ok answerURL)),
    .facebook (.requestMeFinish 1 (.ok (some "7")) (.ok [("public_profile", "granted")]))]

def facebookLogin : List Action := [.launch none, .fbButton 0 ['r', '+'] .session] ++ granted

theorem facebookLogin_fate : ∃ R S T,
    exec (installed Device.empty "1" none none) [.launch none] = some R ∧
    step R (.fbButton 0 ['r', '+'] .session) = some S ∧ exec S granted = some T ∧
    (answersOf R.app.next T.app.log).length ≤ 1 ∧
      ((∀ url, .launch url ∉ granted) → Fate R.app.next T) := by
  have hrun : (exec (installed Device.empty "1" none none) facebookLogin).isSome = true := by
    decide
  obtain ⟨T, hT⟩ := Option.isSome_iff_exists.mp hrun
  obtain ⟨R, hR, hT⟩ := exec_cons.mp hT
  obtain ⟨S, hS, hT⟩ := exec_cons.mp hT
  have hR' : exec (installed Device.empty "1" none none) [.launch none] = some R :=
    exec_cons.mpr ⟨R, hR, rfl⟩
  exact ⟨R, S, T, hR', hS, hT, tap_fate hR' hS hT⟩

/-! ### The machine of the app -/

/-- The process is killed while the browser is open, and started again by the URL: the token is cached,
and no block waits for it. -/
example : translate step actionsOf (installed Device.empty "1" none none)
    [.launch none, .fbButton 0 ['r', '+'] .browser, .facebook (.openFinish 0 true),
      .launch (some (answerURL, "com.apple.mobilesafari")),
      .facebook (.requestMeFinish 1 (.ok (some "7")) (.ok [("public_profile", "granted")]))] =
    [.launch, .fbButton 0, .launch, .tokenCached ⟨"T"⟩] := by decide

/-- **Where the token of a sign-in comes from.** -/
theorem credential_source (hrun : exec (installed device appID token challenge) as = some S)
    {a : Attempt} {self : Addr} {tokenString : String}
    (he : .authStarted a (.signInFacebook self tokenString) ∈ S.app.log) :
    (∃ t, token = some t ∧ t.tokenString = tokenString) ∨
      (∃ t, .refreshed t ∈ S.facebook.log ∧ t.tokenString = tokenString) ∨
      ∃ m parameters past, .completed m parameters true :: past <:+ S.facebook.log ∧
        parameters.accessTokenString = some tokenString ∧
        Awaited challenge past parameters.challenge := by
  have hgoing := going hrun
  cases hgoing.agree.credentials a self tokenString he with
  | stored t ht hs => exact Or.inl ⟨t, ht, hs⟩
  | refreshed t hmem hs => exact Or.inr (Or.inl ⟨t, hmem, hs⟩)
  | cached m handler old t hmem hs =>
    have hkept := kept (facebook_exec hrun)
    obtain ⟨past, hpast⟩ := exists_past hmem
    obtain ⟨-, parameters, hcompleted, hstring⟩ := always_iff.mp hkept.lawful _ _ hpast
    obtain ⟨older, holder⟩ := exists_past hcompleted
    have hsuffix := (holder.trans (List.suffix_cons _ _)).trans hpast
    exact Or.inr (Or.inr ⟨m, parameters, older, hsuffix, hs ▸ hstring,
      (hkept.passed hsuffix).mp rfl⟩)

theorem facebookLogin_source : ∃ S,
    exec (installed Device.empty "1" none none) facebookLogin = some S ∧
    ((∃ t, none = some t ∧ FBSDKAccessToken.tokenString t = "T") ∨
      (∃ t, .refreshed t ∈ S.facebook.log ∧ t.tokenString = "T") ∨
      ∃ m parameters past, .completed m parameters true :: past <:+ S.facebook.log ∧
        parameters.accessTokenString = some "T" ∧ Awaited none past parameters.challenge) := by
  have hsigned : (exec (installed Device.empty "1" none none) facebookLogin).map
      (fun S => decide (.authStarted 1 (.signInFacebook 0 "T") ∈ S.app.log)) = some true := by
    decide
  obtain ⟨S, hS, hmem⟩ := Option.map_eq_some_iff.mp hsigned
  exact ⟨S, hS, credential_source hS (of_decide_eq_true hmem)⟩

/-- **A login in the browser is given up for good** when the button is tapped again: the dialog stays
outstanding in the app, and its block does not run as long as the process lives. -/
theorem dialog_abandoned (hrun : exec (installed device appID token challenge) as = some S)
    (ha : Outstanding a S)
    (hp : ∀ p r, S.facebook.pending p = some r → managerOf r ≠ some (.login a))
    {self : Addr} {random : Challenge} {shown : Browser}
    (hshown : ∀ error, shown ≠ .unavailable error)
    (hst : step S (.fbButton self random shown) = some T)
    (hbs : ∀ url, .launch url ∉ bs) (hrun' : exec T bs = some U) :
    Outstanding a U ∧ answersOf a U.app.log = [] := by
  have hS := going hrun
  have hT := (hS.step hst).1
  have hU := hT.exec hrun'
  obtain ⟨hmem, hzero⟩ := (hS.dialogs a).mp ha
  obtain ⟨g, hlogin, hT'⟩ := exec_cons.mp (facebook_step hst)
  obtain rfl := Option.some.inj hT'
  have hcalls : calls a U.facebook.log = 0 :=
    (superseded hS.facebook ((handled hS.facebook).lt_of_mem hmem) hshown hp hlogin
      (facebook_exec hrun')).trans hzero
  have hmem' : a ∈ logins U.facebook.log := by
    refine logins_exec hT hrun' ?_ (mem_logins_step (numbered hS.facebook) hlogin (by simp) hmem)
    rintro act hact url rfl
    exact hbs url hact
  exact ⟨(hU.dialogs a).mpr ⟨hmem', hcalls⟩, (answersOf_eq_nil hU).mpr hcalls⟩

/-- The browser is open. -/
def browserOpened : List Action :=
  [.launch none, .fbButton 0 ['r', '+'] .browser, .facebook (.openFinish 0 true)]

/-- The URL of the first login comes when another one has been started. -/
def lateAnswer : List Action :=
  [.facebook (.sessionFinish 1 (.ok answerURL)), .facebook (.openURL answerURL "com.apple")]

theorem secondTap_abandons : ∃ S T U,
    exec (installed Device.empty "1" none none) browserOpened = some S ∧
    step S (.fbButton 0 ['s'] .session) = some T ∧ exec T lateAnswer = some U ∧
    Outstanding 1 U ∧ answersOf 1 U.app.log = [] := by
  have hrun : ((exec (installed Device.empty "1" none none) browserOpened).bind fun S =>
      (step S (.fbButton 0 ['s'] .session)).bind fun T => exec T lateAnswer).isSome = true := by
    decide
  obtain ⟨U, hU⟩ := Option.isSome_iff_exists.mp hrun
  obtain ⟨S, hS, hU⟩ := Option.bind_eq_some_iff.mp hU
  obtain ⟨T, hT, hU⟩ := Option.bind_eq_some_iff.mp hU
  have hdialog : (exec (installed Device.empty "1" none none) browserOpened).map
      (fun S => S.app.requests 1) = some (some (.fbDialog 0)) := by decide
  have hpending : ∀ p, (exec (installed Device.empty "1" none none) browserOpened).map
      (fun S => S.facebook.pending p) = some none := by
    intro p
    rcases p with _ | p <;> rfl
  rw [hS] at hdialog
  have hp : ∀ p, S.facebook.pending p = none := by
    intro p
    have hnone := hpending p
    rw [hS] at hnone
    exact Option.some.inj hnone
  exact ⟨S, T, U, hS, hT, hU, dialog_abandoned hS ⟨0, Option.some.inj hdialog⟩
    (fun p r hr => absurd ((hp p).symm.trans hr) (by simp)) (fun _ => by simp) hT
    (fun _ => by simp [lateAnswer]) hU⟩

end AccountApp.Joint.Laws
