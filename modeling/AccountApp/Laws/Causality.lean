import AccountApp.Attempt.Refine
import AccountApp.Books.Origins
import AccountApp.Laws.Registration
import AccountApp.Lib.Toggle

/-! # Nothing happens unasked

Every event of an attempt goes back to one tap of the user in the same process, and fits it: a call
of Firebase is of the kind the tap asks for and has what the tap has read, an alert comes on the
screen that was tapped, a profile screen is opened by the flow that was tapped, and by its controller
(`event_of_tap`). Google apart, whose answer goes to whoever is the delegate by then.

A text message is sent to a number that the user has typed, seen again in an alert, and confirmed
(`message_of_confirmed`). -/

namespace AccountApp.Laws.Causality

open AccountApp.Lib AccountApp.Lib.Machine AccountApp.Lib.Toggle
open AccountApp.Model.Data AccountApp.Model.Screens AccountApp.Model.State AccountApp.Model.Step
open AccountApp.Attempt.Life AccountApp.Attempt.Refine
open AccountApp.Books.Effects AccountApp.Books.Blocks AccountApp.Books.Origins
open AccountApp.Laws.Registration (filledForm)

/-- The controller that was tapped; that of a Google sign-in is not kept. -/
def place : Origin → Option Addr
  | .registration self _ | .email self _ _ | .facebook self | .phone self _ _ | .number self _
  | .message self _ | .reset self _ => some self
  | .google => none

/-- The event is one of an attempt that begins so. -/
def Fits (o : Origin) : Event → Prop
  | .alert _ self _ => place o = some self
  | .authStarted _ call | .authFinished _ call _ | .authCompleted _ call _ _ => o = originOfCall call
  | .fbLogInCompleted _ self _ => o = .facebook self
  | .googleSignedIn .. => o = .google
  | .recordRead _ self _ _ | .profileFilled _ self _ =>
    ∃ email password, o = .email self email password
  | .verified .. => ∃ self number, o = .message self number
  | .performLogin _ self => ∃ number, o = .message self number
  | .performSegue _ .facebook self _ _ => o = .facebook self
  | .performSegue _ .google _ _ _ => o = .google
  | .performSegue _ .email self _ _ => ∃ email password, o = .email self email password
  | .performSegue _ .phone self _ _ => ∃ vid code, o = .phone self vid code
  | _ => True

section Causality
variable {s t : App} {act : Action} {a : Attempt} {e : Event}

/-- The event fits whatever the request can come from. -/
def Suits (r : Request) (e : Event) : Prop :=
  (∃ o, Matches o r) ∧ ∀ o, Matches o r → Fits o e

theorem suits_of_alerts {r : Request} {self : Addr} {alert : Alert} (h : Alerts r self alert) :
    Suits r (.alert (some a) self alert) := by
  cases h with
  | created | refused | failed | reset =>
    refine ⟨⟨_, rfl⟩, ?_⟩
    rintro o rfl
    rfl

theorem suits_of_performs {r : Request} {flow : Flow} {self : Addr} {handed : Flow}
    {profile : ProfileData} (h : Performs s r flow self) :
    Suits r (.performSegue a flow self handed profile) := by
  cases h with
  | facebook | google => exact ⟨⟨_, rfl⟩, fun o ho => ho⟩
  | email self user uid hu => exact ⟨⟨_, "", "", rfl⟩, fun o ho => ho⟩

theorem suits_of_said (h : Said s act e) (ho : owner e = some a) :
    (∃ r, s.requests a = some r ∧ Suits r e) ∨
      ∃ call, e = .authStarted a call ∧ Tap s act call ∧ a = s.next := by
  cases h with
  | spoken e he =>
    refine Or.inl ?_
    cases e with
    | alert cause self alert =>
      obtain rfl : cause = some a := ho
      obtain ⟨r, hr, halert⟩ := he
      exact ⟨r, hr, suits_of_alerts halert⟩
    | authFinished b call answer =>
      obtain rfl := Option.some.inj ho
      exact ⟨_, he, ⟨_, rfl⟩, fun o ho => ho⟩
    | authCompleted b call answer cur =>
      obtain rfl := Option.some.inj ho
      exact ⟨_, he.1, ⟨_, rfl⟩, fun o ho => ho⟩
    | recordRead b self uid snapshot =>
      obtain rfl := Option.some.inj ho
      obtain ⟨⟨user, hr⟩, -⟩ := he
      exact ⟨_, hr, ⟨_, "", "", rfl⟩, fun o ho => ho⟩
    | profileFilled b self profile =>
      obtain rfl := Option.some.inj ho
      obtain ⟨user, uid, hr, -⟩ := he
      exact ⟨_, hr, ⟨_, "", "", rfl⟩, fun o ho => ho⟩
    | verified b answer =>
      obtain rfl := Option.some.inj ho
      obtain ⟨self, number, hr⟩ := he
      exact ⟨_, hr, ⟨_, rfl⟩, fun o ho => ⟨self, number, ho⟩⟩
    | performLogin b self =>
      obtain rfl := Option.some.inj ho
      obtain ⟨number, hr⟩ := he
      exact ⟨_, hr, ⟨_, rfl⟩, fun o ho => ⟨number, ho⟩⟩
    | print line | trapped | fetched b self answer => exact absurd ho (by simp [owner])
    | _ => exact he.elim
  | tapped call hc =>
    obtain rfl := Option.some.inj ho
    exact Or.inr ⟨call, rfl, hc, rfl⟩
  | called b r call hr u hc =>
    obtain rfl := Option.some.inj ho
    exact Or.inl ⟨r, hr, follows_signsIn hc⟩
  | fbLogInCompleted b self answer hr | googleSignedIn b answer hr =>
    obtain rfl := Option.some.inj ho
    exact Or.inl ⟨_, hr, ⟨_, rfl⟩, fun o ho => ho⟩
  | performSegue b r flow self handed profile hr hp =>
    obtain rfl := Option.some.inj ho
    exact Or.inl ⟨r, hr, suits_of_performs hp⟩
  | logged b self vid code user hr =>
    obtain rfl := Option.some.inj ho
    exact Or.inl ⟨_, hr, ⟨_, rfl⟩, fun o ho => ⟨vid, code, ho⟩⟩
  | launched | instantiated | signedOut | recordWritten | presented =>
    exact absurd ho (by simp [owner])

/-- **Every event of an attempt goes back to a tap** that it fits, and whose number it has, with no
launch in between. -/
theorem event_of_tap {device : Device} {as : List Action}
    (hrun : exec device.installed as = some s) (he : e ∈ s.log) (ho : owner e = some a) :
    ∃ before tap after rest o v w x, as = before ++ tap :: (after ++ rest) ∧
      exec device.installed before = some v ∧ step v tap = some w ∧ exec w after = some x ∧
      exec x rest = some s ∧ e ∈ x.log ∧ Begins v o tap ∧ a = v.next ∧ Fits o e ∧
        .launch ∉ after := by
  obtain ⟨before, act, rest, u, x, rfl, hu, hux, hrest, hno, hyes⟩ :=
    exists_step (Q := fun u => e ∈ u.log) hrun (by simp [Device.installed]) he
  rcases suits_of_said (said_of_new hux hyes hno) ho with
    ⟨r, hr, hmatches, hfits⟩ | ⟨call, rfl, hc, ha⟩
  · obtain ⟨before, tap, after, o, v, w, rfl, hv, hvw, hw, ho', hbegins, ha, hlaunch⟩ :=
      exists_begin hu hr hmatches
    have hact : act ≠ .launch := by
      rintro rfl
      obtain rfl := Option.some.inj hux
      rw [log_launch] at hyes
      rcases List.mem_cons.mp hyes with rfl | hyes
      · exact absurd ho (by simp [owner])
      · rcases List.mem_cons.mp hyes with rfl | hyes
        · exact absurd ho (by simp [owner])
        · exact hno hyes
    refine ⟨before, tap, after ++ [act], rest, o, v, w, x, by simp, hv, hvw, ?_, hrest, hyes,
      hbegins, ha, hfits o ho', ?_⟩
    · exact exec_append.mpr ⟨u, hw, exec_cons.mpr ⟨x, hux, exec_nil x⟩⟩
    · rw [List.mem_append, List.mem_singleton]
      exact fun h => h.elim hlaunch hact.symm
  · exact ⟨before, act, [], rest, _, u, x, x, rfl, hu, hux, exec_nil x, hrest, hyes,
      begins_of_tap hc, ha, rfl, List.not_mem_nil⟩

/-- A registration is refused, and its alert is shown when a field has been emptied. -/
def refusedRegistration : List Action := filledForm ++ [.firebaseLoginButtonAction 0,
  .authFinish 1 (.error ⟨"taken", "taken"⟩), .edit (.email 0) "", .authComplete 1]

theorem refusedRegistration_tapped : ∃ s before tap after rest o v w x,
    exec Device.empty.installed refusedRegistration = some s ∧
    refusedRegistration = before ++ tap :: (after ++ rest) ∧
    exec Device.empty.installed before = some v ∧ step v tap = some w ∧ exec w after = some x ∧
    exec x rest = some s ∧ .alert (some 1) 0 (authErrorAlert "taken") ∈ x.log ∧ Begins v o tap ∧
    1 = v.next ∧ place o = some 0 ∧ .launch ∉ after := by
  have hrun : (exec Device.empty.installed refusedRegistration).map (fun s => s.log.head?) =
      some (some (.alert (some 1) 0 (authErrorAlert "taken"))) := by decide
  obtain ⟨s, hs, hhead⟩ := Option.map_eq_some_iff.mp hrun
  obtain ⟨before, tap, after, rest, o, v, w, x, htap⟩ :=
    event_of_tap hs (List.mem_of_mem_head? hhead) rfl
  exact ⟨s, before, tap, after, rest, o, v, w, x, hs, htap⟩

/-- **A text message is sent** to a number the user has typed and has confirmed in the alert. -/
theorem message_of_confirmed {device : Device} {as : List Action} {self : Addr} {number : String}
    (hrun : exec device.installed as = some s)
    (hr : s.requests a = some (.verifyPhone self number)) :
    ∃ before between after v w x, as = before ++ .sendCodeButton self ::
        (between ++ .numberAlert v.next true :: after) ∧
      exec device.installed before = some v ∧ (v.verifyVCs self).numberField = number ∧
      step v (.sendCodeButton self) = some w ∧
      .alert none self (phoneNumberAlert number) ∈ w.log ∧ exec w between = some x ∧
      a = x.next ∧ .launch ∉ between ∧ .launch ∉ after := by
  obtain ⟨before, tap, after, o, x, y, rfl, hx, hxy, hy, rfl, hbegins, ha, hafter⟩ :=
    exists_begin hrun hr ⟨_, rfl⟩
  cases hbegins with
  | message b self number hb =>
    obtain ⟨before, tap, between, o, v, w, rfl, hv, hvw, hw, rfl, hbegins, hb', hbetween⟩ :=
      exists_begin hx hb ⟨_, rfl⟩
    cases hbegins with
    | number self hself =>
      have halert : .alert none self (phoneNumberAlert (v.verifyVCs self).numberField) ∈ w.log := by
        simp only [step, hself, if_true, Option.some.injEq] at hvw
        rw [← hvw]
        exact List.mem_cons_self
      subst hb'
      exact ⟨before, between, after, v, w, x, by simp, hv, rfl, hvw, halert, hw, ha, hbetween,
        hafter⟩

/-- Two numbers are typed, and the first is confirmed when the second is in the field. -/
theorem firstNumber_confirmed : ∃ s before between after v w x, exec Device.empty.installed
    [.launch, .phoneAuthButton 0, .edit (.number 1) "+1", .sendCodeButton 1,
      .edit (.number 1) "+2", .numberAlert 2 true] = some s ∧
    [.launch, .phoneAuthButton 0, .edit (.number 1) "+1", .sendCodeButton 1,
      .edit (.number 1) "+2", .numberAlert 2 true] = before ++ .sendCodeButton 1 ::
        (between ++ .numberAlert v.next true :: after) ∧
    exec Device.empty.installed before = some v ∧ (v.verifyVCs 1).numberField = "+1" ∧
    step v (.sendCodeButton 1) = some w ∧ .alert none 1 (phoneNumberAlert "+1") ∈ w.log ∧
    exec w between = some x ∧ 3 = x.next ∧ .launch ∉ between ∧ .launch ∉ after := by
  have hrun : (exec Device.empty.installed
      [.launch, .phoneAuthButton 0, .edit (.number 1) "+1", .sendCodeButton 1,
        .edit (.number 1) "+2", .numberAlert 2 true]).map (fun s => s.requests 3) =
      some (some (.verifyPhone 1 "+1")) := by decide
  obtain ⟨s, hs, hr⟩ := Option.map_eq_some_iff.mp hrun
  obtain ⟨before, between, after, v, w, x, hsplit⟩ := message_of_confirmed hs hr
  exact ⟨s, before, between, after, v, w, x, hs, hsplit⟩

/-! ### One profile screen for one tap -/

def isSegue : Event → Bool
  | .performSegue .. => true
  | _ => false

/-- How many profile screens can still be opened by an attempt. -/
def ahead : Option Request → ℕ
  | some (.fbDialog _) | some .googleDialog | some (.userRecord ..) => 1
  | some (.auth call) | some (.authDone call _) =>
    match call with
    | .signInEmail .. | .signInFacebook .. | .signInPhone .. => 1
    | .createUser .. | .signInGoogle .. => 0
  | _ => 0

theorem ahead_le (r : Option Request) : ahead r ≤ 1 := by
  unfold ahead
  split
  · exact Nat.le_refl 1
  · exact Nat.le_refl 1
  · exact Nat.le_refl 1
  · split <;> decide
  · split <;> decide
  · decide

theorem countP_of_minor {new : List Event} (hn : ∀ e ∈ new, minor e = true) :
    new.countP isSegue = 0 := by
  refine List.countP_eq_zero.mpr fun e he => ?_
  have hminor := hn e he
  cases e <;> simp_all [minor, isSegue]

/-- The profile screens an attempt has opened and can still open. -/
theorem segues_of_lived {v : View} (h : Lived a v) :
    v.trace.countP isSegue + ahead v.request ≤ 1 := by
  induction h with
  | refl => simp [ahead]
  | tail hv hm ih =>
    cases hm with
    | number => exact ih
    | opened r' hr =>
      obtain ⟨-, rfl⟩ := Lived.fresh hv rfl
      simpa using ahead_le (some r')
    | tapped call hc =>
      obtain ⟨-, rfl⟩ := Lived.fresh hv rfl
      simpa [isSegue] using ahead_le (some (.auth call))
    | closed new hr hn =>
      rw [List.countP_append, countP_of_minor hn]
      simp only [ahead] at ih ⊢
      omega
    | dropped =>
      simp only [ahead] at ih ⊢
      omega
    | @finished b call h answer =>
      have hsame : ahead (some (.authDone call answer)) = ahead (some (.auth call)) := rfl
      simpa [isSegue, hsame] using ih
    | _ =>
      simp only [List.countP_cons, isSegue, ahead, Bool.false_eq_true, if_true, if_false] at ih ⊢
      omega

/-- **One tap opens one profile screen at most**, and then nothing of it can open another. -/
theorem segue_once (h : Reachable s) (a : Attempt) :
    (trace a s.log).countP isSegue + ahead (s.requests a) ≤ 1 := segues_of_lived (lived h a)

/-- The answer of Google opens the screen while the sign-in is still outstanding. -/
theorem googleLogin_once : ∃ s, exec Device.empty.installed [.launch, .googleLoginButton 0,
    .googleFinish 1 (.ok ⟨some ⟨"id", "access"⟩, ⟨none, none, none, none⟩⟩)] = some s ∧
    (trace 1 s.log).countP isSegue + ahead (s.requests 1) ≤ 1 := by
  have hrun : (exec Device.empty.installed [.launch, .googleLoginButton 0,
    .googleFinish 1 (.ok ⟨some ⟨"id", "access"⟩, ⟨none, none, none, none⟩⟩)]).isSome = true := by
    decide
  obtain ⟨s, hs⟩ := Option.isSome_iff_exists.mp hrun
  exact ⟨s, hs, segue_once (reachable_of_exec hs) 1⟩

end Causality

end AccountApp.Laws.Causality
