import AccountApp.Joint.Agreement

/-! # Runs of the two

A step of the app and the SDK keeps their agreement, and the app's own machine makes it by the actions
`actionsOf` lists (`goes_step`). So it is with runs: the two always agree (`going`), and a run of the
two is one of the SDK (`facebook_exec`) and one of the app (`app_exec`), action by action. -/

namespace AccountApp.Joint.Run

open Relation
open AccountApp.Lib AccountApp.Lib.Machine AccountApp.Lib.Replay AccountApp.Lib.History
open AccountApp.Lib.Simulation
open AccountApp.Model.Data (NSError)
open AccountApp.Model.State (Addr App Attempt Device)
open AccountApp.Dialog.LoginManager hiding NSError
open AccountApp.Dialog.Effects AccountApp.Dialog.Handlers
open AccountApp.Joint.Footprint AccountApp.Joint.Step AccountApp.Joint.Agreement

section Step
variable {initial : Option FBSDKAccessToken} {S T : System} {s t : App} {f f₀ g : Facebook}
  {act : Action} {self : Addr}

/-- What the step `act` from `S` to `T` keeps, and how the app makes it by itself. -/
structure Goes (initial : Option FBSDKAccessToken) (S : System) (act : Action) (T : System) :
    Prop where
  agree : Agree initial T.app T.facebook
  dialogs : Dialogs T.app T.facebook
  follows : Model.Step.exec S.app (actionsOf S act) = some T.app

theorem exec_one {act : Model.Step.Action} (h : Model.Step.step s act = some t) :
    Model.Step.exec s [act] = some t := exec_cons.mpr ⟨t, h, rfl⟩

theorem goes_app {act : Model.Step.Action} (h : Agree initial S.app S.facebook)
    (hdialogs : Dialogs S.app S.facebook) (hf : Handled S.facebook) (hact : shared act = false)
    (hst : Model.Step.step S.app act = some t) :
    Goes initial S (.app act) { S with app := t } := by
  have hframe : Frame S.app t := by
    refine frame_step hst ?_
    cases act <;> first | rfl | exact absurd hact (by simp [shared])
  have htoken : t.accessToken = S.app.accessToken := by
    refine token_step hst ?_
    cases act with
    | sessionDropped provider =>
      cases provider <;> first | rfl | exact absurd hact (by simp [shared])
    | _ => first | rfl | exact absurd hact (by simp [shared])
  exact ⟨h.frame hf hframe htoken, hdialogs.frame hf h.fresh hframe, exec_one hst⟩

theorem serve_led {b : Dialog.Step.Action} {l : List Event} (h : Agree initial s f₀)
    (hf : Handled f₀) (hbegun : f₀.log = l ++ f.log) (hunheard : replay deliver s l = s)
    (hunserved : served l = []) (hruns : Runs f₀ b f₀ g)
    (hst : Dialog.Step.step f b = some g.release) :
    ∃ t, serve g.release ⟨s, f⟩ = ⟨t, g.release⟩ ∧ Led initial s f₀ t g.release ∧
      Model.Step.exec s (repliesOf f b) = some t := by
  obtain ⟨t, hled⟩ := h.runs hf hruns
  obtain ⟨new, hlog, ht, hfollow⟩ := hled.served
  have hall : g.release.log = (new ++ l) ++ f.log := by
    rw [List.append_assoc, ← hbegun]
    exact hlog
  refine ⟨t, ?_, hled.released, ?_⟩
  · rw [serve_eq (S := ⟨s, f⟩) hall, replay_append, hunheard, ht]
  · rw [repliesOf_eq hst hall, served_append, hunserved]
    exact hfollow

theorem agree_begun (h : Agree initial S.app S.facebook) (hf : Handled S.facebook)
    (random : Challenge) :
    Agree initial (Model.Handlers.fbButton self S.app)
      (begun S.app.next permissions random S.facebook) where
  token := h.token
  dialog m a ha := by
    by_cases hm : m = .login S.app.next
    · rw [hm] at ha
      obtain rfl : S.app.next = a := by simpa [begun, Facebook.emit] using ha
      exact ⟨self, Function.update_self ..⟩
    · have hold : (S.facebook.managers m).handler = some a := by
        simpa [begun, Facebook.emit, hm] using ha
      obtain ⟨i, hr⟩ := h.dialog m a hold
      have hlt : a < S.app.next := Nat.lt_of_lt_of_le (hf.lt hold) h.fresh
      have hne : a ≠ S.app.next := Nat.ne_of_lt hlt
      exact ⟨i, (Function.update_of_ne hne ..).trans hr⟩
  fresh := Nat.le_refl _
  heard := h.heard
  current token ht := (h.current token ht).mono fun _ => List.mem_cons_of_mem _
  credentials a i tokenString he :=
    (h.credentials a i tokenString he).mono fun _ => List.mem_cons_of_mem _

theorem dialogs_begun (h : Dialogs S.app S.facebook) (hf : Handled S.facebook)
    (hfresh : S.facebook.fresh ≤ S.app.next) (random : Challenge) :
    Dialogs (Model.Handlers.fbButton self S.app)
      (begun S.app.next permissions random S.facebook) := by
  intro a
  have hcalls : calls a (begun S.app.next permissions random S.facebook).log =
      calls a S.facebook.log := calls_other rfl
  rw [hcalls, logins_begun, List.mem_cons]
  by_cases ha : a = S.app.next
  · subst ha
    exact iff_of_true ⟨self, Function.update_self ..⟩ ⟨Or.inl rfl, (hf.fresh _ hfresh).2.1⟩
  · have hrequests : (Model.Handlers.fbButton self S.app).requests a = S.app.requests a :=
      Function.update_of_ne ha ..
    rw [hrequests, or_iff_right ha]
    exact h a

theorem agree_restarted (h : Agree initial s f) : Agree initial s (restarted f) where
  token := h.token
  dialog m a ha := absurd ha (by simp [restarted, launch, Facebook.emit])
  fresh := h.fresh
  heard := h.heard
  current token ht := (h.current token ht).mono fun _ => List.mem_cons_of_mem _
  credentials a i tokenString he :=
    (h.credentials a i tokenString he).mono fun _ => List.mem_cons_of_mem _

theorem handlers_runs {act : Dialog.Step.Action} (hf : ∀ m, (f.managers m).handler = none)
    (hruns : Runs f₀ act f g) : ∀ m, (g.managers m).handler = none := by
  refine runs_preserve (J := fun g => ∀ m, (g.managers m).handler = none) hf ?_ hruns
  intro f' g' ih he m
  cases he with
  | changed m' k hm hk => exact (handler_modify (fun manager => (hk manager).1) m).trans (ih m)
  | refused m' reply hm hreply => rw [handler_invokeHandler, ih m, ite_self]
  | granted m' token granted declined hm hs =>
    rw [handler_invokeHandler]
    exact (congrArg _ (ih m)).trans (ite_self _)
  | _ => exact ih m

/-- The app is launched, and nothing waits in the SDK. -/
theorem agree_launch (h : Agree initial s g) (hg : ∀ m, (g.managers m).handler = none) :
    Agree initial (Model.Handlers.launch s) g := by
  have hlaunch : Model.Step.step s .launch = some (Model.Handlers.launch s) := rfl
  have hlog := Books.Blocks.log_launch s
  have hnext := Nat.le_trans h.fresh (Books.Blocks.next_step hlaunch)
  refine ⟨(token_step hlaunch rfl).trans h.token, fun m a ha => ?_, hnext, ?_, h.current,
    fun a i tokenString he => h.credentials a i tokenString ?_⟩
  · rw [hg m] at ha
    simp at ha
  · rw [hlog]
    exact h.heard
  · rw [hlog] at he
    simpa using he

/-- After a launch no dialog is outstanding, and no login has been started. -/
theorem dialogs_launch (hg : logins g.log = []) : Dialogs (Model.Handlers.launch s) g := by
  intro a
  rw [hg]
  refine iff_of_false ?_ fun ha => absurd ha.1 List.not_mem_nil
  rintro ⟨i, hr⟩
  obtain ⟨-, hfetch⟩ := Books.Blocks.requests_launch hr
  exact absurd hfetch (by simp)

/-- **Signing out**: both have no token. -/
theorem agree_signOut {throwing : Option NSError} (h : Agree initial S.app S.facebook)
    (hf : Handled S.facebook)
    (hst : Model.Step.step S.app (.didTapSignOut self throwing) = some t) :
    Agree initial t (logOut S.facebook) := by
  have hnone : t.accessToken = none := by
    cases Model.Step.stepped hst with
    | didTapSignOut hself => rfl
  have hframe : Frame S.app t := frame_step hst rfl
  have hkept : Agree initial { t with accessToken := S.app.accessToken } S.facebook :=
    h.frame hf ⟨hframe.next, hframe.dialog, hframe.dialogs, hframe.log⟩ rfl
  have hdropped := hkept.tokened .dropped none rfl fun t ht => absurd ht (by simp)
  rwa [Option.map_none, ← hnone] at hdropped

/-- **The launch**: the SDK is started before the app. -/
theorem goes_launch (h : Agree initial S.app S.facebook) (hn : Numbered S.facebook)
    (hf : Handled S.facebook) {url : Option (NSURL × String)}
    (hg : Dialog.Step.step S.facebook (.launch url) = some g) :
    Goes initial S (.launch url)
      { serve g S with app := Model.Handlers.launch (serve g S).app } := by
  obtain ⟨f₀, g', hbegins, hruns, rfl⟩ := runs_step hn hg
  have hf₀ : Handled f₀ := hf.begins hbegins
  cases hbegins with
  | same _ hact => exact absurd hact (by simp [initiates])
  | restarted url =>
    obtain ⟨t, hserve, hled, hfollow⟩ := serve_led (l := [_]) (agree_restarted h) hf₀ rfl rfl rfl
      hruns hg
    have hserve' : serve g'.release S = ⟨t, g'.release⟩ := hserve
    rw [hserve']
    refine ⟨agree_launch hled.agree fun m => ?_, dialogs_launch ?_, ?_⟩
    · rw [handler_release, handlers_runs (fun _ => rfl) hruns m, ite_self]
    · exact (logins_runs hruns).trans (since_reset rfl)
    · exact exec_append.mpr ⟨t, hfollow, rfl⟩

theorem goes_step (h : Agree initial S.app S.facebook) (hdialogs : Dialogs S.app S.facebook)
    (hn : Numbered S.facebook) (hf : Handled S.facebook) (hst : step S act = some T) :
    Goes initial S act T := by
  cases act with
  | app act =>
    simp only [step] at hst
    split_ifs at hst with hact
    obtain ⟨t, ht, rfl⟩ := Option.map_eq_some_iff.mp hst
    exact goes_app h hdialogs hf (by simpa using hact) ht
  | facebook act =>
    simp only [step] at hst
    split_ifs at hst with hact
    obtain ⟨g, hg, rfl⟩ := Option.map_eq_some_iff.mp hst
    obtain ⟨f₀, g', hbegins, hruns, rfl⟩ := runs_step hn hg
    cases hbegins with
    | same _ hb =>
      obtain ⟨t, hserve, hled, hfollow⟩ := serve_led (l := []) h hf rfl rfl rfl hruns hg
      have hserve' : serve g'.release S = ⟨t, g'.release⟩ := hserve
      rw [hserve']
      exact ⟨hled.agree, hled.dialogs hdialogs, hfollow⟩
    | begun | restarted => exact absurd rfl hact
  | fbButton self random shown =>
    obtain ⟨t, ht, hst⟩ := Option.bind_eq_some_iff.mp hst
    obtain ⟨g, hg, rfl⟩ := Option.map_eq_some_iff.mp hst
    obtain ⟨f₀, g', hbegins, hruns, rfl⟩ := runs_step hn hg
    have htap : t = Model.Handlers.fbButton self S.app := by
      cases Model.Step.stepped ht with
      | fbButton => rfl
    subst htap
    have hf₀ : Handled f₀ := hf.begins hbegins
    cases hbegins with
    | same _ hact => exact absurd hact (by simp [initiates])
    | begun a _ random shown ha =>
      obtain ⟨t, hserve, hled, hfollow⟩ := serve_led (f := S.facebook) (l := [_])
        (agree_begun h hf random) hf₀ rfl rfl rfl hruns hg
      rw [hserve]
      exact ⟨hled.agree, hled.dialogs (dialogs_begun hdialogs hf h.fresh random),
        exec_cons.mpr ⟨_, ht, hfollow⟩⟩
  | didTapSignOut self throwing =>
    obtain ⟨t, ht, hst⟩ := Option.bind_eq_some_iff.mp hst
    obtain ⟨g, hg, rfl⟩ := Option.map_eq_some_iff.mp hst
    obtain rfl := Option.some.inj hg
    have hframe : Frame S.app t := frame_step ht rfl
    exact ⟨(agree_signOut h hf ht).released,
      (hdialogs.frame hf h.fresh hframe).quiet (e := .dropped) rfl rfl rfl, exec_one ht⟩
  | launch url =>
    simp only [step] at hst
    obtain ⟨g, hg, rfl⟩ := Option.map_eq_some_iff.mp hst
    exact goes_launch h hn hf hg

theorem facebook_step (hst : step S act = some T) :
    Dialog.Step.exec S.facebook (callsOf S act) = some T.facebook := by
  have hone : ∀ {b g}, Dialog.Step.step S.facebook b = some g →
      Dialog.Step.exec S.facebook [b] = some g := fun hg => exec_cons.mpr ⟨_, hg, rfl⟩
  cases act with
  | app act =>
    simp only [step] at hst
    split_ifs at hst
    obtain ⟨t, -, rfl⟩ := Option.map_eq_some_iff.mp hst
    rfl
  | facebook act =>
    simp only [step] at hst
    split_ifs at hst
    obtain ⟨g, hg, rfl⟩ := Option.map_eq_some_iff.mp hst
    exact hone hg
  | fbButton | didTapSignOut =>
    obtain ⟨t, -, hst⟩ := Option.bind_eq_some_iff.mp hst
    obtain ⟨g, hg, rfl⟩ := Option.map_eq_some_iff.mp hst
    exact hone hg
  | launch url =>
    simp only [step] at hst
    obtain ⟨g, hg, rfl⟩ := Option.map_eq_some_iff.mp hst
    exact hone hg

end Step

/-! ### Runs -/

section Run
variable {device : Device} {appID : String} {token : Option FBSDKAccessToken}
  {challenge : Option Challenge} {S T : System} {act : Action} {as : List Action} {a : Attempt}

/-- What is true of the two at any time. -/
structure Going (initial : Option FBSDKAccessToken) (S : System) : Prop where
  agree : Agree initial S.app S.facebook
  dialogs : Dialogs S.app S.facebook
  facebook : Dialog.Step.Reachable S.facebook

theorem Going.step (h : Going token S) (hst : Step.step S act = some T) :
    Going token T ∧ Goes token S act T := by
  have hgoes := goes_step h.agree h.dialogs (numbered h.facebook) (handled h.facebook) hst
  exact ⟨⟨hgoes.agree, hgoes.dialogs, h.facebook.exec (facebook_step hst)⟩, hgoes⟩

theorem going_installed : Going token (installed device appID token challenge) where
  agree := by
    refine ⟨rfl, fun m a ha => absurd ha ?_, Nat.le_refl _, rfl, fun t ht => .stored t ht rfl,
      fun a self tokenString he => absurd he List.not_mem_nil⟩
    exact (Option.some_ne_none a).symm
  dialogs a := by
    refine iff_of_false ?_ fun ha => absurd ha.1 List.not_mem_nil
    rintro ⟨i, hr⟩
    exact absurd hr (Option.some_ne_none _).symm
  facebook := .initial ⟨appID, token, challenge, rfl⟩

theorem Going.exec (h : Going token S) (hrun : Step.exec S as = some T) : Going token T :=
  exec_preserves (fun _ _ _ hU hst => (Going.step hU hst).1) h hrun

theorem going (hrun : Step.exec (installed device appID token challenge) as = some S) :
    Going token S := going_installed.exec hrun

theorem facebook_exec (hrun : Step.exec S as = some T) :
    Dialog.Step.exec S.facebook (translate Step.step callsOf S as) = some T.facebook :=
  exec_translate (I := fun _ => True) (fun _ _ _ _ hst => ⟨trivial, facebook_step hst⟩) trivial hrun

theorem not_launch_of_callsOf (hst : Step.step S act = some T) (hact : ∀ url, act ≠ .launch url)
    {b : Dialog.Step.Action} (hb : b ∈ callsOf S act) : ∀ url, b ≠ .launch url := by
  rintro url rfl
  cases act with
  | facebook act =>
    obtain rfl := List.mem_singleton.mp hb
    simp [Step.step, Step.requested] at hst
  | launch url => exact hact url rfl
  | _ => simp [callsOf] at hb

theorem logins_exec (h : Going token S) (hrun : Step.exec S as = some T)
    (has : ∀ act ∈ as, ∀ url, act ≠ .launch url) (ha : a ∈ logins S.facebook.log) :
    a ∈ logins T.facebook.log := by
  have hall : Going token T ∧ a ∈ logins T.facebook.log := by
    refine exec_preserves_of (I := fun U => Going token U ∧ a ∈ logins U.facebook.log) ?_ ⟨h, ha⟩
      has hrun
    rintro U act V ⟨hU, hmem⟩ hact hst
    exact ⟨(hU.step hst).1, mem_logins_exec hU.facebook (facebook_step hst)
      (fun b hb => not_launch_of_callsOf hst hact hb) hmem⟩
  exact hall.2

end Run
end AccountApp.Joint.Run
