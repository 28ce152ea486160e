import AccountApp.Books.Blocks

/-! # Signing out

`didTapSignOut` clears the session of Facebook and that of Google, and the one of Firebase unless its
`signOut` throws. Requests that are outstanding are not cancelled: an answer to one of them makes a
session again, and so does a Facebook login that completes in the browser after its dialog is gone.
So the app stays signed out until the next login exactly if `signOut` has not left a user behind and
nothing of this kind comes (`signedOut_iff`). -/

namespace AccountApp.Laws.SignOut

open AccountApp.Lib AccountApp.Lib.Machine
open AccountApp.Model.Data AccountApp.Model.Screens AccountApp.Model.State
open AccountApp.Model.Handlers AccountApp.Model.Step AccountApp.Books.Effects AccountApp.Books.Blocks
open Relation

/-- No provider has a session. -/
structure NoSession (s : App) : Prop where
  firebase : s.currentUser = none
  facebook : s.accessToken = none
  google : s.googleUser = none

/-- The tap starts a login or a registration. -/
def startsLogin (s : App) : Action → Prop
  | .firebaseLoginButtonAction self => (s.vcs self).filledIn = true
  | .fbButton _ | .googleLoginButton _ => True
  | .loginButton _ => s.authVID ≠ none
  | _ => False

/-- A session is granted: Firebase has signed a user in, the Facebook dialog has returned a token, or
Google a user; or the Facebook SDK caches a token that no dialog waits for. -/
def grants : Action → Bool
  | .authFinish _ (.ok _) => true
  | .logInFinish _ answer => (tokenOf answer).isSome
  | .googleFinish _ (.ok _) => true
  | .tokenCached _ => true
  | _ => false

/-! ### One step of a signed-out app -/

section Steps
variable {s₀ s t : App} {act : Action} {k : Bool}

theorem NoSession.effect (hs : NoSession s) (hno : grants act = false) (he : Effect s₀ act k s t) :
    NoSession t := by
  obtain ⟨hfirebase, hfacebook, hgoogle⟩ := id hs
  cases he with
  | launched hact => exact ⟨hfirebase, hfacebook, rfl⟩
  | signedOut self throwing user hact hself huser =>
    exact ⟨huser.elim id fun h => h.trans hfirebase, rfl, rfl⟩
  | current a call user hact hr hnew | cached token hact =>
    subst hact
    exact absurd hno (by simp [grants])
  | dialog a self answer hr hact =>
    subst hact
    have htoken : tokenOf answer = none := by simpa [grants] using hno
    exact ⟨hfirebase, by simp [App.emit, htoken, hfacebook], hgoogle⟩
  | googled a answer hr hact =>
    subst hact
    cases answer with
    | ok user => exact absurd hno (by simp [grants])
    | error e => exact ⟨hfirebase, hfacebook, hgoogle⟩
  | refreshed token hsome hact => exact absurd hsome (by simp [hfacebook])
  | firebaseDropped => exact ⟨rfl, hfacebook, hgoogle⟩
  | facebookDropped => exact ⟨hfirebase, rfl, hgoogle⟩
  | googleDropped => exact ⟨hfirebase, hfacebook, rfl⟩
  | _ => exact ⟨hfirebase, hfacebook, hgoogle⟩

theorem session_of_answers (hgrants : grants act = true) (h : Answers s act t) : ¬ NoSession t := by
  rintro ⟨hfirebase, hfacebook, hgoogle⟩
  cases h with
  | accepted hr hnew => exact absurd hfirebase (by simp)
  | @dialogStopped a self answer hr ht =>
    have htoken : (tokenOf answer).isSome = true := hgrants
    rw [(Option.or_eq_none_iff.mp ht).1] at htoken
    exact absurd htoken (by simp)
  | @dialogDone a self answer token hr ht =>
    change (dialogBegun a self answer (dialogEntered a self answer s)).accessToken = none
      at hfacebook
    rw [accessToken_dialogBegun, ht] at hfacebook
    exact absurd hfacebook (by simp)
  | @googleStopped a user hr ha | @google a user auth hr ha =>
    change (googleEntered a (.ok user) s).googleUser = none at hgoogle
    exact absurd hgoogle (Option.some_ne_none _)
  | _ => exact absurd hgrants (by simp [grants])

/-- A step that grants a session leaves one. -/
theorem session_of_grants (hgrants : grants act = true) (h : step s act = some t) :
    ¬ NoSession t := by
  rcases split_step h with ⟨hnone, -⟩ | hanswers
  · cases act with
    | tokenCached token =>
      obtain rfl := Option.some.inj h
      exact fun hno => absurd hno.facebook (by simp)
    | authFinish | logInFinish | googleFinish => exact absurd hnone (by simp [takes])
    | _ => exact absurd hgrants (by simp [grants])
  · exact session_of_answers hgrants hanswers

/-- **One step of a signed-out app.** It stays signed out exactly if the step grants no session. -/
theorem noSession_step (hs : NoSession s) (h : step s act = some t) :
    NoSession t ↔ grants act = false := by
  constructor
  · intro ht
    by_contra hgrants
    exact session_of_grants (by simpa using hgrants) h ht
  · exact fun hno => step_preserves hs (fun _ _ hu he => hu.effect hno he) h

/-- **What `profileLogout` leaves**: no session but the one of Firebase, if its `signOut` throws. -/
theorem noSession_didTapSignOut (throwing : Option NSError) :
    NoSession (didTapSignOut throwing s) ↔ throwing = none ∨ s.currentUser = none := by
  have hnew : ∀ u : App, u.accessToken = none → u.googleUser = none →
      (NoSession (instantiateViewController u) ↔ u.currentUser = none) := by
    intro u hfacebook hgoogle
    have heq : instantiateViewController u = newMain u := by
      simp [instantiateViewController, initSetup, newMain, App.emit, hfacebook]
    rw [heq]
    exact ⟨fun h => h.firebase, fun h => ⟨h, hfacebook, hgoogle⟩⟩
  refine (hnew _ rfl rfl).trans ?_
  unfold profileLogout authSignOut
  rcases hu : s.currentUser with _ | user
  · simp [App.emit, hu]
  · rcases throwing with _ | e <;> simp [App.emit, hu]

end Steps

/-! ### From the tap to the next login -/

/-- **The app stays signed out until the next login exactly if Firebase's `signOut` has not left its
user there and nothing that comes before that login grants a session.** -/
theorem signedOut_iff {s t u : App} {self : Addr} {throwing : Option NSError} {as : List Action}
    (htap : step s (.didTapSignOut self throwing) = some t) (hrun : exec t as = some u) :
    StaysUntil step startsLogin NoSession t as ↔
      (throwing = none ∨ s.currentUser = none) ∧
        EachUntil step startsLogin (fun _ act => grants act = false) t as := by
  have htapped : NoSession t ↔ throwing = none ∨ s.currentUser = none := by
    cases stepped htap with
    | didTapSignOut hself => exact noSession_didTapSignOut throwing
  have hstays : NoSession t → (StaysUntil step startsLogin NoSession t as ↔
      EachUntil step startsLogin (fun _ act => grants act = false) t as) :=
    staysUntil_iff (fun v act w hv _ hvw => noSession_step hv hvw) hrun
  constructor
  · intro h
    exact ⟨htapped.mp h.head, (hstays h.head).mp h⟩
  · rintro ⟨hleft, heach⟩
    exact (hstays (htapped.mpr hleft)).mpr heach

/-- A login with Google; its call of `Auth.auth().signIn` is outstanding, and the profile screen is
open. -/
def googleLogin : List Action :=
  [.launch, .googleLoginButton 0,
    .googleFinish 1 (.ok ⟨some ⟨"id", "access"⟩, some "A B", some "A", some "B", none⟩),
    .present 2]

/-- If Firebase refuses the credential after the sign-out, the app stays signed out. -/
theorem googleLogin_staysSignedOut : ∃ s t u, exec Device.empty.installed googleLogin = some s ∧
    step s (.didTapSignOut 2 none) = some t ∧
    exec t [.authFinish 1 (.error ⟨"network", "network"⟩), .authComplete 1] = some u ∧
    StaysUntil step startsLogin NoSession t
      [.authFinish 1 (.error ⟨"network", "network"⟩), .authComplete 1] := by
  have hrun : (((exec Device.empty.installed googleLogin).bind fun s =>
      step s (.didTapSignOut 2 none)).bind fun t =>
        exec t [.authFinish 1 (.error ⟨"network", "network"⟩), .authComplete 1]).isSome = true := by
    decide
  obtain ⟨u, hu⟩ := Option.isSome_iff_exists.mp hrun
  obtain ⟨t, ht, htu⟩ := Option.bind_eq_some_iff.mp hu
  obtain ⟨s, hs, hst⟩ := Option.bind_eq_some_iff.mp ht
  refine ⟨s, t, u, hs, hst, htu, (signedOut_iff hst htu).mpr ⟨Or.inl rfl, ?_⟩⟩
  exact fun _ => ⟨rfl, fun _ _ _ => ⟨rfl, fun _ _ => trivial⟩⟩

/-- **A sign-in that is still outstanding at the tap signs the app in again.** -/
theorem googleLogin_signsIn : ¬ ∀ s t u self throwing as, Reachable s →
    step s (.didTapSignOut self throwing) = some t → exec t as = some u →
      StaysUntil step startsLogin NoSession t as := by
  intro H
  have hrun : (((exec Device.empty.installed googleLogin).bind fun s =>
      step s (.didTapSignOut 2 none)).bind fun t =>
        step t (.authFinish 1 (.ok ⟨"u", none, none, "google.com"⟩))).map App.currentUser =
          some (some ⟨"u", none, none, "google.com"⟩) := by decide
  obtain ⟨u, hu, hcur⟩ := Option.map_eq_some_iff.mp hrun
  obtain ⟨t, ht, htu⟩ := Option.bind_eq_some_iff.mp hu
  obtain ⟨s, hs, hst⟩ := Option.bind_eq_some_iff.mp ht
  have hstays := H s t u 2 none [.authFinish 1 (.ok ⟨"u", none, none, "google.com"⟩)]
    (reachable_of_exec hs) hst (exec_cons.mpr ⟨u, htu, rfl⟩)
  have hno : NoSession u := hstays.2 (fun h => h) u htu
  simp [hno.firebase] at hcur

end AccountApp.Laws.SignOut
