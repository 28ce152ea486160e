import AccountApp.Attempt.Refine

/-! # A dialog that fails

The completion block of the Facebook dialog looks at the error and not at the cancellation, and
whatever it has seen it goes on to the cached token. A dialog that fails changes nothing exactly if
it fails with an error and no token is cached (`changesNothing_iff`); a cancelled one always starts a
fetch and takes `checkSystem` for Facebook.

Nothing is asked of the state but that what is outstanding has a number, as in every state a run
gets into (`allocated`). -/

namespace AccountApp.Laws.FacebookDialog

open AccountApp.Lib
open AccountApp.Model.Data AccountApp.Model.Screens AccountApp.Model.State
open AccountApp.Model.Handlers AccountApp.Model.Step
open AccountApp.Attempt.Life AccountApp.Attempt.Refine

/-- The dialog reports an error, or that it was cancelled. -/
def failed : Answer LoginManagerLoginResult → Bool
  | .error _ => true
  | .ok result => result.isCancelled

/-- The segues of attempt `a`. -/
def segues (a : Attempt) (log : List Event) : List Event :=
  (trace a log).filter fun e => e matches .performSegue ..

/-- Between `s` and `t` attempt `a` changes nothing: no profile variable and no `checkSystem` is
written, nothing new is outstanding, and there is no segue of the attempt, then or later. -/
structure ChangesNothing (s t : App) (a : Attempt) : Prop where
  checkSystem : ∀ i, (t.vcs i).checkSystem = (s.vcs i).checkSystem
  fbProfileData : ∀ i, (t.vcs i).fbProfileData = (s.vcs i).fbProfileData
  gProfileData : ∀ i, (t.vcs i).gProfileData = (s.vcs i).gProfileData
  fireProfileData : ∀ i, (t.vcs i).fireProfileData = (s.vcs i).fireProfileData
  requests : ∀ b r, t.requests b = some r → s.requests b = some r
  segues : ∀ as u, exec t as = some u → segues a u.log = segues a s.log

section Dialog
variable {s t : App} {a : Attempt} {self : Addr}

theorem logInFinish_error {e : NSError} (hr : s.requests a = some (.fbDialog self))
    (htoken : s.accessToken = none) (h : step s (.logInFinish a (.error e)) = some t) :
    t.vcs = s.vcs ∧ t.next = s.next ∧ t.requests = Function.update s.requests a none ∧
      t.log = .print "Failed to get access token" ::
        .print ("Failed to login: " ++ e.localizedDescription) ::
        .fbLogInCompleted a self (.error e) :: s.log := by
  simp only [step, hr, Option.some.injEq] at h
  rw [← h]
  simp [logInCompletion, tokenOf, htoken, App.emit, App.answered]

theorem logInFinish_cached {e : NSError} {token : AccessToken}
    (hr : s.requests a = some (.fbDialog self)) (htoken : s.accessToken = some token)
    (h : step s (.logInFinish a (.error e)) = some t) :
    t.requests a = some (.auth (.signInFacebook self token.tokenString)) := by
  simp only [step, hr, Option.some.injEq] at h
  rw [← h]
  simp [logInCompletion, tokenOf, htoken, App.emit, App.answered, App.callAuth, App.await]

theorem logInFinish_ok {result : LoginManagerLoginResult} (hs : Allocated s)
    (hr : s.requests a = some (.fbDialog self))
    (h : step s (.logInFinish a (.ok result)) = some t) :
    t.requests s.next = some (.fetchProfile self (some a)) := by
  have hlt : a < s.next := hs a (by simp [hr])
  have hne : s.next ≠ a := Nat.ne_of_gt hlt
  simp only [step, hr, Option.some.injEq] at h
  rw [← h]
  simp only [logInCompletion]
  split
  · simp [App.emit, App.modify, loadFBData, App.start, App.await, App.answered]
  · simp [App.emit, App.modify, loadFBData, App.start, App.await, App.answered, App.callAuth, hne]

/-- **A dialog that fails changes nothing exactly if it reports an error and no token is cached.** -/
theorem changesNothing_iff {answer : Answer LoginManagerLoginResult} (hs : Allocated s)
    (hr : s.requests a = some (.fbDialog self)) (hfailed : failed answer = true)
    (h : step s (.logInFinish a answer) = some t) :
    ChangesNothing s t a ↔ (∃ e, answer = .error e) ∧ s.accessToken = none := by
  have hlt : a < s.next := hs a (by simp [hr])
  cases answer with
  | ok result =>
    refine iff_of_false (fun H => ?_) (by simp)
    have hfetch := H.requests _ _ (logInFinish_ok hs hr h)
    have hlt' : s.next < s.next := hs s.next (by simp [hfetch])
    exact absurd hlt' (Nat.lt_irrefl _)
  | error e =>
    rcases htoken : s.accessToken with _ | token
    · refine iff_of_true ?_ ⟨⟨e, rfl⟩, rfl⟩
      obtain ⟨hvcs, hnext, hrequests, hlog⟩ := logInFinish_error hr htoken h
      have ht : Allocated t := (moves_step hs h).allocated hs
      have hretired : t.requests a = none := by rw [hrequests, Function.update_self]
      refine ⟨fun i => by rw [hvcs], fun i => by rw [hvcs], fun i => by rw [hvcs],
        fun i => by rw [hvcs], fun b r hb => ?_, fun as u hrun => ?_⟩
      · have hne : b ≠ a := by
          rintro rfl
          rw [hretired] at hb
          exact absurd hb (by simp)
        rwa [hrequests, Function.update_of_ne hne] at hb
      · unfold segues
        rw [trace_of_retired ht (hnext ▸ hlt) hretired hrun, hlog]
        simp [owner]
    · refine iff_of_false (fun H => ?_) (by simp)
      have hcall := H.requests _ _ (logInFinish_cached hr htoken h)
      rw [hr] at hcall
      exact absurd hcall (by simp)

end Dialog

/-- An error changes nothing on a device without a token. -/
theorem refusedDialog_changesNothing : ∃ s t, exec Device.empty.installed
    [.launch, .fbButton 0] = some s ∧
    step s (.logInFinish 1 (.error ⟨"refused", "refused"⟩)) = some t ∧
      ChangesNothing s t 1 := by
  have hrun : (exec Device.empty.installed [.launch, .fbButton 0]).map (fun s =>
      (s.requests 1, s.accessToken, (step s (.logInFinish 1 (.error ⟨"refused", "refused"⟩))).isSome)) =
        some (some (.fbDialog 0), none, true) := by decide
  obtain ⟨s, hs, hl⟩ := Option.map_eq_some_iff.mp hrun
  simp only [Prod.mk.injEq] at hl
  obtain ⟨hr, htoken, hstep⟩ := hl
  obtain ⟨t, ht⟩ := Option.isSome_iff_exists.mp hstep
  exact ⟨s, t, hs, ht, (changesNothing_iff (allocated (reachable_of_exec hs)) hr rfl ht).mpr
    ⟨⟨_, rfl⟩, htoken⟩⟩

/-- A device on which a Facebook token is cached. -/
def cachedToken : Device := { Device.empty with accessToken := some ⟨"cached"⟩ }

/-- **An error with a cached token starts a sign-in.** -/
theorem refusedDialog_signsIn : ¬ ∀ s t a self answer, Reachable s →
    s.requests a = some (.fbDialog self) → failed answer = true →
    step s (.logInFinish a answer) = some t → ChangesNothing s t a := by
  intro H
  have hrun : (exec cachedToken.installed [.launch, .fbButton 0]).bind (fun s =>
      (step s (.logInFinish 2 (.error ⟨"refused", "refused"⟩))).map fun t => (s.requests 2, t.requests 2)) =
        some (some (.fbDialog 0), some (.auth (.signInFacebook 0 "cached"))) := by decide
  obtain ⟨s, hs, hst⟩ := Option.bind_eq_some_iff.mp hrun
  obtain ⟨t, ht, hl⟩ := Option.map_eq_some_iff.mp hst
  obtain ⟨hr, hcall⟩ := Prod.mk.inj hl
  have hnothing := H s t 2 0 (.error ⟨"refused", "refused"⟩) (reachable_of_exec hs) hr rfl ht
  rw [hnothing.requests 2 _ hcall] at hr
  exact absurd hr (by simp)

end AccountApp.Laws.FacebookDialog
