import Mathlib.Logic.Relation
import AccountApp.Dialog.Step

/-! # What the SDK does in a step

As for the app, `Effect f₀ act` lists the pieces the code of a step is made of, with what is true
when they run. A step first makes a manager, or starts the process, if that is what it does
(`Begins`), then it is a sequence of pieces, and at last managers are freed (`runs_step`). What a
piece does to a manager it does to one the step concerns: one that waits for a URL or for a block, or
the new one.

A token is made the current one in one piece, `granted`, together with the call of the handler. That
piece says where the token comes from: from parameters whose challenge has passed. -/

namespace AccountApp.Dialog.Effects

open Relation
open AccountApp.Lib.Machine
open AccountApp.Model.Data (Dictionary)
open AccountApp.Model.State (Attempt)
open AccountApp.Dialog.LoginManager AccountApp.Dialog.Step

/-- Something may still come back to the manager. -/
inductive Waits (f : Facebook) (m : Ref) : Prop
  | url (h : f.pendingURLOpen = some m)
  | block (p : ℕ) (r : Pending) (hr : f.pending p = some r) (hm : managerOf r = some m)

/-- The managers a step may do something to. -/
inductive Concerned (f : Facebook) (act : Action) : Ref → Prop
  | waits {m : Ref} (h : Waits f m) : Concerned f act m
  | started (a : Attempt) (permissions : Finset String) (random : Challenge) (shown : Browser)
      (hact : act = .logIn a permissions random shown) (ha : a < f.fresh) :
      Concerned f act (.login a)
  | launched (url : Option (NSURL × String)) (hact : act = .launch url) : Concerned f act .launch

/-- The token comes from parameters of the manager `m` whose challenge has passed. -/
def Accepted (log : List Event) (m : Ref) (tokenString : String) : Prop :=
  ∃ parameters, .completed m parameters true ∈ log ∧
    parameters.accessTokenString = some tokenString

/-- What is true of a block that is kept for later. -/
def Proper (log : List Event) : Pending → Prop
  | .validate m _ token _ _ => Accepted log m token.tokenString
  | _ => True

/-- Where a token comes from that is made the current one. -/
inductive Source (f₀ f : Facebook) (m : Ref) (token : FBSDKAccessToken) : Prop
  | accepted (h : Accepted f.log m token.tokenString)
  | validated (p : ℕ) (currentToken : FBSDKAccessToken) (granted : Finset String)
      (declined : Option (Finset String))
      (hp : f₀.pending p = some (.validate m currentToken token granted declined))

/-- The URL a step brings, and the app it comes from. -/
def urlOf : Action → Option (NSURL × String)
  | .openURL url sourceApplication => some (url, sourceApplication)
  | .sessionFinish _ (.ok url) => some (url, "com.apple")
  | .launch url => url
  | _ => none

/-- The parameters a block keeps until its request to the graph is answered. -/
def parametersIn : Pending → Option FBSDKLoginCompletionParameters
  | .exchangeNonce _ parameters | .requestMe _ parameters => some parameters
  | _ => none

/-- Where a challenge comes from: from a URL that may be opened, or from parameters that are kept. -/
inductive Brought (f₀ : Facebook) (act : Action) (challenge : Option Challenge) : Prop
  | url (url : NSURL) (sourceApplication : String) (hact : urlOf act = some (url, sourceApplication))
      (hopen : canOpenURL url sourceApplication f₀ = true)
      (h : challenge = (parametersOf url).challenge)
  | block (p : ℕ) (r : Pending) (parameters : FBSDKLoginCompletionParameters)
      (hp : f₀.pending p = some r) (hr : parametersIn r = some parameters)
      (h : challenge = parameters.challenge)

/-- The token a handler is called with. -/
def tokenOf : Reply → Option FBSDKAccessToken
  | .ok result => result.token
  | .error _ => none

/-- The login of attempt `a` has its manager, and its challenge is the one expected. -/
def begun (a : Attempt) (permissions : Finset String) (random : Challenge) (f : Facebook) :
    Facebook :=
  Facebook.emit (.started a (stringForChallenge random))
    { f with
      managers := Function.update f.managers (.login a)
        { handler := some a, state := .start, requestedPermissions := some permissions }
      expectedChallenge := some (stringForChallenge random)
      fresh := a + 1 }

/-- The challenge is compared, and is not expected again. -/
def consumed (m : Ref) (parameters : FBSDKLoginCompletionParameters) (f : Facebook) : Facebook :=
  { f.emit (.completed m parameters (challengePassed parameters f)) with expectedChallenge := none }

/-- The process is started, without a URL. -/
def restarted (f : Facebook) : Facebook := launch none f

/-- The step makes a manager or starts the process. -/
def initiates : Action → Bool
  | .logIn .. | .launch _ => true
  | _ => false

/-- Where the pieces of the step `act` start from. -/
inductive Begins (f : Facebook) : Action → Facebook → Prop
  | same (act : Action) (hact : initiates act = false) : Begins f act f
  | begun (a : Attempt) (permissions : Finset String) (random : Challenge) (shown : Browser)
      (ha : f.fresh ≤ a) :
      Begins f (.logIn a permissions random shown) (begun a permissions random f)
  | restarted (url : Option (NSURL × String)) : Begins f (.launch url) (restarted f)

/-- A piece of the code of the step `act` from `f₀`. -/
inductive Effect (f₀ : Facebook) (act : Action) : Facebook → Facebook → Prop
  | changed {f} (m : Ref) (g : FBSDKLoginManager → FBSDKLoginManager) (hm : Concerned f₀ act m)
      (hg : ∀ manager, (g manager).handler = manager.handler ∧
        (g manager).requestedPermissions = manager.requestedPermissions) :
      Effect f₀ act f (f.modify m g)
  | bridged {f} (session : Option ℕ) (expecting requesting : Bool) : Effect f₀ act f
      { f with
        authenticationSession := session
        expectingBackground := expecting
        isRequestingSFAuthenticationSession := requesting }
  | hooked {f} (m : Ref) (hm : Concerned f₀ act m) :
      Effect f₀ act f { f with pendingURLOpen := some m }
  | unhooked {f} : Effect f₀ act f { f with pendingURLOpen := none }
  | sessioned {f} (m : Option Ref) : Effect f₀ act f { f with sessionHandler := m }
  | answered {f} (p : ℕ) : Effect f₀ act f (f.answered p)
  | awaited {f} (r : Pending) (hm : ∀ m, managerOf r = some m → Concerned f₀ act m)
      (hr : Proper f.log r)
      (hb : ∀ parameters, parametersIn r = some parameters → Brought f₀ act parameters.challenge) :
      Effect f₀ act f (f.await r)
  | consumed {f} (m : Ref) (parameters : FBSDKLoginCompletionParameters)
      (hm : Concerned f₀ act m) (hb : Brought f₀ act parameters.challenge) :
      Effect f₀ act f (consumed m parameters f)
  | refused {f} (m : Ref) (reply : Reply) (hm : Concerned f₀ act m) (hreply : tokenOf reply = none) :
      Effect f₀ act f (invokeHandler m reply f)
  | granted {f} (m : Ref) (token : FBSDKAccessToken) (granted : Finset String)
      (declined : Option (Finset String)) (hm : Concerned f₀ act m) (hs : Source f₀ f m token) :
      Effect f₀ act f
        (invokeHandler m (.ok (loginResult token granted declined)) (cacheToken m token f))
  | dropped {f} : Effect f₀ act f (dropToken f)
  | refreshed {f} (currentToken : FBSDKAccessToken) (tokenString : Option String)
      (permissions : Option (Finset String × Finset String))
      (hcurrent : f.currentAccessToken = some currentToken) :
      Effect f₀ act f
        ((f.emit (.refreshed (refreshedToken currentToken tokenString permissions)))
          |>.setCurrentAccessToken
            (some (refreshedToken currentToken tokenString permissions)))

/-- A sequence of pieces. -/
abbrev Runs (f₀ : Facebook) (act : Action) (f g : Facebook) : Prop :=
  ReflTransGen (Effect f₀ act) f g

/-- No manager is in use for an attempt that has had no login, and no block has a number to come. -/
structure Numbered (f : Facebook) : Prop where
  manager : ∀ a, f.fresh ≤ a → f.managers (.login a) = {}
  waits : ∀ a, Waits f (.login a) → a < f.fresh
  pending : ∀ p, f.next ≤ p → f.pending p = none

/-! ### The methods -/

theorem challenge_exchanged (parameters : FBSDKLoginCompletionParameters)
    (answer : Except NSError (Option String)) :
    (exchanged parameters answer).challenge = parameters.challenge := by
  cases answer <;> rfl

theorem challenge_requested (parameters : FBSDKLoginCompletionParameters)
    (me : Except NSError (Option String)) (permissions : Except NSError Dictionary) :
    (requested parameters me permissions).challenge = parameters.challenge := by
  cases me <;> cases permissions <;> rfl

section Methods
variable {f₀ f : Facebook} {act : Action} {m : Ref}

theorem runs_handleImplicitCancelOfLogIn (hm : Concerned f₀ act m) :
    Runs f₀ act f (handleImplicitCancelOfLogIn m f) := .single (.refused m _ hm rfl)

theorem runs_completeWithToken {tokenString : String}
    {parameters : FBSDKLoginCompletionParameters} (hm : Concerned f₀ act m)
    (hs : Accepted f.log m tokenString) :
    Runs f₀ act f (completeWithToken m tokenString parameters f) := by
  unfold completeWithToken
  rcases determineRecentlyGrantedPermissions m parameters f with ⟨granted, declined⟩
  by_cases hnone : granted = ∅
  · simp only [hnone, if_true]
    exact .single (.refused m _ hm rfl)
  · simp only [hnone, if_false]
    split
    · refine .single (.awaited _ (fun m' hm' => ?_) hs fun _ h => absurd h (by simp [parametersIn]))
      obtain rfl := Option.some.inj hm'
      exact hm
    · exact .single (.granted m _ granted declined hm (.accepted hs))

/-- Without an error a token is gone on with only if the challenge has passed. -/
theorem passed_of_errorOf {parameters : FBSDKLoginCompletionParameters} {passed : Bool}
    {tokenString : String} (h : errorOf parameters passed = none)
    (ht : parameters.accessTokenString = some tokenString) : passed = true := by
  unfold errorOf at h
  split_ifs at h with hbad
  rw [ht] at hbad
  simpa [h] using hbad

theorem runs_completeAuthentication {parameters : FBSDKLoginCompletionParameters}
    (hm : Concerned f₀ act m) (hb : Brought f₀ act parameters.challenge) :
    Runs f₀ act f (completeAuthentication m parameters f) := by
  have hconsumed : Runs f₀ act f (consumed m parameters f) := .single (.consumed m parameters hm hb)
  refine hconsumed.trans ?_
  unfold completeAuthentication
  extract_lets passed g
  split
  · exact .single (.refused m _ hm rfl)
  · rename_i herror
    split
    · rename_i tokenString ht
      have hpassed : passed = true := passed_of_errorOf herror ht
      refine runs_completeWithToken hm ⟨parameters, ?_, ht⟩
      rw [← hpassed]
      exact List.mem_cons_self
    · exact .single (.refused m _ hm rfl)

theorem runs_validated {p : ℕ} {currentToken token : FBSDKAccessToken} {granted : Finset String}
    {declined : Option (Finset String)} {actualID : Option String}
    (hp : f₀.pending p = some (.validate m currentToken token granted declined)) :
    Runs f₀ act f (validated m currentToken token granted declined actualID f) := by
  have hm : Concerned f₀ act m := .waits (.block p _ hp rfl)
  unfold validated
  split_ifs
  · exact .single (.granted m token granted declined hm
      (.validated p currentToken granted declined hp))
  · exact .single (.refused m _ hm rfl)

theorem runs_completeLogin {parameters : FBSDKLoginCompletionParameters}
    (hm : Concerned f₀ act m) (hb : Brought f₀ act parameters.challenge) :
    Runs f₀ act f (completeLogin m parameters f) := by
  have hkept : ∀ m', some m = some m' → Concerned f₀ act m' := fun m' h => Option.some.inj h ▸ hm
  have hin : ∀ ps, some parameters = some ps → Brought f₀ act ps.challenge := fun ps h =>
    Option.some.inj h ▸ hb
  unfold completeLogin
  split
  · split_ifs
    · exact runs_completeAuthentication hm hb
    · exact .single (.awaited _ hkept trivial hin)
  · split_ifs
    · exact .single (.awaited _ hkept trivial hin)
    · exact runs_completeAuthentication hm hb

theorem runs_openURL {url : NSURL} {sourceApplication : String} (hm : Concerned f₀ act m)
    (hf : f.appID = f₀.appID) (hact : urlOf act = some (url, sourceApplication)) :
    Runs f₀ act f (openURL m url sourceApplication f) := by
  unfold openURL
  split_ifs with hopen
  · refine runs_completeLogin hm (.url url sourceApplication hact ?_ rfl)
    rw [← hopen, canOpenURL, canOpenURL, hf]
  · exact runs_handleImplicitCancelOfLogIn hm
  · exact .refl

theorem runs_logInCompletion {didPerformLogIn : Bool} {error : Option NSError}
    (hm : Concerned f₀ act m) : Runs f₀ act f (logInCompletion m didPerformLogIn error f) := by
  unfold logInCompletion
  split_ifs
  · exact .single (.changed m _ hm fun manager => ⟨rfl, rfl⟩)
  · exact runs_handleImplicitCancelOfLogIn hm
  · exact .single (.refused m _ hm rfl)

theorem runs_performBrowserLogIn {shown : Browser} (hm : Concerned f₀ act m) :
    Runs f₀ act f (performBrowserLogIn m shown f) := by
  have hkept : ∀ m', some m = some m' → Concerned f₀ act m' := fun m' h => Option.some.inj h ▸ hm
  cases shown with
  | session =>
    refine .tail (.tail (.tail (.tail (.single (.changed m
      (fun manager => { manager with usedSFAuthSession := true }) hm fun manager => ⟨rfl, rfl⟩))
      (.hooked m hm)) (.sessioned (some m))) (.bridged (some f.next) false true)) ?_
    exact .awaited (.session m) hkept trivial fun _ h => absurd h (by simp [parametersIn])
  | browser =>
    refine .tail (.tail (.single (.hooked m hm))
      (.bridged f.authenticationSession true f.isRequestingSFAuthenticationSession)) ?_
    exact .awaited (.openURL m) hkept trivial fun _ h => absurd h (by simp [parametersIn])
  | unavailable error => exact runs_logInCompletion hm

/-- The manager of a login is new, so the login starts. -/
theorem logIn_eq {a : Attempt} {permissions : Finset String} {random : Challenge}
    {shown : Browser} (h : f.managers (.login a) = {}) :
    logIn (.login a) permissions a random shown { f with fresh := a + 1 } =
      performBrowserLogIn (.login a) shown (begun a permissions random f) := by
  simp only [logIn, validateLoginStartState, begun, h, if_true, Facebook.modify, Facebook.emit,
    Function.update_self, Function.update_idem]

theorem runs_bridgeOpenURL {url : NSURL} {sourceApplication : String}
    (hf : f.pendingURLOpen = f₀.pendingURLOpen) (happ : f.appID = f₀.appID)
    (hact : urlOf act = some (url, sourceApplication)) :
    Runs f₀ act f (bridgeOpenURL url sourceApplication f) := by
  have hunhooked : Runs f₀ act f { f with authenticationSession := none, pendingURLOpen := none } :=
    .tail (.single (.bridged none f.expectingBackground f.isRequestingSFAuthenticationSession))
      .unhooked
  refine hunhooked.trans ?_
  unfold bridgeOpenURL
  rcases hm : f.pendingURLOpen with _ | m
  · exact .refl
  · exact runs_openURL (.waits (.url (hf ▸ hm))) happ hact

theorem runs_sessionCompletion {p : ℕ} {answer : Except NSError NSURL}
    (hp : f₀.pending p = some (.session m)) (hf : f.pendingURLOpen = f₀.pendingURLOpen)
    (happ : f.appID = f₀.appID) :
    Runs f₀ (.sessionFinish p answer) f (sessionCompletion m answer f) := by
  have hm : Concerned f₀ (.sessionFinish p answer) m := .waits (.block p _ hp rfl)
  have hbridged : Runs f₀ (.sessionFinish p answer) f
      { f with isRequestingSFAuthenticationSession := false } :=
    .single (.bridged f.authenticationSession f.expectingBackground false)
  unfold sessionCompletion
  extract_lets f' g
  have hg : Runs f₀ (.sessionFinish p answer) f g := by
    refine hbridged.trans ?_
    cases answer with
    | ok url => exact (runs_logInCompletion hm).trans (runs_bridgeOpenURL hf happ rfl)
    | error e => exact runs_logInCompletion hm
  exact .tail (.tail hg (.sessioned none))
    (.bridged none g.expectingBackground g.isRequestingSFAuthenticationSession)

theorem runs_applicationDidBecomeActive : Runs f act f (applicationDidBecomeActive f) := by
  unfold applicationDidBecomeActive
  split_ifs
  · exact .refl
  · split
    · rename_i m hm
      split_ifs
      · exact runs_handleImplicitCancelOfLogIn (.waits (.url hm))
      · exact .refl
    · exact .refl

theorem runs_launch {url : Option (NSURL × String)} :
    Runs (restarted f) (.launch url) (restarted f) (launch url f) := by
  rcases url with _ | ⟨url, sourceApplication⟩
  · exact .refl
  · exact runs_openURL (.launched _ rfl) rfl rfl

theorem runs_refreshed {expectedToken : ℕ} {tokenString : Option String}
    {permissions : Option (Finset String × Finset String)} :
    Runs f₀ act f (refreshed expectedToken tokenString permissions f) := by
  unfold refreshed
  split
  · rename_i currentToken hcurrent
    split_ifs
    · exact .single (.refreshed currentToken tokenString permissions hcurrent)
    · exact .refl
  · exact .refl

end Methods

/-! ### The SDK -/

section Step
variable {f g : Facebook} {act : Action}

theorem runs_perform (hf : Numbered f) (h : perform f act = some g) :
    ∃ f₀, Begins f act f₀ ∧ Runs f₀ act f₀ g := by
  cases act with
  | logIn a permissions random shown =>
    simp only [perform] at h
    split_ifs at h with ha
    obtain rfl := Option.some.inj h
    refine ⟨_, .begun a permissions random shown ha, ?_⟩
    rw [logIn_eq (hf.manager a ha)]
    exact runs_performBrowserLogIn (.started a permissions random shown rfl (Nat.lt_succ_self a))
  | logOut =>
    obtain rfl := Option.some.inj h
    exact ⟨f, .same _ rfl, .single .dropped⟩
  | openURL url sourceApplication =>
    obtain rfl := Option.some.inj h
    exact ⟨f, .same _ rfl, runs_bridgeOpenURL rfl rfl rfl⟩
  | didBecomeActive =>
    obtain rfl := Option.some.inj h
    exact ⟨f, .same _ rfl, runs_applicationDidBecomeActive⟩
  | didEnterBackground =>
    obtain rfl := Option.some.inj h
    exact ⟨f, .same _ rfl, .single (.bridged f.authenticationSession false false)⟩
  | launch url =>
    obtain rfl := Option.some.inj h
    exact ⟨_, .restarted url, runs_launch⟩
  | refreshStart =>
    simp only [perform] at h
    split_ifs at h
    obtain rfl := Option.some.inj h
    refine ⟨f, .same _ rfl, .single (.awaited _ (fun m hm => ?_) trivial fun _ h => ?_)⟩
    · exact absurd hm (by simp [managerOf])
    · exact absurd h (by simp [parametersIn])
  | invalidated =>
    simp only [perform] at h
    split_ifs at h
    obtain rfl := Option.some.inj h
    exact ⟨f, .same _ rfl, .single .dropped⟩
  | sessionReleased p =>
    simp only [perform] at h
    split at h
    · split_ifs at h
      obtain rfl := Option.some.inj h
      exact ⟨f, .same _ rfl, .single (.answered p)⟩
    · simp at h
  | sessionFinish p answer =>
    simp only [perform] at h
    split at h
    · rename_i m hp
      obtain rfl := Option.some.inj h
      exact ⟨f, .same _ rfl, .head (.answered p) (runs_sessionCompletion hp rfl rfl)⟩
    · simp at h
  | openFinish p success =>
    simp only [perform] at h
    split at h
    · rename_i m hp
      obtain rfl := Option.some.inj h
      exact ⟨f, .same _ rfl, .head (.answered p) (runs_logInCompletion (.waits (.block p _ hp rfl)))⟩
    · simp at h
  | exchangeFinish p answer | requestMeFinish p me permissions =>
    simp only [perform] at h
    split at h
    · rename_i m parameters hp
      obtain rfl := Option.some.inj h
      refine ⟨f, .same _ rfl, .head (.answered p) (runs_completeAuthentication
        (.waits (.block p _ hp rfl)) (.block p _ parameters hp rfl ?_))⟩
      first | exact challenge_exchanged parameters _ | exact challenge_requested parameters _ _
    · simp at h
  | validateFinish p actualID =>
    simp only [perform] at h
    split at h
    · rename_i m currentToken token granted declined hp
      obtain rfl := Option.some.inj h
      exact ⟨f, .same _ rfl, .head (.answered p) (runs_validated hp)⟩
    · simp at h
  | refreshFinish p tokenString permissions =>
    simp only [perform] at h
    split at h
    · obtain rfl := Option.some.inj h
      exact ⟨f, .same _ rfl, .head (.answered p) runs_refreshed⟩
    · simp at h

/-- **A step is a sequence of pieces**, and at its end managers are freed. -/
theorem runs_step (hf : Numbered f) (h : step f act = some g) :
    ∃ f₀ g', Begins f act f₀ ∧ Runs f₀ act f₀ g' ∧ g'.release = g := by
  obtain ⟨g', hg', hg⟩ := Option.map_eq_some_iff.mp h
  obtain ⟨f₀, hbegins, hruns⟩ := runs_perform hf hg'
  exact ⟨f₀, g', hbegins, hruns, hg⟩

theorem runs_preserve {f₀ : Facebook} {J : Facebook → Prop} (h0 : J f)
    (hJ : ∀ f' g', J f' → Effect f₀ act f' g' → J g') (h : Runs f₀ act f g) : J g := by
  induction h with
  | refl => exact h0
  | tail _ hpiece ih => exact hJ _ _ ih hpiece

/-- **What the beginning, every piece and the release preserve, the step preserves.** -/
theorem step_preserves {J : Facebook → Facebook → Prop} (hf : Numbered f)
    (h0 : ∀ f₀, Begins f act f₀ → J f₀ f₀)
    (hJ : ∀ f₀ f' g', Begins f act f₀ → J f₀ f' → Effect f₀ act f' g' → J f₀ g')
    (hrelease : ∀ f₀ f', J f₀ f' → J f₀ f'.release)
    (h : step f act = some g) : ∃ f₀, Begins f act f₀ ∧ J f₀ g := by
  obtain ⟨f₀, g', hbegins, hruns, rfl⟩ := runs_step hf h
  exact ⟨f₀, hbegins, hrelease f₀ g'
    (runs_preserve (h0 f₀ hbegins) (fun f' g' => hJ f₀ f' g' hbegins) hruns)⟩

end Step

/-! ### What a piece leaves -/

section Pieces
variable {f₀ f g : Facebook} {act : Action} {m m' : Ref}

theorem invokeHandler_eq (m : Ref) (reply : Reply) (f : Facebook) :
    invokeHandler m reply f =
      { f with
        managers := Function.update f.managers m
          { f.managers m with state := .idle, handler := none }
        log := ((f.managers m).handler.map (.handled · reply)).toList ++ f.log } := by
  unfold invokeHandler
  rcases h : (f.managers m).handler with _ | a <;> rfl

theorem Concerned.lt (hf : Numbered f) {a : Attempt} (hm : Concerned f act (.login a)) :
    a < f.fresh := by
  cases hm with
  | waits h => exact hf.waits a h
  | started _ permissions random shown hact ha => exact ha

theorem handler_modify {k : FBSDKLoginManager → FBSDKLoginManager}
    (hk : ∀ manager, (k manager).handler = manager.handler) (m' : Ref) :
    ((f.modify m k).managers m').handler = (f.managers m').handler := by
  by_cases hm : m' = m
  · subst hm
    simp [Facebook.modify, hk]
  · simp [Facebook.modify, hm]

theorem handler_invokeHandler (m : Ref) (reply : Reply) (m' : Ref) :
    ((invokeHandler m reply f).managers m').handler =
      if m' = m then none else (f.managers m').handler := by
  rw [invokeHandler_eq]
  by_cases hm : m' = m
  · simp [hm]
  · simp [hm]

theorem handler_unhandled {reply : Reply} (hnone : (f.managers m).handler = none) :
    ((invokeHandler m reply f).managers m').handler = (f.managers m').handler := by
  rw [handler_invokeHandler]
  split_ifs with hm
  · rw [hm, hnone]
  · rfl

theorem log_unhandled {reply : Reply} (hnone : (f.managers m).handler = none) :
    (invokeHandler m reply f).log = f.log := by
  rw [invokeHandler_eq, hnone]
  rfl

theorem log_invokeHandler {reply : Reply} {a : Attempt} (ha : (f.managers m).handler = some a) :
    (invokeHandler m reply f).log = .handled a reply :: f.log := by
  rw [invokeHandler_eq, ha]
  rfl

end Pieces

/-! ### The managers -/

section Numbered
variable {f₀ f g : Facebook} {act : Action}

theorem Numbered.of_eq (h : Numbered f) (hfresh : g.fresh = f.fresh)
    (hmanagers : ∀ a, f.fresh ≤ a → g.managers (.login a) = f.managers (.login a))
    (hwaits : ∀ a, Waits g (.login a) → a < f.fresh)
    (hpending : ∀ p, g.next ≤ p → g.pending p = none) : Numbered g where
  manager a ha := (hmanagers a (hfresh ▸ ha)).trans (h.manager a (hfresh ▸ ha))
  waits a ha := hfresh ▸ hwaits a ha
  pending := hpending

theorem Numbered.begins (h : Numbered f) (hb : Begins f act f₀) : Numbered f₀ := by
  cases hb with
  | same => exact h
  | begun a permissions random shown ha =>
    refine ⟨fun b hb => ?_, fun b hb => ?_, h.pending⟩
    · have hne : (Ref.login b) ≠ .login a := by
        rintro heq
        obtain rfl := Ref.login.inj heq
        exact Nat.not_succ_le_self b hb
      exact (Function.update_of_ne hne ..).trans
        (h.manager b (Nat.le_trans ha (Nat.le_of_succ_le hb)))
    · have hlt : b < f.fresh := by
        refine h.waits b ?_
        cases hb with
        | url hb => exact .url hb
        | block p r hr hm => exact .block p r hr hm
      exact Nat.lt_of_lt_of_le hlt (Nat.le_succ_of_le ha)
  | restarted url =>
    refine ⟨fun b _ => rfl, fun b hb => ?_, fun _ _ => rfl⟩
    cases hb with
    | url hb => exact absurd hb (by simp [restarted, launch, Facebook.emit])
    | block p r hr hm => exact absurd hr (by simp [restarted, launch, Facebook.emit])

theorem waits_of_eq {m : Ref} (h : Waits g m) (hurl : g.pendingURLOpen = f.pendingURLOpen)
    (hpending : g.pending = f.pending) : Waits f m := by
  cases h with
  | url h => exact .url (hurl ▸ h)
  | block p r hr hm => exact .block p r (hpending ▸ hr) hm

theorem Effect.waits (he : Effect f₀ act f g) {m : Ref} (h : Waits g m) :
    Waits f m ∨ Concerned f₀ act m := by
  cases he with
  | hooked m' hm' =>
    cases h with
    | url h =>
      obtain rfl := Option.some.inj h
      exact Or.inr hm'
    | block p r hr hm => exact Or.inl (.block p r hr hm)
  | unhooked =>
    cases h with
    | url h => simp at h
    | block p r hr hm => exact Or.inl (.block p r hr hm)
  | answered p =>
    cases h with
    | url h => exact Or.inl (.url h)
    | block q r hr hm =>
      by_cases hq : q = p
      · simp [Facebook.answered, hq] at hr
      · exact Or.inl (.block q r (by simpa [Facebook.answered, hq] using hr) hm)
  | awaited r hm' hr' =>
    cases h with
    | url h => exact Or.inl (.url h)
    | block q r' hr hm =>
      by_cases hq : q = f.next
      · obtain rfl : r = r' := by simpa [Facebook.await, hq] using hr
        exact Or.inr (hm' m hm)
      · exact Or.inl (.block q r' (by simpa [Facebook.await, hq] using hr) hm)
  | refused m' reply hm' hreply =>
    rw [invokeHandler_eq] at h
    exact Or.inl (waits_of_eq h rfl rfl)
  | granted m' token granted declined hm' hs =>
    rw [invokeHandler_eq] at h
    exact Or.inl (waits_of_eq h rfl rfl)
  | _ => exact Or.inl (waits_of_eq h rfl rfl)

theorem Effect.managers (he : Effect f₀ act f g) {m : Ref} (hm : ¬ Concerned f₀ act m) :
    g.managers m = f.managers m := by
  have hother : ∀ {m' : Ref} (_ : Concerned f₀ act m') (manager : FBSDKLoginManager),
      Function.update f.managers m' manager m = f.managers m := by
    intro m' hm' manager
    refine Function.update_of_ne ?_ ..
    rintro rfl
    exact hm hm'
  cases he with
  | changed m' k hm' hk => exact hother hm' _
  | refused m' reply hm' hreply =>
    rw [invokeHandler_eq]
    exact hother hm' _
  | granted m' token granted declined hm' hs =>
    rw [invokeHandler_eq]
    exact hother hm' _
  | _ => rfl

theorem Effect.pending (he : Effect f₀ act f g) (h : ∀ p, f.next ≤ p → f.pending p = none) :
    ∀ p, g.next ≤ p → g.pending p = none := by
  cases he with
  | answered q =>
    intro p hp
    by_cases hq : p = q
    · rw [hq]
      exact Function.update_self ..
    · exact (Function.update_of_ne hq ..).trans (h p hp)
  | awaited r hm hr hb =>
    intro p hp
    have hlt : f.next < p := hp
    exact (Function.update_of_ne (Nat.ne_of_gt hlt) ..).trans (h p (Nat.le_of_lt hlt))
  | refused m reply hm hreply =>
    rw [invokeHandler_eq]
    exact h
  | granted m token granted declined hm hs =>
    rw [invokeHandler_eq]
    exact h
  | _ => exact h

theorem Effect.mem_log (he : Effect f₀ act f g) : ∀ e ∈ f.log, e ∈ g.log := by
  intro e h
  cases he with
  | refused m reply hm hreply =>
    rw [invokeHandler_eq]
    exact List.mem_append_right _ h
  | granted m new granted declined hm hs =>
    rw [invokeHandler_eq]
    exact List.mem_append_right _ (List.mem_cons_of_mem _ h)
  | consumed | dropped | refreshed => exact List.mem_cons_of_mem _ h
  | _ => exact h

theorem Effect.fresh (he : Effect f₀ act f g) : g.fresh = f.fresh := by
  cases he with
  | refused m reply hm hreply => rw [invokeHandler_eq]
  | granted m token granted declined hm hs => rw [invokeHandler_eq]; rfl
  | _ => rfl

theorem Effect.appID (he : Effect f₀ act f g) : g.appID = f.appID := by
  cases he with
  | refused m reply hm hreply => rw [invokeHandler_eq]
  | granted m token granted declined hm hs => rw [invokeHandler_eq]; rfl
  | _ => rfl

theorem Begins.appID (hb : Begins f act f₀) : f₀.appID = f.appID := by
  cases hb <;> rfl

theorem Numbered.effect (h₀ : Numbered f₀) (h : f.fresh = f₀.fresh ∧ Numbered f)
    (he : Effect f₀ act f g) : g.fresh = f₀.fresh ∧ Numbered g := by
  obtain ⟨hfresh, hf⟩ := h
  refine ⟨he.fresh.trans hfresh, hf.of_eq he.fresh (fun a ha => ?_) (fun a ha => ?_)
    (he.pending hf.pending)⟩
  · refine he.managers fun hm => ?_
    exact Nat.not_le_of_lt (hm.lt h₀) (hfresh ▸ ha)
  · rcases he.waits ha with hw | hm
    · exact hf.waits a hw
    · exact hfresh ▸ hm.lt h₀

theorem waits_of_release {m : Ref} (h : Waits f.release m) : Waits f m := by
  cases h with
  | url h => exact .url (Option.filter_eq_some_iff.mp h).1
  | block p r hr hm => exact .block p r hr hm

theorem Numbered.released (h : Numbered f) : Numbered f.release where
  manager a ha := by
    show (if f.Retained (.login a) then f.managers (.login a) else {}) = {}
    split_ifs
    · exact h.manager a ha
    · rfl
  waits a ha := h.waits a (waits_of_release ha)
  pending := h.pending

theorem Numbered.runs (h : Numbered f₀) (hruns : Runs f₀ act f₀ g) : Numbered g :=
  (runs_preserve (J := fun f => f.fresh = f₀.fresh ∧ Numbered f) ⟨rfl, h⟩
    (fun _ _ hf he => h.effect hf he) hruns).2

theorem numbered_step (h : Numbered f) (hst : step f act = some g) : Numbered g := by
  obtain ⟨f₀, g', hbegins, hruns, rfl⟩ := runs_step h hst
  exact ((h.begins hbegins).runs hruns).released

theorem numbered_installed (appID : String) (token : Option FBSDKAccessToken)
    (challenge : Option Challenge) : Numbered (installed appID token challenge) := by
  refine ⟨fun a _ => rfl, fun a ha => ?_, fun _ _ => rfl⟩
  cases ha with
  | url h => exact absurd h (by simp [installed])
  | block p r hr hm => exact absurd hr (by simp [installed])

theorem numbered (h : Reachable f) : Numbered f := by
  refine h.invariant ?_ fun u act v _ hu huv => numbered_step hu huv
  rintro u ⟨appID, token, challenge, rfl⟩
  exact numbered_installed appID token challenge

/-- A manager no block refers to is as a new one, and nothing comes back to it. -/
structure Tidy (f : Facebook) : Prop where
  manager : ∀ m, ¬ f.Retained m → f.managers m = {}
  waits : ∀ m, ¬ f.Retained m → ¬ Waits f m

theorem tidy_release (h : Numbered f) : Tidy f.release where
  manager m hm := if_neg hm
  waits m hm hw := by
    cases hw with
    | url hurl => exact hm (of_decide_eq_true (Option.filter_eq_some_iff.mp hurl).2)
    | block p r hr hblock =>
      have hlt : p < f.next := by
        by_contra hle
        exact absurd ((h.pending p (Nat.le_of_not_lt hle)).symm.trans hr) (by simp)
      exact hm (Or.inr ⟨p, hlt, Option.bind_eq_some_iff.mpr ⟨r, hr, hblock⟩⟩)

theorem tidy_installed (appID : String) (token : Option FBSDKAccessToken)
    (challenge : Option Challenge) : Tidy (installed appID token challenge) := by
  refine ⟨fun m _ => rfl, fun m _ hw => ?_⟩
  cases hw with
  | url h => exact absurd h (by simp [installed])
  | block p r hr hm => exact absurd hr (by simp [installed])

theorem tidy (h : Reachable f) : Tidy f := by
  refine h.invariant ?_ fun u act v hu _ huv => ?_
  · rintro u ⟨appID, token, challenge, rfl⟩
    exact tidy_installed appID token challenge
  · obtain ⟨u₀, v', hbegins, hruns, rfl⟩ := runs_step (numbered hu) huv
    exact tidy_release (((numbered hu).begins hbegins).runs hruns)

end Numbered
end AccountApp.Dialog.Effects
