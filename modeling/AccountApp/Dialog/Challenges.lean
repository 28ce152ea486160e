import AccountApp.Dialog.Handlers

/-! # Which URLs a login accepts

A login stores a random challenge and expects it back with the token. What passes is the challenge
of the login that has been started last, as long as no other URL has been completed since
(`passed_iff`): a URL of an earlier login does not pass, nor does the same URL twice, whoever opens
the app with it.

A handler is called with a token only if it has come in parameters that have passed, and it is the
current one by then (`handled_token`). -/

namespace AccountApp.Dialog.Challenges

open AccountApp.Lib AccountApp.Lib.Machine AccountApp.Lib.History
open AccountApp.Model.State (Attempt)
open AccountApp.Dialog.LoginManager AccountApp.Dialog.Step AccountApp.Dialog.Effects
open AccountApp.Dialog.Handlers

/-! ### What the history says -/

/-- The challenge that is expected after an event that decides it. -/
def expects : Event → Option (Option Challenge)
  | .started _ challenge => some (some challenge)
  | .completed .. => some none
  | _ => none

/-- The token that is current after an event that changes it. -/
def caches : Event → Option (Option FBSDKAccessToken)
  | .cached _ _ _ token | .refreshed token => some (some token)
  | .dropped => some none
  | _ => none

/-- What the newest event leaves that decides, or else what there was at first. -/
def after {V : Type} (decides : Event → Option V) (init : V) (log : List Event) : V :=
  (log.findSome? decides).getD init

/-- What an event says about the events before it. -/
def Lawful (challenge : Option Challenge) (token : Option FBSDKAccessToken) :
    Event → List Event → Prop
  | .started _ c, _ => challengeExpected c = c
  | .completed _ parameters passed, past => passed = true ↔
      ∃ c, after expects challenge past = some c ∧ parameters.challenge = some (challengeExpected c)
  | .cached m _ old new, past => old = after caches token past ∧ Accepted past m new.tokenString
  | .handled a reply, past => ∀ t, tokenOf reply = some t →
      ∃ old, past.head? = some (.cached (.login a) (some a) old t)
  | _, _ => True

/-- The keychain and the current token are what the history says. -/
structure Kept (challenge : Option Challenge) (token : Option FBSDKAccessToken) (f : Facebook) :
    Prop where
  expected : f.expectedChallenge = after expects challenge f.log
  current : f.currentAccessToken = after caches token f.log
  lawful : Always (Lawful challenge token) f.log
  pending : ∀ p r, f.pending p = some r → Proper f.log r

section Kept
variable {challenge : Option Challenge} {token : Option FBSDKAccessToken} {f₀ f g : Facebook}
  {act : Action} {e : Event} {log : List Event}

theorem after_none {V : Type} {decides : Event → Option V} {init : V} (he : decides e = none) :
    after decides init (e :: log) = after decides init log := by
  simp [after, he]

theorem after_some {V : Type} {decides : Event → Option V} {init v : V} (he : decides e = some v) :
    after decides init (e :: log) = v := by
  simp [after, he]

theorem challengeExpected_stringForChallenge (random : Challenge) :
    challengeExpected (stringForChallenge random) = stringForChallenge random := by
  simp only [challengeExpected, stringForChallenge, List.map_map]
  refine List.map_congr_left fun c _ => ?_
  by_cases hc : c = '+' <;> simp [hc]

theorem accepted_mono {log' : List Event} {m : Ref} {tokenString : String}
    (hlog : ∀ e ∈ log, e ∈ log') (h : Accepted log m tokenString) :
    Accepted log' m tokenString := by
  obtain ⟨parameters, hmem, ht⟩ := h
  exact ⟨parameters, hlog _ hmem, ht⟩

theorem proper_mono {log' : List Event} {r : Pending} (hlog : ∀ e ∈ log, e ∈ log')
    (h : Proper log r) : Proper log' r := by
  cases r with
  | validate m currentToken token granted declined => exact accepted_mono hlog h
  | _ => trivial

theorem Kept.emit (h : Kept challenge token f) (hlog : g.log = e :: f.log)
    (hlaw : Lawful challenge token e f.log)
    (hexpected : g.expectedChallenge = (expects e).getD f.expectedChallenge)
    (hcurrent : g.currentAccessToken = (caches e).getD f.currentAccessToken)
    (hpending : g.pending = f.pending) : Kept challenge token g where
  expected := by
    rw [hexpected, hlog]
    rcases he : expects e with _ | c
    · rw [after_none he]
      exact h.expected
    · exact (after_some he).symm
  current := by
    rw [hcurrent, hlog]
    rcases he : caches e with _ | t
    · rw [after_none he]
      exact h.current
    · exact (after_some he).symm
  lawful := by
    rw [hlog]
    exact ⟨hlaw, h.lawful⟩
  pending p r hr := by
    rw [hpending] at hr
    refine proper_mono (fun e' he' => ?_) (h.pending p r hr)
    rw [hlog]
    exact List.mem_cons_of_mem _ he'

theorem Kept.same (h : Kept challenge token f) (hlog : g.log = f.log)
    (hexpected : g.expectedChallenge = f.expectedChallenge)
    (hcurrent : g.currentAccessToken = f.currentAccessToken)
    (hpending : ∀ p r, g.pending p = some r → Proper f.log r) : Kept challenge token g where
  expected := by rw [hexpected, hlog, h.expected]
  current := by rw [hcurrent, hlog, h.current]
  lawful := hlog ▸ h.lawful
  pending p r hr := hlog ▸ hpending p r hr

theorem Kept.invoked (h : Kept challenge token f) (hhandled : Handled f) (m : Ref) (reply : Reply)
    (hreply : ∀ t, tokenOf reply = some t →
      ∃ old, f.log.head? = some (.cached m (f.managers m).handler old t)) :
    Kept challenge token (invokeHandler m reply f) := by
  rw [invokeHandler_eq]
  rcases hm : (f.managers m).handler with _ | b
  · exact h.same rfl rfl rfl h.pending
  · refine h.emit (e := .handled b reply) rfl (fun t ht => ?_) rfl rfl rfl
    obtain ⟨old, hold⟩ := hreply t ht
    refine ⟨old, ?_⟩
    obtain rfl := hhandled.login hm
    rw [hold, hm]

theorem Kept.effect (h₀ : Kept challenge token f₀) (h : Kept challenge token f)
    (hhandled : Handled f) (hlog : ∀ e ∈ f₀.log, e ∈ f.log) (he : Effect f₀ act f g) :
    Kept challenge token g := by
  cases he with
  | answered p =>
    refine h.same rfl rfl rfl fun q r hr => ?_
    by_cases hq : q = p
    · simp [Facebook.answered, hq] at hr
    · exact h.pending q r (by simpa [Facebook.answered, hq] using hr)
  | awaited r hm hr =>
    refine h.same rfl rfl rfl fun q r' hr' => ?_
    by_cases hq : q = f.next
    · obtain rfl : r = r' := by simpa [Facebook.await, hq] using hr'
      exact hr
    · exact h.pending q r' (by simpa [Facebook.await, hq] using hr')
  | consumed m parameters hm =>
    refine h.emit rfl ?_ rfl rfl rfl
    rw [Lawful, ← h.expected, challengePassed]
    rcases f.expectedChallenge with _ | expected
    · simp
    · rcases parameters.challenge with _ | received
      · simp
      · simp [eq_comm]
  | refused m reply hm hreply =>
    exact h.invoked hhandled m reply fun t ht => absurd (hreply.symm.trans ht) (by simp)
  | granted m new granted declined hm hs =>
    have hsource : Accepted f.log m new.tokenString := by
      cases hs with
      | accepted h => exact h
      | validated p currentToken granted declined hp =>
        exact accepted_mono hlog (h₀.pending p _ hp)
    have hcached : Kept challenge token (cacheToken m new f) :=
      h.emit rfl ⟨h.current, hsource⟩ rfl rfl rfl
    refine hcached.invoked (hhandled.emit rfl rfl rfl rfl) m _ fun t ht => ?_
    obtain rfl := Option.some.inj ht
    exact ⟨_, rfl⟩
  | dropped => exact h.emit rfl trivial rfl rfl rfl
  | refreshed currentToken tokenString permissions hcurrent => exact h.emit rfl trivial rfl rfl rfl
  | _ => exact h.same rfl rfl rfl h.pending

theorem Kept.begins (h : Kept challenge token f) (hb : Begins f act f₀) :
    Kept challenge token f₀ := by
  cases hb with
  | same => exact h
  | begun a permissions random shown ha =>
    exact h.emit rfl (challengeExpected_stringForChallenge random) rfl rfl rfl
  | restarted url =>
    have hdropped : Kept challenge token { f with pending := fun _ => none } :=
      h.same rfl rfl rfl fun p r hr => absurd hr (by simp)
    exact hdropped.emit rfl trivial rfl rfl rfl

theorem kept_step (h : Kept challenge token f) (hf : Numbered f) (hhandled : Handled f)
    (hst : step f act = some g) : Kept challenge token g := by
  obtain ⟨f₀, -, -, -, hg⟩ := step_preserves
    (J := fun f₀ g => (∀ e ∈ f₀.log, e ∈ g.log) ∧ Handled g ∧ Kept challenge token g) hf
    (fun f₀ hb => ⟨fun _ he => he, hhandled.begins hb, h.begins hb⟩)
    (fun f₀ f' g' hb ⟨hlog, hhandled', hf'⟩ he =>
      ⟨fun e hmem => he.mem_log e (hlog e hmem), hhandled'.effect he,
        (h.begins hb).effect hf' hhandled' hlog he⟩)
    (fun _ _ ⟨hlog, hhandled', hf'⟩ => ⟨hlog, hhandled'.released, hf'.same rfl rfl rfl hf'.pending⟩)
    hst
  exact hg

theorem kept {appID : String} {as : List Action}
    (hrun : exec (installed appID token challenge) as = some f) : Kept challenge token f := by
  have hkept : Reachable f ∧ Kept challenge token f := by
    refine exec_preserves (I := fun f => Reachable f ∧ Kept challenge token f) ?_ ⟨?_, ?_⟩ hrun
    · rintro u act v ⟨hu, hkept⟩ huv
      exact ⟨hu.next huv, kept_step hkept (numbered hu) (handled hu) huv⟩
    · exact .initial ⟨appID, token, challenge, rfl⟩
    · exact ⟨rfl, rfl, trivial, fun p r hr => absurd hr (by simp [installed])⟩
  exact hkept.2

end Kept

/-! ### The laws -/

/-- The challenge that has come back after `past`: the one of the login started last, with nothing
completed since, or the one left in the keychain. -/
inductive Awaited (challenge : Option Challenge) (past : List Event) (received : Option Challenge) :
    Prop
  | started (new : List Event) (a : Attempt) (c : Challenge) (older : List Event)
      (hpast : past = new ++ .started a c :: older) (hnew : ∀ e ∈ new, expects e = none)
      (hreceived : received = some c)
  | stored (c : Challenge) (hpast : ∀ e ∈ past, expects e = none) (hc : challenge = some c)
      (hreceived : received = some (challengeExpected c))

section Laws
variable {appID : String} {challenge : Option Challenge} {token : Option FBSDKAccessToken}
  {f : Facebook} {as : List Action} {past : List Event}

theorem awaited_iff (hstarted : ∀ a c, .started a c ∈ past → challengeExpected c = c)
    {received : Option Challenge} :
    (∃ c, after expects challenge past = some c ∧ received = some (challengeExpected c)) ↔
      Awaited challenge past received := by
  unfold after
  rcases hfind : past.findSome? expects with _ | newest
  · rw [List.findSome?_eq_none_iff] at hfind
    constructor
    · rintro ⟨c, hc, hreceived⟩
      exact .stored c hfind hc hreceived
    · rintro (⟨new, a, c, older, rfl, -, -⟩ | ⟨c, -, hc, hreceived⟩)
      · exact absurd (hfind (.started a c) (by simp)) (by simp [expects])
      · exact ⟨c, hc, hreceived⟩
  · obtain ⟨new, e, older, rfl, hpick, hnew⟩ := List.findSome?_eq_some_iff.mp hfind
    constructor
    · rintro ⟨c, hc, hreceived⟩
      obtain rfl : newest = some c := hc
      cases e with
      | started a c' =>
        obtain rfl : c' = c := by simpa [expects] using hpick
        rw [hstarted a c' (List.mem_append_right new List.mem_cons_self)] at hreceived
        exact .started new a c' older rfl hnew hreceived
      | _ => simp [expects] at hpick
    · rintro (⟨new', a, c, older', heq, hnew', hreceived⟩ | ⟨c, hnone, -, -⟩)
      · have hsame : (new' ++ .started a c :: older').findSome? expects = some newest := heq ▸ hfind
        rw [List.findSome?_append, List.findSome?_eq_none_iff.mpr hnew'] at hsame
        obtain rfl : some c = newest := Option.some.inj hsame
        refine ⟨c, rfl, ?_⟩
        rw [hreceived, hstarted a c (heq ▸ List.mem_append_right new' List.mem_cons_self)]
      · exact absurd (hnone e (by simp)) (by simp [hpick])

theorem Kept.passed (h : Kept challenge token f) {m : Ref}
    {parameters : FBSDKLoginCompletionParameters} {passed : Bool}
    (he : .completed m parameters passed :: past <:+ f.log) :
    passed = true ↔ Awaited challenge past parameters.challenge := by
  refine Iff.trans (always_iff.mp h.lawful _ _ he) (awaited_iff fun a c hmem => ?_)
  obtain ⟨older, hold⟩ := exists_past (he.subset (List.mem_cons_of_mem _ hmem))
  exact always_iff.mp h.lawful _ _ hold

/-- What is put on record by a login in a session that is granted. -/
def sessionLoginToken : FBSDKAccessToken := ⟨"T", {"public_profile"}, ∅, some "7"⟩

def sessionLoginParameters : FBSDKLoginCompletionParameters :=
  requested (parametersOf answerURL) (.ok (some "7")) (.ok [("public_profile", "granted")])

theorem sessionLogin_log : (exec (installed "1" none none) sessionLogin).map (·.log) =
    some [.handled 0 (.ok (loginResult sessionLoginToken {"public_profile"} (some ∅))),
      .cached (.login 0) (some 0) none sessionLoginToken,
      .completed (.login 0) sessionLoginParameters true, .started 0 ['r', '=']] := by
  decide

/-- **What passes is the challenge of the login that has been started last**, and of that only once:
nothing has been completed since. Before the first login it is the one left in the keychain. -/
theorem passed_iff (hrun : exec (installed appID token challenge) as = some f) {m : Ref}
    {parameters : FBSDKLoginCompletionParameters} {passed : Bool}
    (he : .completed m parameters passed :: past <:+ f.log) :
    passed = true ↔ Awaited challenge past parameters.challenge := (kept hrun).passed he

theorem sessionLogin_passed : ∃ f past, exec (installed "1" none none) sessionLogin = some f ∧
    .completed (.login 0) sessionLoginParameters true :: past <:+ f.log ∧
    (true = true ↔ Awaited none past sessionLoginParameters.challenge) := by
  obtain ⟨f, hf, hlog⟩ := Option.map_eq_some_iff.mp sessionLogin_log
  have hsuffix : .completed (.login 0) sessionLoginParameters true :: [.started 0 ['r', '=']] <:+
      f.log := ⟨[_, _], hlog.symm⟩
  exact ⟨f, _, hf, hsuffix, passed_iff hf hsuffix⟩

/-- **A handler is called with a token** that has come with a challenge that has passed, to the
manager of this login, and that is the current one. -/
theorem handled_token (hrun : exec (installed appID token challenge) as = some f) {a : Attempt}
    {reply : Reply} {t : FBSDKAccessToken} (he : .handled a reply :: past <:+ f.log)
    (ht : tokenOf reply = some t) :
    after caches token past = some t ∧ Accepted past (.login a) t.tokenString := by
  have hlawful := (kept hrun).lawful
  obtain ⟨old, hhead⟩ := always_iff.mp hlawful _ _ he t ht
  rcases past with _ | ⟨e, older⟩
  · simp at hhead
  · obtain rfl : e = .cached (.login a) (some a) old t := Option.some.inj hhead
    have hsuffix : .cached (.login a) (some a) old t :: older <:+ f.log :=
      (List.suffix_cons _ _).trans he
    have hcached := always_iff.mp hlawful _ _ hsuffix
    exact ⟨after_some rfl, accepted_mono (fun _ h => List.mem_cons_of_mem _ h) hcached.2⟩

theorem sessionLogin_token : ∃ f past reply, exec (installed "1" none none) sessionLogin = some f ∧
    .handled 0 reply :: past <:+ f.log ∧ tokenOf reply = some sessionLoginToken ∧
    after caches none past = some sessionLoginToken ∧ Accepted past (.login 0) "T" := by
  obtain ⟨f, hf, hlog⟩ := Option.map_eq_some_iff.mp sessionLogin_log
  have hsuffix : _ <:+ f.log := ⟨[], hlog.symm⟩
  exact ⟨f, _, _, hf, hsuffix, rfl, handled_token hf hsuffix rfl⟩

end Laws
end AccountApp.Dialog.Challenges
