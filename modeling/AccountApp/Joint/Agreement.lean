import AccountApp.Dialog.Challenges
import AccountApp.Joint.Footprint
import AccountApp.Joint.Step

/-! # The app and the SDK agree

`Agree` is the invariant of the two: the app reads the token that is current, an attempt whose
handler waits has its dialog outstanding in the app, and the app has heard every answer. Each piece
of the SDK's code keeps it once the app is served (`Agree.effect`).

`Served` says in addition how the app follows by itself: by the actions that stand for the events of
the SDK, in their order. `Dialogs` says which dialogs are outstanding: those of the logins that have
been started since the launch and have not been called back. -/

namespace AccountApp.Joint.Agreement

open Relation
open AccountApp.Lib AccountApp.Lib.Machine AccountApp.Lib.Replay
open AccountApp.Model.Data (AccessToken Answer LoginManagerLoginResult)
open AccountApp.Model.State (Addr App Attempt)
open AccountApp.Dialog.LoginManager AccountApp.Dialog.Effects AccountApp.Dialog.Handlers
open AccountApp.Joint.Footprint AccountApp.Joint.Step

/-! ### What is compared -/

/-- The answers to dialogs the app has got. -/
def answerOf : Model.State.Event → Option (Attempt × Answer LoginManagerLoginResult)
  | .fbLogInCompleted a _ answer => some (a, answer)
  | _ => none

def answers (log : List Model.State.Event) : List (Attempt × Answer LoginManagerLoginResult) :=
  log.filterMap answerOf

/-- The answers the SDK has given. -/
def replyOf : Event → Option (Attempt × Answer LoginManagerLoginResult)
  | .handled a reply => some (a, answerFor reply)
  | _ => none

def replies (log : List Event) : List (Attempt × Answer LoginManagerLoginResult) :=
  log.filterMap replyOf

/-- Where the string of a token comes from: it was on the device, or a login or a refresh has made
the token the current one. -/
inductive Came (initial : Option FBSDKAccessToken) (log : List Event) (tokenString : String) : Prop
  | stored (token : FBSDKAccessToken) (ht : initial = some token)
      (hs : token.tokenString = tokenString)
  | cached (m : Ref) (handler : Option Attempt) (old : Option FBSDKAccessToken)
      (token : FBSDKAccessToken) (h : .cached m handler old token ∈ log)
      (hs : token.tokenString = tokenString)
  | refreshed (token : FBSDKAccessToken) (h : .refreshed token ∈ log)
      (hs : token.tokenString = tokenString)

/-- The app and the SDK agree. -/
structure Agree (initial : Option FBSDKAccessToken) (s : App) (f : Facebook) : Prop where
  token : s.accessToken = f.currentAccessToken.map tokenFor
  dialog : ∀ m a, (f.managers m).handler = some a → ∃ self, s.requests a = some (.fbDialog self)
  fresh : f.fresh ≤ s.next
  heard : answers s.log = replies f.log
  current : ∀ token, f.currentAccessToken = some token → Came initial f.log token.tokenString
  credentials : ∀ a self tokenString,
    .authStarted a (.signInFacebook self tokenString) ∈ s.log → Came initial f.log tokenString

/-- The dialogs that are outstanding in the app. -/
def Dialogs (s : App) (f : Facebook) : Prop :=
  ∀ a, (∃ self, s.requests a = some (.fbDialog self)) ↔ a ∈ logins f.log ∧ calls a f.log = 0

/-- The app is served what the SDK has done from `f` to `g`, and follows by itself. -/
def Served (s : App) (f : Facebook) (t : App) (g : Facebook) : Prop :=
  ∃ new, g.log = new ++ f.log ∧ t = replay deliver s new ∧
    Model.Step.exec s (served new) = some t

/-- What is true when the app has been served. -/
structure Led (initial : Option FBSDKAccessToken) (s : App) (f : Facebook) (t : App)
    (g : Facebook) : Prop where
  served : Served s f t g
  agree : Agree initial t g
  dialogs : Dialogs s f → Dialogs t g

section Log
variable {initial : Option FBSDKAccessToken} {log log' : List Event} {tokenString : String}

theorem Came.mono (h : Came initial log tokenString) (hlog : ∀ e ∈ log, e ∈ log') :
    Came initial log' tokenString := by
  cases h with
  | stored token ht hs => exact .stored token ht hs
  | cached m handler old token h hs => exact .cached m handler old token (hlog _ h) hs
  | refreshed token h hs => exact .refreshed token (hlog _ h) hs

theorem answers_filter (log : List Model.State.Event) :
    answers (log.filter byFacebook) = answers log := by
  rw [answers, answers, List.filterMap_filter]
  refine List.filterMap_congr fun e _ => ?_
  cases e with
  | authStarted a call => exact ite_self _
  | _ => rfl

theorem answers_congr {log log' : List Model.State.Event}
    (h : log'.filter byFacebook = log.filter byFacebook) : answers log' = answers log := by
  rw [← answers_filter log', h, answers_filter]

theorem answers_logInEvents (a : Attempt) (self : Addr) (answer : Answer LoginManagerLoginResult)
    (token : Option AccessToken) : answers (logInEvents a self answer token) = [(a, answer)] := by
  rcases token with _ | token <;> rfl

theorem token_of_logInEvents {a b : Attempt} {self self' : Addr}
    {answer : Answer LoginManagerLoginResult} {token : Option AccessToken}
    (he : .authStarted b (.signInFacebook self' tokenString) ∈ logInEvents a self answer token) :
    token = some ⟨tokenString⟩ := by
  rcases token with _ | token
  · simp [logInEvents] at he
  · obtain ⟨-, -, rfl⟩ : b = a ∧ self' = self ∧ tokenString = token.tokenString := by
      simpa [logInEvents] using he
    rfl

theorem credential_mem {log : List Model.State.Event} {a : Attempt} {self : Addr} :
    .authStarted a (.signInFacebook self tokenString) ∈ log.filter byFacebook ↔
      .authStarted a (.signInFacebook self tokenString) ∈ log := by
  simp [byFacebook]

end Log

section Served
variable {s t u : App} {f g h : Facebook}

theorem Served.refl : Served s f s f := ⟨[], rfl, rfl, rfl⟩

theorem Served.trans (hfg : Served s f t g) (hgh : Served t g u h) : Served s f u h := by
  obtain ⟨new, hnew, rfl, hfollow⟩ := hfg
  obtain ⟨new', hnew', rfl, hfollow'⟩ := hgh
  refine ⟨new' ++ new, by rw [hnew', hnew, List.append_assoc], (replay_append new' new).symm, ?_⟩
  rw [served_append]
  exact exec_append.mpr ⟨_, hfollow, hfollow'⟩

theorem Served.quiet (hlog : g.log = f.log) : Served s f s g :=
  ⟨[], hlog, rfl, rfl⟩

theorem Served.unheard {e : Event} (hlog : g.log = e :: f.log) (he : deliver e s = s)
    (hnone : actionOf e = none) : Served s f s g := by
  refine ⟨[e], hlog, he.symm, ?_⟩
  rw [served, List.filterMap_cons_none hnone]
  rfl

theorem Served.one {e : Event} {b : Model.Step.Action} (hlog : g.log = e :: f.log)
    (ht : t = deliver e s) (hb : actionOf e = some b) (hst : Model.Step.step s b = some t) :
    Served s f t g := by
  refine ⟨[e], hlog, ht, ?_⟩
  rw [served, List.filterMap_cons_some hb]
  exact exec_cons.mpr ⟨t, hst, rfl⟩

end Served

/-! ### The pieces -/

section Agree
variable {initial : Option FBSDKAccessToken} {s t : App} {f₀ f g : Facebook}
  {act : Dialog.Step.Action} {m : Ref} {a : Attempt}

theorem Agree.frame (h : Agree initial s f) (hf : Handled f) (hst : Frame s t)
    (htoken : t.accessToken = s.accessToken) : Agree initial t f where
  token := htoken.trans h.token
  dialog m a ha := by
    obtain ⟨self, hr⟩ := h.dialog m a ha
    exact ⟨self, hst.dialog a self (Nat.lt_of_lt_of_le (hf.lt ha) h.fresh) hr⟩
  fresh := Nat.le_trans h.fresh hst.next
  heard := (answers_congr hst.log).trans h.heard
  current := h.current
  credentials a self tokenString he := by
    refine h.credentials a self tokenString ?_
    rw [← credential_mem, ← hst.log, credential_mem]
    exact he

theorem Agree.unseen (h : Agree initial s f) (hfresh : g.fresh = f.fresh)
    (hhandler : ∀ m, (g.managers m).handler = (f.managers m).handler)
    (hcurrent : g.currentAccessToken = f.currentAccessToken)
    (hmem : ∀ e ∈ f.log, e ∈ g.log) (hreplies : replies g.log = replies f.log) :
    Agree initial s g where
  token := by rw [hcurrent, h.token]
  dialog m a ha := h.dialog m a ((hhandler m).symm.trans ha)
  fresh := hfresh ▸ h.fresh
  heard := h.heard.trans hreplies.symm
  current token ht := (h.current token (hcurrent ▸ ht)).mono hmem
  credentials a self tokenString he := (h.credentials a self tokenString he).mono hmem

theorem Agree.tokened (h : Agree initial s f) (e : Event) (token : Option FBSDKAccessToken)
    (hreply : replyOf e = none)
    (hcame : ∀ t, token = some t → Came initial (e :: f.log) t.tokenString) :
    Agree initial { s with accessToken := token.map tokenFor }
      ((f.emit e).setCurrentAccessToken token) where
  token := rfl
  dialog := h.dialog
  fresh := h.fresh
  heard := h.heard.trans (List.filterMap_cons_none hreply).symm
  current := hcame
  credentials a self tokenString he :=
    (h.credentials a self tokenString he).mono fun _ => List.mem_cons_of_mem _

theorem tokenOf_answerFor (reply : Reply) :
    Model.Step.tokenOf (answerFor reply) = (Dialog.Effects.tokenOf reply).map tokenFor := by
  cases reply <;> rfl

theorem Dialogs.quiet (h : Dialogs s f) {e : Event} (hrequests : t.requests = s.requests)
    (hlog : g.log = e :: f.log) (he : quiet e = true) : Dialogs t g := by
  intro a
  rw [hrequests, hlog, logins_quiet he, calls_quiet he]
  exact h a

theorem Dialogs.frame (h : Dialogs s f) (hf : Handled f) (hfresh : f.fresh ≤ s.next)
    (hst : Frame s t) : Dialogs t f := by
  intro a
  constructor
  · rintro ⟨self, hr⟩
    exact (h a).mp ⟨self, hst.dialogs a self hr⟩
  · intro ha
    obtain ⟨self, hr⟩ := (h a).mpr ha
    exact ⟨self, hst.dialog a self (Nat.lt_of_lt_of_le (hf.lt_of_mem ha.1) hfresh) hr⟩

theorem Dialogs.answered (h : Dialogs s f) (hf : Handled f) (hfresh : f.fresh ≤ s.next)
    {reply : Reply} {self : Addr} {answer : Answer LoginManagerLoginResult}
    (ha : (f.managers m).handler = some a) (hanswered : Answered s a self answer t) :
    Dialogs t (invokeHandler m reply f) := by
  intro b
  rw [log_invokeHandler ha, logins_handled, calls_handled]
  constructor
  · rintro ⟨i, hr⟩
    obtain ⟨hba, hold⟩ := hanswered.dialogs b i hr
    obtain ⟨hmem, hzero⟩ := (h b).mp ⟨i, hold⟩
    exact ⟨hmem, by rw [hzero, if_neg (Ne.symm hba)]⟩
  · rintro ⟨hmem, hzero⟩
    have hba : b ≠ a := by
      rintro rfl
      simp at hzero
    rw [if_neg (Ne.symm hba)] at hzero
    obtain ⟨i, hr⟩ := (h b).mpr ⟨hmem, hzero⟩
    have hlt : b < s.next := Nat.lt_of_lt_of_le (hf.lt_of_mem hmem) hfresh
    exact ⟨i, (hanswered.requests b hba hlt).trans hr⟩

theorem Agree.answered (h : Agree initial s f) (hf : Handled f) {reply : Reply} {self : Addr}
    (ha : (f.managers m).handler = some a)
    (hanswered : Answered s a self (answerFor reply) t) :
    Agree initial t (invokeHandler m reply f) := by
  have hlog : (invokeHandler m reply f).log = .handled a reply :: f.log := log_invokeHandler ha
  have hmem : ∀ e ∈ f.log, e ∈ (invokeHandler m reply f).log := by
    intro e he
    rw [hlog]
    exact List.mem_cons_of_mem _ he
  have hcurrent : (invokeHandler m reply f).currentAccessToken = f.currentAccessToken := by
    rw [invokeHandler_eq]
  have hfresh : (invokeHandler m reply f).fresh = f.fresh := by rw [invokeHandler_eq]
  have hcame : ∀ token, f.currentAccessToken = some token →
      Came initial (invokeHandler m reply f).log token.tokenString := fun token ht =>
    (h.current token ht).mono hmem
  refine ⟨?_, fun m' b hb => ?_, ?_, ?_, ?_, fun b self' tokenString he => ?_⟩
  · rw [hanswered.token, h.token, hcurrent]
  · rw [handler_invokeHandler] at hb
    split_ifs at hb with hm'
    have hba : b ≠ a := by
      rintro rfl
      exact hm' ((hf.login hb).trans (hf.login ha).symm)
    have hlt : b < s.next := Nat.lt_of_lt_of_le (hf.lt hb) h.fresh
    obtain ⟨self', hr'⟩ := h.dialog m' b hb
    exact ⟨self', (hanswered.requests b hba hlt).trans hr'⟩
  · rw [hfresh]
    exact Nat.le_trans h.fresh hanswered.next
  · rw [← answers_filter, hanswered.log, answers, List.filterMap_append, hlog]
    exact congrArg₂ (· ++ ·) (answers_logInEvents ..) ((answers_filter s.log).trans h.heard)
  · rw [hcurrent]
    exact hcame
  · rw [← credential_mem, hanswered.log, List.mem_append] at he
    rcases he with he | he
    · have hread : f.currentAccessToken.map tokenFor = some ⟨tokenString⟩ :=
        h.token.symm.trans (token_of_logInEvents he)
      obtain ⟨token, ht, hstring⟩ := Option.map_eq_some_iff.mp hread
      obtain rfl := AccessToken.mk.inj hstring
      exact hcame token ht
    · exact (h.credentials b self' tokenString (credential_mem.mp he)).mono hmem

/-- **A handler is called**: the block of its attempt runs in the app. -/
theorem Agree.handled (h : Agree initial s f) (hf : Handled f) (reply : Reply)
    (ha : (f.managers m).handler = some a)
    (hcurrent : ∀ token, Dialog.Effects.tokenOf reply = some token →
      f.currentAccessToken = some token) :
    ∃ t, Model.Step.step s (.logInFinish a (answerFor reply)) = some t ∧
      Agree initial t (invokeHandler m reply f) ∧
      (Dialogs s f → Dialogs t (invokeHandler m reply f)) := by
  obtain ⟨self, hr⟩ := h.dialog m a ha
  have hor : (Model.Step.tokenOf (answerFor reply)).or s.accessToken = s.accessToken := by
    rw [tokenOf_answerFor, h.token]
    rcases ht : Dialog.Effects.tokenOf reply with _ | token
    · rfl
    · rw [hcurrent token ht]
      rfl
  obtain ⟨t, hst, hanswered⟩ := logInFinish_spec hr hor
  exact ⟨t, hst, h.answered hf ha hanswered,
    fun hdialogs => hdialogs.answered hf h.fresh ha hanswered⟩

theorem Agree.led (h : Agree initial s f) (hlog : g.log = f.log) (hfresh : g.fresh = f.fresh)
    (hhandler : ∀ m, (g.managers m).handler = (f.managers m).handler)
    (hcurrent : g.currentAccessToken = f.currentAccessToken) : Led initial s f s g where
  served := .quiet hlog
  agree := h.unseen hfresh hhandler hcurrent (fun _ he => hlog ▸ he) (by rw [hlog])
  dialogs hdialogs a := hlog ▸ hdialogs a

theorem Agree.unhandled (h : Agree initial s f) (reply : Reply)
    (hnone : (f.managers m).handler = none) : Led initial s f s (invokeHandler m reply f) := by
  refine h.led (log_unhandled hnone) ?_ (fun m' => handler_unhandled hnone) ?_
  · rw [invokeHandler_eq]
  · rw [invokeHandler_eq]

theorem deliver_handled {reply : Reply}
    (hst : Model.Step.step s (.logInFinish a (answerFor reply)) = some t) :
    deliver (.handled a reply) s = t := by
  rw [deliver, hst]
  rfl

theorem Agree.refused (h : Agree initial s f) (hf : Handled f) {reply : Reply}
    (hreply : Dialog.Effects.tokenOf reply = none) :
    ∃ t, Led initial s f t (invokeHandler m reply f) := by
  rcases ha : (f.managers m).handler with _ | a
  · exact ⟨s, h.unhandled reply ha⟩
  · obtain ⟨t, hst, hagree, hdialogs⟩ := h.handled hf reply ha fun token ht =>
      absurd (hreply.symm.trans ht) (by simp)
    exact ⟨t, .one (log_invokeHandler ha) (deliver_handled hst).symm rfl hst, hagree, hdialogs⟩

/-- The token of the answer is cached before the block runs, or when it runs. -/
theorem logInFinish_cached {token : AccessToken} {answer : Answer LoginManagerLoginResult}
    (ht : Model.Step.tokenOf answer = some token) :
    Model.Step.step { s with accessToken := some token } (.logInFinish a answer) =
      Model.Step.step s (.logInFinish a answer) := by
  simp only [Model.Step.step, ht, Option.some_or]

/-- **A login makes its token the current one and calls its handler.** For the app this is one
action, the answer, or the token alone if no block waits. -/
theorem Agree.granted (h : Agree initial s f) (hf : Handled f) (token : FBSDKAccessToken)
    (granted : Finset String) (declined : Option (Finset String)) :
    ∃ t, Led initial s f t
      (invokeHandler m (.ok (loginResult token granted declined)) (cacheToken m token f)) := by
  have hcached : Agree initial { s with accessToken := some (tokenFor token) }
      (cacheToken m token f) := by
    refine h.tokened (.cached m (f.managers m).handler f.currentAccessToken token) (some token) rfl
      fun t ht => ?_
    obtain rfl := Option.some.inj ht
    exact .cached m _ _ token List.mem_cons_self rfl
  have hhandled : Handled (cacheToken m token f) := hf.emit rfl rfl rfl rfl
  have hdialogs : Dialogs s f →
      Dialogs { s with accessToken := some (tokenFor token) } (cacheToken m token f) :=
    fun hdialogs => hdialogs.quiet rfl rfl rfl
  rcases ha : (f.managers m).handler with _ | a
  · obtain ⟨-, hagree, hdialogs'⟩ := hcached.unhandled
      (.ok (loginResult token granted declined)) ha
    have hlog : (invokeHandler m (.ok (loginResult token granted declined))
        (cacheToken m token f)).log = (cacheToken m token f).log := log_unhandled ha
    exact ⟨_, .one hlog rfl (by rw [ha]; rfl) rfl, hagree, hdialogs' ∘ hdialogs⟩
  · obtain ⟨t, hst, hagree, hdialogs'⟩ := hcached.handled hhandled
      (.ok (loginResult token granted declined)) ha fun t ht => ht
    have hlog : (invokeHandler m (.ok (loginResult token granted declined))
        (cacheToken m token f)).log = .handled a (.ok (loginResult token granted declined)) ::
          (cacheToken m token f).log := log_invokeHandler ha
    refine ⟨t, ⟨[_, _], hlog, (deliver_handled hst).symm, ?_⟩, hagree, hdialogs' ∘ hdialogs⟩
    rw [ha]
    exact exec_cons.mpr ⟨t, (logInFinish_cached rfl).symm.trans hst, rfl⟩

/-- **The app and the SDK agree after each piece of the SDK's code.** -/
theorem Agree.effect (h : Agree initial s f) (hf : Handled f) (he : Effect f₀ act f g) :
    ∃ t, Led initial s f t g := by
  cases he with
  | changed m k hm hk =>
    exact ⟨s, h.led rfl rfl (handler_modify fun manager => (hk manager).1) rfl⟩
  | consumed m parameters hm =>
    exact ⟨s, .unheard rfl rfl rfl,
      h.unseen rfl (fun _ => rfl) rfl (fun _ => List.mem_cons_of_mem _) rfl,
      fun hdialogs => hdialogs.quiet rfl rfl rfl⟩
  | refused m reply hm hreply => exact h.refused hf hreply
  | granted m token granted declined hm hs => exact h.granted hf token granted declined
  | dropped =>
    exact ⟨_, .one rfl rfl rfl rfl,
      h.tokened .dropped none rfl fun t ht => absurd ht (by simp),
      fun hdialogs => hdialogs.quiet rfl rfl rfl⟩
  | refreshed currentToken tokenString permissions hcurrent =>
    have hsome : s.accessToken.isSome = true := by
      rw [h.token, hcurrent]
      rfl
    refine ⟨_, .one rfl rfl rfl (if_pos hsome),
      h.tokened (.refreshed _) (some _) rfl fun t ht => ?_,
      fun hdialogs => hdialogs.quiet rfl rfl rfl⟩
    obtain rfl := Option.some.inj ht
    exact .refreshed _ List.mem_cons_self rfl
  | _ => exact ⟨s, h.led rfl rfl (fun _ => rfl) rfl⟩

/-- **The app and the SDK agree after the code of a step.** -/
theorem Agree.runs (h : Agree initial s f) (hf : Handled f) (hruns : Runs f₀ act f g) :
    ∃ t, Led initial s f t g := by
  have hall : Handled g ∧ ∃ t, Led initial s f t g := by
    refine runs_preserve (J := fun g => Handled g ∧ ∃ t, Led initial s f t g)
      ⟨hf, s, .refl, h, id⟩ ?_ hruns
    rintro f' g' ⟨hf', t, hled⟩ he
    obtain ⟨u, hled'⟩ := hled.agree.effect hf' he
    exact ⟨hf'.effect he, u, hled.served.trans hled'.served, hled'.agree,
      hled'.dialogs ∘ hled.dialogs⟩
  exact hall.2

theorem Agree.released (h : Agree initial s f) : Agree initial s f.release where
  token := h.token
  dialog m a ha := by
    rw [handler_release] at ha
    split_ifs at ha
    exact h.dialog m a ha
  fresh := h.fresh
  heard := h.heard
  current := h.current
  credentials := h.credentials

theorem Led.released (h : Led initial s f t g) : Led initial s f t g.release :=
  ⟨h.served, h.agree.released, h.dialogs⟩

end Agree
end AccountApp.Joint.Agreement
