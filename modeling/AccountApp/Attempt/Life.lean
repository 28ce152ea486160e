import Mathlib.Logic.Relation
import AccountApp.Model.Handlers

/-! # The life of one attempt

What one attempt goes through, seen alone: whether its number has been given out, what it waits for,
and its own events (`View`). `Move` lists what can happen to it next: a request is called, Firebase
answers it, its completion block is run, and so on; a launch drops whatever it waits for. `Lived`
are the views an attempt can get into.

`Lived.calls` and `Lived.reads` are what the events of an attempt say about the request it waits
for, by induction over its moves: a call is answered and completed at most once, and the closure of
a read belongs to a sign-in that has completed. -/

namespace AccountApp.Attempt.Life

open AccountApp.Model.Data AccountApp.Model.Screens AccountApp.Model.State
open AccountApp.Model.Handlers

/-- The attempt an event belongs to. The profile fetch and the write of the record run beside their
attempt and are not counted. -/
def owner : Event → Option Attempt
  | .alert cause _ _ => cause
  | .authStarted a _ => some a
  | .authFinished a _ _ => some a
  | .authCompleted a _ _ _ => some a
  | .fbLogInCompleted a _ _ => some a
  | .googleSignedIn a _ _ => some a
  | .recordRead a _ _ _ => some a
  | .profileFilled a _ _ => some a
  | .verified a _ => some a
  | .performSegue a _ _ _ _ => some a
  | .performLogin a _ => some a
  | .launched | .instantiated _ | .print _ | .trapped | .fetched .. | .recordWritten .. => none
  | .presented _ | .signedOut => none

/-- The events of attempt `a`, the newest first. -/
def trace (a : Attempt) (log : List Event) : List Event := log.filter fun e => owner e = some a

/-- One attempt, seen alone. -/
structure View where
  started : Bool
  request : Option Request
  trace : List Event

/-- The requests an attempt can start with, calls of `Auth.auth()` apart. -/
def opening : Request → Bool
  | .fbDialog _ | .fetchProfile _ _ | .googleDialog | .numberAlert _ _ | .verifyPhone _ _
  | .passwordReset _ _ => true
  | .auth _ | .authDone _ _ | .userRecord _ _ _ => false

/-- The calls made at a tap. -/
def tapped : AuthCall → Bool
  | .createUser .. | .signInEmail .. | .signInPhone .. => true
  | .signInFacebook .. | .signInGoogle .. => false

/-- Events that say nothing about a login or a registration. -/
def minor : Event → Bool
  | .alert .. | .verified .. | .performLogin .. => true
  | _ => false

/-- What can happen to attempt `a` next. -/
inductive Move (a : Attempt) : View → View → Prop
  | number {r h} : Move a ⟨false, r, h⟩ ⟨true, r, h⟩
  | opened {r h} (r' : Request) (hr : opening r' = true) : Move a ⟨false, r, h⟩ ⟨true, some r', h⟩
  | tapped {r h} (call : AuthCall) (hc : tapped call = true) :
      Move a ⟨false, r, h⟩ ⟨true, some (.auth call), .authStarted a call :: h⟩
  | dropped {b r h} : Move a ⟨b, r, h⟩ ⟨b, none, h⟩
  | closed {b r h} (new : List Event) (hr : opening r = true) (hn : ∀ e ∈ new, minor e = true) :
      Move a ⟨b, some r, h⟩ ⟨b, none, new ++ h⟩
  | logInStopped {b self h} (answer : Answer LoginManagerLoginResult) :
      Move a ⟨b, some (.fbDialog self), h⟩ ⟨b, none, .fbLogInCompleted a self answer :: h⟩
  | logIn {b self h} (answer : Answer LoginManagerLoginResult) (token : String) :
      Move a ⟨b, some (.fbDialog self), h⟩
        ⟨b, some (.auth (.signInFacebook self token)),
          .authStarted a (.signInFacebook self token) :: .fbLogInCompleted a self answer :: h⟩
  | googleStopped {b h} (self : Addr) (answer : Answer GIDGoogleUser)
      (hno : ∀ user, answer = .ok user → user.authentication = none) :
      Move a ⟨b, some .googleDialog, h⟩ ⟨b, none, .googleSignedIn a self answer :: h⟩
  | google {b h} (self : Addr) (user : GIDGoogleUser) (auth : GIDAuthentication)
      (ha : user.authentication = some auth) (handed : Flow) (profile : ProfileData) :
      Move a ⟨b, some .googleDialog, h⟩
        ⟨b, some (.auth (.signInGoogle self auth.idToken auth.accessToken)),
          .performSegue a .google self handed profile ::
            .authStarted a (.signInGoogle self auth.idToken auth.accessToken) ::
            .googleSignedIn a self (.ok user) :: h⟩
  | finished {b call h} (answer : Answer User) :
      Move a ⟨b, some (.auth call), h⟩
        ⟨b, some (.authDone call answer), .authFinished a call answer :: h⟩
  | created {b self form user h} (cur : Option User) :
      Move a ⟨b, some (.authDone (.createUser self form) (.ok user)), h⟩
        ⟨b, none, .alert (some a) self registrationAlert ::
          .authCompleted a (.createUser self form) (.ok user) cur :: h⟩
  | emailSignedIn {b self email password result h} (user : User) :
      Move a ⟨b, some (.authDone (.signInEmail self email password) (.ok result)), h⟩
        ⟨b, some (.userRecord self user result.uid),
          .authCompleted a (.signInEmail self email password) (.ok result) (some user) :: h⟩
  | emailSignedOut {b self email password result h} :
      Move a ⟨b, some (.authDone (.signInEmail self email password) (.ok result)), h⟩
        ⟨b, none, .authCompleted a (.signInEmail self email password) (.ok result) none :: h⟩
  | formFailed {b call e h} (self : Addr) (cur : Option User) (hc : ∀ flow, call.flow = some flow →
        flow = .email) :
      Move a ⟨b, some (.authDone call (.error e)), h⟩
        ⟨b, none, .alert (some a) self (authErrorAlert e.localizedDescription) ::
          .authCompleted a call (.error e) cur :: h⟩
  | facebookDone {b self token answer h} (cur : Option User) (handed : Flow)
      (profile : ProfileData) :
      Move a ⟨b, some (.authDone (.signInFacebook self token) answer), h⟩
        ⟨b, none, .performSegue a .facebook self handed profile ::
          .authCompleted a (.signInFacebook self token) answer cur :: h⟩
  | googleDone {b self idToken accessToken answer h} (cur : Option User) :
      Move a ⟨b, some (.authDone (.signInGoogle self idToken accessToken) answer), h⟩
        ⟨b, none, .authCompleted a (.signInGoogle self idToken accessToken) answer cur :: h⟩
  | phoneDone {b self vid code user h} (cur : Option User) (profile : ProfileData) :
      Move a ⟨b, some (.authDone (.signInPhone self vid code) (.ok user)), h⟩
        ⟨b, none, .performSegue a .phone self .phone profile ::
          .authCompleted a (.signInPhone self vid code) (.ok user) cur :: h⟩
  | phoneFailed {b self vid code e h} (cur : Option User) :
      Move a ⟨b, some (.authDone (.signInPhone self vid code) (.error e)), h⟩
        ⟨b, none, .authCompleted a (.signInPhone self vid code) (.error e) cur :: h⟩
  | readNothing {b self user uid h} :
      Move a ⟨b, some (.userRecord self user uid), h⟩ ⟨b, none, .recordRead a self uid [] :: h⟩
  | read {b self user uid h} (snapshot : Dictionary) (hs : snapshot ≠ []) (handed : Flow)
      (profile : ProfileData) :
      Move a ⟨b, some (.userRecord self user uid), h⟩
        ⟨b, none, .performSegue a .email self handed profile ::
          .profileFilled a self (fireProfileOf user snapshot) ::
          .recordRead a self uid snapshot :: h⟩

/-- The views attempt `a` can get into. -/
abbrev Lived (a : Attempt) (v : View) : Prop := Relation.ReflTransGen (Move a) ⟨false, none, []⟩ v

theorem Move.of_retired {a : Attempt} {h : List Event} {v : View} (hm : Move a ⟨true, none, h⟩ v) :
    v = ⟨true, none, h⟩ := by
  cases hm
  rfl

theorem retired {a : Attempt} {h : List Event} {v : View}
    (hm : Relation.ReflTransGen (Move a) ⟨true, none, h⟩ v) : v = ⟨true, none, h⟩ := by
  induction hm with
  | refl => rfl
  | tail _ hmove ih => subst ih; exact hmove.of_retired

theorem Move.subset {a : Attempt} {v w : View} (hm : Move a v w) : v.trace ⊆ w.trace := by
  cases hm with
  | closed new hr hn => exact List.subset_append_right ..
  | google self user auth ha handed profile | read snapshot hs handed profile =>
    exact List.subset_append_right [_, _, _] _
  | _ => simp

theorem subset_of_moves {a : Attempt} {v w : View} (hm : Relation.ReflTransGen (Move a) v w) :
    v.trace ⊆ w.trace := by
  induction hm with
  | refl => exact List.Subset.refl _
  | tail _ hmove ih => exact List.Subset.trans ih hmove.subset

theorem Move.numbered {a : Attempt} {v w : View} (hv : v.started = false → v.request = none)
    (hm : Move a v w) : w.started = false → w.request = none := by
  cases hm <;> simp_all

theorem numbered_of_moves {a : Attempt} {v w : View} (hv : v.started = false → v.request = none)
    (hm : Relation.ReflTransGen (Move a) v w) : w.started = false → w.request = none := by
  induction hm with
  | refl => exact hv
  | tail _ hmove ih => exact hmove.numbered ih

theorem Lived.fresh {a : Attempt} {v : View} (h : Lived a v) (hs : v.started = false) :
    v.request = none ∧ v.trace = [] := by
  induction h with
  | refl => exact ⟨rfl, rfl⟩
  | tail _ hm ih => cases hm <;> simp_all

/-! ### The call of an attempt -/

/-- The three events of a call of `Auth.auth()`. -/
def isCall : Event → Bool
  | .authStarted .. | .authFinished .. | .authCompleted .. => true
  | _ => false

/-- The events of the calls in a history. -/
def calls (h : List Event) : List Event := h.filter isCall

@[simp] theorem calls_nil : calls [] = [] := rfl

@[simp] theorem calls_cons (e : Event) (h : List Event) :
    calls (e :: h) = if isCall e then e :: calls h else calls h := by
  unfold calls
  rw [List.filter_cons]

theorem calls_append (h h' : List Event) : calls (h ++ h') = calls h ++ calls h' :=
  List.filter_append h h'

theorem calls_of_minor {new : List Event} (hn : ∀ e ∈ new, minor e = true) : calls new = [] := by
  refine List.filter_eq_nil_iff.mpr fun e he => ?_
  have := hn e he
  cases e <;> simp_all [minor, isCall]

/-- What an attempt waits for, beside the events of its call: there is one call at most, and it is
started, answered and completed once each, in this order. -/
inductive Calls (a : Attempt) : Option Request → List Event → Prop
  | opening {r} (hr : opening r = true) : Calls a (some r) []
  | auth (call) : Calls a (some (.auth call)) [.authStarted a call]
  | authDone (call answer) : Calls a (some (.authDone call answer))
      [.authFinished a call answer, .authStarted a call]
  | userRecord (self email password result user) : Calls a (some (.userRecord self user result.uid))
      [.authCompleted a (.signInEmail self email password) (.ok result) (some user),
        .authFinished a (.signInEmail self email password) (.ok result),
        .authStarted a (.signInEmail self email password)]
  | ended {l} (call answer cur) (hl : l <:+ [.authCompleted a call answer cur,
        .authFinished a call answer, .authStarted a call]) : Calls a none l

section Calls
variable {a : Attempt} {r : Request} {call : AuthCall} {answer : Answer User} {l : List Event}

theorem Calls.nil (a : Attempt) : Calls a none [] :=
  .ended (.createUser 0 ⟨"", "", "", ""⟩) (.error ⟨"", ""⟩) none (List.nil_suffix)

theorem Calls.done (cur : Option User) : Calls a none
    [.authCompleted a call answer cur, .authFinished a call answer, .authStarted a call] :=
  .ended call answer cur List.suffix_rfl

theorem Calls.dropped {r : Option Request} (h : Calls a r l) : Calls a none l := by
  cases h with
  | opening _ => exact .nil a
  | auth call => exact .ended call (.error ⟨"", ""⟩) none ⟨[_, _], rfl⟩
  | authDone call answer => exact .ended call answer none ⟨[_], rfl⟩
  | userRecord self email password result user => exact .done (some user)
  | ended call answer cur hl => exact .ended call answer cur hl

theorem Calls.eq_of_opening (h : Calls a (some r) l) (hr : Life.opening r = true) : l = [] := by
  cases h with
  | opening _ => rfl
  | _ => simp [Life.opening] at hr

theorem Calls.eq_of_auth (h : Calls a (some (.auth call)) l) : l = [.authStarted a call] := by
  cases h with
  | opening hr => simp [Life.opening] at hr
  | auth => rfl

theorem Calls.eq_of_authDone (h : Calls a (some (.authDone call answer)) l) :
    l = [.authFinished a call answer, .authStarted a call] := by
  cases h with
  | opening hr => simp [Life.opening] at hr
  | authDone => rfl

end Calls

/-- **Every attempt calls Firebase once at most.** -/
theorem Lived.calls {a : Attempt} {v : View} (h : Lived a v) :
    Calls a v.request (calls v.trace) := by
  induction h with
  | refl => exact .nil a
  | tail hv hm ih =>
    cases hm with
    | number => exact ih
    | opened r' hr =>
      obtain ⟨-, rfl⟩ := Lived.fresh hv rfl
      exact .opening hr
    | tapped call hc =>
      obtain ⟨-, rfl⟩ := Lived.fresh hv rfl
      exact .auth call
    | dropped => exact ih.dropped
    | closed new hr hn =>
      rw [calls_append, calls_of_minor hn]
      exact ih.dropped
    | logInStopped answer => simpa [isCall] using ih.dropped
    | logIn answer token =>
      simpa [isCall, ih.eq_of_opening rfl] using Calls.auth (a := a) (.signInFacebook _ token)
    | googleStopped self answer hno => simpa [isCall] using ih.dropped
    | google self user auth ha handed profile =>
      simpa [isCall, ih.eq_of_opening rfl] using
        Calls.auth (a := a) (.signInGoogle self auth.idToken auth.accessToken)
    | finished answer => simpa [isCall, ih.eq_of_auth] using Calls.authDone (a := a) _ answer
    | emailSignedIn user =>
      simpa [isCall, ih.eq_of_authDone] using Calls.userRecord (a := a) _ _ _ _ user
    | created cur => simpa [isCall, ih.eq_of_authDone] using Calls.done (a := a) cur
    | emailSignedOut => simpa [isCall, ih.eq_of_authDone] using Calls.done (a := a) none
    | formFailed self cur hc => simpa [isCall, ih.eq_of_authDone] using Calls.done (a := a) cur
    | facebookDone cur handed profile =>
      simpa [isCall, ih.eq_of_authDone] using Calls.done (a := a) cur
    | googleDone cur => simpa [isCall, ih.eq_of_authDone] using Calls.done (a := a) cur
    | phoneDone cur profile => simpa [isCall, ih.eq_of_authDone] using Calls.done (a := a) cur
    | phoneFailed cur => simpa [isCall, ih.eq_of_authDone] using Calls.done (a := a) cur
    | readNothing => simpa [isCall] using ih.dropped
    | read snapshot hs handed profile => simpa [isCall] using ih.dropped

theorem mem_calls {e : Event} {h : List Event} : e ∈ calls h ↔ e ∈ h ∧ isCall e = true :=
  List.mem_filter

section Completed
variable {a : Attempt} {v : View} {call call' : AuthCall} {answer answer' : Answer User}
variable {cur cur' : Option User}

theorem Lived.calls_of_completed (h : Lived a v)
    (hc : .authCompleted a call answer cur ∈ v.trace) :
    Life.calls v.trace =
      [.authCompleted a call answer cur, .authFinished a call answer, .authStarted a call] := by
  have hmem : .authCompleted a call answer cur ∈ Life.calls v.trace := mem_calls.mpr ⟨hc, rfl⟩
  have hl := h.calls
  generalize Life.calls v.trace = l at hmem hl
  generalize v.request = r at hl
  cases hl with
  | opening _ => simp at hmem
  | auth _ => simp at hmem
  | authDone _ _ => simp at hmem
  | userRecord _ _ _ _ _ =>
    obtain ⟨rfl, rfl, rfl⟩ : call = _ ∧ answer = _ ∧ cur = _ := by simpa using hmem
    rfl
  | ended call' answer' cur' hl =>
    simp only [List.suffix_cons_iff, List.suffix_nil] at hl
    rcases hl with rfl | rfl | rfl | rfl
    · obtain ⟨rfl, rfl, rfl⟩ : call = call' ∧ answer = answer' ∧ cur = cur' := by simpa using hmem
      rfl
    all_goals simp at hmem

/-- **A completion block runs once at most.** -/
theorem Lived.completed_unique (h : Lived a v) (hc : .authCompleted a call answer cur ∈ v.trace)
    (hc' : .authCompleted a call' answer' cur' ∈ v.trace) :
    call = call' ∧ answer = answer' ∧ cur = cur' := by
  have heq := (h.calls_of_completed hc).symm.trans (h.calls_of_completed hc')
  simpa using (List.cons.inj heq).1

theorem Lived.finished_of_completed (h : Lived a v)
    (hc : .authCompleted a call answer cur ∈ v.trace) :
    .authStarted a call ∈ v.trace ∧ .authFinished a call answer ∈ v.trace := by
  have hl := h.calls_of_completed hc
  constructor
  · exact (mem_calls.mp (by rw [hl]; simp)).1
  · exact (mem_calls.mp (by rw [hl]; simp)).1

theorem Lived.eq_of_started (h : Lived a v) (hs : .authStarted a call' ∈ v.trace)
    (hc : .authCompleted a call answer cur ∈ v.trace) : call' = call := by
  have hmem : .authStarted a call' ∈ Life.calls v.trace := mem_calls.mpr ⟨hs, rfl⟩
  rw [h.calls_of_completed hc] at hmem
  simpa using hmem

theorem Lived.not_completed (h : Lived a v)
    (hr : (∃ call, v.request = some (.auth call)) ∨
      ∃ call answer, v.request = some (.authDone call answer)) :
    .authCompleted a call answer cur ∉ v.trace := by
  intro hc
  have hl := h.calls
  rcases hr with ⟨call', hr⟩ | ⟨call', answer', hr⟩
  · rw [hr, h.calls_of_completed hc] at hl
    simpa using hl.eq_of_auth
  · rw [hr, h.calls_of_completed hc] at hl
    simpa using hl.eq_of_authDone

theorem Lived.not_finished (h : Lived a v) (hr : v.request = some (.auth call')) :
    .authFinished a call answer ∉ v.trace := by
  intro hf
  have hmem : .authFinished a call answer ∈ Life.calls v.trace := mem_calls.mpr ⟨hf, rfl⟩
  have hl := h.calls
  rw [hr] at hl
  rw [hl.eq_of_auth] at hmem
  simp at hmem

theorem Lived.started_of_request (h : Lived a v)
    (hr : v.request = some (.authDone call answer)) : .authStarted a call ∈ v.trace := by
  have hl := h.calls
  rw [hr] at hl
  have hmem : .authStarted a call ∈ Life.calls v.trace := by
    rw [hl.eq_of_authDone]
    simp
  exact (mem_calls.mp hmem).1

theorem Lived.finished_of_request (h : Lived a v)
    (hr : v.request = some (.authDone call answer)) : .authFinished a call answer ∈ v.trace := by
  have hl := h.calls
  rw [hr] at hl
  have hmem : .authFinished a call answer ∈ Life.calls v.trace := by
    rw [hl.eq_of_authDone]
    simp
  exact (mem_calls.mp hmem).1

theorem Lived.not_completed_of_opening (h : Lived a v) {r : Request} (hr : v.request = some r)
    (ho : opening r = true) : .authCompleted a call answer cur ∉ v.trace := by
  intro hc
  have hl := h.calls
  rw [hr, h.calls_of_completed hc] at hl
  simpa using hl.eq_of_opening ho

theorem Lived.completed_of_reading (h : Lived a v) {self : Addr} {user : User} {uid : String}
    (hr : v.request = some (.userRecord self user uid)) : ∃ email password result,
      uid = result.uid ∧
        .authCompleted a (.signInEmail self email password) (.ok result) (some user) ∈ v.trace := by
  have hl := h.calls
  rw [hr] at hl
  generalize hcalls : Life.calls v.trace = l at hl
  cases hl with
  | opening hr => simp [opening] at hr
  | userRecord _ email password result _ =>
    have hmem : .authCompleted a (.signInEmail self email password) (.ok result) (some user) ∈
      Life.calls v.trace := by rw [hcalls]; simp
    exact ⟨email, password, result, rfl, (mem_calls.mp hmem).1⟩

theorem Lived.alert_of_created (h : Lived a v) {self : Addr} {form : Form} {user : User}
    (hc : .authCompleted a (.createUser self form) (.ok user) cur ∈ v.trace) :
    .alert (some a) self registrationAlert ∈ v.trace := by
  induction h with
  | refl => simp at hc
  | tail _ hm ih =>
    cases hm with
    | closed new hr hn =>
      rcases List.mem_append.mp hc with hc | hc
      · exact absurd (hn _ hc) (by simp [minor])
      · exact List.mem_append_right _ (ih hc)
    | created cur =>
      simp only [List.mem_cons, reduceCtorEq, Event.authCompleted.injEq, AuthCall.createUser.injEq,
        false_or] at hc ⊢
      rcases hc with ⟨-, ⟨rfl, -⟩, -⟩ | hc
      · exact Or.inl rfl
      · exact Or.inr (ih hc)
    | _ => simp_all

end Completed

/-! ### The read of an attempt -/

/-- The read of the record and what its closure fills in. -/
def isRead : Event → Bool
  | .recordRead .. | .profileFilled .. => true
  | _ => false

/-- The events of the read in a history. -/
def reads (h : List Event) : List Event := h.filter isRead

@[simp] theorem reads_nil : reads [] = [] := rfl

@[simp] theorem reads_cons (e : Event) (h : List Event) :
    reads (e :: h) = if isRead e then e :: reads h else reads h := by
  unfold reads
  rw [List.filter_cons]

theorem mem_reads {e : Event} {h : List Event} : e ∈ reads h ↔ e ∈ h ∧ isRead e = true :=
  List.mem_filter

theorem reads_append_of_minor {new h : List Event} (hn : ∀ e ∈ new, minor e = true) :
    reads (new ++ h) = reads h := by
  have hnil : new.filter isRead = [] := by
    refine List.filter_eq_nil_iff.mpr fun e he => ?_
    have := hn e he
    cases e <;> simp_all [minor, isRead]
  unfold reads
  rw [List.filter_append, hnil, List.nil_append]

/-- The read of an attempt that has one: that of the record of the account the email sign-in has
signed in, with the profile filled from the user that was current when it completed. -/
inductive ReadOf (a : Attempt) (h : List Event) : List Event → Prop
  | nothing (self email password result user)
      (hc : .authCompleted a (.signInEmail self email password) (.ok result) (some user) ∈ h) :
      ReadOf a h [.recordRead a self result.uid []]
  | filled (self email password result user snapshot) (hs : snapshot ≠ [])
      (hc : .authCompleted a (.signInEmail self email password) (.ok result) (some user) ∈ h) :
      ReadOf a h [.profileFilled a self (fireProfileOf user snapshot),
        .recordRead a self result.uid snapshot]

theorem ReadOf.mono {a : Attempt} {h h' l : List Event} (hr : ReadOf a h l) (hh : h ⊆ h') :
    ReadOf a h' l := by
  cases hr with
  | nothing self email password result user hc =>
    exact .nothing self email password result user (hh hc)
  | filled self email password result user snapshot hs hc =>
    exact .filled self email password result user snapshot hs (hh hc)

/-- **What an attempt reads.** While it waits for something it has read nothing. -/
theorem Lived.reads {a : Attempt} {v : View} (h : Lived a v) :
    (v.request ≠ none → Life.reads v.trace = []) ∧
      (Life.reads v.trace = [] ∨ ReadOf a v.trace (Life.reads v.trace)) := by
  induction h with
  | refl => simp
  | tail hv hm ih =>
    cases hm with
    | number =>
      obtain ⟨-, rfl⟩ := Lived.fresh hv rfl
      simp
    | opened r' hr =>
      obtain ⟨-, rfl⟩ := Lived.fresh hv rfl
      simp
    | tapped call hc =>
      obtain ⟨-, rfl⟩ := Lived.fresh hv rfl
      simp [isRead]
    | dropped => exact ⟨fun hn => absurd rfl hn, ih.2⟩
    | closed new hr hn =>
      have hnil := ih.1 (by simp)
      simp [reads_append_of_minor hn, hnil]
    | readNothing =>
      have hnil := ih.1 (by simp)
      obtain ⟨email, password, result, rfl, hc⟩ := Lived.completed_of_reading hv rfl
      simp only [reads_cons, isRead, if_true, hnil, ne_eq, not_true_eq_false, false_implies,
        true_and]
      exact Or.inr (.nothing _ email password result _ (List.mem_cons_of_mem _ hc))
    | read snapshot hs handed profile =>
      have hnil := ih.1 (by simp)
      obtain ⟨email, password, result, rfl, hc⟩ := Lived.completed_of_reading hv rfl
      have hr := ReadOf.filled (a := a) _ email password result _ snapshot hs hc
      simpa [isRead, hnil] using hr.mono fun e he => by simp [show e ∈ _ from he]
    | _ =>
      have hnil := ih.1 (by simp)
      simp [isRead, hnil]

theorem Lived.readOf {a : Attempt} {v : View} (h : Lived a v) {e : Event} (he : e ∈ v.trace)
    (hr : isRead e = true) : ReadOf a v.trace (Life.reads v.trace) := by
  have hmem : e ∈ Life.reads v.trace := mem_reads.mpr ⟨he, hr⟩
  rcases h.reads.2 with hnil | hread
  · rw [hnil] at hmem
    exact absurd hmem List.not_mem_nil
  · exact hread

end AccountApp.Attempt.Life
