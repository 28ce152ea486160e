import AccountApp.Attempt.Life
import AccountApp.Books.Blocks

/-! # Attempts inside the app

`view a s` is attempt `a` as the state `s` of the app shows it. A step of the app makes each attempt
take some of its own moves, most often none (`moves_step`); so whatever is proved about the life of
one attempt holds of each of the attempts of a run (`lived`), whatever the others do.

* `moves_step`: a piece that stands for itself gives out a number at most, and an answer is one move
  of its attempt.
* `trace_of_retired`: an attempt that waits for nothing will never do anything again. -/

namespace AccountApp.Attempt.Refine

open AccountApp.Lib AccountApp.Model.Data AccountApp.Model.Screens AccountApp.Model.State
open AccountApp.Model.Handlers AccountApp.Model.Step AccountApp.Books.Effects
open AccountApp.Books.Blocks AccountApp.Attempt.Life
open Relation

/-- Attempt `b`, as the app shows it. -/
def view (b : Attempt) (s : App) : View := ⟨decide (b < s.next), s.requests b, trace b s.log⟩

@[simp] theorem trace_nil (b : Attempt) : trace b [] = [] := rfl

@[simp] theorem trace_cons (b : Attempt) (e : Event) (h : List Event) :
    trace b (e :: h) = if owner e = some b then e :: trace b h else trace b h := by
  unfold trace
  rw [List.filter_cons]
  simp only [decide_eq_true_eq]

theorem trace_append (b : Attempt) (l h : List Event) :
    trace b (l ++ h) = trace b l ++ trace b h := List.filter_append l h

theorem mem_trace {b : Attempt} {e : Event} {h : List Event} :
    e ∈ trace b h ↔ e ∈ h ∧ owner e = some b := by
  simp [trace]

/-- Every attempt takes moves of its own. -/
def Moves (s t : App) : Prop := ∀ b, ReflTransGen (Move b) (view b s) (view b t)

section Moves
variable {s t u : App} {a : Attempt}

theorem Moves.refl (s : App) : Moves s s := fun _ => .refl

theorem Moves.trans (h : Moves s t) (h' : Moves t u) : Moves s u := fun b => (h b).trans (h' b)

theorem Moves.quiet (hn : t.next = s.next) (hr : t.requests = s.requests)
    (hl : ∀ b, trace b t.log = trace b s.log) : Moves s t := by
  intro b
  have heq : view b t = view b s := by
    unfold view
    rw [hn, hr, hl b]
  rw [heq]

theorem Moves.moved (a : Attempt) (hn : t.next = s.next)
    (hr : ∀ b ≠ a, t.requests b = s.requests b) (hl : ∀ b ≠ a, trace b t.log = trace b s.log)
    (hm : Move a (view a s) (view a t)) : Moves s t := by
  intro b
  by_cases hb : b = a
  · subst hb
    exact .single hm
  · have heq : view b t = view b s := by
      unfold view
      rw [hn, hr b hb, hl b hb]
    rw [heq]

theorem Moves.started (hn : t.next = s.next + 1)
    (hr : ∀ b ≠ s.next, t.requests b = s.requests b)
    (hl : ∀ b ≠ s.next, trace b t.log = trace b s.log)
    (hm : Move s.next ⟨false, s.requests s.next, trace s.next s.log⟩
      ⟨true, t.requests s.next, trace s.next t.log⟩) : Moves s t := by
  intro b
  by_cases hb : b = s.next
  · subst hb
    have hs : view s.next s = ⟨false, s.requests s.next, trace s.next s.log⟩ := by simp [view]
    have ht : view s.next t = ⟨true, t.requests s.next, trace s.next t.log⟩ := by simp [view, hn]
    rw [hs, ht]
    exact .single hm
  · have hlt : b < s.next + 1 ↔ b < s.next :=
      ⟨fun h => Nat.lt_of_le_of_ne (Nat.lt_succ_iff.mp h) hb, Nat.lt_succ_of_lt⟩
    have heq : view b t = view b s := by
      unfold view
      rw [hn, hr b hb, hl b hb, decide_eq_decide.mpr hlt]
    rw [heq]

theorem Moves.numbered (hn : t.next = s.next + 1) (hr : t.requests = s.requests)
    (hl : ∀ b, trace b t.log = trace b s.log) : Moves s t := by
  refine .started hn (fun b _ => by rw [hr]) (fun b _ => hl b) ?_
  rw [hr, hl]
  exact .number

end Moves

/-! ### The pieces -/

section Pieces
variable {s₀ s t : App} {act : Action}

theorem owner_of_told {e : Event} (h : told e = false) : owner e = none := by
  cases e with
  | alert cause self alert =>
    rcases cause with _ | a
    · rfl
    · exact absurd h (by simp [told])
  | print line | trapped => rfl
  | _ => exact absurd h (by simp [told])

theorem moves_emit {e : Event} (he : owner e = none) : Moves s (s.emit e) :=
  .quiet rfl rfl fun b => by simp [App.emit, he]

theorem moves_start {r : Request} (hr : opening r = true) : Moves s (s.start r) := by
  refine .started rfl (fun b hb => ?_) (fun b _ => rfl) ?_
  · exact Function.update_of_ne hb _ _
  · have hreq : (s.start r).requests s.next = some r := Function.update_self ..
    rw [hreq]
    exact .opened r hr

theorem moves_startAuth {call : AuthCall} (hc : tapped call = true) :
    Moves s (s.startAuth call) := by
  refine .started rfl (fun b hb => ?_) (fun b hb => ?_) ?_
  · exact Function.update_of_ne hb _ _
  · simp [App.startAuth, App.callAuth, App.emit, App.await, owner, hb.symm]
  · simpa [App.startAuth, App.callAuth, App.emit, App.await, owner] using
      Move.tapped (r := s.requests s.next) call hc

theorem moves_prepareProfile (profile : ProfileData) : Moves s (s.prepareProfile profile) :=
  .numbered rfl rfl fun _ => rfl

theorem moves_modify (self : Addr) (f : ViewController → ViewController) :
    Moves s (s.modify self f) := .quiet rfl rfl fun _ => rfl

theorem opening_of_opens {r : Request} (h : Opens s act r) : opening r = true := by
  cases h <;> rfl

theorem tapped_of_tap {call : AuthCall} (h : Tap s act call) : tapped call = true := by
  cases h with
  | form self hself hf =>
    unfold formCall
    split_ifs <;> rfl
  | code self vid hself hvid => rfl

theorem moves_piece (h : Effect s₀ act false s t) : Moves s t := by
  cases h with
  | spoken e he hk => exact moves_emit (owner_of_told hk)
  | started r hr hn => exact moves_start (opening_of_opens hr)
  | tapped call hc hn => exact moves_startAuth (tapped_of_tap hc)
  | verifyOpened self hself hshown | resetOpened self hself hshown =>
    exact .numbered rfl rfl fun _ => rfl
  | mainOpened hact => exact .numbered rfl rfl fun b => by simp [newMain, App.emit, owner]
  | launched hact =>
    intro b
    have hv : view b (startProcess s) = ⟨decide (b < s.next), none, trace b s.log⟩ :=
      congrArg (View.mk _ none) (by simp [startProcess, App.emit, owner])
    rw [hv]
    exact .single .dropped
  | presented self hself hact hmem =>
    exact .quiet rfl rfl fun b => by simp [App.present, App.emit, owner]
  | signedOut self throwing user hact hself huser =>
    exact .quiet rfl rfl fun b => by simp [App.emit, owner]
  | _ => exact .quiet rfl rfl fun _ => rfl

end Pieces

/-! ### The answers

Each is one move of its attempt, followed by what concerns no attempt. -/

section Answers
variable {s t : App} {act : Action} {a : Attempt}

theorem view_of_request {r : Request} (hr : s.requests a = some r) :
    view a s = ⟨decide (a < s.next), some r, trace a s.log⟩ := by
  unfold view
  rw [hr]

theorem moves_of_request {r : Request} {q : Option Request} {l : List Event}
    (hr : s.requests a = some r) (hn : t.next = s.next)
    (hq : t.requests = Function.update s.requests a q) (hl : t.log = l ++ s.log)
    (ho : ∀ e ∈ l, ∀ b, owner e = some b → b = a)
    (hm : Move a ⟨decide (a < s.next), some r, trace a s.log⟩
      ⟨decide (a < s.next), q, trace a l ++ trace a s.log⟩) : Moves s t := by
  refine .moved a hn (fun b hb => ?_) (fun b hb => ?_) ?_
  · rw [hq, Function.update_of_ne hb]
  · have hnil : trace b l = [] := by
      refine List.filter_eq_nil_iff.mpr fun e he => ?_
      have hne : owner e ≠ some b := fun h => hb (ho e he b h)
      simpa using hne
    rw [hl, trace_append, hnil]
    rfl
  · rw [view_of_request hr]
    unfold view
    rw [hn, hq, hl, Function.update_self, trace_append]
    exact hm

theorem moves_performSegue {r : Request} {q : Option Request} {flow : Flow} {self : Addr}
    {l : List Event} (hr : s.requests a = some r) (hn : t.next = s.next)
    (hq : t.requests = Function.update s.requests a q) (hl : t.log = l ++ s.log)
    (ho : ∀ e ∈ l, ∀ b, owner e = some b → b = a)
    (hm : ∀ handed profile, Move a ⟨decide (a < s.next), some r, trace a s.log⟩
      ⟨decide (a < s.next), q,
        .performSegue a flow self handed profile :: (trace a l ++ trace a s.log)⟩) :
    Moves s (t.performSegue a flow self) := by
  refine Moves.trans ?_ (moves_prepareProfile _)
  refine moves_of_request hr hn hq (l := .performSegue a flow self _ _ :: l)
    (congrArg (_ :: ·) hl) ?_ ?_
  · intro e he b hb
    rcases List.mem_cons.mp he with rfl | he
    · exact (Option.some.inj hb).symm
    · exact ho e he b hb
  · simpa [owner] using hm _ _

/-- The block of the Facebook dialog; `loadFBData` gives out the next number. -/
theorem moves_dialog {self : Addr} {answer : Answer LoginManagerLoginResult} {q : Option Request}
    {l : List Event} (hlt : a < s.next) (hr : s.requests a = some (.fbDialog self))
    (hn : t.next = (dialogBegun a self answer (dialogEntered a self answer s)).next)
    (hq : t.requests =
      Function.update (dialogBegun a self answer (dialogEntered a self answer s)).requests a q)
    (hl : t.log = l ++ (dialogBegun a self answer (dialogEntered a self answer s)).log)
    (ho : ∀ e ∈ l, ∀ b, owner e = some b → b = a)
    (hm : Move a ⟨decide (a < s.next), some (.fbDialog self), trace a s.log⟩
      ⟨decide (a < s.next), q,
        trace a l ++ .fbLogInCompleted a self answer :: trace a s.log⟩) : Moves s t := by
  have hne : a ≠ s.next := Nat.ne_of_lt hlt
  cases answer with
  | error e =>
    refine moves_of_request hr hn (hq.trans (Function.update_idem ..))
      (l := l ++ [.print ("Failed to login: " ++ e.localizedDescription),
        .fbLogInCompleted a self (.error e)]) ?_ ?_ ?_
    · rw [hl, List.append_assoc]
      rfl
    · exact List.forall_mem_append.mpr ⟨ho, by simp [owner]⟩
    · simpa [trace_append, owner] using hm
  | ok result =>
    -- the fetch is started first, under the next number
    refine Moves.trans (moves_start (r := .fetchProfile self (some a)) rfl) ?_
    have hr' : (s.start (.fetchProfile self (some a))).requests a = some (.fbDialog self) :=
      (Function.update_of_ne hne _ _).trans hr
    have hcomm : Function.update (Function.update s.requests a none) s.next
        (some (.fetchProfile self (some a))) = Function.update (s.start
          (.fetchProfile self (some a))).requests a none :=
      Function.update_comm hne _ _ _
    refine moves_of_request hr' hn (q := q) (hq.trans ?_)
      (l := l ++ [.fbLogInCompleted a self (.ok result)]) ?_ ?_ ?_
    · exact (congrArg (Function.update · a _) hcomm).trans (Function.update_idem ..)
    · rw [hl, List.append_assoc]
      rfl
    · exact List.forall_mem_append.mpr ⟨ho, by simp [owner]⟩
    · have hlt' : a < (s.start (.fetchProfile self (some a))).next := Nat.lt_succ_of_lt hlt
      rw [decide_eq_true hlt']
      rw [decide_eq_true hlt] at hm
      simpa [trace_append, owner, App.start, App.await] using hm

/-- **An answer is one move of its attempt.** An attempt whose dialog comes back has a number
already, so that the fetch it starts gets another. -/
theorem moves_answers (hs : ∀ a, s.requests a ≠ none → a < s.next) (h : Answers s act t) :
    Moves s t := by
  cases h with
  | numberConfirmed hr =>
    refine Moves.trans ?_ (moves_start rfl)
    exact moves_of_request hr rfl rfl (l := []) rfl (by simp) (.closed [] rfl (by simp))
  | numberCancelled hr =>
    exact moves_of_request hr rfl rfl (l := []) rfl (by simp) (.closed [] rfl (by simp))
  | @refused a call e hr =>
    refine moves_of_request hr rfl rfl (l := [.authFinished a call (.error e)]) rfl ?_ ?_
    · simp [owner]
    · simpa [owner] using Move.finished (.error e)
  | @accepted a call user hr hnew =>
    refine moves_of_request hr rfl rfl (l := [.authFinished a call (.ok user)]) rfl ?_ ?_
    · simp [owner]
    · simpa [owner] using Move.finished (.ok user)
  | @created a self form user hr =>
    refine moves_of_request hr rfl rfl (l := [.alert (some a) self registrationAlert,
      .authCompleted a (.createUser self form) (.ok user) s.currentUser]) rfl ?_ ?_
    · simp [owner]
    · simpa [owner] using Move.created s.currentUser
  | @notCreated a self form e hr =>
    refine moves_of_request hr rfl rfl (l := [
      .alert (some a) self (authErrorAlert e.localizedDescription),
      .authCompleted a (.createUser self form) (.error e) s.currentUser]) rfl ?_ ?_
    · simp [owner]
    · simpa [owner] using Move.formFailed self s.currentUser (by simp [AuthCall.flow])
  | @reading a self email password result user hr hu =>
    refine moves_of_request hr rfl (Function.update_idem ..) (l := [.authCompleted a
      (.signInEmail self email password) (.ok result) (some user)]) ?_ ?_ ?_
    · rw [← hu]
      rfl
    · simp [owner]
    · simpa [owner] using Move.emailSignedIn user
  | @notReading a self email password result hr hu =>
    refine moves_of_request hr rfl rfl (l := [.authCompleted a
      (.signInEmail self email password) (.ok result) none]) ?_ ?_ ?_
    · rw [← hu]
      rfl
    · simp [owner]
    · simpa [owner] using Move.emailSignedOut
  | @notSignedIn a self email password e hr =>
    refine moves_of_request hr rfl rfl (l := [
      .alert (some a) self (authErrorAlert e.localizedDescription),
      .authCompleted a (.signInEmail self email password) (.error e) s.currentUser]) rfl ?_ ?_
    · simp [owner]
    · simpa [owner] using Move.formFailed self s.currentUser (by simp [AuthCall.flow])
  | @facebookDone a self token answer hr =>
    cases answer with
    | ok user =>
      refine moves_performSegue hr rfl rfl (l := [
        .authCompleted a (.signInFacebook self token) (.ok user) s.currentUser]) rfl ?_ ?_
      · simp [owner]
      · intro handed profile
        simpa [owner] using Move.facebookDone s.currentUser handed profile
    | error e =>
      refine moves_performSegue hr rfl rfl (l := [.print ("Login error: " ++ e.localizedDescription),
        .authCompleted a (.signInFacebook self token) (.error e) s.currentUser]) rfl ?_ ?_
      · simp [owner]
      · intro handed profile
        simpa [owner] using Move.facebookDone s.currentUser handed profile
  | @googleDone a self idToken accessToken answer hr =>
    cases answer with
    | ok user =>
      refine moves_of_request hr rfl rfl (l := [.authCompleted a
        (.signInGoogle self idToken accessToken) (.ok user) s.currentUser]) rfl ?_ ?_
      · simp [owner]
      · simpa [owner] using Move.googleDone s.currentUser
    | error e =>
      refine moves_of_request hr rfl rfl (l := [.print e.description, .authCompleted a
        (.signInGoogle self idToken accessToken) (.error e) s.currentUser]) rfl ?_ ?_
      · simp [owner]
      · simpa [owner] using Move.googleDone s.currentUser
  | @phoneDone a self vid code user hr =>
    refine Moves.trans ?_ (moves_prepareProfile (phoneProfileOf user))
    refine moves_of_request hr rfl rfl (l := [
      .performSegue a .phone self .phone (phoneProfileOf user),
      .print (optionalLine "Provider ID: " user.providerID),
      .authCompleted a (.signInPhone self vid code) (.ok user) s.currentUser]) ?_ ?_ ?_
    · simp [entered, App.emit, App.answered]
    · simp [owner]
    · simpa [owner] using Move.phoneDone s.currentUser (phoneProfileOf user)
  | @phoneFailed a self vid code e hr =>
    refine moves_of_request hr rfl rfl (l := [.print (optionalLine "error: " e.localizedDescription),
      .authCompleted a (.signInPhone self vid code) (.error e) s.currentUser]) rfl ?_ ?_
    · simp [owner]
    · simpa [owner] using Move.phoneFailed s.currentUser
  | @dialogStopped a self answer hr ht =>
    have hlt : a < s.next := hs a (by simp [hr])
    refine moves_dialog hlt hr (q := none) rfl ?_ (l := [.print "Failed to get access token"]) rfl
      ?_ ?_
    · refine Function.eq_update_iff.mpr ⟨?_, fun _ _ => rfl⟩
      cases answer with
      | error e => exact Function.update_self ..
      | ok result =>
        exact (Function.update_of_ne (Nat.ne_of_lt hlt) ..).trans (Function.update_self ..)
    · simp [owner]
    · simpa [owner] using Move.logInStopped answer
  | @dialogDone a self answer token hr ht =>
    refine moves_dialog (hs a (by simp [hr])) hr rfl rfl
      (l := [.authStarted a (.signInFacebook self token.tokenString)]) rfl ?_ ?_
    · simp [owner]
    · simpa [owner] using Move.logIn answer token.tokenString
  | @fetched a self parent answer hr =>
    refine Moves.trans ?_ (moves_modify self _)
    cases answer with
    | ok result =>
      refine moves_of_request hr rfl rfl (l := [.fetched parent self (.ok result)]) rfl ?_ ?_
      · simp [owner]
      · simpa [owner] using Move.closed [] rfl (by simp)
    | error e =>
      refine moves_of_request hr rfl rfl (l := [.print ("FETCH PROFILE ERROR: " ++ e.description),
        .fetched parent self (.error e)]) rfl ?_ ?_
      · simp [owner]
      · simpa [owner] using Move.closed [] rfl (by simp)
  | @googleFailed a e hr =>
    refine moves_of_request hr rfl rfl (l := [.print ("google error " ++ e.localizedDescription),
      .googleSignedIn a s.delegate (.error e)]) rfl ?_ ?_
    · simp [owner]
    · simpa [owner] using Move.googleStopped s.delegate (.error e) (by simp)
  | @googleStopped a user hr ha =>
    refine moves_of_request hr rfl rfl (l := [.googleSignedIn a s.delegate (.ok user)]) rfl ?_ ?_
    · simp [owner]
    · simpa [owner] using Move.googleStopped s.delegate (.ok user) (by simp [ha])
  | @google a user auth hr ha =>
    refine moves_performSegue hr rfl (Function.update_idem ..) (l := [
      .authStarted a (.signInGoogle s.delegate auth.idToken auth.accessToken),
      .googleSignedIn a s.delegate (.ok user)]) rfl ?_ ?_
    · simp [owner]
    · intro handed profile
      simpa [owner] using Move.google s.delegate user auth ha handed profile
  | @readNothing a self user uid hr hu =>
    refine moves_of_request hr rfl rfl (l := [.recordRead a self uid []]) rfl ?_ ?_
    · simp [owner]
    · simpa [owner] using Move.readNothing
  | @read a self user uid hr hu =>
    refine Moves.trans ?_ (moves_modify self ViewController.cleanTextFields)
    refine moves_performSegue hr rfl rfl (l := [
      .profileFilled a self (fireProfileOf user (s.snapshot uid)),
      .recordRead a self uid (s.snapshot uid)]) rfl ?_ ?_
    · simp [owner]
    · intro handed profile
      simpa [owner] using Move.read (s.snapshot uid) hu handed profile
  | written hw => exact .quiet rfl rfl fun b => by simp [writeFinish, App.emit, owner]
  | @verified a self number verificationID hr =>
    refine Moves.trans (t := ((s.answered a).emit (.verified a (.ok verificationID))).emit
      (.performLogin a self)) ?_ (.numbered rfl rfl fun _ => rfl)
    refine moves_of_request hr rfl rfl
      (l := [.performLogin a self, .verified a (.ok verificationID)]) rfl ?_ ?_
    · simp [owner]
    · simpa [owner] using Move.closed [.performLogin a self, .verified a (.ok verificationID)] rfl
        (by simp [minor])
  | @notVerified a self number e hr =>
    refine moves_of_request hr rfl rfl (l := [.print (optionalLine "eror: " e.localizedDescription),
      .verified a (.error e)]) rfl ?_ ?_
    · simp [owner]
    · simpa [owner] using Move.closed [.verified a (.error e)] rfl (by simp [minor])
  | @resetDone a self email error hr =>
    rcases error with _ | e
    · refine moves_of_request hr rfl rfl (l := [.alert (some a) self resetPasswordAlert]) rfl ?_ ?_
      · simp [owner]
      · simpa [owner] using Move.closed [.alert (some a) self resetPasswordAlert] rfl
          (by simp [minor])
    · exact moves_of_request hr rfl rfl (l := []) rfl (by simp) (.closed [] rfl (by simp))

end Answers

/-! ### The app -/

/-- Whatever is outstanding has been given a number. -/
def Allocated (s : App) : Prop := ∀ a, s.requests a ≠ none → a < s.next

/-- **A step of the app is a few moves of each attempt.** -/
theorem moves_step {s t : App} {act : Action} (hs : Allocated s) (h : step s act = some t) :
    Moves s t := by
  rcases split_step h with ⟨-, hpieces⟩ | hanswers
  · clear h
    induction hpieces with
    | refl => exact .refl s
    | tail _ hpiece ih => exact ih.trans (moves_piece hpiece)
  · exact moves_answers hs hanswers

theorem allocated_iff {s : App} :
    Allocated s ↔ ∀ a, (view a s).started = false → (view a s).request = none := by
  unfold Allocated view
  refine forall_congr' fun a => ?_
  simp only [decide_eq_false_iff_not]
  exact not_imp_comm

theorem Moves.allocated {s t : App} (hs : Allocated s) (hm : Moves s t) : Allocated t := by
  rw [allocated_iff] at hs ⊢
  exact fun a => numbered_of_moves (hs a) (hm a)

theorem allocated_exec {s t : App} {as : List Action} (hs : Allocated s) (h : exec s as = some t) :
    Allocated t ∧ Moves s t := by
  refine Machine.exec_preserves (I := fun u => Allocated u ∧ Moves s u) ?_ ⟨hs, .refl s⟩ h
  rintro u act v ⟨hu, hsu⟩ huv
  have huv := moves_step hu huv
  exact ⟨huv.allocated hu, hsu.trans huv⟩

/-- **Every run is a few moves of each attempt.** -/
theorem moves_exec {s t : App} {as : List Action} (hs : Allocated s) (h : exec s as = some t) :
    Moves s t := (allocated_exec hs h).2

theorem allocated {s : App} (h : Reachable s) : Allocated s := by
  obtain ⟨s₀, as, ⟨device, rfl⟩, hrun⟩ := h
  exact (allocated_exec (fun a ha => absurd rfl ha) hrun).1

/-- **Every attempt of a run lives the life of one attempt.** -/
theorem lived {s : App} (h : Reachable s) (a : Attempt) : Lived a (view a s) := by
  obtain ⟨s₀, as, ⟨device, rfl⟩, hrun⟩ := h
  exact moves_exec (fun a ha => absurd rfl ha) hrun a

theorem lt_of_mem_log {s : App} {a : Attempt} {e : Event} (h : Reachable s) (he : e ∈ s.log)
    (ho : owner e = some a) : a < s.next := by
  by_contra hge
  have hnil : trace a s.log = [] := ((lived h a).fresh (decide_eq_false hge)).2
  have hmem : e ∈ trace a s.log := mem_trace.mpr ⟨he, ho⟩
  rw [hnil] at hmem
  exact List.not_mem_nil hmem

theorem mem_log_of_exec {s t : App} {as : List Action} {a : Attempt} {e : Event} (hs : Allocated s)
    (h : exec s as = some t) (he : e ∈ s.log) (ho : owner e = some a) : e ∈ t.log := by
  have hmem : e ∈ trace a t.log := subset_of_moves (moves_exec hs h a) (mem_trace.mpr ⟨he, ho⟩)
  exact (mem_trace.mp hmem).1

/-- **An attempt that waits for nothing does nothing.** -/
theorem trace_of_retired {s t : App} {as : List Action} {a : Attempt} (hs : Allocated s)
    (ha : a < s.next) (hr : s.requests a = none) (h : exec s as = some t) :
    trace a t.log = trace a s.log := by
  have hv : view a s = ⟨true, none, trace a s.log⟩ := by simp [view, ha, hr]
  have hm := moves_exec hs h a
  rw [hv] at hm
  exact congrArg View.trace (retired hm)

end AccountApp.Attempt.Refine
