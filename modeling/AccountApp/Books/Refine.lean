import AccountApp.Attempt.Refine
import AccountApp.Books.Deliveries
import AccountApp.Books.Keeping

/-! # The app keeps its ledger

A step of the app makes a few entries in its ledger (`entered_step`), so the ledger of a reachable
state is kept (`kept`), and what every entry preserves holds of it. The guards of an entry that
speak of the history (an account is issued once, a registration completes once) come from the life
of the attempt. -/

namespace AccountApp.Books.Refine

open AccountApp.Lib AccountApp.Model.Data AccountApp.Model.Screens AccountApp.Model.State
open AccountApp.Model.Handlers AccountApp.Model.Step AccountApp.Attempt.Life
open AccountApp.Attempt.Refine AccountApp.Books.Deliveries AccountApp.Books.Effects
open AccountApp.Books.Blocks AccountApp.Books.Keeping
open Relation

/-- A few entries lead from the ledger of one state to that of the other. -/
abbrev Entered (s t : App) : Prop := ReflTransGen Entry (ledger s) (ledger t)

theorem bare_comp_update (vcs : Addr → ViewController) (self : Addr) (vc : ViewController) :
    bare ∘ Function.update vcs self vc = Function.update (bare ∘ vcs) self (bare vc) :=
  Function.comp_update bare vcs self vc

theorem bare_cleanTextFields (vc : ViewController) : bare vc.cleanTextFields = bare vc := rfl

theorem bare_switchButtonAction (vc : ViewController) : bare vc.switchButtonAction = bare vc := by
  unfold ViewController.switchButtonAction ViewController.setSignUpOrIn
  split_ifs <;> rfl

theorem bare_transferFBData (answer : Answer Dictionary) (vc : ViewController) :
    bare (vc.transferFBData answer) = (bare vc).transferFBData answer := by
  rw [transferFBData_eq, transferFBData_eq]
  rfl

section Entered
variable {s t u : App} {a : Attempt}

theorem entered_of_eq (h : ledger t = ledger s) : Entered s t := by
  rw [Entered, h]

theorem entered_emit {e : Event} (he : plain e = true) : Entered s (s.emit e) :=
  .single (.noted e he)

/-- The outlets of a controller are not in the ledger. -/
theorem entered_modify {self : Addr} {f : ViewController → ViewController}
    (hf : bare (f (s.vcs self)) = bare (s.vcs self)) : Entered s (s.modify self f) := by
  refine entered_of_eq ?_
  have hvcs : bare ∘ (s.modify self f).vcs = bare ∘ s.vcs := by
    unfold App.modify
    rw [bare_comp_update, hf]
    exact Function.update_eq_self self (bare ∘ s.vcs)
  unfold ledger
  rw [hvcs]
  rfl

end Entered

/-! ### The pieces -/

theorem bare_of_change {vc vc' : ViewController} (h : Change false vc vc') : bare vc' = bare vc := by
  cases h <;> rfl

theorem plain_of_told {e : Event} (h : told e = false) : plain e = true := by
  cases e with
  | alert | print | trapped => rfl
  | _ => exact absurd h (by simp [told])

theorem entered_piece {s₀ s t : App} {act : Action} (h : Effect s₀ act false s t) :
    Entered s t := by
  cases h with
  | spoken e he hk => exact entered_emit (plain_of_told hk)
  | changed self f hself hf => exact entered_modify (bare_of_change hf)
  | switched self hself hact => exact entered_modify (bare_switchButtonAction _)
  | tapped call hc hn => exact .single (.noted (.authStarted s.next call) rfl)
  | mainOpened hact =>
    have hentry := Entry.instantiated (d := ledger s) s.next
    have heq : bare ∘ Function.update s.vcs s.next {} = Function.update (bare ∘ s.vcs) s.next {} :=
      bare_comp_update s.vcs s.next {}
    refine .single ?_
    unfold newMain ledger at *
    simp only [App.emit]
    rw [heq]
    exact hentry
  | launched hact => exact .single .launched
  | presented self hself hact hmem => exact .single (.noted (.presented self) rfl)
  | signedOut self throwing user hact hself huser => exact .single (.noted .signedOut rfl)
  | _ => exact entered_of_eq rfl

/-! ### The answers -/

section Answers
variable {s t : App} {act : Action} {a : Attempt} {self : Addr}

theorem ledger_performSegue (flow : Flow) : ledger (s.performSegue a flow self) =
    (ledger s).note (.performSegue a flow self (ViewController.selected (s.vcs self).checkSystem)
      (s.vcs self).prepare) := rfl

theorem entered_completed {call : AuthCall} {answer : Answer User}
    (hp : plain (.authCompleted a call answer s.currentUser) = true) :
    Entered s (entered a call answer s) := .single (.noted _ hp)

theorem entered_dialogBegun {answer : Answer LoginManagerLoginResult} :
    Entered s (dialogBegun a self answer (dialogEntered a self answer s)) := by
  cases answer with
  | error e =>
    exact .tail (.single (.noted (.fbLogInCompleted a self (.error e)) rfl))
      (.noted (.print ("Failed to login: " ++ e.localizedDescription)) rfl)
  | ok result =>
    have hentry := Entry.facebook (d := ledger s) a self result
    have heq : bare ∘ Function.update s.vcs self { s.vcs self with checkSystem := "fb" } =
        Function.update (bare ∘ s.vcs) self { bare (s.vcs self) with checkSystem := "fb" } :=
      bare_comp_update s.vcs self _
    refine .single ?_
    unfold ledger at hentry ⊢
    simp only [dialogBegun, dialogEntered, App.modify, loadFBData, App.start, App.await, App.emit,
      App.answered]
    rw [heq]
    exact hentry

theorem entered_fetched {owner : Option Attempt} {answer : Answer Dictionary} :
    Entered s (transferFBData self answer ((s.answered a).emit (.fetched owner self answer))) := by
  have heq : ∀ u : App, ledger (u.modify self (ViewController.transferFBData answer)) =
      { ledger u with
        vcs := Function.update (ledger u).vcs self
          (((ledger u).vcs self).transferFBData answer) } := by
    intro u
    unfold ledger App.modify
    rw [bare_comp_update, bare_transferFBData]
    rfl
  unfold transferFBData
  rw [Entered, heq]
  cases answer with
  | ok result => exact .single (.fetched owner self (.ok result))
  | error e =>
    exact .tail (.single (.fetched owner self (.error e)))
      (.noted (.print ("FETCH PROFILE ERROR: " ++ e.description)) rfl)

/-- What the SDK shows of a record is the record with writes that are pending laid over it. -/
theorem visible_snapshot (uid : String) : Visible (ledger s) uid (s.snapshot uid) := by
  have hlaid : ∀ (ws : List RecordWrite) (record : Dictionary),
      (∀ w ∈ ws, w.uid = uid ∧ ∃ a, s.writes a = some w) → Visible (ledger s) uid record →
      Visible (ledger s) uid
        (ws.foldl (fun record w => Dictionary.update w.values record) record) := by
    intro ws
    induction ws with
    | nil => exact fun record _ h => h
    | cons w ws ih =>
      intro record hws h
      obtain ⟨hw, hrest⟩ := List.forall_mem_cons.mp hws
      obtain ⟨huid, a, ha⟩ := hw
      exact ih _ hrest (.laid a w ha huid h)
  refine hlaid _ _ (fun w hw => ?_) .record
  obtain ⟨hw, huid⟩ := List.mem_filter.mp hw
  obtain ⟨a, -, ha⟩ := List.mem_filterMap.mp hw
  exact ⟨by simpa using huid, a, ha⟩

theorem entered_answers (hl : ∀ a, Lived a (view a s)) (h : Answers s act t) : Entered s t := by
  cases h with
  | numberConfirmed hr => exact entered_of_eq rfl
  | numberCancelled hr => exact entered_of_eq rfl
  | @refused a call e hr =>
    exact .single (.noted (.authFinished a call (.error e)) (by cases call <;> rfl))
  | @accepted a call user hr hnew =>
    have hother : registers call (.ok user) = false → ReflTransGen Entry (ledger s)
        ({ ledger s with accounts := user.uid :: s.accounts }.note
          (.authFinished a call (.ok user))) := by
      intro hcall
      exact (ReflTransGen.single (.known user.uid)).tail (.noted _ (by simp [plain, hcall]))
    cases call with
    | createUser self form =>
      refine .single (.issued a self form user (hnew rfl) fun call answer hf => ?_)
      exact (hl a).not_finished hr (mem_trace.mpr ⟨hf, rfl⟩)
    | _ => exact hother rfl
  | @created a self form user hr =>
    refine ReflTransGen.trans ?_ (entered_modify (bare_switchButtonAction _))
    refine .tail (.single (.created a self form user s.currentUser ?_ fun call answer cur hc => ?_))
      (.noted (.alert (some a) self registrationAlert) rfl)
    · exact (mem_trace.mp ((hl a).finished_of_request hr)).1
    · exact (hl a).not_completed (Or.inr ⟨_, _, hr⟩) (mem_trace.mpr ⟨hc, rfl⟩)
  | notCreated hr => exact (entered_completed rfl).trans (entered_emit rfl)
  | reading hr hu => exact (entered_completed rfl).trans (entered_of_eq rfl)
  | notReading hr hu => exact entered_completed rfl
  | notSignedIn hr => exact (entered_completed rfl).trans (entered_emit rfl)
  | @facebookDone a self token answer hr =>
    unfold signInFacebookCompletion Entered
    rw [ledger_performSegue]
    cases answer with
    | ok user => exact .single (.facebookDone a self token (.ok user) s.currentUser [] (by simp))
    | error e =>
      exact .single (.facebookDone a self token (.error e) s.currentUser
        [.print ("Login error: " ++ e.localizedDescription)] (by simp [plain]))
  | @googleDone a self idToken accessToken answer hr =>
    cases answer with
    | ok user => exact entered_completed rfl
    | error e => exact (entered_completed rfl).trans (entered_emit rfl)
  | @phoneDone a self vid code user hr =>
    refine .tail (.tail (entered_completed rfl) (.noted (.print _) rfl))
      (.noted (.performSegue a .phone self .phone _) rfl)
  | phoneFailed hr => exact (entered_completed rfl).trans (entered_emit rfl)
  | dialogStopped hr ht => exact entered_dialogBegun.trans (entered_emit rfl)
  | dialogDone hr ht => exact entered_dialogBegun.tail (.noted (.authStarted _ _) rfl)
  | fetched hr => exact entered_fetched
  | @googleFailed a e hr =>
    exact .tail (.single (.noted (.googleSignedIn a s.delegate (.error e)) rfl))
      (.noted (.print ("google error " ++ e.localizedDescription)) rfl)
  | @googleStopped a user hr ha =>
    exact .single (.noted (.googleSignedIn a s.delegate (.ok user)) (by simp [plain, usable, ha]))
  | @google a user auth hr ha =>
    have hentry := Entry.google (d := ledger s) a s.delegate user
      (.signInGoogle s.delegate auth.idToken auth.accessToken) (by simp [usable, ha])
    refine .single ?_
    simp only [googleEntered, App.performSegue, App.modify, App.emit, App.callAuth, App.await,
      App.answered, App.prepareProfile, ledger, bare_comp_update, Function.update_self] at hentry ⊢
    exact hentry
  | @readNothing a self user uid hr hs =>
    have hvisible := visible_snapshot (s := s) uid
    rw [hs] at hvisible
    exact .single (.readNothing a self uid hvisible)
  | @read a self user uid hr hs =>
    have hentry := Entry.read (d := ledger s) a self user uid _ (visible_snapshot uid) hs
    refine ReflTransGen.trans ?_ (entered_modify (bare_cleanTextFields _))
    refine .single ?_
    simp only [App.performSegue, App.modify, App.emit, App.answered, App.prepareProfile, ledger,
      bare_comp_update, Function.update_self] at hentry ⊢
    exact hentry
  | written hw => exact .single (.written _ _ _ hw)
  | @verified a self number verificationID hr =>
    exact .tail (.single (.verified a verificationID s.next)) (.noted (.performLogin a self) rfl)
  | @notVerified a self number e hr =>
    exact .tail (.single (.noted (.verified a (.error e)) rfl))
      (.noted (.print (optionalLine "eror: " e.localizedDescription)) rfl)
  | @resetDone a self email error hr =>
    rcases error with _ | e
    · exact .single (.noted (.alert (some a) self resetPasswordAlert) rfl)
    · exact entered_of_eq rfl

end Answers

/-! ### The app -/

/-- **A step of the app is a few entries in its ledger.** -/
theorem entered_step {s t : App} {act : Action} (hl : ∀ a, Lived a (view a s))
    (h : step s act = some t) : Entered s t := by
  rcases split_step h with ⟨-, hpieces⟩ | hanswers
  · clear h
    induction hpieces with
    | refl => exact .refl
    | tail _ hpiece ih => exact ih.trans (entered_piece hpiece)
  · exact entered_answers hl hanswers

/-- **The ledger of a reachable state is kept.** -/
theorem kept {s : App} (h : Reachable s) : Kept (ledger s) := by
  refine Machine.Reachable.invariant (I := fun s => Kept (ledger s)) ?_ ?_ h
  · rintro _ ⟨device, rfl⟩
    exact ⟨device, .refl⟩
  · rintro s act t hs ⟨device, hd⟩ hst
    exact ⟨device, hd.trans (entered_step (fun a => lived hs a) hst)⟩

end AccountApp.Books.Refine
