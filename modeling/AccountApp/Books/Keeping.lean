import Mathlib.Logic.Relation
import AccountApp.Model.Step

/-! # The ledger of the app

A `Ledger` is what the laws about several attempts at once are about: the profiles the controllers
hold with the tag that selects one of them, the slot `authVID`, the writes that are pending, the
accounts and their records, and the history. The requests, the sessions and the text fields are left
out.

`Entry` lists what can be booked at a time. Most events are `plain`: they are put on record and
change nothing else. -/

namespace AccountApp.Books.Keeping

open AccountApp.Lib AccountApp.Model.Data AccountApp.Model.Screens AccountApp.Model.State
open AccountApp.Model.Handlers AccountApp.Model.Step

/-- A controller without its outlets. -/
def bare (vc : ViewController) : ViewController where
  gProfileData := vc.gProfileData
  fbProfileData := vc.fbProfileData
  fireProfileData := vc.fireProfileData
  checkSystem := vc.checkSystem

structure Ledger where
  vcs : Addr → ViewController
  /-- The screens for the code that the user can get at. -/
  logIns : List Addr
  authVID : Option String
  writes : Attempt → Option RecordWrite
  accounts : List String
  users : String → Dictionary
  log : List Event

/-- The address of a screen for the code. -/
def logInOf : Screen → Option Addr
  | .logIn self => some self
  | _ => none

/-- The ledger of a state. -/
def ledger (s : App) : Ledger where
  vcs := bare ∘ s.vcs
  logIns := s.screens.filterMap logInOf
  authVID := s.authVID
  writes := s.writes
  accounts := s.accounts
  users := s.users
  log := s.log

def Ledger.note (e : Event) (d : Ledger) : Ledger := { d with log := e :: d.log }

/-- The call and the answer to it make an account. -/
def registers : AuthCall → Answer User → Bool
  | .createUser .., .ok _ => true
  | _, _ => false

/-- The events that change nothing but the history. -/
def plain : Event → Bool
  | .print _ | .alert .. | .trapped | .authStarted .. | .presented _ | .performLogin ..
  | .signedOut => true
  | .authFinished _ call answer => !registers call answer
  | .authCompleted _ (.signInFacebook ..) _ _ => false
  | .authCompleted _ call answer _ => !registers call answer
  | .fbLogInCompleted _ _ (.error _) => true
  | .googleSignedIn _ _ answer => !usable answer
  | .verified _ (.error _) => true
  | .performSegue _ flow _ handed _ => flow = .phone && handed = .phone
  | .fbLogInCompleted _ _ (.ok _) | .verified _ (.ok _) => false
  | .launched | .instantiated _ | .fetched .. | .recordRead .. | .profileFilled .. => false
  | .recordWritten .. => false

/-- What can be shown under `users/<uid>`: the record, or with a write that is pending laid over it. -/
inductive Visible (d : Ledger) (uid : String) : Dictionary → Prop
  | record : Visible d uid (d.users uid)
  | laid {record} (a : Attempt) (w : RecordWrite) (hw : d.writes a = some w) (hu : w.uid = uid)
      (h : Visible d uid record) : Visible d uid (Dictionary.update w.values record)

/-- What is booked at a time. -/
inductive Entry : Ledger → Ledger → Prop
  | noted {d} (e : Event) (he : plain e = true) : Entry d (d.note e)
  | launched {d} : Entry d ({ d with logIns := [] }.note .launched)
  | instantiated {d} (self : Addr) :
      Entry d ({ d with vcs := Function.update d.vcs self {} }.note (.instantiated self))
  | facebook {d} (a : Attempt) (self : Addr) (result : LoginManagerLoginResult) :
      Entry d ({ d with
        vcs := Function.update d.vcs self { d.vcs self with checkSystem := "fb" } }.note
          (.fbLogInCompleted a self (.ok result)))
  | fetched {d} (owner : Option Attempt) (self : Addr) (answer : Answer Dictionary) :
      Entry d ({ d with
        vcs := Function.update d.vcs self ((d.vcs self).transferFBData answer) }.note
          (.fetched owner self answer))
  /-- The segue of the Facebook flow, with what the block has printed before. -/
  | facebookDone {d} (a : Attempt) (self : Addr) (token : String) (answer : Answer User)
      (cur : Option User) (lines : List Event) (hl : ∀ e ∈ lines, plain e = true) :
      Entry d { d with
        log := .performSegue a .facebook self (ViewController.selected (d.vcs self).checkSystem)
            (d.vcs self).prepare ::
          (lines ++ .authCompleted a (.signInFacebook self token) answer cur :: d.log) }
  | google {d} (a : Attempt) (self : Addr) (user : GIDGoogleUser) (call : AuthCall)
      (hu : usable (.ok user) = true) :
      Entry d { d with
        vcs := Function.update d.vcs self { d.vcs self with
          gProfileData := googleProfileOf user.profile, checkSystem := "g" }
        log := .performSegue a .google self .google (googleProfileOf user.profile) ::
          .authStarted a call :: .googleSignedIn a self (.ok user) :: d.log }
  | read {d} (a : Attempt) (self : Addr) (user : User) (uid : String) (snapshot : Dictionary)
      (hs : Visible d uid snapshot) (hne : snapshot ≠ []) :
      Entry d { d with
        vcs := Function.update d.vcs self { d.vcs self with
          fireProfileData := fireProfileOf user snapshot, checkSystem := "Firebase" }
        log := .performSegue a .email self .email (fireProfileOf user snapshot) ::
          .profileFilled a self (fireProfileOf user snapshot) ::
          .recordRead a self uid snapshot :: d.log }
  | readNothing {d} (a : Attempt) (self : Addr) (uid : String) (hs : Visible d uid []) :
      Entry d (d.note (.recordRead a self uid []))
  | known {d} (uid : String) : Entry d { d with accounts := uid :: d.accounts }
  | issued {d} (a : Attempt) (self : Addr) (form : Form) (user : User)
      (hu : user.uid ∉ d.accounts) (hf : ∀ call answer, .authFinished a call answer ∉ d.log) :
      Entry d ({ d with accounts := user.uid :: d.accounts }.note
        (.authFinished a (.createUser self form) (.ok user)))
  | created {d} (a : Attempt) (self : Addr) (form : Form) (user : User) (cur : Option User)
      (hf : .authFinished a (.createUser self form) (.ok user) ∈ d.log)
      (hc : ∀ call answer cur, .authCompleted a call answer cur ∉ d.log) :
      Entry d ({ d with
        writes := Function.update d.writes a (some ⟨user.uid, form.record⟩) }.note
          (.authCompleted a (.createUser self form) (.ok user) cur))
  | written {d} (a : Attempt) (w : RecordWrite) (outcome : WriteOutcome)
      (hw : d.writes a = some w) :
      Entry d ({ d with
        writes := Function.update d.writes a none
        users := if outcome = WriteOutcome.applied then
            Function.update d.users w.uid (Dictionary.update w.values (d.users w.uid))
          else d.users }.note (.recordWritten a outcome))
  | verified {d} (a : Attempt) (verificationID : String) (self : Addr) :
      Entry d ({ d with authVID := some verificationID, logIns := self :: d.logIns }.note
        (.verified a (.ok verificationID)))

theorem forall_mem_facebookDone {p : Event → Prop} {lines : List Event} {segue done : Event}
    (hplain : ∀ {e}, plain e = true → p e) (hl : ∀ e ∈ lines, plain e = true) (hsegue : p segue)
    (hdone : p done) : ∀ e ∈ segue :: (lines ++ [done]), p e := by
  intro e he
  rcases List.mem_cons.mp he with rfl | he
  · exact hsegue
  · rcases List.mem_append.mp he with he | he
    · exact hplain (hl e he)
    · rw [List.mem_singleton.mp he]
      exact hdone

/-- The ledgers of a device that the app has been installed on. -/
abbrev Kept (d : Ledger) : Prop :=
  ∃ device : Device, Relation.ReflTransGen Entry (ledger device.installed) d

/-- **What every entry preserves holds of every ledger that is kept.** -/
theorem Kept.invariant {I : Ledger → Prop} (h0 : ∀ device : Device, I (ledger device.installed))
    (hI : ∀ d d', Kept d → I d → Entry d d' → I d') {d : Ledger} (h : Kept d) : I d := by
  obtain ⟨device, h⟩ := h
  induction h with
  | refl => exact h0 device
  | tail hd he ih => exact hI _ _ ⟨device, hd⟩ ih he

end AccountApp.Books.Keeping
