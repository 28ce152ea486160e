import Mathlib.Data.List.Induction
import AccountApp.Books.Blocks

/-! # Where the requests come from

A request is one of a chain: a dialog, then a call of Firebase, its answer, then perhaps a read.
`Origin` is what the tap at the head of a chain has read, and `Matches` says which requests can be
links of a chain of this origin. A step either goes on with a chain or begins one under a number it
gives out (`Grounded`); so every request that is outstanding goes back to a tap, and the app has not
been launched again since (`exists_begin`). -/

namespace AccountApp.Books.Origins

open AccountApp.Lib AccountApp.Lib.Machine
open AccountApp.Model.Data AccountApp.Model.Screens AccountApp.Model.State
open AccountApp.Model.Handlers AccountApp.Model.Step
open AccountApp.Books.Effects AccountApp.Books.Blocks

/-- What begins at a tap, with what the tap has read. -/
inductive Origin where
  | registration (self : Addr) (form : Form)
  | email (self : Addr) (email password : String)
  | facebook (self : Addr)
  | google
  | phone (self : Addr) (verificationID verificationCode : String)
  | number (self : Addr) (number : String)
  | message (self : Addr) (number : String)
  | reset (self : Addr) (email : String)
deriving DecidableEq

def originOfCall : AuthCall → Origin
  | .createUser self form => .registration self form
  | .signInEmail self email password => .email self email password
  | .signInFacebook self _ => .facebook self
  | .signInGoogle .. => .google
  | .signInPhone self verificationID verificationCode => .phone self verificationID verificationCode

/-- The request can be a link of a chain of this origin: it has kept what its block captures. The
fetch of a profile goes with a dialog or a launch and is no link of a chain. -/
def Matches (o : Origin) : Request → Prop
  | .auth call | .authDone call _ => o = originOfCall call
  | .fbDialog self => o = .facebook self
  | .fetchProfile .. => False
  | .googleDialog => o = .google
  | .userRecord self _ _ => ∃ email password, o = .email self email password
  | .numberAlert self number => o = .number self number
  | .verifyPhone self number => o = .message self number
  | .passwordReset self email => o = .reset self email

/-- The tap that begins it. -/
inductive Begins (s : App) : Origin → Action → Prop
  | registration (self : Addr) (hself : .main self ∈ s.screens)
      (hmode : (s.vcs self).signUpOrIn = true) (hf : (s.vcs self).filledIn = true) :
      Begins s (.registration self (s.vcs self).form) (.firebaseLoginButtonAction self)
  | email (self : Addr) (hself : .main self ∈ s.screens)
      (hmode : (s.vcs self).signUpOrIn = false) (hf : (s.vcs self).filledIn = true) :
      Begins s (.email self (s.vcs self).emailField (s.vcs self).passwordField)
        (.firebaseLoginButtonAction self)
  | facebook (self : Addr) (hself : .main self ∈ s.screens)
      (hshown : (s.vcs self).customFBButtonHidden = false) :
      Begins s (.facebook self) (.fbButton self)
  | google (self : Addr) (hself : .main self ∈ s.screens)
      (hshown : (s.vcs self).googleLoginButtonHidden = false) :
      Begins s .google (.googleLoginButton self)
  | phone (self : Addr) (verificationID : String) (hself : .logIn self ∈ s.screens)
      (hvid : s.authVID = some verificationID) :
      Begins s (.phone self verificationID (s.logInVCs self).codeField) (.loginButton self)
  | number (self : Addr) (hself : .verify self ∈ s.screens) :
      Begins s (.number self (s.verifyVCs self).numberField) (.sendCodeButton self)
  | message (a : Attempt) (self : Addr) (number : String)
      (hr : s.requests a = some (.numberAlert self number)) :
      Begins s (.message self number) (.numberAlert a true)
  | reset (self : Addr) (hself : .reset self ∈ s.screens)
      (hne : (s.resetVCs self).emailTextField.isEmpty = false) :
      Begins s (.reset self (s.resetVCs self).emailTextField) (.resetShouldReturn self)

/-! ### The pieces -/

section Pieces
variable {s₀ s t : App} {act : Action} {k : Bool} {a : Attempt} {r r' : Request} {o : Origin}

theorem begins_of_opens (h : Opens s act r) (hm : Matches o r) : Begins s o act := by
  cases h with
  | loadFBData self hself ht | fetch a self result hr => exact hm.elim
  | fbButton self hself hshown =>
    obtain rfl := hm
    exact .facebook self hself hshown
  | googleLoginButton self hself hshown =>
    obtain rfl := hm
    exact .google self hself hshown
  | sendCodeButton self hself =>
    obtain rfl := hm
    exact .number self hself
  | numberConfirmed a self number hr =>
    obtain rfl := hm
    exact .message a self number hr
  | passwordReset self hself hne =>
    obtain rfl := hm
    exact .reset self hself hne

theorem begins_of_tap {call : AuthCall} (h : Tap s act call) : Begins s (originOfCall call) act := by
  cases h with
  | form self hself hf =>
    unfold formCall
    split_ifs with hmode
    · exact .registration self hself hmode hf
    · exact .email self hself (by simpa using hmode) hf
  | code self vid hself hvid => exact .phone self vid hself hvid

theorem newNumber_of_begins (h : Begins s o act) : newNumber s act = s.next := by
  cases h <;> rfl

/-- Every origin of `r'` is one of `r`, and there is one. -/
def Follows (r r' : Request) : Prop := (∃ o, Matches o r') ∧ ∀ o, Matches o r' → Matches o r

theorem follows_refl (hm : Matches o r) : Follows r r := ⟨⟨o, hm⟩, fun _ h => h⟩

theorem follows_continues (h : Continues s r' r) : Follows r r' := by
  cases h with
  | finished call answer => exact ⟨⟨_, rfl⟩, fun o ho => ho⟩
  | reading self email password result user hu =>
    exact ⟨⟨_, rfl⟩, fun o ho => ⟨email, password, ho⟩⟩

theorem follows_signsIn {call : AuthCall} (h : SignsIn s₀ s r' call) : Follows (.auth call) r' := by
  cases h <;> exact ⟨⟨_, rfl⟩, fun o ho => ho⟩

/-- The request `r` of attempt `a` goes on with what was outstanding before the step, or has been
begun by it. -/
def Grounded (s₀ : App) (act : Action) (a : Attempt) (r : Request) : Prop :=
  ∀ o, Matches o r → (∃ r', s₀.requests a = some r' ∧ Follows r r') ∨
    (Begins s₀ o act ∧ a = s₀.next)

/-- What is true of the requests while the code of a step runs. -/
def Traced (s₀ : App) (act : Action) (s : App) : Prop :=
  ∀ a r, s.requests a = some r → Grounded s₀ act a r

theorem Traced.replaced (h : Traced s₀ act s) {b : Attempt} {q : Option Request}
    (hr : t.requests = Function.update s.requests b q)
    (hq : ∀ r, q = some r → Grounded s₀ act b r) : Traced s₀ act t := by
  intro a r ha
  rw [hr] at ha
  by_cases hab : a = b
  · subst hab
    rw [Function.update_self] at ha
    exact hq r ha
  · rw [Function.update_of_ne hab] at ha
    exact h a r ha

theorem Traced.effect (h : Traced s₀ act s) (he : Effect s₀ act k s t) : Traced s₀ act t := by
  cases he with
  | started r hr hn =>
    refine h.replaced rfl fun r' heq o ho => Or.inr ?_
    obtain rfl := Option.some.inj heq
    have hbegins := begins_of_opens hr ho
    exact ⟨hbegins, hn.trans (newNumber_of_begins hbegins)⟩
  | tapped call hc hn =>
    refine h.replaced rfl fun r' heq o ho => Or.inr ?_
    obtain rfl := Option.some.inj heq
    obtain rfl := ho
    exact ⟨begins_of_tap hc, hn⟩
  | answered a r hr hact => exact h.replaced rfl fun r' heq => by simp at heq
  | awaited a r r' hr hc =>
    refine h.replaced rfl fun q heq o ho => Or.inl ⟨r, hr, ?_⟩
    obtain rfl := Option.some.inj heq
    exact follows_continues hc
  | called a r call hr hact hc =>
    refine h.replaced rfl fun q heq o ho => Or.inl ⟨r, hr, ?_⟩
    obtain rfl := Option.some.inj heq
    exact follows_signsIn hc
  | launched hact => exact fun a r ha => by simp [startProcess, App.emit] at ha
  | _ => exact h

end Pieces

/-! ### The app -/

section App
variable {s t : App} {act : Action} {a : Attempt} {r : Request} {o : Origin}

/-- **What a step leaves outstanding** goes on with a chain, or begins one at the tap it is, under
the number it gives out. -/
theorem grounded_step (h : step s act = some t) (hr : t.requests a = some r) (hm : Matches o r) :
    (∃ r', s.requests a = some r' ∧ Follows r r') ∨ (Begins s o act ∧ a = s.next) := by
  have htraced : Traced s act t := step_preserves (J := Traced s act)
    (fun a r ha o ho => Or.inl ⟨r, ha, follows_refl ho⟩) (fun _ _ hu he => hu.effect he) h
  exact htraced a r hr o hm

/-- **What is outstanding goes back to a tap**, with no launch since. -/
theorem exists_begin {device : Device} {as : List Action}
    (hrun : exec device.installed as = some s) (hr : s.requests a = some r) (hm : ∃ o, Matches o r) :
    ∃ before tap after o v w, as = before ++ tap :: after ∧
      exec device.installed before = some v ∧ step v tap = some w ∧ exec w after = some s ∧
      Matches o r ∧ Begins v o tap ∧ a = v.next ∧ .launch ∉ after := by
  induction as using List.reverseRecOn generalizing s r with
  | nil =>
    obtain rfl := Option.some.inj hrun
    exact absurd hr (by simp [Device.installed])
  | append_singleton as act ih =>
    obtain ⟨u, hu, hlast⟩ := exec_append.mp hrun
    obtain ⟨s', hus, hs'⟩ := exec_cons.mp hlast
    obtain rfl := Option.some.inj hs'
    obtain ⟨o, ho⟩ := hm
    rcases grounded_step hus hr ho with ⟨r', hr', hm', hfollows⟩ | ⟨hbegins, ha⟩
    · obtain ⟨before, tap, after, o', v, w, rfl, hv, hvw, hw, ho', hbegins, ha, hlaunch⟩ :=
        ih hu hr' hm'
      refine ⟨before, tap, after ++ [act], o', v, w, by simp, hv, hvw, ?_, hfollows o' ho',
        hbegins, ha, ?_⟩
      · exact exec_append.mpr ⟨u, hw, exec_cons.mpr ⟨s', hus, exec_nil s'⟩⟩
      · -- a launch leaves nothing but a fetch
        have hact : act ≠ .launch := by
          rintro rfl
          obtain rfl := Option.some.inj hus
          obtain ⟨-, rfl⟩ := requests_launch hr
          exact ho
        rw [List.mem_append, List.mem_singleton]
        exact fun h => h.elim hlaunch hact.symm
    · exact ⟨as, act, [], o, u, s', rfl, hu, hus, exec_nil s', ho, hbegins, ha, List.not_mem_nil⟩

end App

end AccountApp.Books.Origins
