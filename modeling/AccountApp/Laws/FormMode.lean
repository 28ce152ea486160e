import AccountApp.Books.Modes
import AccountApp.Laws.Registration

/-! # The form after a registration

The completion block of a `createUser` that has succeeded does not put the form in the mode for
signing in, it switches the mode. The tap that has started the registration found the form in the
mode for signing up; so the block leaves the Sign In form exactly if the form has been switched an
even number of times between the two (`signInForm_iff`), by taps on `switchButton` or by the blocks of
other registrations. -/

namespace AccountApp.Laws.FormMode

open AccountApp.Lib
open AccountApp.Model.Data AccountApp.Model.Screens AccountApp.Model.State
open AccountApp.Model.Handlers AccountApp.Model.Step
open AccountApp.Books.Blocks AccountApp.Books.Modes AccountApp.Laws.Registration

/-- The Sign In form: its mode, the name fields, the buttons of the other logins and of the password
reset, the title and the captions. -/
structure SignInForm (vc : ViewController) : Prop where
  signUpOrIn : vc.signUpOrIn = false
  firstNameHidden : vc.firstNameHidden = true
  lastNameHidden : vc.lastNameHidden = true
  customFBButton : vc.customFBButtonHidden = false
  googleLoginButton : vc.googleLoginButtonHidden = false
  phoneAuthButton : vc.phoneAuthButtonHidden = false
  resetButton : vc.resetButtonHidden = false
  title : vc.title = "Sign In"
  firebaseLoginButtonTitle : vc.firebaseLoginButtonTitle = "Sign In with Firebase"
  switchButtonTitle : vc.switchButtonTitle = "Sign Up"

theorem signInForm_outlets {vc : ViewController} : SignInForm (outlets vc) ↔ SignInForm vc :=
  ⟨fun ⟨h₁, h₂, h₃, h₄, h₅, h₆, h₇, h₈, h₉, h₁₀⟩ => ⟨h₁, h₂, h₃, h₄, h₅, h₆, h₇, h₈, h₉, h₁₀⟩,
    fun ⟨h₁, h₂, h₃, h₄, h₅, h₆, h₇, h₈, h₉, h₁₀⟩ => ⟨h₁, h₂, h₃, h₄, h₅, h₆, h₇, h₈, h₉, h₁₀⟩⟩

theorem signInForm_formOf {mode : Bool} : SignInForm (formOf mode) ↔ mode = false := by
  constructor
  · intro h
    rw [← signUpOrIn_formOf mode]
    exact h.signUpOrIn
  · rintro rfl
    exact ⟨rfl, rfl, rfl, rfl, rfl, rfl, rfl, rfl, rfl, rfl⟩

theorem signInForm_iff_mode {s : App} (h : Reachable s) (self : Addr) :
    SignInForm (s.vcs self) ↔ (s.vcs self).signUpOrIn = false := by
  rw [← signInForm_outlets, outlets_eq h, signInForm_formOf]

/-- **A registration leaves the Sign In form exactly if its form has been switched an even number of
times since the tap that has started it.** -/
theorem signInForm_iff {device : Device} {as : List Action} {s t : App} {a : Attempt} {self : Addr}
    {form : Form} {user : User} (hrun : exec device.installed as = some s)
    (hr : s.requests a = some (.authDone (.createUser self form) (.ok user)))
    (hdone : step s (.authComplete a) = some t) :
    SignInForm (t.vcs self) ↔ Even (switchedSince a self device.installed as) := by
  have hs : Reachable s := reachable_of_exec hrun
  obtain ⟨after, s₀, s₁, hs₀, hself, hmode, -, -, htap, hafter, hsince⟩ :=
    tap_of_registration hrun (registration_of_request hr rfl)
  have hlt₀ : self < s₀.next := lt_of_mem_screens hs₀ hself
  have hlt₁ : self < s₁.next := Nat.lt_of_lt_of_le hlt₀ (turned htap).next
  have hlt : self < s.next := Nat.lt_of_lt_of_le hlt₁ (next_exec hafter)
  have htapped : (s₁.vcs self).signUpOrIn = true := (mode_step hlt₀ htap).trans hmode
  have hswitches : switches self s (.authComplete a) = true := by simp [switches, hr]
  have hswitched : (t.vcs self).signUpOrIn = !(s.vcs self).signUpOrIn := by
    rw [mode_step hlt hdone, if_pos hswitches]
  rw [signInForm_iff_mode (hs.next hdone), hswitched, Bool.not_eq_false', hsince,
    ← mode_iff hlt₁ hafter, htapped]

/-- The answer of Firebase to the registration of the form. -/
def accountCreated : Action := .authFinish 1 (.ok ⟨"u", some "u@mail.kz", none, "password"⟩)

/-- If the form is left alone, the registration leaves the Sign In form. -/
theorem leftAlone_signInForm : ∃ s t, exec Device.empty.installed
    (filledForm ++ [.firebaseLoginButtonAction 0, accountCreated]) = some s ∧
      step s (.authComplete 1) = some t ∧ SignInForm (t.vcs 0) := by
  have hrun : (exec Device.empty.installed
      (filledForm ++ [.firebaseLoginButtonAction 0, accountCreated])).map (fun s =>
        (s.requests 1, (step s (.authComplete 1)).isSome)) = some
          (some (.authDone (.createUser 0 ⟨"u@mail.kz", "U", "N", "secret"⟩)
            (.ok ⟨"u", some "u@mail.kz", none, "password"⟩)), true) := by decide
  have hsince : switchedSince 1 0 Device.empty.installed
      (filledForm ++ [.firebaseLoginButtonAction 0, accountCreated]) = 0 := by decide
  obtain ⟨s, hs, hl⟩ := Option.map_eq_some_iff.mp hrun
  obtain ⟨hr, hstep⟩ := Prod.mk.inj hl
  obtain ⟨t, ht⟩ := Option.isSome_iff_exists.mp hstep
  refine ⟨s, t, hs, ht, (signInForm_iff hs hr ht).mpr ?_⟩
  rw [hsince]
  exact Even.zero

/-- **The user switches to the Sign In form while the registration is outstanding**, and it leaves the
form for signing up. -/
theorem switchedBetween_signUpForm : ¬ ∀ s t a self form user, Reachable s →
    s.requests a = some (.authDone (.createUser self form) (.ok user)) →
    step s (.authComplete a) = some t → SignInForm (t.vcs self) := by
  intro H
  have hrun : (exec Device.empty.installed (filledForm ++
      [.firebaseLoginButtonAction 0, .switchButtonAction 0, accountCreated])).bind (fun s =>
        (step s (.authComplete 1)).map fun t => (s.requests 1, (t.vcs 0).title)) = some
          (some (.authDone (.createUser 0 ⟨"u@mail.kz", "U", "N", "secret"⟩)
            (.ok ⟨"u", some "u@mail.kz", none, "password"⟩)), "Sign Up") := by decide
  obtain ⟨s, hs, hst⟩ := Option.bind_eq_some_iff.mp hrun
  obtain ⟨t, ht, hl⟩ := Option.map_eq_some_iff.mp hst
  obtain ⟨hr, htitle⟩ := Prod.mk.inj hl
  have hform := H s t 1 0 _ _ (reachable_of_exec hs) hr ht
  rw [hform.title] at htitle
  exact absurd htitle (by decide)

end AccountApp.Laws.FormMode
