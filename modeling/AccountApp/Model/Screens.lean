import AccountApp.Model.Data

/-! # The screens

The view controllers as records: their text fields, what of their outlets the code changes, and
their stored properties. The defaults are those of the storyboard and of the declarations. -/

namespace AccountApp.Model.Screens

open AccountApp.Model.Data

/-- A `UIAlertController` of `Extension.swift` or of the phone screen. -/
structure Alert where
  title : String
  message : String
deriving DecidableEq

def errorAlert : Alert := ⟨"Fields are empty!", "Fill in all the fields"⟩

def registrationAlert : Alert := ⟨"Account Created", "Your account succesfully created!"⟩

def resetPasswordAlert : Alert := ⟨"Password sent", "Message sent. Please check your mail."⟩

def problemPasswordAlert : Alert :=
  ⟨"The password is too short", "Password must contain at least 6 symbols."⟩

/-- `cleanStr`. The results of `dropLast` and `dropFirst` are not used. -/
def cleanStr (str : String) (_suffixValues _prefixValues : Nat) : String := str

def authErrorAlert (message : String) : Alert :=
  ⟨"Authorization error!", cleanStr message 44 122⟩

def phoneNumberAlert (number : String) : Alert :=
  ⟨"Phone number", "Is this your phone number? \n " ++ number⟩

/-! ### The login screen -/

/-- `ViewController`. -/
structure ViewController where
  emailField : String := ""
  firstNameField : String := ""
  lastNameField : String := ""
  passwordField : String := ""
  firstNameHidden : Bool := true
  lastNameHidden : Bool := true
  customFBButtonHidden : Bool := false
  googleLoginButtonHidden : Bool := false
  phoneAuthButtonHidden : Bool := false
  resetButtonHidden : Bool := false
  title : String := "Sign In"
  firebaseLoginButtonTitle : String := "Sign In with Firebase"
  switchButtonTitle : String := "Sign Up"
  gProfileData : ProfileData := {}
  fbProfileData : ProfileData := {}
  fireProfileData : ProfileData := {}
  checkSystem : String := ""
  signUpOrIn : Bool := false
deriving DecidableEq

namespace ViewController

def cleanTextFields (vc : ViewController) : ViewController :=
  { vc with emailField := "", firstNameField := "", lastNameField := "", passwordField := "" }

def changeViewState (state : Bool) (vc : ViewController) : ViewController :=
  cleanTextFields
    { vc with
      firstNameHidden := !state
      lastNameHidden := !state
      customFBButtonHidden := state
      googleLoginButtonHidden := state
      phoneAuthButtonHidden := state
      resetButtonHidden := state }

/-- The assignment `signUpOrIn = newValue`, its `willSet` first. -/
def setSignUpOrIn (newValue : Bool) (vc : ViewController) : ViewController :=
  if newValue then
    { changeViewState newValue { vc with title := "Sign Up" } with
      firebaseLoginButtonTitle := "Sign Up with Firebase"
      switchButtonTitle := "Sign In"
      signUpOrIn := newValue }
  else
    { changeViewState newValue { vc with title := "Sign In" } with
      firebaseLoginButtonTitle := "Sign In with Firebase"
      switchButtonTitle := "Sign Up"
      signUpOrIn := newValue }

def switchButtonAction (vc : ViewController) : ViewController :=
  vc.setSignUpOrIn !vc.signUpOrIn

/-- The fields as `firebaseLoginButtonAction` reads them. -/
def form (vc : ViewController) : Form :=
  ⟨vc.emailField, vc.firstNameField, vc.lastNameField, vc.passwordField⟩

/-- The test of the form before a registration or a sign-in is started. -/
def filledIn (vc : ViewController) : Bool :=
  if vc.signUpOrIn then
    !vc.emailField.isEmpty && !vc.firstNameField.isEmpty && !vc.lastNameField.isEmpty &&
      !vc.passwordField.isEmpty
  else !vc.emailField.isEmpty && !vc.passwordField.isEmpty

/-- The profile variable a value of `checkSystem` stands for in `prepare(for:sender:)`. -/
def selected (checkSystem : String) : Flow :=
  if checkSystem == "fb" then .facebook else if checkSystem == "g" then .google else .email

/-- The profile `prepare(for:sender:)` gives to the profile screen. -/
def prepare (vc : ViewController) : ProfileData :=
  if vc.checkSystem == "fb" then vc.fbProfileData
  else if vc.checkSystem == "g" then vc.gProfileData
  else vc.fireProfileData

/-- The profile variables. The phone flow has its own, on another screen. -/
def profileVariable (vc : ViewController) : Flow → ProfileData
  | .facebook => vc.fbProfileData
  | .google => vc.gProfileData
  | .email | .phone => vc.fireProfileData

theorem prepare_eq (vc : ViewController) :
    vc.prepare = vc.profileVariable (selected vc.checkSystem) := by
  unfold prepare selected
  split_ifs <;> rfl

/-- `transferFBData`: a key that is absent, or an error, leaves the field as it is. -/
def transferFBData (answer : Answer Dictionary) (vc : ViewController) : ViewController :=
  match answer with
  | .error _ => vc
  | .ok result =>
    let vc := match result.lookup "email" with
      | some email => { vc with fbProfileData := { vc.fbProfileData with email := some email } }
      | none => vc
    let vc := match result.lookup "first_name" with
      | some firstName =>
        { vc with fbProfileData := { vc.fbProfileData with givenName := some firstName } }
      | none => vc
    let vc := match result.lookup "last_name" with
      | some lastName =>
        { vc with fbProfileData := { vc.fbProfileData with familyName := some lastName } }
      | none => vc
    match result.lookup "name" with
    | some fullName =>
      { vc with fbProfileData :=
        { vc.fbProfileData with fullName := some fullName, system := some "Facebook" } }
    | none => vc

end ViewController

/-! ### The phone screens -/

/-- `PhoneVerifyViewController`. -/
structure PhoneVerifyViewController where
  numberField : String := ""
deriving DecidableEq

/-- `PhoneLogInViewController`. -/
structure PhoneLogInViewController where
  codeField : String := ""
  phoneProfile : ProfileData := {}
deriving DecidableEq

/-- The profile the phone screen fills in when its sign-in has completed. -/
def phoneProfileOf (user : User) : ProfileData where
  system := some "Phone"
  email := some "There is no full information. "
  fullName := some "Because, you signed in with phone number."
  givenName := some "That's why here is only your phone number:"
  familyName := user.phoneNumber

/-! ### The password reset screen and the profile screen -/

/-- `ResetPasswordViewController`. -/
structure ResetPasswordViewController where
  emailTextField : String := ""
deriving DecidableEq

/-- `ProfileViewController`. -/
structure ProfileViewController where
  profileInfo : ProfileData := {}
  emailLabel : Option String := none
  fullNameLabel : Option String := none
  familyNameLabel : Option String := none
  givenNameLabel : Option String := none
  title : String := "Your Profile"
deriving DecidableEq

namespace ProfileViewController

def viewDidLoad (vc : ProfileViewController) : ProfileViewController :=
  { vc with
    emailLabel := vc.profileInfo.email
    fullNameLabel := vc.profileInfo.fullName
    familyNameLabel := vc.profileInfo.familyName
    givenNameLabel := vc.profileInfo.givenName }

def viewDidAppear (vc : ProfileViewController) : ProfileViewController :=
  match vc.profileInfo.system with
  | none =>
    { vc with title := "Oops...", emailLabel := some "Connection Failed. Re-connect, please." }
  | some system => { vc with title := "Your " ++ system ++ " Profile" }

/-- The controller is presented: its view is loaded and appears. -/
def present (vc : ProfileViewController) : ProfileViewController := vc.viewDidLoad.viewDidAppear

end ProfileViewController

end AccountApp.Model.Screens
