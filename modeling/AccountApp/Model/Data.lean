import Mathlib.Data.List.Basic

/-! # The data the app handles

`ProfileData` is the struct of `Model.swift`; the other types are what the three SDKs hand to the
app, cut down to the fields the app reads. Swift's dictionaries and the nodes of the database are
association lists of strings. -/

namespace AccountApp.Model.Data

/-- An error, by what is meant for the user and what `print` shows of it. -/
structure NSError where
  localizedDescription : String
  description : String
deriving DecidableEq

/-- The `(result, error)` pair of a completion: exactly one of the two is present. -/
inductive Answer (α : Type) where
  | ok (result : α)
  | error (error : NSError)
deriving DecidableEq

/-- A dictionary with string values, or a node of the database with its children. -/
abbrev Dictionary := List (String × String)

/-- The children of `new`, and those of `old` at the other keys. -/
def Dictionary.update (new old : Dictionary) : Dictionary :=
  new ++ old.filter fun p => (new.lookup p.1).isNone

@[simp] theorem Dictionary.update_nil (new : Dictionary) : Dictionary.update new [] = new := by
  simp [Dictionary.update]

/-- The profile shown by the profile screen. -/
structure ProfileData where
  email : Option String := none
  fullName : Option String := none
  familyName : Option String := none
  givenName : Option String := none
  system : Option String := none
deriving DecidableEq

/-- A Firebase user. `providerID` is that of `providerData[0]`. -/
structure User where
  uid : String
  email : Option String
  phoneNumber : Option String
  providerID : String
deriving DecidableEq

/-- A Facebook access token. -/
structure AccessToken where
  tokenString : String
deriving DecidableEq

/-- The result of the Facebook dialog when it reports no error. A cancelled dialog has no token;
a dialog in which no permission was granted has none either. -/
structure LoginManagerLoginResult where
  token : Option AccessToken
  isCancelled : Bool
  token_of_cancelled : isCancelled = true → token = none
deriving DecidableEq

/-- A dialog that was neither cancelled nor left without permissions. -/
def LoginManagerLoginResult.granted (tokenString : String) : LoginManagerLoginResult :=
  ⟨some ⟨tokenString⟩, false, nofun⟩

/-- The tokens of a Google user. -/
structure GIDAuthentication where
  idToken : String
  accessToken : String
deriving DecidableEq

/-- The basic profile of a Google user. -/
structure GIDProfileData where
  name : Option String
  givenName : Option String
  familyName : Option String
  email : Option String
deriving DecidableEq

/-- A Google user, as the delegate of `GIDSignIn` gets it. -/
structure GIDGoogleUser where
  authentication : Option GIDAuthentication
  profile : GIDProfileData
deriving DecidableEq

/-- A Google user with tokens to sign in with. -/
def usable : Answer GIDGoogleUser → Bool
  | .ok user => user.authentication.isSome
  | .error _ => false

/-- The four ways to log in. -/
inductive Flow where
  | facebook | google | email | phone
deriving DecidableEq

/-- The form as `firebaseLoginButtonAction` reads it at a tap. -/
structure Form where
  email : String
  firstName : String
  lastName : String
  password : String
deriving DecidableEq

/-- `fullName` of `firebaseLoginButtonAction`. -/
def Form.fullName (f : Form) : String := f.firstName ++ " " ++ f.lastName

/-- The children `updateChildValues` writes under `users/<uid>`. -/
def Form.record (f : Form) : Dictionary :=
  [("email", f.email), ("full_name", f.fullName), ("first_name", f.firstName),
    ("last_name", f.lastName)]

@[simp] theorem Form.record_ne_nil (f : Form) : f.record ≠ [] := by simp [Form.record]

end AccountApp.Model.Data
