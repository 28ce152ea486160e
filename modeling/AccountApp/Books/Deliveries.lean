import AccountApp.Lib.Overlay
import AccountApp.Model.Screens

/-! # The answers of Facebook, laid over each other

`transferFBData` writes the fields a response has and leaves the others, so that after a history of
answers (the newest first) `fbProfileData` is the responses laid over each other: each field has the
newest value any of them holds (`profileAfter_eq`). Only the tag `system` follows another key: it is
set with the full name. -/

namespace AccountApp.Books.Deliveries

open AccountApp.Lib.Overlay AccountApp.Model.Data AccountApp.Model.Screens

/-- A response writes the fields it has, and the tag with the full name. -/
theorem transferFBData_ok (result : Dictionary) (vc : ViewController) :
    vc.transferFBData (.ok result) = { vc with
      fbProfileData :=
        { email := (result.lookup "email").or vc.fbProfileData.email
          fullName := (result.lookup "name").or vc.fbProfileData.fullName
          familyName := (result.lookup "last_name").or vc.fbProfileData.familyName
          givenName := (result.lookup "first_name").or vc.fbProfileData.givenName
          system := ((result.lookup "name").map fun _ => "Facebook").or
            vc.fbProfileData.system } } := by
  unfold ViewController.transferFBData
  simp only
  generalize result.lookup "email" = email
  generalize result.lookup "first_name" = firstName
  generalize result.lookup "last_name" = lastName
  generalize result.lookup "name" = name
  cases email <;> cases firstName <;> cases lastName <;> cases name <;> rfl

/-- What `transferFBData` makes of `fbProfileData`. -/
def absorb (answer : Answer Dictionary) (profile : ProfileData) : ProfileData :=
  (ViewController.transferFBData answer { fbProfileData := profile }).fbProfileData

@[simp] theorem absorb_error (e : NSError) (profile : ProfileData) :
    absorb (.error e) profile = profile := rfl

theorem absorb_ok (result : Dictionary) (profile : ProfileData) : absorb (.ok result) profile =
    { email := (result.lookup "email").or profile.email
      fullName := (result.lookup "name").or profile.fullName
      familyName := (result.lookup "last_name").or profile.familyName
      givenName := (result.lookup "first_name").or profile.givenName
      system := ((result.lookup "name").map fun _ => "Facebook").or profile.system } := by
  rw [absorb, transferFBData_ok]

theorem transferFBData_eq (answer : Answer Dictionary) (vc : ViewController) :
    vc.transferFBData answer = { vc with fbProfileData := absorb answer vc.fbProfileData } := by
  cases answer with
  | error e => rfl
  | ok result => rw [transferFBData_ok, absorb_ok]

/-- `fbProfileData` of a new controller after a history of answers. -/
def profileAfter (history : List (Answer Dictionary)) : ProfileData :=
  (history.foldr ViewController.transferFBData {}).fbProfileData

@[simp] theorem profileAfter_nil : profileAfter [] = {} := rfl

@[simp] theorem profileAfter_cons (answer : Answer Dictionary) (history : List (Answer Dictionary)) :
    profileAfter (answer :: history) = absorb answer (profileAfter history) := by
  unfold profileAfter
  rw [List.foldr_cons, transferFBData_eq]

/-- The error-free responses of a history. -/
def responses : List (Answer Dictionary) → List Dictionary
  | [] => []
  | .ok result :: history => result :: responses history
  | .error _ :: history => responses history

/-- A response as a partial record. -/
def fields (result : Dictionary) : String → Option String := (result.lookup ·)

/-- The responses of a history laid over each other. -/
def latest (history : List (Answer Dictionary)) : String → Option String :=
  overlays ((responses history).map fields)

/-- The profile that has the given fields. -/
def profileOf (field : String → Option String) : ProfileData where
  email := field "email"
  fullName := field "name"
  familyName := field "last_name"
  givenName := field "first_name"
  system := (field "name").map fun _ => "Facebook"

/-- **After a history, each field has its newest value.** -/
theorem profileAfter_eq (history : List (Answer Dictionary)) :
    profileAfter history = profileOf (latest history) := by
  induction history with
  | nil => rfl
  | cons answer history ih =>
    rw [profileAfter_cons, ih]
    cases answer with
    | error e => rfl
    | ok result =>
      rw [absorb_ok]
      unfold profileOf latest
      simp only [responses, List.map_cons, overlays_cons, fields]
      rcases result.lookup "name" with _ | n <;> rfl

theorem mem_responses {result : Dictionary} {history : List (Answer Dictionary)} :
    result ∈ responses history ↔ .ok result ∈ history := by
  induction history with
  | nil => simp [responses]
  | cons answer history ih => cases answer <;> simp [responses, ih]

end AccountApp.Books.Deliveries
