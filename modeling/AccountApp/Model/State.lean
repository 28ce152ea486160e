import Mathlib.Logic.Function.Basic
import AccountApp.Lib.History
import AccountApp.Model.Screens

/-! # The state of the app

The app runs on the main queue; what it starts elsewhere comes back as a completion block. `App` is
everything that outlives one such block: the controllers, the sessions of the three SDKs, the slot
`authVID` of `UserDefaults`, the records under `users/`, and the requests that are still
outstanding.

* A controller is named by its address (`Addr`), an attempt by the number it was started under
  (`Attempt`); both are drawn from the counter `next` and never used again.
* `requests a` is what attempt `a` is waiting for. The nested completion blocks of one attempt run
  one after the other, so one slot is enough; the profile fetch of a Facebook attempt runs beside
  it and has a slot of its own. A `Request` holds the variables its completion block captures.
* A segue to the profile screen makes its controller and prepares it; UIKit presents the screen
  unless something else is being presented. Until then the controller is in `prepared`.
* Firebase answers on its own queue, where it updates `currentUser`, and then dispatches the
  completion block to the main queue: `Request.auth` has not been answered yet,
  `Request.authDone` waits for the main queue.
* `log` is the history of the calls between the app and the world. Nothing in the app reads it. -/

namespace AccountApp.Model.State

open AccountApp.Model.Data AccountApp.Model.Screens

/-- The address of a controller. -/
abbrev Addr := Nat

/-- The number an attempt was started under. -/
abbrev Attempt := Nat

/-- A call of `Auth.auth()` with a completion block: the controller that made it (`self`), the
arguments, and what else the block captures. -/
inductive AuthCall where
  | createUser (self : Addr) (form : Form)
  | signInEmail (self : Addr) (email password : String)
  | signInFacebook (self : Addr) (tokenString : String)
  | signInGoogle (self : Addr) (idToken accessToken : String)
  | signInPhone (self : Addr) (verificationID verificationCode : String)
deriving DecidableEq

/-- The login flow a call signs in for; `createUser` is no login. -/
def AuthCall.flow : AuthCall → Option Flow
  | .createUser .. => none
  | .signInEmail .. => some .email
  | .signInFacebook .. => some .facebook
  | .signInGoogle .. => some .google
  | .signInPhone .. => some .phone

/-- What is outstanding. -/
inductive Request where
  | auth (call : AuthCall)
  | authDone (call : AuthCall) (answer : Answer User)
  | fbDialog (self : Addr)
  | fetchProfile (self : Addr) (owner : Option Attempt)
  | googleDialog
  | userRecord (self : Addr) (user : User) (uid : String)
  | numberAlert (self : Addr) (number : String)
  | verifyPhone (self : Addr) (number : String)
  | passwordReset (self : Addr) (email : String)
deriving DecidableEq

/-- A call of `updateChildValues` on `users/<uid>`. -/
structure RecordWrite where
  uid : String
  values : Dictionary
deriving DecidableEq

/-- What becomes of a write. -/
inductive WriteOutcome where
  | applied | rejected | lost
deriving DecidableEq

/-- The calls between the app and the world. -/
inductive Event where
  | launched
  /-- A `ViewController` comes out of the storyboard. -/
  | instantiated (self : Addr)
  | print (line : String)
  | alert (cause : Option Attempt) (self : Addr) (alert : Alert)
  | trapped
  /-- `createUser` or `signIn` is called. -/
  | authStarted (a : Attempt) (call : AuthCall)
  /-- Firebase has answered the call. -/
  | authFinished (a : Attempt) (call : AuthCall) (answer : Answer User)
  /-- The completion block of the call is run, `currentUser` being as given. -/
  | authCompleted (a : Attempt) (call : AuthCall) (answer : Answer User) (currentUser : Option User)
  | fbLogInCompleted (a : Attempt) (self : Addr) (answer : Answer LoginManagerLoginResult)
  /-- `transferFBData` is called with the answer to the fetch `owner` has started. -/
  | fetched (owner : Option Attempt) (self : Addr) (answer : Answer Dictionary)
  | googleSignedIn (a : Attempt) (self : Addr) (answer : Answer GIDGoogleUser)
  | recordRead (a : Attempt) (self : Addr) (uid : String) (snapshot : Dictionary)
  /-- The closure of the read has filled `fireProfileData`. -/
  | profileFilled (a : Attempt) (self : Addr) (profile : ProfileData)
  | recordWritten (a : Attempt) (outcome : WriteOutcome)
  | verified (a : Attempt) (answer : Answer String)
  /-- `performSegue` to the profile screen: the flow whose callback performs it, the profile
  variable `prepare(for:sender:)` takes, and the value it hands over. -/
  | performSegue (a : Attempt) (flow : Flow) (self : Addr) (handed : Flow) (profile : ProfileData)
  /-- UIKit presents the profile screen that a segue has prepared. -/
  | presented (self : Addr)
  /-- `performSegue` to the screen for the code. -/
  | performLogin (a : Attempt) (self : Addr)
  | signedOut
deriving DecidableEq

/-- A controller the user can get at. -/
inductive Screen where
  | main (self : Addr)
  | verify (self : Addr)
  | logIn (self : Addr)
  | reset (self : Addr)
  | profile (self : Addr)
deriving DecidableEq

/-- The state of the app and of the world it sees. -/
structure App where
  screens : List Screen
  vcs : Addr → ViewController
  verifyVCs : Addr → PhoneVerifyViewController
  logInVCs : Addr → PhoneLogInViewController
  resetVCs : Addr → ResetPasswordViewController
  profileVCs : Addr → ProfileViewController
  /-- The profile controllers that have not been presented. -/
  prepared : List Addr
  /-- `GIDSignIn.sharedInstance().delegate` -/
  delegate : Addr
  requests : Attempt → Option Request
  writes : Attempt → Option RecordWrite
  /-- `Auth.auth().currentUser` -/
  currentUser : Option User
  /-- `AccessToken.current` -/
  accessToken : Option AccessToken
  /-- `GIDSignIn.sharedInstance().currentUser` -/
  googleUser : Option GIDGoogleUser
  /-- `UserDefaults.standard.string(forKey: "authVID")` -/
  authVID : Option String
  /-- The uids Firebase has given out. -/
  accounts : List String
  /-- The node `users/<uid>` of the database, with no children if it does not exist. -/
  users : String → Dictionary
  /-- `count` of a text: its grapheme clusters, by the tables of the system. -/
  count : String → Nat
  next : Nat
  /-- The value of `next` when the process was started. -/
  launchedAt : Nat
  log : List Event

/-- What a device and the services hold before the app is first launched. A record belongs to an
account. -/
structure Device where
  currentUser : Option User
  accessToken : Option AccessToken
  authVID : Option String
  accounts : List String
  users : String → Dictionary
  count : String → Nat
  mem_accounts : ∀ uid, users uid ≠ [] → uid ∈ accounts

/-- The app is installed and not running. -/
def Device.installed (d : Device) : App where
  screens := []
  vcs := fun _ => {}
  verifyVCs := fun _ => {}
  logInVCs := fun _ => {}
  resetVCs := fun _ => {}
  profileVCs := fun _ => {}
  prepared := []
  delegate := 0
  requests := fun _ => none
  writes := fun _ => none
  currentUser := d.currentUser
  accessToken := d.accessToken
  googleUser := none
  authVID := d.authVID
  accounts := d.accounts
  users := d.users
  count := d.count
  next := 0
  launchedAt := 0
  log := []

/-- A device with nothing on it and services nobody uses. -/
def Device.empty : Device where
  currentUser := none
  accessToken := none
  authVID := none
  accounts := []
  users := fun _ => []
  count := String.length
  mem_accounts := fun _ h => absurd rfl h

/-! ### What the code does to the state -/

namespace App

def emit (e : Event) (s : App) : App := { s with log := e :: s.log }

/-- Change the controller at `self`. -/
def modify (self : Addr) (f : ViewController → ViewController) (s : App) : App :=
  { s with vcs := Function.update s.vcs self (f (s.vcs self)) }

/-- Let attempt `a` wait for `r`. -/
def await (a : Attempt) (r : Request) (s : App) : App :=
  { s with requests := Function.update s.requests a (some r) }

/-- Attempt `a` no longer waits. -/
def answered (a : Attempt) (s : App) : App :=
  { s with requests := Function.update s.requests a none }

/-- Start a new attempt with the request `r`. -/
def start (r : Request) (s : App) : App :=
  { s.await s.next r with next := s.next + 1 }

/-- `Auth.auth().signIn` or `createUser`, called by attempt `a`. -/
def callAuth (a : Attempt) (call : AuthCall) (s : App) : App :=
  (s.await a (.auth call)).emit (.authStarted a call)

/-- The same, called at a tap that starts a new attempt. -/
def startAuth (call : AuthCall) (s : App) : App :=
  { s.callAuth s.next call with next := s.next + 1 }

def showAlert (cause : Option Attempt) (self : Addr) (alert : Alert) (s : App) : App :=
  s.emit (.alert cause self alert)

/-- The profile screen comes out of the storyboard and is given the profile. -/
def prepareProfile (profile : ProfileData) (s : App) : App :=
  { s with
    prepared := s.next :: s.prepared
    profileVCs := Function.update s.profileVCs s.next { profileInfo := profile }
    next := s.next + 1 }

/-- UIKit presents the profile screen at `self`. -/
def present (self : Addr) (s : App) : App :=
  emit (.presented self)
    { s with
      prepared := s.prepared.erase self
      screens := .profile self :: s.screens
      profileVCs := Function.update s.profileVCs self (s.profileVCs self).present }

/-- `performSegue(withIdentifier: "segue")` of the controller at `self`, with its
`prepare(for:sender:)`. -/
def performSegue (a : Attempt) (flow : Flow) (self : Addr) (s : App) : App :=
  let vc := s.vcs self
  (s.emit (.performSegue a flow self (ViewController.selected vc.checkSystem)
    vc.prepare)).prepareProfile vc.prepare

/-- The writes under `users/<uid>` that this process waits for, in the order they were made. -/
def pendingWrites (uid : String) (s : App) : List RecordWrite :=
  ((List.range' s.launchedAt (s.next - s.launchedAt)).filterMap s.writes).filter (·.uid == uid)

/-- What the database SDK shows under `users/<uid>`: the record with the writes of its own that are
not decided yet laid over it. -/
def snapshot (uid : String) (s : App) : Dictionary :=
  (s.pendingWrites uid).foldl (fun record w => Dictionary.update w.values record) (s.users uid)

end App

end AccountApp.Model.State
