import AccountApp.Dialog.Step
import AccountApp.Lib.Replay
import AccountApp.Lib.Simulation
import AccountApp.Model.Step

/-! # The app and the Facebook SDK together

The app knows the Facebook SDK by two things: the token that is current, and the block it passes to
`logIn`. A step of the SDK is followed by what it does to the app (`serve`): the events it has put
on record change the token the app reads, or run the block of an attempt, from the oldest event to
the newest. The block never calls the SDK back, so it makes no difference that it runs afterwards.

An action is one of the app or one of the SDK, or one both have a part in: the tap on the Facebook
button, the tap on "Sign Out" and the launch. What the app's own machine leaves to chance, the answer
to a dialog and the changes of the token, now comes from the SDK. -/

namespace AccountApp.Joint.Step

open AccountApp.Lib AccountApp.Lib.Replay
open AccountApp.Model.Data (AccessToken Answer LoginManagerLoginResult)
open AccountApp.Model.State (Addr App Attempt Device)
open AccountApp.Dialog.LoginManager

structure System where
  app : App
  facebook : Facebook

/-! ### What the app sees of the SDK -/

/-- `AccessToken.current` -/
def tokenFor (token : FBSDKAccessToken) : AccessToken := ⟨token.tokenString⟩

def resultFor (result : FBSDKLoginManagerLoginResult) : LoginManagerLoginResult where
  token := result.token.map tokenFor
  isCancelled := result.isCancelled
  token_of_cancelled h := by rw [result.token_of_cancelled h, Option.map_none]

/-- What the block of the app is called with. -/
def answerFor : Reply → Answer LoginManagerLoginResult
  | .ok result => .ok (resultFor result)
  | .error e => .error ⟨e.localizedDescription, e.description⟩

/-- What an event of the SDK does to the app. -/
def deliver : Event → App → App
  | .cached _ _ _ token, s | .refreshed token, s => { s with accessToken := some (tokenFor token) }
  | .dropped, s => { s with accessToken := none }
  | .handled a reply, s => (Model.Step.step s (.logInFinish a (answerFor reply))).getD s
  | _, s => s

/-- The events of `g` that are not yet in `f`. -/
def added (f g : Facebook) : List Event := g.log.take (g.log.length - f.log.length)

/-- The SDK has gone on to `g`. -/
def serve (g : Facebook) (S : System) : System :=
  ⟨replay deliver S.app (added S.facebook g), g⟩

/-- The action of the app that stands for an event of the SDK. A token that a block waits for comes
with the call of the block. -/
def actionOf : Event → Option Model.Step.Action
  | .cached _ none _ token => some (.tokenCached (tokenFor token))
  | .handled a reply => some (.logInFinish a (answerFor reply))
  | .refreshed token => some (.tokenRefreshed (tokenFor token))
  | .dropped => some (.sessionDropped .facebook)
  | _ => none

/-- The actions for the events of a history, in order. -/
def served (log : List Event) : List Model.Step.Action := (log.filterMap actionOf).reverse

/-! ### The machine -/

inductive Action where
  | app (act : Model.Step.Action)
  | facebook (act : Dialog.Step.Action)
  | fbButton (self : Addr) (random : Challenge) (shown : Browser)
  | didTapSignOut (self : Addr) (throwing : Option Model.Data.NSError)
  | launch (url : Option (NSURL × String))

/-- The actions the SDK has a part in. -/
def shared : Model.Step.Action → Bool
  | .launch | .fbButton _ | .didTapSignOut .. | .logInFinish .. | .sessionDropped .facebook
  | .tokenRefreshed _ | .tokenCached _ => true
  | _ => false

/-- The calls of the app, and the launch. -/
def requested : Dialog.Step.Action → Bool
  | .logIn .. | .logOut | .launch _ => true
  | _ => false

/-- The permissions `fbButton` asks for. -/
def permissions : Finset String := {"public_profile", "email"}

def step (S : System) : Action → Option System
  | .app act =>
    if shared act then none
    else (Model.Step.step S.app act).map fun t => { S with app := t }
  | .facebook act =>
    if requested act then none
    else (Dialog.Step.step S.facebook act).map (serve · S)
  | .fbButton self random shown =>
    (Model.Step.step S.app (.fbButton self)).bind fun t =>
      (Dialog.Step.step S.facebook (.logIn S.app.next permissions random shown)).map
        (serve · { S with app := t })
  | .didTapSignOut self throwing =>
    (Model.Step.step S.app (.didTapSignOut self throwing)).bind fun t =>
      (Dialog.Step.step S.facebook .logOut).map fun g => ⟨t, g⟩
  | .launch url =>
    -- the SDK is started in `didFinishLaunchingWithOptions`, before the first view is loaded
    (Dialog.Step.step S.facebook (.launch url)).map fun g =>
      { serve g S with app := Model.Handlers.launch (serve g S).app }

/-- The actions of the SDK that an action is, seen from the SDK. -/
def callsOf (S : System) : Action → List Dialog.Step.Action
  | .app _ => []
  | .facebook act => [act]
  | .fbButton _ random shown => [.logIn S.app.next permissions random shown]
  | .didTapSignOut .. => [.logOut]
  | .launch url => [.launch url]

/-- The actions of the app that stand for what the SDK does in a step. -/
def repliesOf (f : Facebook) (act : Dialog.Step.Action) : List Model.Step.Action :=
  ((Dialog.Step.step f act).map fun g => served (added f g)).getD []

/-- The actions of the app that an action is, seen from the app. -/
def actionsOf (S : System) : Action → List Model.Step.Action
  | .app act => [act]
  | .facebook act => repliesOf S.facebook act
  | .fbButton self random shown =>
    .fbButton self :: repliesOf S.facebook (.logIn S.app.next permissions random shown)
  | .didTapSignOut self throwing => [.didTapSignOut self throwing]
  | .launch url => repliesOf S.facebook (.launch url) ++ [.launch]

/-- The app is installed on a device whose keychain has the given token and challenge. -/
def installed (device : Device) (appID : String) (token : Option FBSDKAccessToken)
    (challenge : Option Challenge) : System where
  app := { device with accessToken := token.map tokenFor : Device }.installed
  facebook := Dialog.Step.installed appID token challenge

abbrev exec (S : System) (as : List Action) : Option System := Machine.exec step S as

theorem added_eq {f g : Facebook} {new : List Event} (h : g.log = new ++ f.log) :
    added f g = new := by
  rw [added, h, List.length_append, Nat.add_sub_cancel, List.take_left]

theorem serve_eq {S : System} {g : Facebook} {new : List Event}
    (h : g.log = new ++ S.facebook.log) : serve g S = ⟨replay deliver S.app new, g⟩ := by
  rw [serve, added_eq h]

theorem repliesOf_eq {f g : Facebook} {act : Dialog.Step.Action} {new : List Event}
    (hst : Dialog.Step.step f act = some g) (h : g.log = new ++ f.log) :
    repliesOf f act = served new := by
  rw [repliesOf, hst, Option.map_some, added_eq h]
  rfl

theorem served_append (new log : List Event) : served (new ++ log) = served log ++ served new := by
  rw [served, List.filterMap_append, List.reverse_append]
  rfl

end AccountApp.Joint.Step
