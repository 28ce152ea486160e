import AccountApp.Books.Controllers
import AccountApp.Books.Refine

/-! # Each flow hands over its own profile

The Google and the email flow write `checkSystem` right before their segue. The Facebook flow writes
it when the dialog is done and performs the segue when Firebase has answered, so that another flow
can write it in between, and after a dialog with an error it has not been written at all: the right
profile is handed over exactly if Facebook was the last to write it whenever Firebase answers a
Facebook credential (`ownProfile_iff`). -/

namespace AccountApp.Laws.Handover

open AccountApp.Lib AccountApp.Lib.History
open AccountApp.Model.Data AccountApp.Model.Screens AccountApp.Model.State
open AccountApp.Model.Handlers AccountApp.Model.Step
open AccountApp.Books.Keeping AccountApp.Books.Controllers AccountApp.Books.Refine

/-- A segue hands over the profile variable of the flow that performs it. -/
def OwnProfile : Event → List Event → Prop
  | .performSegue _ flow _ handed _, _ => handed = flow
  | _, _ => True

/-- When Firebase answers a Facebook credential, the Facebook flow was the last to write
`checkSystem`. -/
def FacebookLast : Event → List Event → Prop
  | .authCompleted _ (.signInFacebook self _) _ _, past => lastWriter self past = some .facebook
  | _, _ => True

section Entries
variable {d d' : Ledger}

theorem ownProfile_of_plain {e : Event} (he : plain e = true) (past : List Event) :
    OwnProfile e past := by
  cases e with
  | performSegue a flow self handed profile =>
    obtain ⟨rfl, rfl⟩ : flow = .phone ∧ handed = .phone := by simpa [plain] using he
    rfl
  | _ => trivial

theorem facebookLast_of_plain {e : Event} (he : plain e = true) (past : List Event) :
    FacebookLast e past := by
  cases e with
  | authCompleted a call answer cur =>
    cases call with
    | signInFacebook self token => exact absurd he Bool.false_ne_true
    | _ => trivial
  | _ => trivial

theorem ownProfile_facebookDone (hd : Held d)
    (ih : Always OwnProfile d.log ↔ Always FacebookLast d.log) (a : Attempt) (self : Addr)
    (token : String) (answer : Answer User) (cur : Option User) {lines : List Event}
    (hl : ∀ e ∈ lines, plain e = true) {profile : ProfileData} {log : List Event}
    (hlog : log = .performSegue a .facebook self
        (ViewController.selected (d.vcs self).checkSystem) profile ::
      (lines ++ .authCompleted a (.signInFacebook self token) answer cur :: d.log)) :
    Always OwnProfile log ↔ Always FacebookLast log := by
  have hown : ∀ e ∈ lines, ∀ past, OwnProfile e past := fun e he =>
    ownProfile_of_plain (hl e he)
  have hlast : ∀ e ∈ lines, ∀ past, FacebookLast e past := fun e he =>
    facebookLast_of_plain (hl e he)
  have hsegue : ViewController.selected (d.vcs self).checkSystem = .facebook ↔
      lastWriter self d.log = some .facebook := by
    rw [hd.checkSystem self]
    exact selected_tag
  rw [hlog, always_cons, always_cons, always_append hown, always_append hlast, always_cons,
    always_cons, ih]
  constructor
  · rintro ⟨hhanded, -, hrest⟩
    exact ⟨trivial, hsegue.mp hhanded, hrest⟩
  · rintro ⟨-, hfb, hrest⟩
    exact ⟨hsegue.mpr hfb, trivial, hrest⟩

theorem ownProfile_entry (hd : Held d) (ih : Always OwnProfile d.log ↔ Always FacebookLast d.log)
    (he : Entry d d') : Always OwnProfile d'.log ↔ Always FacebookLast d'.log := by
  cases he with
  | noted e he =>
    exact and_congr (iff_of_true (ownProfile_of_plain he _) (facebookLast_of_plain he _)) ih
  | facebookDone a self token answer cur lines hl =>
    exact ownProfile_facebookDone hd ih a self token answer cur hl rfl
  | known uid => exact ih
  | google a self user call hu | read a self user uid hs =>
    simp only [always_cons, OwnProfile, FacebookLast, true_and]
    exact ih
  | _ =>
    simp only [Ledger.note, always_cons, OwnProfile, FacebookLast, true_and]
    exact ih

end Entries

/-- **Each segue hands over the profile of its own flow exactly in the runs in which Facebook was the
last to write `checkSystem` whenever Firebase answers a Facebook credential.** -/
theorem ownProfile_iff {s : App} (h : Reachable s) :
    Always OwnProfile s.log ↔ Always FacebookLast s.log :=
  (kept h).invariant (I := fun d => Always OwnProfile d.log ↔ Always FacebookLast d.log)
    (fun _ => Iff.rfl) fun _ _ hd ih he => ownProfile_entry (held hd) ih he

/-- A login with Facebook, the answer of the graph first. -/
def facebookLogin : List Action :=
  [.launch, .fbButton 0, .logInFinish 1 (.ok (.granted "token")),
    .fetchFinish 2 (.ok [("name", "A B")]), .authFinish 1 (.ok ⟨"u", none, none, "facebook.com"⟩),
    .authComplete 1]

/-- The login with Facebook hands over the profile of Facebook. -/
theorem facebookLogin_ownProfile : ∃ s, exec Device.empty.installed facebookLogin = some s ∧
    .performSegue 1 .facebook 0 .facebook { fullName := "A B", system := "Facebook" } ∈ s.log ∧
    Always OwnProfile s.log := by
  have hlog : (exec Device.empty.installed facebookLogin).map App.log = some
      [.performSegue 1 .facebook 0 .facebook { fullName := "A B", system := "Facebook" },
        .authCompleted 1 (.signInFacebook 0 "token") (.ok ⟨"u", none, none, "facebook.com"⟩)
          (some ⟨"u", none, none, "facebook.com"⟩),
        .authFinished 1 (.signInFacebook 0 "token") (.ok ⟨"u", none, none, "facebook.com"⟩),
        .fetched (some 1) 0 (.ok [("name", "A B")]),
        .authStarted 1 (.signInFacebook 0 "token"),
        .fbLogInCompleted 1 0 (.ok (.granted "token")),
        .instantiated 0, .launched] := by decide
  obtain ⟨s, hs, hl⟩ := Option.map_eq_some_iff.mp hlog
  refine ⟨s, hs, by simp [hl], (ownProfile_iff (reachable_of_exec hs)).mpr ?_⟩
  rw [hl]
  have hlast : lastWriter 0
      [.authFinished 1 (.signInFacebook 0 "token") (.ok ⟨"u", none, none, "facebook.com"⟩),
        .fetched (some 1) 0 (.ok [("name", "A B")]),
        .authStarted 1 (.signInFacebook 0 "token"),
        .fbLogInCompleted 1 0 (.ok (.granted "token")),
        .instantiated 0, .launched] = some .facebook := by decide
  exact ⟨trivial, hlast, trivial, trivial, trivial, trivial, trivial, trivial, trivial⟩

/-- A login with Google is done while Firebase checks the credential of Facebook. -/
def googleBetween : List Action :=
  [.launch, .fbButton 0, .logInFinish 1 (.ok (.granted "token")),
    .googleLoginButton 0, .googleFinish 3 (.ok ⟨some ⟨"id", "access"⟩, none, none, none, none⟩),
    .authFinish 1 (.ok ⟨"u", none, none, "facebook.com"⟩), .authComplete 1]

/-- **The segue of the Facebook flow hands over the profile of Google.** -/
theorem googleBetween_handed : ¬ ∀ s, Reachable s → Always OwnProfile s.log := by
  intro H
  have hlog : (exec Device.empty.installed googleBetween).map (fun s => s.log.head?) = some
      (some (.performSegue 1 .facebook 0 .google { system := "Google" })) := by decide
  obtain ⟨s, hs, hl⟩ := Option.map_eq_some_iff.mp hlog
  have hown := H s (reachable_of_exec hs)
  obtain ⟨past, hpast⟩ := List.head?_eq_some_iff.mp hl
  rw [hpast, always_cons] at hown
  have hhanded : Flow.google = Flow.facebook := hown.1
  exact absurd hhanded (by decide)

end AccountApp.Laws.Handover
