import AccountApp.Books.Controllers
import AccountApp.Books.Refine

/-! # The profile of Facebook

`transferFBData` lays each response over what earlier ones have left. So `fbProfileData` is the
profile of the latest response alone exactly if every response has the name and the fields of the
responses before it (`latestAlone_iff`).

The segue of a login with Facebook waits for Firebase only. It hands over the response to its own
fetch exactly if Facebook is the last to have written `checkSystem` and the answers delivered by
then amount to that response (`handsResponse_iff`), which it is not if Firebase is faster than the
graph. -/

namespace AccountApp.Laws.FacebookProfile

open AccountApp.Lib AccountApp.Lib.History AccountApp.Lib.Overlay
open AccountApp.Model.Data AccountApp.Model.Screens AccountApp.Model.State
open AccountApp.Model.Handlers AccountApp.Model.Step
open AccountApp.Books.Deliveries AccountApp.Books.Keeping AccountApp.Books.Controllers
open AccountApp.Books.Refine

/-- The profile of a response alone. -/
def profileAlone (response : Dictionary) : ProfileData where
  email := response.lookup "email"
  fullName := response.lookup "name"
  familyName := response.lookup "last_name"
  givenName := response.lookup "first_name"
  system := some "Facebook"

/-- The keys of the response the app reads. -/
def keys : List String := ["email", "name", "last_name", "first_name"]

theorem profileOf_eq_profileAlone {f : String → Option String} {response : Dictionary} :
    profileOf f = profileAlone response ↔
      (response.lookup "name" ≠ none) ∧ ∀ k ∈ keys, f k = response.lookup k := by
  constructor
  · intro h
    obtain ⟨he, hn, hl, hf, hs⟩ := ProfileData.mk.inj h
    refine ⟨fun hnone => ?_, by simp [keys, he, hn, hl, hf]⟩
    rw [hn, hnone] at hs
    exact absurd hs (by simp)
  · rintro ⟨hname, hkeys⟩
    simp only [keys, List.forall_mem_cons] at hkeys
    obtain ⟨he, hn, hl, hf, -⟩ := hkeys
    obtain ⟨name, hname⟩ := Option.ne_none_iff_exists'.mp hname
    unfold profileOf profileAlone
    rw [he, hn, hl, hf, hname]
    rfl

/-! ### The deliveries to one controller -/

/-- The profile of the latest error-free response alone, and that of a new controller before the
first one. -/
def expected (history : List (Answer Dictionary)) : ProfileData :=
  match responses history with
  | [] => {}
  | response :: _ => profileAlone response

/-- After every delivery `fbProfileData` is the profile of the latest error-free response alone. -/
def LatestAlone (history : List (Answer Dictionary)) : Prop :=
  ∀ past, past <:+ history → profileAfter past = expected past

/-- Every response has the name and the fields that a response before it had. -/
def KeepsKeys (history : List (Answer Dictionary)) : Prop :=
  ∀ response past, .ok response :: past <:+ history → response.lookup "name" ≠ none ∧
    ∀ k ∈ keys, response.lookup k = none → ∀ older, .ok older ∈ past → older.lookup k = none

/-- **One delivery**: the response stands alone exactly if nothing older shows through. -/
theorem profileAfter_ok_iff (response : Dictionary) (past : List (Answer Dictionary)) :
    profileAfter (.ok response :: past) = expected (.ok response :: past) ↔
      response.lookup "name" ≠ none ∧
        ∀ k ∈ keys, response.lookup k = none → ∀ older, .ok older ∈ past → older.lookup k = none := by
  have hexpected : expected (.ok response :: past) = profileAlone response := rfl
  have hkey : ∀ k, latest (.ok response :: past) k = response.lookup k ↔
      (response.lookup k = none → ∀ older, .ok older ∈ past → older.lookup k = none) := by
    intro k
    have hover := overlays_cons_eq_iff (r := fields response) (h := (responses past).map fields)
      (k := k)
    simpa [latest, responses, fields, mem_responses] using hover
  rw [hexpected, profileAfter_eq, profileOf_eq_profileAlone]
  exact and_congr_right fun _ => forall₂_congr fun k _ => hkey k

/-- **Each response stands alone exactly if it has the name and every field that a response before it
had.** -/
theorem latestAlone_iff (history : List (Answer Dictionary)) :
    LatestAlone history ↔ KeepsKeys history := by
  induction history with
  | nil => simp [LatestAlone, KeepsKeys, expected, responses]
  | cons answer history ih =>
    have hlatest : LatestAlone (answer :: history) ↔
        profileAfter (answer :: history) = expected (answer :: history) ∧ LatestAlone history := by
      simp [LatestAlone, List.suffix_cons_iff]
    rw [hlatest, ih]
    cases answer with
    | error e =>
      have hkeeps : KeepsKeys (.error e :: history) ↔ KeepsKeys history := by
        simp [KeepsKeys, List.suffix_cons_iff]
      rw [hkeeps]
      exact and_iff_right_of_imp fun hold => (ih.mpr hold) history List.suffix_rfl
    | ok response =>
      have hkeeps : KeepsKeys (.ok response :: history) ↔ (response.lookup "name" ≠ none ∧
          ∀ k ∈ keys, response.lookup k = none → ∀ older, .ok older ∈ history →
            older.lookup k = none) ∧ KeepsKeys history := by
        constructor
        · intro H
          exact ⟨H response history List.suffix_rfl,
            fun r past hs => H r past (hs.trans (List.suffix_cons ..))⟩
        · rintro ⟨hnew, hold⟩ r past hs
          rcases List.suffix_cons_iff.mp hs with heq | hs
          · obtain ⟨hr, rfl⟩ := List.cons.inj heq
            obtain rfl := Answer.ok.inj hr
            exact hnew
          · exact hold r past hs
      rw [hkeeps, profileAfter_ok_iff]

/-- **An email that an earlier response had stays**, though the latest response has none. -/
theorem email_stays : ¬ ∀ history, LatestAlone history := by
  intro H
  have halone := H [.ok [("name", "C D")], .ok [("email", "a@mail.kz"), ("name", "A B")]] _
    List.suffix_rfl
  exact absurd halone (by decide)

/-- In a run of the app, the deliveries are those on record since the controller was instantiated. -/
theorem fbProfileData_eq {s : App} (h : Reachable s) (self : Addr) :
    (s.vcs self).fbProfileData = profileAfter (deliveries self s.log) :=
  (held (kept h)).facebook self

/-! ### The segue of a login with Facebook -/

/-- A login with Facebook in which everything succeeds: the dialog, the fetch it has started, with
all the fields, and the sign-in. -/
structure Succeeded (log : List Event) (a : Attempt) (i : Addr) (response : Dictionary) :
    Prop where
  dialog : ∃ result, result.token ≠ none ∧ .fbLogInCompleted a i (.ok result) ∈ log
  fetched : .fetched (some a) i (.ok response) ∈ log
  complete : ∀ k ∈ keys, response.lookup k ≠ none
  signedIn : ∃ token user cur, .authCompleted a (.signInFacebook i token) (.ok user) cur ∈ log

/-- **The login hands over the response to its fetch exactly if, at its segue, Facebook is the last
to have written `checkSystem` and the newest value delivered for each field is that of the
response.** -/
theorem handsResponse_iff {s : App} {a : Attempt} {self : Addr} {response : Dictionary}
    {handed : Flow} {profile : ProfileData} {past : List Event} (h : Reachable s)
    (hlogin : Succeeded s.log a self response)
    (hsegue : .performSegue a .facebook self handed profile :: past <:+ s.log) :
    profile = profileAlone response ↔ lastWriter self past = some .facebook ∧
      ∀ k ∈ keys, latest (deliveries self past) k = response.lookup k := by
  obtain ⟨-, hfb, hother⟩ := always_iff.mp (held (kept h)).handed _ past hsegue
  have hname : response.lookup "name" ≠ none := hlogin.complete "name" (by simp [keys])
  have halone : lastWriter self past = some .facebook → (profile = profileAlone response ↔
      ∀ k ∈ keys, latest (deliveries self past) k = response.lookup k) := by
    intro hw
    rw [hfb hw, profileAfter_eq, profileOf_eq_profileAlone]
    exact and_iff_right hname
  constructor
  · intro heq
    have hw : lastWriter self past = some .facebook := by
      by_contra hne
      exact hother hne (heq ▸ rfl)
    exact ⟨hw, (halone hw).mp heq⟩
  · rintro ⟨hw, hkeys⟩
    exact (halone hw).mpr hkeys

/-- A tap on the Facebook button; the dialog returns a token and Firebase signs the user in. -/
def dialogAndSignIn : List Action :=
  [.launch, .fbButton 0, .logInFinish 1 (.ok (.granted "token")),
    .authFinish 1 (.ok ⟨"u", none, none, "facebook.com"⟩)]

/-- The response of the graph. -/
def me : Dictionary :=
  [("email", "a@mail.kz"), ("first_name", "A"), ("last_name", "B"), ("name", "A B")]

/-- If the graph answers before the completion block runs, its response is handed over. -/
theorem graphFirst_handsResponse : ∃ s past profile, exec Device.empty.installed
    (dialogAndSignIn ++ [.fetchFinish 2 (.ok me), .authComplete 1]) = some s ∧
      .performSegue 1 .facebook 0 .facebook profile :: past <:+ s.log ∧
      profile = profileAlone me := by
  have hlog : (exec Device.empty.installed
      (dialogAndSignIn ++ [.fetchFinish 2 (.ok me), .authComplete 1])).map App.log = some
        [.performSegue 1 .facebook 0 .facebook (profileAlone me),
          .authCompleted 1 (.signInFacebook 0 "token") (.ok ⟨"u", none, none, "facebook.com"⟩)
            (some ⟨"u", none, none, "facebook.com"⟩),
          .fetched (some 1) 0 (.ok me),
          .authFinished 1 (.signInFacebook 0 "token") (.ok ⟨"u", none, none, "facebook.com"⟩),
          .authStarted 1 (.signInFacebook 0 "token"),
          .fbLogInCompleted 1 0 (.ok (.granted "token")),
          .instantiated 0, .launched] := by decide
  obtain ⟨s, hs, hl⟩ := Option.map_eq_some_iff.mp hlog
  have hlogin : Succeeded s.log 1 0 me := by
    rw [hl]
    refine ⟨⟨.granted "token", by decide, by simp⟩, by simp, by decide, ?_⟩
    exact ⟨"token", ⟨"u", none, none, "facebook.com"⟩, _, List.mem_cons_of_mem _ List.mem_cons_self⟩
  have hsegue : .performSegue 1 .facebook 0 .facebook (profileAlone me) :: s.log.tail <:+ s.log := by
    rw [hl]
    exact List.suffix_rfl
  refine ⟨s, s.log.tail, _, hs, hsegue, (handsResponse_iff (reachable_of_exec hs) hlogin hsegue).mpr ?_⟩
  rw [hl]
  decide

/-- **If Firebase is faster, an empty profile is handed over.** -/
theorem firebaseFirst_handsNothing : ¬ ∀ s a self response handed profile past, Reachable s →
    Succeeded s.log a self response →
    .performSegue a .facebook self handed profile :: past <:+ s.log →
      profile = profileAlone response := by
  intro H
  have hlog : (exec Device.empty.installed
      (dialogAndSignIn ++ [.authComplete 1, .fetchFinish 2 (.ok me)])).map App.log = some
        [.fetched (some 1) 0 (.ok me),
          .performSegue 1 .facebook 0 .facebook {},
          .authCompleted 1 (.signInFacebook 0 "token") (.ok ⟨"u", none, none, "facebook.com"⟩)
            (some ⟨"u", none, none, "facebook.com"⟩),
          .authFinished 1 (.signInFacebook 0 "token") (.ok ⟨"u", none, none, "facebook.com"⟩),
          .authStarted 1 (.signInFacebook 0 "token"),
          .fbLogInCompleted 1 0 (.ok (.granted "token")),
          .instantiated 0, .launched] := by decide
  obtain ⟨s, hs, hl⟩ := Option.map_eq_some_iff.mp hlog
  have hlogin : Succeeded s.log 1 0 me := by
    rw [hl]
    refine ⟨⟨.granted "token", by decide, by simp⟩, by simp, by decide, ?_⟩
    exact ⟨"token", ⟨"u", none, none, "facebook.com"⟩, _, List.mem_cons_of_mem _
      (List.mem_cons_of_mem _ List.mem_cons_self)⟩
  have hempty := H s 1 0 me .facebook {} s.log.tail.tail (reachable_of_exec hs) hlogin
    (by rw [hl]; exact List.suffix_cons ..)
  exact absurd hempty (by decide)

end AccountApp.Laws.FacebookProfile
