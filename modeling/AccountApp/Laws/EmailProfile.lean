import AccountApp.Attempt.Refine

/-! # One account in the email profile

The read that fills `fireProfileData` is that of the account the sign-in has returned, but the email
is that of the user who is current when the completion block of the sign-in runs. So the profile is
of one account exactly if that user has the email of the account whenever a record is found
(`oneAccount_iff`). -/

namespace AccountApp.Laws.EmailProfile

open AccountApp.Lib
open AccountApp.Model.Data AccountApp.Model.Screens AccountApp.Model.State
open AccountApp.Model.Handlers AccountApp.Model.Step
open AccountApp.Attempt.Life AccountApp.Attempt.Refine

/-- Whenever the closure of the read fills `fireProfileData`, the four fields are those of the
account the email sign-in of its attempt has returned: its email, and the names of its record. -/
def OneAccount (log : List Event) : Prop :=
  ∀ a self profile, .profileFilled a self profile ∈ log →
    ∃ i email password result cur snapshot,
      .authCompleted a (.signInEmail i email password) (.ok result) cur ∈ log ∧
      .recordRead a self result.uid snapshot ∈ log ∧
      profile.email = result.email ∧
      profile.fullName = snapshot.lookup "full_name" ∧
      profile.givenName = snapshot.lookup "first_name" ∧
      profile.familyName = snapshot.lookup "last_name"

/-- If the read of an attempt finds a record, the user that was current when its sign-in completed
has the email of the account it has signed in. -/
def CurrentSignedIn (log : List Event) : Prop :=
  ∀ a self uid snapshot, .recordRead a self uid snapshot ∈ log → snapshot ≠ [] →
    ∀ i email password result user,
      .authCompleted a (.signInEmail i email password) (.ok result) (some user) ∈ log →
        user.email = result.email

section Attempt
variable {a : Attempt} {v : View} {self : Addr}

theorem read_of_filled (h : Lived a v) {profile : ProfileData}
    (hf : .profileFilled a self profile ∈ v.trace) : ∃ i email password result user snapshot,
      .authCompleted a (.signInEmail i email password) (.ok result) (some user) ∈ v.trace ∧
        .recordRead a self result.uid snapshot ∈ v.trace ∧ snapshot ≠ [] ∧
          profile = fireProfileOf user snapshot := by
  have hmem : .profileFilled a self profile ∈ reads v.trace := mem_reads.mpr ⟨hf, rfl⟩
  have hsub : ∀ e ∈ reads v.trace, e ∈ v.trace := fun e he => (mem_reads.mp he).1
  have hread := h.readOf hf rfl
  generalize reads v.trace = l at hmem hread hsub
  cases hread with
  | nothing i email password result user hc => simp at hmem
  | filled i email password result user snapshot hs hc =>
    obtain ⟨rfl, rfl⟩ : self = i ∧ profile = fireProfileOf user snapshot := by simpa using hmem
    exact ⟨self, email, password, result, user, snapshot, hc, hsub _ (by simp), hs, rfl⟩

theorem filled_of_read (h : Lived a v) {uid : String} {snapshot : Dictionary}
    (hr : .recordRead a self uid snapshot ∈ v.trace) (hs : snapshot ≠ []) :
    ∃ i email password result user,
      .authCompleted a (.signInEmail i email password) (.ok result) (some user) ∈ v.trace ∧
        .profileFilled a self (fireProfileOf user snapshot) ∈ v.trace := by
  have hmem : .recordRead a self uid snapshot ∈ reads v.trace := mem_reads.mpr ⟨hr, rfl⟩
  have hsub : ∀ e ∈ reads v.trace, e ∈ v.trace := fun e he => (mem_reads.mp he).1
  have hread := h.readOf hr rfl
  generalize reads v.trace = l at hmem hread hsub
  cases hread with
  | nothing i email password result user hc =>
    obtain ⟨-, -, rfl⟩ : self = i ∧ uid = result.uid ∧ snapshot = [] := by simpa using hmem
    exact absurd rfl hs
  | filled i email password result user snapshot' hs' hc =>
    obtain ⟨rfl, -, rfl⟩ : self = i ∧ uid = result.uid ∧ snapshot = snapshot' := by
      simpa using hmem
    exact ⟨self, email, password, result, user, hc, hsub _ (by simp)⟩

end Attempt

/-- **The profile is of one account exactly if, whenever a record is found, the current user of the
completion block had the email of the account that was signed in.** -/
theorem oneAccount_iff {s : App} (h : Reachable s) : OneAccount s.log ↔ CurrentSignedIn s.log := by
  have hsub : ∀ {a e}, e ∈ trace a s.log → e ∈ s.log := fun he => (mem_trace.mp he).1
  constructor
  · intro H a self uid snapshot hr hs i email password result user hc
    have hc' : _ ∈ trace a s.log := mem_trace.mpr ⟨hc, rfl⟩
    obtain ⟨_, _, _, _, user', hc₁, hf⟩ := filled_of_read (lived h a) (mem_trace.mpr ⟨hr, rfl⟩) hs
    obtain ⟨_, _, _, result', _, _, hc₂, -, hemail, -⟩ := H a self _ (hsub hf)
    obtain ⟨-, -, huser⟩ := (lived h a).completed_unique hc₁ hc'
    obtain ⟨-, hresult, -⟩ := (lived h a).completed_unique (mem_trace.mpr ⟨hc₂, rfl⟩) hc'
    obtain rfl := Option.some.inj huser
    obtain rfl := Answer.ok.inj hresult
    exact hemail
  · intro H a self profile hf
    obtain ⟨i, email, password, result, user, snapshot, hc, hr, hs, rfl⟩ :=
      read_of_filled (lived h a) (mem_trace.mpr ⟨hf, rfl⟩)
    have hemail := H a self _ snapshot (hsub hr) hs i email password result user (hsub hc)
    exact ⟨i, email, password, result, some user, snapshot, hsub hc, hsub hr, hemail, rfl, rfl, rfl⟩

/-- Completions and the profiles that are filled. -/
def telling : Event → Bool
  | .authCompleted .. | .profileFilled .. => true
  | _ => false

/-- A service with two accounts, one of which has a record. -/
def twoAccounts : Device where
  currentUser := none
  accessToken := none
  authVID := none
  accounts := ["u", "v"]
  users uid := if uid = "u" then (Form.mk "u@mail.kz" "U" "N" "secret").record else []
  count := String.length
  mem_accounts uid huid := by
    by_cases hu : uid = "u"
    · simp [hu]
    · simp [hu] at huid

/-- A sign-in of the account with a record, and a tap with the data of the other account. -/
def twoSignIns : List Action :=
  [.launch, .edit (.email 0) "u@mail.kz", .edit (.password 0) "secret",
    .firebaseLoginButtonAction 0, .edit (.email 0) "v@mail.kz", .firebaseLoginButtonAction 0]

/-- If the first sign-in is done before the second is answered, the profile is of one account. -/
theorem twoSignIns_oneAccount : ∃ s, exec twoAccounts.installed (twoSignIns ++
    [.authFinish 1 (.ok ⟨"u", some "u@mail.kz", none, "password"⟩), .authComplete 1,
      .readFinish 1]) = some s ∧ (∃ profile, .profileFilled 1 0 profile ∈ s.log) ∧
        OneAccount s.log := by
  have hlog : (exec twoAccounts.installed (twoSignIns ++
      [.authFinish 1 (.ok ⟨"u", some "u@mail.kz", none, "password"⟩), .authComplete 1,
        .readFinish 1])).map (fun s => s.log.filter telling) = some
        [.profileFilled 1 0 ⟨some "u@mail.kz", some "U N", some "N", some "U", some "Firebase"⟩,
          .authCompleted 1 (.signInEmail 0 "u@mail.kz" "secret")
            (.ok ⟨"u", some "u@mail.kz", none, "password"⟩)
            (some ⟨"u", some "u@mail.kz", none, "password"⟩)] := by decide
  obtain ⟨s, hs, hl⟩ := Option.map_eq_some_iff.mp hlog
  have hmem : ∀ e, e ∈ s.log → telling e = true → e ∈ s.log.filter telling :=
    fun e he htelling => List.mem_filter.mpr ⟨he, htelling⟩
  rw [hl] at hmem
  refine ⟨s, hs, ?_, (oneAccount_iff (reachable_of_exec hs)).mpr ?_⟩
  · have hfilled := List.mem_of_mem_filter (hl ▸ List.mem_cons_self)
    exact ⟨_, hfilled⟩
  · intro a self uid snapshot hr hs i email password result user hc
    have heq := hmem _ hc rfl
    simp only [List.mem_cons, List.not_mem_nil, or_false, reduceCtorEq, false_or,
      Event.authCompleted.injEq, Answer.ok.injEq, Option.some.injEq] at heq
    obtain ⟨-, -, rfl, rfl⟩ := heq
    rfl

/-- **The email of one account beside the names of another**: the second sign-in is answered before
the completion block of the first runs. -/
theorem twoSignIns_mixed : ¬ ∀ s, Reachable s → OneAccount s.log := by
  intro H
  have hrun : (exec twoAccounts.installed (twoSignIns ++
      [.authFinish 1 (.ok ⟨"u", some "u@mail.kz", none, "password"⟩),
        .authFinish 2 (.ok ⟨"v", some "v@mail.kz", none, "password"⟩), .authComplete 1,
        .readFinish 1])).map (fun s => s.log.filter telling) = some
        [.profileFilled 1 0 ⟨some "v@mail.kz", some "U N", some "N", some "U", some "Firebase"⟩,
          .authCompleted 1 (.signInEmail 0 "u@mail.kz" "secret")
            (.ok ⟨"u", some "u@mail.kz", none, "password"⟩)
            (some ⟨"v", some "v@mail.kz", none, "password"⟩)] := by decide
  obtain ⟨s, hs, hl⟩ := Option.map_eq_some_iff.mp hrun
  have hfilled := List.mem_of_mem_filter (hl ▸ List.mem_cons_self)
  obtain ⟨i, email, password, result, cur, snapshot, hc, -, hemail, -⟩ :=
    H s (reachable_of_exec hs) _ _ _ hfilled
  have hc' : _ ∈ s.log.filter telling := List.mem_filter.mpr ⟨hc, rfl⟩
  rw [hl] at hc'
  simp only [List.mem_cons, List.not_mem_nil, or_false, reduceCtorEq, false_or,
    Event.authCompleted.injEq, Answer.ok.injEq] at hc'
  obtain ⟨-, -, rfl, -⟩ := hc'
  exact absurd hemail (by decide)

end AccountApp.Laws.EmailProfile
