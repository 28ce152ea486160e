import AccountApp.Dialog.Challenges

/-! # Refreshing the token

A refresh is asked for one token and answered later. The SDK compares the token that is current by
then with the one it was for, by identity; here `generation` says which object it is. It counts the
changes of the token (`Counted`), so the two are the same exactly if there has been none, whatever
the strings are. A refresh never overwrites the token of another login, and never brings back a token
that has been dropped (`refresh_kept`). -/

namespace AccountApp.Dialog.Refresh

open AccountApp.Lib AccountApp.Lib.Machine
open AccountApp.Dialog.LoginManager AccountApp.Dialog.Step AccountApp.Dialog.Effects
open AccountApp.Dialog.Handlers AccountApp.Dialog.Challenges

variable {appID : String} {token : Option FBSDKAccessToken} {challenge : Option Challenge}
  {f f₀ g h k : Facebook} {act : Action} {as bs : List Action} {p n : ℕ}

/-- The event changes the token. -/
def changes (e : Event) : Bool := (caches e).isSome

/-- The changes of the token since `f` are counted. -/
def Counted (f g : Facebook) : Prop :=
  ∃ new, g.log = new ++ f.log ∧ g.generation = f.generation + new.countP changes

theorem Counted.refl (f : Facebook) : Counted f f := ⟨[], rfl, rfl⟩

theorem Counted.trans (hfg : Counted f g) (hgh : Counted g h) : Counted f h := by
  obtain ⟨new, hlog, hcount⟩ := hfg
  obtain ⟨new', hlog', hcount'⟩ := hgh
  refine ⟨new' ++ new, by rw [hlog', hlog, List.append_assoc], ?_⟩
  rw [hcount', hcount, List.countP_append]
  omega

theorem Counted.one {e : Event} (hlog : g.log = e :: f.log)
    (hcount : g.generation = f.generation + if changes e then 1 else 0) : Counted f g := by
  refine ⟨[e], hlog, ?_⟩
  rw [hcount, List.countP_singleton]

theorem counted_invokeHandler (m : Ref) (reply : Reply) (f : Facebook) :
    Counted f (invokeHandler m reply f) := by
  rw [invokeHandler_eq]
  rcases (f.managers m).handler with _ | a
  · exact ⟨[], rfl, rfl⟩
  · exact .one (e := .handled a reply) rfl rfl

theorem counted_effect (he : Effect f₀ act f g) : Counted f g := by
  cases he with
  | refused m reply hm hreply => exact counted_invokeHandler m reply f
  | granted m t granted declined hm hs =>
    have hcached : Counted f (cacheToken m t f) := .one rfl rfl
    exact hcached.trans (counted_invokeHandler ..)
  | consumed | dropped | refreshed => exact .one rfl rfl
  | _ => exact ⟨[], rfl, rfl⟩

theorem counted_begins (hb : Begins f act f₀) : Counted f f₀ := by
  cases hb with
  | same => exact .refl f
  | begun | restarted => exact .one rfl rfl

/-- The block `p` is the refresh for generation `n`, until it is answered. -/
structure Asked (p n : ℕ) (f : Facebook) : Prop where
  lt : p < f.next
  block : ∀ r, f.pending p = some r → r = .refresh n

theorem Asked.same (hf : Asked p n f) (hnext : g.next = f.next) (hpending : g.pending = f.pending) :
    Asked p n g := ⟨hnext ▸ hf.lt, hpending ▸ hf.block⟩

theorem Asked.effect (hf : Asked p n f) (he : Effect f₀ act f g) : Asked p n g := by
  cases he with
  | answered q =>
    refine ⟨hf.lt, fun r hr => ?_⟩
    by_cases hq : p = q
    · simp [Facebook.answered, hq] at hr
    · exact hf.block r (by simpa [Facebook.answered, hq] using hr)
  | awaited r hm hproper hb =>
    refine ⟨Nat.lt_succ_of_lt hf.lt, fun r' hr' => ?_⟩
    have hq : p ≠ f.next := Nat.ne_of_lt hf.lt
    exact hf.block r' (by simpa [Facebook.await, hq] using hr')
  | refused m reply hm hreply => exact hf.same (by rw [invokeHandler_eq]) (by rw [invokeHandler_eq])
  | granted m t granted declined hm hs =>
    have hcached : Asked p n (cacheToken m t f) := hf.same rfl rfl
    exact hcached.same (by rw [invokeHandler_eq]) (by rw [invokeHandler_eq])
  | _ => exact hf.same rfl rfl

theorem Asked.begins (hf : Asked p n f) (hb : Begins f act f₀) : Asked p n f₀ := by
  cases hb with
  | restarted url =>
    exact ⟨hf.lt, fun r hr => absurd (hr : none = some r) (Option.some_ne_none r).symm⟩
  | _ => exact hf.same rfl rfl

theorem asked_exec (hf : Reachable f) (hasked : Asked p n f) (hrun : exec f as = some g) :
    Counted f g ∧ Asked p n g := by
  have hall : Reachable g ∧ Counted f g ∧ Asked p n g := by
    refine exec_preserves (I := fun u => Reachable u ∧ Counted f u ∧ Asked p n u) ?_
      ⟨hf, .refl f, hasked⟩ hrun
    rintro u act v ⟨hu, hcounted, hasked⟩ huv
    obtain ⟨u₀, -, hv⟩ := step_preserves (J := fun _ w => Counted f w ∧ Asked p n w) (numbered hu)
      (fun u₀ hb => ⟨hcounted.trans (counted_begins hb), hasked.begins hb⟩)
      (fun _ _ _ _ hw he => ⟨hw.1.trans (counted_effect he), hw.2.effect he⟩)
      (fun _ _ hw => ⟨hw.1, hw.2.same rfl rfl⟩) huv
    exact ⟨hu.next huv, hv⟩
  exact hall.2

theorem after_append {V : Type} {decides : Event → Option V} {init : V} {new log : List Event}
    (hnew : ∀ e ∈ new, decides e = none) :
    after decides init (new ++ log) = after decides init log := by
  rw [after, List.findSome?_append, List.findSome?_eq_none_iff.mpr hnew, Option.none_or, after]

theorem refreshFinish_cases {tokenString : Option String}
    {permissions : Option (Finset String × Finset String)}
    (hst : step h (.refreshFinish p tokenString permissions) = some k) :
    ∃ n, h.pending p = some (.refresh n) ∧
      k = (refreshed n tokenString permissions (h.answered p)).release := by
  obtain ⟨k', hk', rfl⟩ := Option.map_eq_some_iff.mp hst
  simp only [perform] at hk'
  split at hk'
  · rename_i n hp
    obtain rfl := Option.some.inj hk'
    exact ⟨n, hp, rfl⟩
  · simp at hk'

theorem refreshStart_cases (hst : step f .refreshStart = some g) :
    f.currentAccessToken.isSome = true ∧ g = (f.await (.refresh f.generation)).release := by
  obtain ⟨g', hg', rfl⟩ := Option.map_eq_some_iff.mp hst
  simp only [perform] at hg'
  split_ifs at hg' with hsome
  obtain rfl := Option.some.inj hg'
  exact ⟨hsome, rfl⟩

theorem refreshed_of_ne {tokenString : Option String}
    {permissions : Option (Finset String × Finset String)} (hne : f.generation ≠ n) :
    refreshed n tokenString permissions f = f := by
  unfold refreshed
  split
  · exact if_neg hne
  · rfl

/-- **A refresh is kept exactly if the token has not been changed since it was asked for.** -/
theorem refresh_kept (hbefore : exec (installed appID token challenge) as = some f)
    (hstart : step f .refreshStart = some g) (hrun : exec g bs = some h)
    {tokenString : Option String} {permissions : Option (Finset String × Finset String)}
    (hfinish : step h (.refreshFinish f.next tokenString permissions) = some k) :
    ∃ new, h.log = new ++ f.log ∧
      ((∀ e ∈ new, caches e = none) → ∃ t, f.currentAccessToken = some t ∧
        k.currentAccessToken = some (refreshedToken t tokenString permissions)) ∧
      ((∃ e ∈ new, caches e ≠ none) → k.currentAccessToken = h.currentAccessToken) := by
  have hf : Reachable f := ⟨_, as, ⟨appID, token, challenge, rfl⟩, hbefore⟩
  have hg : Reachable g := hf.next hstart
  have hafter : exec (installed appID token challenge) (as ++ .refreshStart :: bs) = some h :=
    exec_append.mpr ⟨f, hbefore, exec_cons.mpr ⟨g, hstart, hrun⟩⟩
  obtain ⟨hsome, rfl⟩ := refreshStart_cases hstart
  have hasked : Asked f.next f.generation (f.await (.refresh f.generation)).release :=
    ⟨Nat.lt_succ_self _, fun r hr => by
      simpa [Facebook.await, Facebook.release, eq_comm] using hr⟩
  obtain ⟨⟨new, hlog, hcount⟩, hblock⟩ := asked_exec hg hasked hrun
  obtain ⟨n, hp, rfl⟩ := refreshFinish_cases hfinish
  obtain rfl : n = f.generation := Pending.refresh.inj (hblock.block _ hp)
  have hgeneration : h.generation = f.generation + new.countP changes := hcount
  refine ⟨new, hlog, fun hnew => ?_, fun hnew => ?_⟩
  · -- the token is the one it was
    obtain ⟨t, ht⟩ := Option.isSome_iff_exists.mp hsome
    have hcurrent : h.currentAccessToken = some t := by
      rw [(kept hafter).current, hlog]
      exact ((after_append hnew).trans (kept hbefore).current.symm).trans ht
    have hsame : h.generation = f.generation := by
      rw [hgeneration, List.countP_eq_zero.mpr fun e he => by simp [changes, hnew e he]]
      rfl
    refine ⟨t, ht, ?_⟩
    simp only [refreshed, Facebook.answered, hcurrent, hsame, if_true]
    rfl
  · obtain ⟨e, he, hchange⟩ := hnew
    have hpos : 0 < new.countP changes :=
      List.countP_pos_iff.mpr ⟨e, he, Option.isSome_iff_ne_none.mpr hchange⟩
    have hne : (h.answered f.next).generation ≠ f.generation := by
      show h.generation ≠ f.generation
      omega
    rw [refreshed_of_ne hne]
    rfl

/-- The user logs out while a refresh is under way: the token is not brought back. -/
theorem logOut_refreshed : ∃ f g h k,
    exec (installed "1" (some sessionLoginToken) none) [] = some f ∧
    step f .refreshStart = some g ∧ exec g [.logOut] = some h ∧
    step h (.refreshFinish f.next (some "T2") none) = some k ∧ ∃ new, h.log = new ++ f.log ∧
      ((∀ e ∈ new, caches e = none) → ∃ t, f.currentAccessToken = some t ∧
        k.currentAccessToken = some (refreshedToken t (some "T2") none)) ∧
      ((∃ e ∈ new, caches e ≠ none) → k.currentAccessToken = h.currentAccessToken) := by
  let f := installed "1" (some sessionLoginToken) none
  have hrun : exec (f.await (.refresh 0)) [.logOut] = some (logOut (f.await (.refresh 0))) := rfl
  exact ⟨f, _, _, _, rfl, rfl, hrun, rfl, refresh_kept (exec_nil f) rfl hrun rfl⟩

end AccountApp.Dialog.Refresh
