import IdentityModel.RustJwksClient

/-!
# Known-good keys and failed refreshes

`force_refresh` removes the cached set before it asks the provider for a new
one, so a refresh that fails leaves the cache without the set. Here: while the
provider fails, a cached set survives a run of calls exactly when none of them
reaches the forced refresh.
-/
namespace IdentityModel.RustJwks

open Runs Tasks TtlCache

def Pc.finished : Pc → Bool
  | .done _ => true
  | _ => false

theorem Pc.eq_done {pc : Pc} (h : pc.finished = true) : ∃ out, pc = .done out := by
  cases pc <;> first | exact ⟨_, rfl⟩ | cases h

/-- No call is in progress. -/
def idle (s : State) : Bool := s.tasks.all fun x => x.pc.finished

theorem idle_done {s : State} (h : idle s = true) {x : Task} (hx : x ∈ s.tasks) :
    ∃ out, x.pc = .done out := Pc.eq_done (List.all_eq_true.mp h x hx)

/-- Calls of `force_refresh` and `resolve_key` on `u`, none of them cancelled,
against a provider that always fails. -/
def failingCall (u : String) : Label → Bool
  | .spawn (.fetch _) => false
  | .spawn call => call.uri = u
  | .move _ ⟨_, .run⟩ => true
  | .move _ ⟨_, .response (.error _)⟩ => true
  | .move _ ⟨_, .response (.ok _)⟩ => false
  | .move _ ⟨_, .cancel⟩ => false

/-- The label starts a forced refresh: a call of `force_refresh`, or a `kid` miss
of `resolve_key` that the cooldown lets pass. -/
def startsRefresh (cfg : Config) (s : State) : Label → Bool
  | .spawn (.forceRefresh _) => true
  | .move t ⟨now, .run⟩ =>
      match s.tasks[t]? with
      | some ⟨uri, .throttle _⟩ => !s.shared.cache.refreshThrottled cfg uri now
      | _ => false
  | _ => false

theorem failingCall_act {u : String} {t : ℕ} {e : Event} (h : failingCall u (.move t e) = true) :
    (∀ set, e.act ≠ .response (.ok set)) ∧ e.act ≠ .cancel := by
  obtain ⟨now, act⟩ := e
  constructor
  · intro set hset
    simp only at hset
    subst hset
    cases h
  · intro hact
    simp only at hact
    subst hact
    cases h

theorem startsRefresh_move {cfg : Config} {s : State} {t : ℕ} {e : Event} {x : Task}
    (h : startsRefresh cfg s (.move t e) = true) (hx : s.tasks[t]? = some x) :
    ∃ kid, x.pc = .throttle kid ∧
      s.shared.cache.refreshThrottled cfg x.uri e.now = false := by
  obtain ⟨now, act⟩ := e
  obtain ⟨uri, pc⟩ := x
  cases act with
  | run => cases pc <;> simp_all [startsRefresh]
  | response answer => cases h
  | cancel => cases h

/-- The task is outside every forced refresh and has no answer to store. -/
def Pc.calm : Pc → Bool
  | .invalidate .. => false
  | .store .. => false
  | .mark .. => false
  | .lookup why => why.refresh.isNone
  | .gate why => why.refresh.isNone
  | .wait why _ => why.refresh.isNone
  | .recheck why _ => why.refresh.isNone
  | .request why _ _ => why.refresh.isNone
  | .unlock why _ _ => why.refresh.isNone
  | .dropGuard why _ _ => why.refresh.isNone
  | .throttle _ => true
  | .done _ => true

theorem afterFetch_calm {why : Use} (h : why.refresh = none) (r : Fetched) :
    (afterFetch why r).calm = true := by
  unfold afterFetch
  rw [h]
  repeat' split
  all_goals first | rfl | simp_all

/-- A calm task stays calm unless it is the `kid` miss that passes the cooldown. -/
theorem Advance.calm {cfg : Config} {w w' : Shared} {uri : String} {pc pc' : Pc} {act : Act}
    (h : Advance cfg w uri pc act w' pc') (hpc : pc.calm = true)
    (hact : ∀ set, act ≠ .response (.ok set))
    (hpass : ∀ kid, pc = .throttle kid → w.cache.refreshThrottled cfg uri w.now = true) :
    pc'.calm = true ∧ ∀ u, w'.cache.stored u = w.cache.stored u := by
  constructor
  · cases h with
    | invalidate => cases hpc
    | lookupHit why ks hget hne => exact afterFetch_calm (Option.isNone_iff_eq_none.mp hpc) _
    | store => cases hpc
    | dropGuard why g r => exact afterFetch_calm (Option.isNone_iff_eq_none.mp hpc) _
    | passed kid hthr => simp [hpass kid rfl] at hthr
    | mark => cases hpc
    | answered why g n set => exact absurd rfl (hact set)
    | cancelHeld _ why g hcase =>
        obtain rfl | ⟨n, rfl⟩ | ⟨ks, rfl⟩ := hcase <;> first | exact hpc | cases hpc
    | lookupFail => rfl
    | throttled => rfl
    | cancelFree => rfl
    | _ => exact hpc
  · obtain hsame | ⟨kid, began, rfl, -⟩ | ⟨why, g, ks, rfl, -⟩ := h.stored_effect
    · exact hsame
    · cases hpc
    · cases hpc

/-- The set is stored, and every running task is a calm one on `u`. -/
def Survives (u : String) (held : Obtained × Option ℕ) (s : State) : Prop :=
  Holds (fun w => w.cache.stored u = some held)
    (fun _ x => x.pc.calm = true ∧ (x.uri = u ∨ ∃ out, x.pc = .done out)) (fun _ _ => True) s

theorem survives_of_idle {u : String} {held : Obtained × Option ℕ} {s : State} (hidle : idle s = true)
    (h : s.shared.cache.stored u = some held) : Survives u held s where
  shared := h
  each := by
    intro i x hx
    obtain ⟨out, hout⟩ := idle_done hidle (List.mem_of_getElem? hx)
    exact ⟨by rw [hout]; rfl, .inr ⟨out, hout⟩⟩
  pair := fun _ _ _ _ _ _ _ => trivial

theorem survives_step (cfg : Config) (u : String) (held : Obtained × Option ℕ) (s : State)
    (l : Label) (s' : State) (h : Survives u held s)
    (hok : startsRefresh cfg s l = false ∧ failingCall u l = true)
    (hstep : (client cfg).step s l = some s') : Survives u held s' := by
  refine Machine.holds_step (client_fork cfg) (fun s l => startsRefresh cfg s l = false ∧ failingCall u l = true)
    (fun _ _ _ => trivial) ?_ ?_ s l s' h hok hstep
  · intro s call w x h hok hspawn
    obtain ⟨rfl, rfl⟩ := client_spawn hspawn
    refine ⟨h.shared, ?_, fun j y hy => ⟨h.each j y hy, trivial⟩⟩
    cases call with
    | fetch jwksUri => simp [failingCall] at hok
    | forceRefresh jwksUri => simp [startsRefresh] at hok
    | resolveKey jwksUri kid => exact ⟨rfl, .inl (by simpa [failingCall] using hok.2)⟩
  · intro s t e x w x' h hok hx hmove
    obtain ⟨hle, v, pc', hadv, rfl, rfl⟩ := client_move hmove
    obtain ⟨hcalm, huri⟩ := h.each t x hx
    have hact := (failingCall_act hok.2).1
    have hpass : ∀ kid, x.pc = .throttle kid →
        s.shared.cache.refreshThrottled cfg x.uri e.now = true := by
      intro kid hpc
      obtain ⟨now, act⟩ := e
      obtain ⟨uri, pc⟩ := x
      simp only at hpc
      subst hpc
      cases hadv <;> simp_all [startsRefresh, failingCall]
    obtain ⟨hcalm', hstored⟩ := hadv.calm hcalm hact hpass
    have huri' : x.uri = u := by
      obtain hu | ⟨out, hout⟩ := huri
      · exact hu
      · exact absurd hout (hadv.not_done out)
    refine ⟨?_, ⟨hcalm', .inl huri'⟩, fun j y _ hy => ⟨h.each j y hy, trivial⟩⟩
    exact (hstored u).trans h.shared

/-- A `kid` miss that the cooldown does not stop goes on to remove the set. -/
theorem Advance.passes {cfg : Config} {w w' : Shared} {uri : String} {pc pc' : Pc} {act : Act}
    (h : Advance cfg w uri pc act w' pc') {kid : String} (hpc : pc = .throttle kid)
    (hact : act ≠ .cancel) (hthr : w.cache.refreshThrottled cfg uri w.now = false) :
    pc' = .invalidate (some kid) w.clock := by
  cases h with
  | throttled kid' h' => simp [hthr] at h'
  | passed kid' h' =>
      cases hpc
      rfl
  | cancelHeld => exact absurd rfl hact
  | cancelFree => exact absurd rfl hact
  | _ => cases hpc

/-- The set is gone, or a task is about to remove it; and no answer is on its
way into the cache. -/
def Losing (u : String) (s : State) : Prop :=
  (∀ x ∈ s.tasks, ∀ why g ks, x.pc ≠ .store why g ks) ∧
    (s.shared.cache.stored u = none ∨
      ∃ x ∈ s.tasks, x.uri = u ∧ ∃ kid began, x.pc = .invalidate kid began)

theorem losing_idle {u : String} {s : State} (h : Losing u s) (hidle : idle s = true) :
    s.shared.cache.stored u = none := by
  obtain hnone | ⟨x, hx, -, kid, began, hpc⟩ := h.2
  · exact hnone
  · obtain ⟨out, hout⟩ := idle_done hidle hx
    rw [hpc] at hout
    cases hout

theorem Advance.no_store {cfg : Config} {w w' : Shared} {uri : String} {pc pc' : Pc} {act : Act}
    (h : Advance cfg w uri pc act w' pc') (hact : ∀ set, act ≠ .response (.ok set))
    (why : Use) (g : ℕ) (ks : Obtained) : pc' ≠ .store why g ks := by
  have hfetch : ∀ why' r, afterFetch why' r ≠ .store why g ks := by
    intro why' r
    unfold afterFetch
    repeat' split
    all_goals simp
  cases h with
  | answered why' g' n set => exact absurd rfl (hact set)
  | lookupHit why' ks' hget hne => exact hfetch _ _
  | dropGuard why' g' r => exact hfetch _ _
  | _ => simp

theorem losing_step (cfg : Config) (u : String) (s : State) (l : Label) (s' : State)
    (h : Losing u s) (hok : failingCall u l = true) (hstep : (client cfg).step s l = some s') :
    Losing u s' := by
  obtain ⟨hstore, hlost⟩ := h
  cases l with
  | spawn call =>
      obtain ⟨w, x, hspawn, rfl⟩ := Machine.step_spawn hstep
      obtain ⟨rfl, rfl⟩ := client_spawn hspawn
      constructor
      · intro y hy
        obtain hy | hy := List.mem_append.mp hy
        · exact hstore y hy
        · rw [List.mem_singleton.mp hy]
          cases call <;> simp [Call.start]
      · obtain hnone | ⟨x, hx, hinv⟩ := hlost
        · exact .inl hnone
        · exact .inr ⟨x, List.mem_append_left _ hx, hinv⟩
  | move t e =>
      obtain ⟨x, w, x', hx, hmove, rfl⟩ := Machine.step_move (client_fork cfg) hstep
      obtain ⟨hle, v, pc', hadv, rfl, rfl⟩ := client_move hmove
      have hact := failingCall_act hok
      constructor
      · intro y hy
        obtain hy | rfl := List.mem_or_eq_of_mem_set hy
        · exact hstore y hy
        · exact hadv.no_store hact.1
      · obtain hnone | hinv := hlost
        · obtain hsame | ⟨kid, began, -, -, hcache, -⟩ | ⟨why, g, ks, hpc, -⟩ := hadv.stored_effect
          · exact .inl ((hsame u).trans hnone)
          · left
            show v.cache.stored u = none
            rw [hcache, stored_invalidate, hnone, ite_self]
          · exact absurd hpc (hstore x (List.mem_of_getElem? hx) why g ks)
        · by_cases hmover : x.uri = u ∧ ∃ kid began, x.pc = .invalidate kid began
          · obtain ⟨rfl, kid, began, hpc⟩ := hmover
            exact .inl (hadv.removes hpc hact.2)
          · exact .inr (exists_mem_set_of_not _ hx hmover hinv)

/-- The first step into a forced refresh: the set is about to be removed. -/
theorem losing_of_startsRefresh {cfg : Config} {u : String} {held : Obtained × Option ℕ}
    {s s' : State} {l : Label} (h : Survives u held s) (hfail : failingCall u l = true)
    (hl : startsRefresh cfg s l = true) (hstep : (client cfg).step s l = some s') :
    Losing u s' := by
  have hcalm : ∀ x ∈ s.tasks, ∀ why g ks, x.pc ≠ .store why g ks := by
    intro x hx why g ks hpc
    have hc := (h.of_mem hx).1
    rw [hpc] at hc
    cases hc
  cases l with
  | spawn call =>
      obtain ⟨w, x, hspawn, rfl⟩ := Machine.step_spawn hstep
      obtain ⟨rfl, rfl⟩ := client_spawn hspawn
      cases call with
      | fetch jwksUri => cases hl
      | resolveKey jwksUri kid => cases hl
      | forceRefresh jwksUri =>
          have hu : trim jwksUri = u := of_decide_eq_true hfail
          constructor
          · intro y hy
            obtain hy | hy := List.mem_append.mp hy
            · exact hcalm y hy
            · rw [List.mem_singleton.mp hy]
              simp [Call.start]
          · exact .inr ⟨_, List.mem_append_right _ (List.mem_singleton.mpr rfl), hu, none, _, rfl⟩
  | move t e =>
      obtain ⟨x, w, x', hx, hmove, rfl⟩ := Machine.step_move (client_fork cfg) hstep
      obtain ⟨hle, v, pc', hadv, rfl, rfl⟩ := client_move hmove
      obtain ⟨kid, hpc, hthr⟩ := startsRefresh_move hl hx
      have huri : x.uri = u := by
        obtain hu | ⟨out, hout⟩ := (h.each t x hx).2
        · exact hu
        · exact absurd hout (hadv.not_done out)
      constructor
      · intro y hy
        obtain hy | rfl := List.mem_or_eq_of_mem_set hy
        · exact hcalm y hy
        · exact hadv.no_store (failingCall_act hfail).1
      · exact .inr ⟨_, mem_set_self hx, huri, some kid, s.shared.clock, hadv.passes hpc
          (failingCall_act hfail).2 hthr⟩

/-- While the provider fails, a cached set survives the calls exactly when none
of them starts a forced refresh. -/
theorem stored_survives_iff {cfg : Config} {u : String} {held : Obtained × Option ℕ}
    {s s' : State} {ls : List Label} (hidle : idle s = true) (h : s.shared.cache.stored u = some held)
    (hcalls : ∀ l ∈ ls, failingCall u l = true) (hrun : run cfg s ls = some s')
    (hidle' : idle s' = true) :
    s'.shared.cache.stored u = some held ↔
      Meets (client cfg).step (fun s l => startsRefresh cfg s l = false) s ls := by
  have hs := survives_of_idle hidle h
  constructor
  · intro hheld
    by_contra hnot
    obtain ⟨before, l, after, m, m', rfl, hb, hmeets, hbad, hm, hafter⟩ :=
      exists_first_break hrun hnot
    have hfail : ∀ l' ∈ before ++ l :: after, failingCall u l' = true := hcalls
    have hsurv : Survives u held m := exec_invariant (survives_step cfg u held) hs
      (hmeets.and (Meets.of_forall fun l' hl' => hfail l' (by simp [hl']))) hb
    have hlos : Losing u m' :=
      losing_of_startsRefresh hsurv (hfail l (by simp)) (by simpa using hbad) hm
    have hend : Losing u s' := exec_invariant (losing_step cfg u) hlos
      (Meets.of_forall fun l' hl' => hfail l' (by simp [hl'])) hafter
    simp [losing_idle hend hidle'] at hheld
  · intro hmeets
    have hend : Survives u held s' := exec_invariant (survives_step cfg u held) hs
      (hmeets.and (Meets.of_forall hcalls)) hrun
    exact hend.shared

/-- A later `resolve_key` for a key of a stored, unexpired set is answered by the
cache. -/
theorem resolveKey_from_cache {cfg : Config} {s : State} {u jwksUri kid : String}
    {held : Obtained × Option ℕ} {k : JsonWebKey} {now : ℕ} (hu : trim jwksUri = u) (hne : u ≠ "")
    (h : s.shared.cache.stored u = some held) (hk : held.1.keySet.find kid = some k)
    (hnow : s.shared.now ≤ now) (hfresh : unexpired held.2 now = true) :
    ∃ s', run cfg s [.spawn (.resolveKey jwksUri kid), .move s.tasks.length ⟨now, .run⟩] = some s' ∧
      s'.tasks[s.tasks.length]? = some ⟨u, .done (.key k)⟩ ∧
      s'.shared.requests = s.shared.requests := by
  subst hu
  have hget : s.shared.cache.get (trim jwksUri) now =
      ((s.shared.cache.get (trim jwksUri) now).1, some held.1) :=
    Prod.ext rfl (get_of_unexpired h hfresh)
  have hmove : (client cfg).move { s.shared with clock := s.shared.clock + 1 }
      ⟨trim jwksUri, .lookup ⟨some kid, none⟩⟩ ⟨now, .run⟩ =
      some ({ s.shared with
          cache := (s.shared.cache.get (trim jwksUri) now).1
          now := now
          clock := s.shared.clock + 1 + 1 }, ⟨trim jwksUri, .done (.key k)⟩) := by
    simp only [client, hnow, if_true, advance, lookupStep, hne, if_false]
    rw [hget]
    simp [afterFetch, hk]
  exact ⟨_, Machine.exec_spawn_move (client_fork cfg) rfl hmove, by simp, rfl⟩

/-- While the provider fails, the set cached for a URI survives any calls of
`force_refresh` and `resolve_key` on it exactly when none of them reaches the
forced refresh: no `force_refresh`, and every `kid` miss is within the cooldown.
A later `resolve_key` for one of its keys is then answered without a request. -/
theorem known_good_keys_survive (cfg : Config) (ls₀ ls : List Label) (s s' : State) (u : String)
    (held : Obtained × Option ℕ) (hreach : run cfg initial ls₀ = some s) (hidle : idle s = true)
    (h : s.shared.cache.stored u = some held) (hcalls : ∀ l ∈ ls, failingCall u l = true)
    (hrun : run cfg s ls = some s') (hidle' : idle s' = true) :
    (s'.shared.cache.stored u = some held ↔
        Meets (client cfg).step (fun s l => startsRefresh cfg s l = false) s ls) ∧
      (Meets (client cfg).step (fun s l => startsRefresh cfg s l = false) s ls →
        ∀ jwksUri kid k now, trim jwksUri = u → held.1.keySet.find kid = some k →
          s'.shared.now ≤ now → unexpired held.2 now = true →
          ∃ t, run cfg s' [.spawn (.resolveKey jwksUri kid), .move s'.tasks.length ⟨now, .run⟩] =
              some t ∧ t.tasks[s'.tasks.length]? = some ⟨u, .done (.key k)⟩ ∧
            t.shared.requests = s'.shared.requests) := by
  have hiff := stored_survives_iff hidle h hcalls hrun hidle'
  refine ⟨hiff, fun hmeets jwksUri kid k now hu hk hnow hfresh => ?_⟩
  have hne : u ≠ "" := by
    rintro rfl
    simp [stored_empty hreach] at h
  exact resolveKey_from_cache hu hne (hiff.mpr hmeets) hk hnow hfresh

/-- `n` operations of task `t`, all at time zero. -/
def runTimes (t n : ℕ) : List Label := List.replicate n (.move t ⟨0, .run⟩)

/-- A set with one key. -/
def oneKey (kid : String) : JsonWebKeySet := ⟨[{ kty := "RSA", kid := kid }]⟩

/-- A forced refresh answered with the key `k1`. -/
def refreshRun : List Label :=
  [.spawn (.forceRefresh "https://idp/jwks")] ++ runTimes 0 5 ++
    [.move 0 ⟨0, .response (.ok (oneKey "k1"))⟩] ++ runTimes 0 4

def refreshedState : State := (run {} initial refreshRun).getD initial

/-- A `kid` miss right after the refresh, which the cooldown stops. -/
def throttledRun : List Label := [.spawn (.resolveKey "https://idp/jwks" "k2")] ++ runTimes 1 2

def throttledState : State := (run {} refreshedState throttledRun).getD initial

theorem known_good_keys_survive_throttled :
    refreshedState.shared.cache.stored "https://idp/jwks" = throttledState.shared.cache.stored
      "https://idp/jwks" ∧
    ∃ t, run {} throttledState [.spawn (.resolveKey "https://idp/jwks" "k1"),
        .move throttledState.tasks.length ⟨7, .run⟩] = some t ∧
      t.shared.requests = throttledState.shared.requests := by
  have hstored : refreshedState.shared.cache.stored "https://idp/jwks" =
      some (⟨oneKey "k1", 5⟩, some 86400000000000) := by decide +kernel
  have hmeets : Meets (client {}).step (fun s l => startsRefresh {} s l = false) refreshedState
      throttledRun := by decide +kernel
  have hreach : run {} initial refreshRun = some refreshedState :=
    eq_some_getD initial (by decide +kernel)
  have hrun : run {} refreshedState throttledRun = some throttledState :=
    eq_some_getD initial (by decide +kernel)
  have h := known_good_keys_survive {} refreshRun throttledRun refreshedState throttledState
    "https://idp/jwks" _ hreach (by decide +kernel) hstored (by decide +kernel) hrun
    (by decide +kernel)
  refine ⟨hstored.trans (h.1.mpr hmeets).symm, ?_⟩
  obtain ⟨t, ht, -, hreq⟩ := h.2 hmeets "https://idp/jwks" "k1" { kty := "RSA", kid := "k1" } 7
    (by decide +kernel) (by decide +kernel) (by decide +kernel) (by decide +kernel)
  exact ⟨t, ht, hreq⟩

/-- One fetch, answered with the key `k1`. -/
def fetchRun : List Label :=
  [.spawn (.fetch "https://idp/jwks")] ++ runTimes 0 4 ++
    [.move 0 ⟨0, .response (.ok (oneKey "k1"))⟩] ++ runTimes 0 3

def fetchedState : State := (run {} initial fetchRun).getD initial

/-- A `kid` miss without a cooldown record, against a provider that is down. -/
def missRun : List Label :=
  [.spawn (.resolveKey "https://idp/jwks" "k2")] ++ runTimes 1 7 ++
    [.move 1 ⟨0, .response (.error (.http "unexpected HTTP status 503"))⟩] ++ runTimes 1 2

/-- The failed refresh of a `kid` miss leaves the cache without the known set. -/
theorem failed_refresh_loses_keys :
    ¬ ∀ (cfg : Config) (ls₀ ls : List Label) (s s' : State) (u : String)
      (held : Obtained × Option ℕ), run cfg initial ls₀ = some s → idle s = true →
      s.shared.cache.stored u = some held → unexpired held.2 s'.shared.now = true →
      (∀ l ∈ ls, failingCall u l = true) → run cfg s ls = some s' → idle s' = true →
      s'.shared.cache.stored u = some held := by
  intro h
  have hreach : run {} initial fetchRun = some fetchedState :=
    eq_some_getD initial (by decide +kernel)
  have hsome : (run {} fetchedState missRun).isSome = true := by decide +kernel
  obtain ⟨s', hs'⟩ := Option.isSome_iff_exists.mp hsome
  have hend : (run {} fetchedState missRun).map (fun s => (s.shared.cache.stored "https://idp/jwks",
      s.shared.now, idle s)) = some (none, 0, true) := by decide +kernel
  rw [hs'] at hend
  simp only [Option.map_some, Option.some.injEq, Prod.mk.injEq] at hend
  have hstored : fetchedState.shared.cache.stored "https://idp/jwks" =
      some (⟨oneKey "k1", 4⟩, some 86400000000000) := by decide +kernel
  have hkept := h {} fetchRun missRun fetchedState s' "https://idp/jwks" _ hreach
    (by decide +kernel) hstored (by rw [hend.2.1]; decide +kernel) (by decide +kernel) hs' hend.2.2
  simp [hend.1] at hkept

end IdentityModel.RustJwks
