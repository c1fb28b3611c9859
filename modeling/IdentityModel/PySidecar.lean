import IdentityModel.PyValidateToken

/-!
# The cooldown stamps beside the JWKS cache

A stamp is dropped together with the cache entry of its URI, and written in a
critical section of its own. When no stamp is written for a URI without an entry,
the stamps stay inside the cache, in every state of every run of either module.
-/
namespace IdentityModel.Py

open Runs Tasks

/-- What an operation does to the cache and the stamps. -/
inductive StampEffect (rt : Runtime) (w w' : Shared) (pc : Pc) : Prop
  | same (jwks : w'.jwks = w.jwks) (stamps : w'.lastAttempt = w.lastAttempt)
  | touched (uri : String) (jwks : w'.jwks = w.jwks.touch uri)
      (stamps : w'.lastAttempt = w.lastAttempt)
  | written (uri : String) (response : JwksResponse)
      (jwks : w'.jwks =
        (applyJwksCacheOutcome rt.env w.jwks w.lastAttempt uri response w.now).1)
      (stamps : w'.lastAttempt =
        (applyJwksCacheOutcome rt.env w.jwks w.lastAttempt uri response w.now).2.1)
  | stamped (d : Disco) (next : Pc) (at_ : pc = .settle d true next) (jwks : w'.jwks = w.jwks)
      (stamps : w'.lastAttempt = w.lastAttempt.insert d.uri w.now)
  | popped (uri : String) (jwks : w'.jwks = w.jwks)
      (stamps : w'.lastAttempt = w.lastAttempt.erase uri)

theorem Advance.stampEffect {rt : Runtime} {w w' : Shared} {req : Request} {pc pc' : Pc} {act : Act}
    (h : Advance rt w req pc act w' pc') : StampEffect rt w w' pc := by
  cases h with
  | jwksTouch d response locked held => exact .touched d.uri rfl rfl
  | jwksWrite d response held => exact .written d.uri response rfl rfl
  | refreshWrite d why response => exact .written d.uri response rfl rfl
  | settle d stamp next =>
      cases stamp with
      | true => exact .stamped d pc' rfl rfl rfl
      | false => exact .popped d.uri rfl rfl
  | _ => exact .same rfl rfl

/-- Every stamp has an entry, and the cache fits. -/
structure Inside (rt : Runtime) (w : Shared) : Prop where
  entries : ∀ k, k ∈ w.lastAttempt → k ∈ w.jwks
  fits : w.jwks.size ≤ getMaxCacheEntries rt.env

/-- A stamp is written only while its URI has an entry. -/
def stampCached (s : State) : Label → Bool
  | .move t _ =>
      match s.tasks[t]? with
      | some (.token _ (.settle d true _)) => (s.shared.jwks.lookup d.uri).isSome
      | _ => true
  | .spawn _ => true

section Steps

variable {rt : Runtime} {w w' : Shared}

/-- A cache write keeps the stamps inside: evicted keys lose their stamps. -/
theorem inside_applyJwks (h : Inside rt w) (uri : String) (response : JwksResponse) :
    Inside rt { w with
      jwks := (applyJwksCacheOutcome rt.env w.jwks w.lastAttempt uri response w.now).1
      lastAttempt :=
        (applyJwksCacheOutcome rt.env w.jwks w.lastAttempt uri response w.now).2.1 } := by
  obtain hs | hr := response.stored_or_retained
  · rw [applyJwksCacheOutcome_store _ _ _ _ hs.1 hs.2]
    constructor
    · intro k hk
      obtain ⟨hnot, hold⟩ := Dict.mem_eraseAll.mp hk
      have hins : k ∈ w.jwks.insert uri (jwksEntry rt.env response w.now) :=
        (AList.mem_insert _).mpr (.inr (h.entries k hold))
      exact (Dict.mem_keepNewest_or hins).resolve_right hnot
    · exact Dict.size_keepNewest_le _ _
  · rw [applyJwksCacheOutcome_retain _ _ _ _ hr]
    exact ⟨h.entries, h.fits⟩

theorem inside_effect {pc : Pc} (h : Inside rt w) (heff : StampEffect rt w w' pc)
    (hok : ∀ d next, pc = .settle d true next → d.uri ∈ w.jwks) : Inside rt w' := by
  cases heff with
  | same jwks stamps => exact ⟨by rw [jwks, stamps]; exact h.entries, by rw [jwks]; exact h.fits⟩
  | touched uri jwks stamps =>
      constructor
      · intro k hk
        rw [stamps] at hk
        rw [jwks, Dict.mem_touch]
        exact h.entries k hk
      · rw [jwks, LruCache.size_touch]
        exact h.fits
  | written uri response jwks stamps =>
      have hw := inside_applyJwks h uri response
      constructor
      · rw [jwks, stamps]
        exact hw.entries
      · rw [jwks]
        exact hw.fits
  | stamped d next at_ jwks stamps =>
      constructor
      · intro k hk
        rw [stamps] at hk
        rw [jwks]
        obtain rfl | hold := (AList.mem_insert _).mp hk
        · exact hok d next at_
        · exact h.entries k hold
      · rw [jwks]
        exact h.fits
  | popped uri jwks stamps =>
      constructor
      · intro k hk
        rw [stamps, AList.mem_erase] at hk
        rw [jwks]
        exact h.entries k hk.2
      · rw [jwks]
        exact h.fits

theorem inside_clear (rt : Runtime) (w : Shared) : Inside rt (clearJwksStep w) where
  entries := by
    intro k hk
    exact absurd hk (AList.notMem_empty k)
  fits := Nat.zero_le _

theorem inside_step (rt : Runtime) (s : State) (l : Label) (s' : State) (h : Inside rt s.shared)
    (hok : stampCached s l = true) (hstep : (validator rt).step s l = some s') :
    Inside rt s'.shared := by
  cases l with
  | spawn call =>
      obtain rfl := validator_step_spawn hstep
      exact h
  | move t e =>
      obtain ⟨x, w, x', hx, -, hmoved, rfl⟩ := validator_step_move hstep
      have hnow : Inside (rt.at e.now) { s.shared with now := e.now } := ⟨h.entries, h.fits⟩
      cases hmoved with
      | token req pc _ pc' hadv =>
          have hafter : Inside (rt.at e.now) w := by
            refine inside_effect hnow hadv.stampEffect fun d next hpc => ?_
            subst hpc
            simp only [stampCached, hx] at hok
            exact AList.lookup_isSome.mp hok
          exact ⟨hafter.entries, hafter.fits⟩
      | clearJwks => exact inside_clear rt _
      | clearDisco => exact ⟨h.entries, h.fits⟩

end Steps

/-- Stamps stay inside the cache, hence within its bound, in every state of every
run that writes no stamp without an entry. -/
theorem sidecar_within_cache {rt : Runtime} {ls : List Label} {s : State}
    (hok : Meets (validator rt).step (fun s l => stampCached s l = true) initial ls)
    (hrun : run rt initial ls = some s) :
    (∀ k, k ∈ s.shared.lastAttempt → k ∈ s.shared.jwks) ∧
      s.shared.lastAttempt.size ≤ getMaxCacheEntries rt.env := by
  have hinit : Inside rt initial.shared := ⟨fun k hk => absurd hk (AList.notMem_empty k), Nat.zero_le _⟩
  have hend := exec_invariant (inside_step rt) hinit hok hrun
  refine ⟨hend.entries, ?_⟩
  have hsub := List.subperm_of_subset s.shared.lastAttempt.keys_nodup fun k hk => hend.entries k hk
  have hlen := hsub.length_le
  rw [← Dict.size_eq_keys, ← Dict.size_eq_keys] at hlen
  exact hlen.trans hend.fits

theorem sidecar_within_cache_after_miss :
    ∃ s, run (sampleRuntime .sync) initial (missRun "k1") = some s ∧
      s.shared.lastAttempt.keys = ["https://idp/jwks"] ∧
      ∀ k, k ∈ s.shared.lastAttempt → k ∈ s.shared.jwks := by
  have hrun := eq_some_getD initial
    (show (run (sampleRuntime .sync) initial (missRun "k1")).isSome = true by decide)
  exact ⟨_, hrun, by decide, (sidecar_within_cache (by decide) hrun).1⟩

/-- Once all calls have finished, every stamp has an entry; for the asynchronous
module the calls are coroutines of one event loop. -/
def SidecarInside (flavour : Flavour) : Prop :=
  ∀ (rt : Runtime) (ls : List Label) (s : State), rt.flavour = flavour →
    (flavour = .aio → Meets (validator rt).step (fun s l => cooperative s l = true) initial ls) →
    run rt initial ls = some s → (∀ x ∈ s.tasks, x.finished = true) →
    ∀ k, k ∈ s.shared.lastAttempt → k ∈ s.shared.jwks

/-- The cache is cleared while a refresh is under way, whose answer has no keys. -/
def clearedRun : List Label :=
  missStart 0 0 "k1" ++ runsAt 0 1 1 ++ [.spawn .clearJwksCache] ++ runsAt 1 1 1 ++
    [.move 0 ⟨1, .keys { isSuccessful := true, keys := some [] }⟩] ++ runsAt 0 1 2

/-- That run leaves a stamp without an entry, in either module. -/
theorem orphan_stamp : ¬ SidecarInside .sync ∧ ¬ SidecarInside .aio := by
  constructor
  · intro h
    have hrun := eq_some_getD initial
      (show (run (sampleRuntime .sync) initial clearedRun).isSome = true by decide)
    have hmem := h (sampleRuntime .sync) clearedRun _ rfl (fun hf => by cases hf) hrun
      (by decide) "https://idp/jwks" (by decide)
    exact absurd hmem (by decide)
  · intro h
    have hrun := eq_some_getD initial
      (show (run (sampleRuntime .aio) initial clearedRun).isSome = true by decide)
    have hmem := h (sampleRuntime .aio) clearedRun _ rfl (fun _ => by decide) hrun
      (by decide) "https://idp/jwks" (by decide)
    exact absurd hmem (by decide)

end IdentityModel.Py
