import IdentityModel.RustKnownGood
import IdentityModel.RustFreshness
import IdentityModel.RustThrottle
import IdentityModel.GoThrottle

/-!
# Forced refreshes in both ports

The Rust client and the Go package share the design of their forced refresh:
remove, fetch through the single flight of the URI, record. The two results
about it hold for both, each in the runs that avoid the same two races.
-/
namespace IdentityModel.JwksRefresh

open Runs Throttle

/-- In every run of either port in which removals are clean, each forced refresh
that returns got, and left in the cache, keys requested after it began. -/
theorem forced_refresh_is_fresh (cfg : RustJwks.Config)
    (lib : GoJwks.Library) :
    (∀ (ls : List RustJwks.Label) (s : RustJwks.State),
      Meets (RustJwks.client cfg).step (fun s l => RustJwks.removalClean cfg s l = true)
        RustJwks.initial ls → RustJwks.run cfg RustJwks.initial ls = some s →
      ∀ r ∈ s.shared.refreshed, r.Fresh) ∧
    ∀ (ls : List GoJwks.Label) (s : GoJwks.State),
      Meets (GoJwks.client lib).step (fun s l => GoJwks.removalClean s l = true)
        GoJwks.initial ls → GoJwks.run lib GoJwks.initial ls = some s →
      ∀ r ∈ s.shared.refreshed, r.Fresh :=
  ⟨fun _ _ hok hrun => RustJwks.forceRefresh_fresh hok hrun,
    fun _ _ hok hrun => GoJwks.forceRefresh_fresh hok hrun⟩

/-- Every URI of these runs parses with the scheme `https`, and none has a character to escape. -/
def https : GoJwks.Library := ⟨fun _ => .ok "https", fun s => "\"" ++ s ++ "\""⟩

/-- `n` operations of goroutine `t`, all at time zero. -/
def goTimes (t n : ℕ) : List GoJwks.Label := List.replicate n (.move t ⟨0, .run⟩)

/-- Goroutine `t` is answered with one key. -/
def goAnswer (t : ℕ) (kid : String) : GoJwks.Label :=
  .move t ⟨0, .response (.ok [{ kty := "RSA", kid := kid }])⟩

/-- A first fetch of the URI, which gives handle 0. -/
def goFetchRun : List GoJwks.Label :=
  [.spawn (.fetchKeySet "https://idp/jwks" {})] ++ goTimes 0 2 ++ goTimes 1 1 ++
    [goAnswer 1 "k1"] ++ goTimes 1 2 ++ goTimes 0 1

/-- A forced refresh on that handle, alone. -/
def goRefreshRun : List GoJwks.Label :=
  goFetchRun ++ [.spawn (.forceRefresh 0)] ++ goTimes 2 3 ++ goTimes 3 1 ++ [goAnswer 3 "k2"] ++
    goTimes 3 2 ++ goTimes 2 3

theorem forced_refresh_is_fresh_alone :
    (∃ s, RustJwks.run {} RustJwks.initial RustJwks.refreshRun = some s ∧
      s.shared.refreshed ≠ [] ∧ ∀ r ∈ s.shared.refreshed, r.Fresh) ∧
    ∃ s, GoJwks.run https GoJwks.initial goRefreshRun = some s ∧ s.shared.refreshed ≠ [] ∧
      ∀ r ∈ s.shared.refreshed, r.Fresh := by
  constructor
  · have hrun := eq_some_getD RustJwks.initial
      (show (RustJwks.run {} RustJwks.initial RustJwks.refreshRun).isSome = true by decide +kernel)
    exact ⟨_, hrun, by decide +kernel,
      (forced_refresh_is_fresh {} https).1 RustJwks.refreshRun _ (by decide +kernel) hrun⟩
  · have hrun := eq_some_getD GoJwks.initial
      (show (GoJwks.run https GoJwks.initial goRefreshRun).isSome = true by decide +kernel)
    exact ⟨_, hrun, by decide +kernel,
      (forced_refresh_is_fresh {} https).2 goRefreshRun _ (by decide +kernel) hrun⟩

/-- Rust: a fetch has its request out when a forced refresh begins and waits on
the same gate; the fetch stores the older set and the refresh returns it. -/
def rustStaleRun : List RustJwks.Label :=
  [.spawn (.fetch "https://idp/jwks")] ++ RustJwks.runTimes 0 4 ++
    [.spawn (.forceRefresh "https://idp/jwks")] ++ RustJwks.runTimes 1 3 ++
    [.move 0 ⟨0, .response (.ok (RustJwks.oneKey "old"))⟩] ++ RustJwks.runTimes 0 3 ++
    RustJwks.runTimes 1 5

/-- Go: a second forced refresh joins the flight of a first one, whose request is
already out. -/
def goStaleRun : List GoJwks.Label :=
  goFetchRun ++ [.spawn (.forceRefresh 0)] ++ goTimes 2 3 ++ goTimes 3 1 ++
    [.spawn (.forceRefresh 0)] ++ goTimes 4 3 ++ [goAnswer 3 "old"] ++ goTimes 3 2 ++ goTimes 4 3

/-- Both ports return keys of an older request from these runs. -/
theorem forced_refresh_returns_stale :
    (¬ ∀ (cfg : RustJwks.Config) (ls : List RustJwks.Label) (s : RustJwks.State),
      RustJwks.run cfg RustJwks.initial ls = some s → ∀ r ∈ s.shared.refreshed, r.Fresh) ∧
    ¬ ∀ (lib : GoJwks.Library) (ls : List GoJwks.Label) (s : GoJwks.State),
      GoJwks.run lib GoJwks.initial ls = some s → ∀ r ∈ s.shared.refreshed, r.Fresh := by
  constructor
  · intro h
    have hrun := eq_some_getD RustJwks.initial
      (show (RustJwks.run {} RustJwks.initial rustStaleRun).isSome = true by decide +kernel)
    have hfresh := h {} rustStaleRun _ hrun ⟨"https://idp/jwks", 5, 4, some 4⟩ (by decide +kernel)
    exact absurd hfresh.1 (by decide)
  · intro h
    have hrun := eq_some_getD GoJwks.initial
      (show (GoJwks.run https GoJwks.initial goStaleRun).isSome = true by decide +kernel)
    have hfresh := h https goStaleRun _ hrun ⟨"https://idp/jwks", 13, 12, some 12⟩ (by decide +kernel)
    exact absurd hfresh.1 (by decide)

/-- In every run of either port in which `kid` misses of one URI refresh one at a
time, the requests they cause are a cooldown apart. -/
theorem kid_miss_refreshes_spaced (cfg : RustJwks.Config)
    (lib : GoJwks.Library) :
    (∀ (u : String) (ls : List RustJwks.Label) (s : RustJwks.State),
      0 < cfg.refreshCooldown → (∀ l ∈ ls, RustJwks.answeringCall u l = true) →
      Meets (RustJwks.client cfg).step (fun s l => RustJwks.kidMissAlone cfg s l = true)
        RustJwks.initial ls → RustJwks.run cfg RustJwks.initial ls = some s →
      Spaced cfg.refreshCooldown (RustJwks.kidMissTimes u s.shared)) ∧
    ∀ (c : ℕ) (u : String) (ls : List GoJwks.Label) (s : GoJwks.State),
      0 < c → (∀ l ∈ ls, GoJwks.answeringCall lib c u l = true) →
      Meets (GoJwks.client lib).step (fun s l => GoJwks.kidMissAlone s l = true)
        GoJwks.initial ls → GoJwks.run lib GoJwks.initial ls = some s →
      Spaced c (GoJwks.kidMissTimes u s.shared) :=
  ⟨fun _ _ _ hc hcalls hok hrun => RustJwks.kidMiss_spaced hc hcalls hok hrun,
    fun _ _ _ _ hc hcalls hok hrun => GoJwks.kidMiss_spaced hc hcalls hok hrun⟩

/-- Rust: a `kid` miss on an empty cache fetches, passes the check, and has its
second request answered. -/
def rustMissRun : List RustJwks.Label :=
  [.spawn (.resolveKey "https://idp/jwks" "x")] ++ RustJwks.runTimes 0 4 ++
    [.move 0 ⟨0, .response (.ok (RustJwks.oneKey "k1"))⟩] ++ RustJwks.runTimes 0 9 ++
    [.move 0 ⟨0, .response (.ok (RustJwks.oneKey "k1"))⟩] ++ RustJwks.runTimes 0 4

/-- Go: the same on a handle already fetched. -/
def goMissRun : List GoJwks.Label :=
  goFetchRun ++ [.spawn (.resolveKeyWithRefresh 0 "x")] ++ goTimes 2 5 ++ goTimes 3 1 ++
    [goAnswer 3 "k1"] ++ goTimes 3 2 ++ goTimes 2 4

/-- Rust: a second `kid` miss, one cooldown after the first. -/
def rustTwiceRun : List RustJwks.Label :=
  rustMissRun ++ [.spawn (.resolveKey "https://idp/jwks" "y")] ++
    List.replicate 7 (.move 1 ⟨5000000000, .run⟩) ++
    [.move 1 ⟨5000000000, .response (.ok (RustJwks.oneKey "k1"))⟩] ++
    List.replicate 4 (.move 1 ⟨5000000000, .run⟩)

/-- Go: the same on the handle of the first miss. -/
def goTwiceRun : List GoJwks.Label :=
  goMissRun ++ [.spawn (.resolveKeyWithRefresh 0 "y")] ++
    List.replicate 5 (.move 4 ⟨5000000000, .run⟩) ++ [.move 5 ⟨5000000000, .run⟩] ++
    [.move 5 ⟨5000000000, .response (.ok [{ kty := "RSA", kid := "k1" }])⟩] ++
    List.replicate 2 (.move 5 ⟨5000000000, .run⟩) ++ List.replicate 4 (.move 4 ⟨5000000000, .run⟩)

theorem kid_miss_refreshes_spaced_twice :
    (∃ s, RustJwks.run {} RustJwks.initial rustTwiceRun = some s ∧
      RustJwks.kidMissTimes "https://idp/jwks" s.shared = [5000000000, 0] ∧
      Spaced 5000000000 (RustJwks.kidMissTimes "https://idp/jwks" s.shared)) ∧
    ∃ s, GoJwks.run https GoJwks.initial goTwiceRun = some s ∧
      GoJwks.kidMissTimes "https://idp/jwks" s.shared = [5000000000, 0] ∧
      Spaced 5000000000 (GoJwks.kidMissTimes "https://idp/jwks" s.shared) := by
  constructor
  · have hrun := eq_some_getD RustJwks.initial
      (show (RustJwks.run {} RustJwks.initial rustTwiceRun).isSome = true by decide +kernel)
    exact ⟨_, hrun, by decide +kernel,
      (kid_miss_refreshes_spaced {} https).1 "https://idp/jwks" rustTwiceRun _ (by decide)
        (by decide +kernel) (by decide +kernel) hrun⟩
  · have hrun := eq_some_getD GoJwks.initial
      (show (GoJwks.run https GoJwks.initial goTwiceRun).isSome = true by decide +kernel)
    exact ⟨_, hrun, by decide +kernel,
      (kid_miss_refreshes_spaced {} https).2 5000000000 "https://idp/jwks" goTwiceRun _ (by decide)
        (by decide +kernel) (by decide +kernel) hrun⟩

/-- No key set of the run holds a `kid` that a call of the run asks for. -/
def rustKidsAbsent (ls : List RustJwks.Label) : Prop :=
  ∀ uri kid, .spawn (.resolveKey uri kid) ∈ ls →
    ∀ t now set, .move t ⟨now, .response (.ok set)⟩ ∈ ls →
      RustJwks.JsonWebKeySet.find set kid = none

def goKidsAbsent (ls : List GoJwks.Label) : Prop :=
  ∀ h kid, .spawn (.resolveKeyWithRefresh h kid) ∈ ls →
    ∀ t now keys, .move t ⟨now, .response (.ok keys)⟩ ∈ ls → ∀ k ∈ keys, GoJwks.JSONWebKey.kid k ≠ kid

/-- Rust: two `kid` misses pass the check; the second one then removes the set
the first one has just fetched. -/
def rustTwoMissesRun : List RustJwks.Label :=
  [.spawn (.resolveKey "https://idp/jwks" "x")] ++ RustJwks.runTimes 0 4 ++
    [.move 0 ⟨0, .response (.ok (RustJwks.oneKey "k1"))⟩] ++ RustJwks.runTimes 0 3 ++
    [.spawn (.resolveKey "https://idp/jwks" "y")] ++ RustJwks.runTimes 1 2 ++
    RustJwks.runTimes 0 6 ++ [.move 0 ⟨0, .response (.ok (RustJwks.oneKey "k1"))⟩] ++
    RustJwks.runTimes 0 3 ++ RustJwks.runTimes 1 5

/-- Go: the same with two callers on one handle. -/
def goTwoMissesRun : List GoJwks.Label :=
  goFetchRun ++ [.spawn (.resolveKeyWithRefresh 0 "x"), .spawn (.resolveKeyWithRefresh 0 "y")] ++
    goTimes 3 2 ++ goTimes 2 5 ++ goTimes 4 1 ++ [goAnswer 4 "k1"] ++ goTimes 4 2 ++ goTimes 3 3 ++
    goTimes 5 1

/-- Both ports send two requests at one instant in these runs. -/
theorem kid_misses_refresh_together :
    (¬ ∀ (cfg : RustJwks.Config) (u : String) (ls : List RustJwks.Label) (s : RustJwks.State),
      0 < cfg.refreshCooldown → (∀ l ∈ ls, RustJwks.answeringCall u l = true) →
      rustKidsAbsent ls → RustJwks.run cfg RustJwks.initial ls = some s →
      Spaced cfg.refreshCooldown (RustJwks.kidMissTimes u s.shared)) ∧
    ¬ ∀ (lib : GoJwks.Library) (c : ℕ) (u : String) (ls : List GoJwks.Label)
      (s : GoJwks.State), 0 < c → (∀ l ∈ ls, GoJwks.answeringCall lib c u l = true) →
      goKidsAbsent ls → GoJwks.run lib GoJwks.initial ls = some s →
      Spaced c (GoJwks.kidMissTimes u s.shared) := by
  constructor
  · intro h
    have hrun := eq_some_getD RustJwks.initial
      (show (RustJwks.run {} RustJwks.initial rustTwoMissesRun).isSome = true by decide +kernel)
    have habsent : rustKidsAbsent rustTwoMissesRun := by
      intro uri kid hkid t now set hset
      simp [rustTwoMissesRun, RustJwks.runTimes] at hkid hset
      rw [hset.2.2]
      obtain ⟨-, rfl⟩ | ⟨-, rfl⟩ := hkid <;> decide
    have hspaced := h {} "https://idp/jwks" rustTwoMissesRun _ (by decide) (by decide +kernel)
      habsent hrun
    rw [show RustJwks.kidMissTimes "https://idp/jwks" _ = [0, 0] by decide +kernel] at hspaced
    exact absurd ((List.pairwise_cons.mp hspaced).1 0 (by simp)) (by decide)
  · intro h
    have hrun := eq_some_getD GoJwks.initial
      (show (GoJwks.run https GoJwks.initial goTwoMissesRun).isSome = true by decide +kernel)
    have habsent : goKidsAbsent goTwoMissesRun := by
      intro hd kid hkid t now keys hkeys
      simp [goTwoMissesRun, goFetchRun, goAnswer, goTimes] at hkid hkeys
      intro k hk
      have hk1 : k.kid = "k1" := by
        obtain ⟨-, -, rfl⟩ | ⟨-, -, rfl⟩ := hkeys <;> rw [List.mem_singleton.mp hk]
      rw [hk1]
      obtain ⟨-, rfl⟩ | ⟨-, rfl⟩ := hkid <;> decide
    have hspaced := h https 5000000000 "https://idp/jwks" goTwoMissesRun _ (by decide)
      (by decide +kernel) habsent hrun
    rw [show GoJwks.kidMissTimes "https://idp/jwks" _ = [0, 0] by decide +kernel] at hspaced
    exact absurd ((List.pairwise_cons.mp hspaced).1 0 (by simp)) (by decide)

end IdentityModel.JwksRefresh
