import IdentityModel.CacheHistory
import IdentityModel.GoJwks
import IdentityModel.RustJwksCache

/-!
# Recency and lifetimes in the Rust and Go JWKS caches

`Cache` of `rust/src/jwks/cache.rs` and `cache` of `go/pkg/jwks/cache.go` under
any sequence of calls, each atomic under the locks it takes. The Rust cache has
its capacity from its construction; the Go cache is handed the same one by every
call.
-/
namespace IdentityModel

open Runs TtlCache

namespace RustJwks

/-- One call on a `Cache`; `put` is told the lifetime. -/
def cacheCall (cfg : Config) (c : Cache) (now : ℕ) :
    Op String Obtained → Option (Cache × Option Obtained)
  | .get key => some (c.get key now)
  | .put key keySet ttl => some (Cache.put { cfg with cacheTtl := ttl } c key keySet now, none)
  | .invalidate key => some (c.invalidate key, none)
  | .markRefresh key dropped =>
      (c.markRefreshDropping cfg.maxEntries key now dropped).map fun c => (c, none)

theorem cacheCall_eq (cfg : Config) : cacheCall cfg = call (checkedAdd cfg) cfg.maxEntries := by
  funext c now op
  cases op <;> rfl

end RustJwks

namespace GoJwks

/-- `c.now().Add(ttl)`. -/
def expiry (now ttl : ℕ) : Option ℕ := some (now + ttl)

/-- One call on a `cache`; `store` is told the lifetime and the bound. -/
def cacheCall (cfg : Config) (c : Cache) (now : ℕ) :
    Op String Obtained → Option (Cache × Option Obtained)
  | .get key => some (c.get key now)
  | .put key keys ttl => some (Cache.store { cfg with cacheTTL := ttl } c key keys now, none)
  | .invalidate key => some (c.invalidate key, none)
  | .markRefresh key dropped =>
      (c.markRefreshDropping cfg.maxEntries key now dropped).map fun c => (c, none)

theorem cacheCall_eq (cfg : Config) : cacheCall cfg = call expiry cfg.maxEntries := by
  funext c now op
  cases op <;> rfl

end GoJwks

namespace JwksRecency

/-- Each call of any run of either cache keeps the bounds, evicts the key used
least recently together with its record, and answers what the history holds. -/
theorem jwks_caches_regular (rust : RustJwks.Config) (go : GoJwks.Config)
    (hrust : 0 < rust.maxEntries) (hgo : 0 < go.maxEntries) :
    (∀ calls h at_ h', exec (History.step (RustJwks.cacheCall rust)) History.new calls = some h →
      h.step (RustJwks.cacheCall rust) at_ = some h' →
        Regular (RustJwks.checkedAdd rust) rust.maxEntries h at_ h') ∧
    ∀ calls h at_ h', exec (History.step (GoJwks.cacheCall go)) History.new calls = some h →
      h.step (GoJwks.cacheCall go) at_ = some h' →
        Regular GoJwks.expiry go.maxEntries h at_ h' := by
  constructor
  · intro calls h at_ h' hrun hstep
    rw [RustJwks.cacheCall_eq] at hrun hstep
    exact run_regular hrust hrun hstep
  · intro calls h at_ h' hrun hstep
    rw [GoJwks.cacheCall_eq] at hrun hstep
    exact run_regular hgo hrun hstep

/-- Two sets fill a cache of two; the first is served, so the second goes. -/
def sampleCalls {V : Type} (keys : V) : List (Call String V) :=
  [⟨0, .put "https://a/jwks" keys 10⟩, ⟨1, .put "https://b/jwks" keys 10⟩,
    ⟨2, .markRefresh "https://b/jwks" []⟩, ⟨3, .get "https://a/jwks"⟩]

def sampleStore {V : Type} (keys : V) : Call String V := ⟨4, .put "https://c/jwks" keys 10⟩

theorem jwks_caches_regular_sample :
    (∃ h h', exec (History.step (RustJwks.cacheCall { maxEntries := 2 })) History.new
        (sampleCalls ⟨⟨[]⟩, 0⟩) = some h ∧
      h.step (RustJwks.cacheCall { maxEntries := 2 }) (sampleStore ⟨⟨[]⟩, 0⟩) = some h' ∧
      "https://b/jwks" ∈ h.cache.lastRefresh ∧ "https://b/jwks" ∉ h'.cache.lastRefresh ∧
      lastUsed h'.log "https://b/jwks" < lastUsed h'.log "https://a/jwks") ∧
    ∃ h h', exec (History.step (GoJwks.cacheCall { maxEntries := 2 })) History.new
        (sampleCalls ⟨[], 0⟩) = some h ∧
      h.step (GoJwks.cacheCall { maxEntries := 2 }) (sampleStore ⟨[], 0⟩) = some h' ∧
      "https://b/jwks" ∈ h.cache.lastRefresh ∧ "https://b/jwks" ∉ h'.cache.lastRefresh ∧
      lastUsed h'.log "https://b/jwks" < lastUsed h'.log "https://a/jwks" := by
  have hsound := jwks_caches_regular { maxEntries := 2 } { maxEntries := 2 } (by decide) (by decide)
  constructor
  · obtain ⟨hput, hgone, hleft, -⟩ := ((hsound.1 (sampleCalls ⟨⟨[]⟩, 0⟩) _ (sampleStore ⟨⟨[]⟩, 0⟩) _
      rfl rfl).leaves "https://b/jwks" (by decide) (by decide)).resolve_left (by simp [sampleStore])
    exact ⟨_, _, rfl, rfl, by decide, hgone, hleft "https://a/jwks" (by decide)⟩
  · obtain ⟨hput, hgone, hleft, -⟩ := ((hsound.2 (sampleCalls ⟨[], 0⟩) _ (sampleStore ⟨[], 0⟩) _
      rfl rfl).leaves "https://b/jwks" (by decide) (by decide)).resolve_left (by simp [sampleStore])
    exact ⟨_, _, rfl, rfl, by decide, hgone, hleft "https://a/jwks" (by decide)⟩

end JwksRecency

end IdentityModel
