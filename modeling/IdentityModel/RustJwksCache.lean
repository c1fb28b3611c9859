import IdentityModel.TtlCache

/-!
# The Rust JWKS cache

`rust/src/jwks/cache.rs` with the part of `key.rs` the client reads. Instants
and durations are nanosecond counts. The hash maps are dictionaries with unique
keys; the order of their entries is never read. A key set also carries a ghost
`requestedAt`: the number of the step at which the upstream request that
produced it was sent. `Cache::get` and `Cache::invalidate` are the library's
`get` and `invalidate`; the other operations read the settings.

Each operation below runs under the lock of the map it touches, so it is one
indivisible step of the tasks that share the cache.
-/
namespace IdentityModel.RustJwks

open TtlCache

/-- `IdentityError`, as far as the JWKS client produces it. -/
inductive IdentityError
  | validation (message : String)
  | http (message : String)
  | deserialization (message : String)
  | keyNotFound (kid : String)
  deriving DecidableEq, Repr

/-- `JsonWebKey`; the unmodelled members kept in `extra` are read by nothing here. -/
structure JsonWebKey where
  kty : String := ""
  kid : String := ""
  use_ : String := ""
  alg : String := ""
  n : String := ""
  e : String := ""
  crv : String := ""
  x : String := ""
  y : String := ""
  deriving DecidableEq, Repr

/-- `JsonWebKeySet`: the keys in document order. -/
structure JsonWebKeySet where
  keys : List JsonWebKey
  deriving DecidableEq, Repr

/-- `JsonWebKeySet::find`. -/
def JsonWebKeySet.find (set : JsonWebKeySet) (kid : String) : Option JsonWebKey :=
  set.keys.find? fun k => k.kid = kid

/-- `JsonWebKeySet::resolve_key`. -/
def JsonWebKeySet.resolveKey (set : JsonWebKeySet) (kid : String) :
    Except IdentityError JsonWebKey :=
  match set.find kid with
  | some k => .ok k
  | none => .error (.keyNotFound kid)

/-- A key set together with the step at which its request was sent (ghost). -/
structure Obtained where
  keySet : JsonWebKeySet
  requestedAt : ℕ
  deriving DecidableEq, Repr

/-- The settings a client is built with. `clockMax` is the last instant the
platform's clock can represent and `debugStr` the debug form of a string, which
is the string in quotes unless it holds characters to escape. -/
structure Config where
  maxEntries : ℕ := 64
  cacheTtl : ℕ := 24 * 60 * 60 * 1000000000
  allowHttp : Bool := false
  refreshCooldown : ℕ := 5 * 1000000000
  clockMax : ℕ := 2 ^ 63 * 1000000000
  debugStr : String → String := fun s => "\"" ++ s ++ "\""

/-- `Cache`, without the single-flight gates. -/
abbrev Cache := TtlCache.Cache String Obtained

/-- `Instant::checked_add`: no instant when the lifetime overflows the clock. -/
def checkedAdd (cfg : Config) (now ttl : ℕ) : Option ℕ :=
  if now + ttl ≤ cfg.clockMax then some (now + ttl) else none

/-- `Cache::put`. -/
abbrev Cache.put (cfg : Config) (c : Cache) (key : String) (ks : Obtained) (now : ℕ) : Cache :=
  TtlCache.Cache.put cfg.maxEntries c key ks (checkedAdd cfg now cfg.cacheTtl)

/-- `Cache::mark_refresh`. -/
abbrev Cache.markRefresh (cfg : Config) (c : Cache) (key : String) (now : ℕ) : Cache :=
  TtlCache.Cache.markRefresh cfg.maxEntries c key now

/-- `Cache::refresh_throttled`; `elapsed` saturates at zero. -/
abbrev Cache.refreshThrottled (cfg : Config) (c : Cache) (key : String) (now : ℕ) : Bool :=
  TtlCache.Cache.refreshThrottled cfg.refreshCooldown c key now

/-- The single-flight gates: one allocation number per `Arc`, and the map from a
URI to the gate its fetches currently share. -/
structure Gates where
  inFlight : Dict String ℕ
  next : ℕ

/-- `Cache::flight_gate`: join the gate of `key`, or allocate one. -/
def Gates.flightGate (g : Gates) (key : String) : Gates × ℕ :=
  match g.inFlight.lookup key with
  | some gate => (g, gate)
  | none => (⟨g.inFlight.insert key g.next, g.next + 1⟩, g.next)

/-- `Cache::release_flight`: remove the gate of `key` if it is this very one. -/
def Gates.releaseFlight (g : Gates) (key : String) (gate : ℕ) : Gates :=
  if g.inFlight.lookup key = some gate then { g with inFlight := g.inFlight.erase key } else g

end IdentityModel.RustJwks
