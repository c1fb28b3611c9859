import IdentityModel.Json

/-!
# The Python data models

The part of `core/models.py` and `core/discovery_policy.py` that the cached token
validation reads. Seconds are rationals, for the values of floats: readings of the
monotonic clock and the configured durations. A difference of two of them is
rounded where the code computes one.
-/
namespace IdentityModel.Py

def toAsciiLower (c : Char) : Char := if 'A' ≤ c ∧ c ≤ 'Z' then Char.ofNat (c.toNat + 32) else c

/-- `JsonWebKey`: the members the key selection reads and the key material. The
other members are handed through unread. -/
structure JsonWebKey where
  kty : String
  use_ : Option String := none
  alg : Option String := none
  kid : Option String := none
  n : Option String := none
  e : Option String := none
  crv : Option String := none
  x : Option String := none
  y : Option String := none
  d : Option String := none
  k : Option String := none
  deriving DecidableEq, Repr

/-- `JwksResponse`. -/
structure JwksResponse where
  isSuccessful : Bool
  keys : Option (List JsonWebKey) := none
  error : Option String := none
  cacheControl : Option String := none
  deriving DecidableEq, Repr

/-- `response.keys or []`. -/
def JwksResponse.keyList (r : JwksResponse) : List JsonWebKey := r.keys.getD []

/-- A string or a list of strings. -/
def isIssuerValue : Json → Bool
  | .str _ => true
  | .arr es => es.all fun e => e.str?.isSome
  | _ => false

/-- An issuer to check against: one, any of several, or what a document whose issuer is not
checked has in place of these. -/
inductive Issuer
  | one (s : String)
  | many (ss : List String)
  | other (value : Json) (mistyped : isIssuerValue value = false)
  deriving DecidableEq

/-- `DiscoveryDocumentResponse`, as far as token validation reads it. The `jwks_uri` of a document
whose endpoints are not checked is any decoded value. -/
structure DiscoveryDocumentResponse where
  isSuccessful : Bool
  issuer : Option Issuer := none
  jwksUri : Option Json := none
  error : Option String := none
  cacheControl : Option String := none
  deriving DecidableEq

/-- `DiscoveryPolicy`. -/
structure DiscoveryPolicy where
  requireHttps : Bool := true
  allowHttpOnLoopback : Bool := true
  validateIssuer : Bool := true
  validateEndpoints : Bool := true
  requireKeySet : Bool := true
  additionalEndpointBaseAddresses : List String := []
  authority : Option String := none
  allowLoopbackEndpoints : Bool := false
  deriving DecidableEq, Repr

/-- The tuple `DiscoveryPolicy.cache_key` returns. -/
abbrev PolicyKey :=
  Bool × Bool × Bool × Bool × Bool × List String × Option String × Bool

set_option synthInstance.maxSize 1000 in
instance : DecidableEq PolicyKey := inferInstance

def DiscoveryPolicy.cacheKey (p : DiscoveryPolicy) : PolicyKey :=
  (p.requireHttps, p.allowHttpOnLoopback, p.validateIssuer, p.validateEndpoints,
    p.requireKeySet, p.additionalEndpointBaseAddresses, p.authority, p.allowLoopbackEndpoints)

/-- The key of the discovery cache: the address and the policy's key. -/
abbrev DiscoKey := String × PolicyKey

/-- `resolve_discovery_policy`. -/
def resolveDiscoveryPolicy (policy : Option DiscoveryPolicy) (requireHttps : Bool) :
    DiscoveryPolicy :=
  match policy with
  | some p => p
  | none => { requireHttps := requireHttps }

end IdentityModel.Py
