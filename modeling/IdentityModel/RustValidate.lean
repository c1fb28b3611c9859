import IdentityModel.GoJwks
import IdentityModel.RustClaims
import IdentityModel.RustJwksCache
import Mathlib.Data.List.DropRight

/-!
# Token validation in Rust

`validate_token` and `validate_token_with_jwks` of `rust/src/jwt/mod.rs`. A
segment is decoded from base64 and then read as a document; `jsonwebtoken` makes a
decoding key of key material and verifies a token under one algorithm. The JWKS
client answers a fetch, and a refresh if it comes to that.
-/
namespace IdentityModel.RustValidate

open Combinators.Rust (IdentityError)
open GoJwks (trimSpace)
open Results
open RustClaims (Claims)
open RustJwks (JsonWebKey JsonWebKeySet)

/-- The errors of `jsonwebtoken::decode` that are told apart. -/
inductive VerifyError
  | invalidSignature
  | other (text : String)
  deriving DecidableEq, Repr

/-- What is taken from libraries; `K` is the type of decoding keys. -/
structure Library (K : Type) where
  claims : RustClaims.Library
  /-- The debug form of a list of strings. -/
  debugList : List String → String
  base64 : String → Except String String
  document : String → Except String Json
  fromRsaComponents : String → String → Except String K
  fromEcComponents : String → String → Except String K
  decode : String → K → String → Except VerifyError Json

def defaultAllowedAlgorithms : List String :=
  ["RS256", "RS384", "RS512", "PS256", "PS384", "PS512", "ES256", "ES384"]

/-- `ValidationOptions`. -/
structure Options where
  claims : RustClaims.ValidationOptions
  allowedAlgorithms : List String := defaultAllowedAlgorithms
  claimsValidator : Option (Combinators.Rust.ClaimsValidator Claims) := none

structure JoseHeader where
  alg : String
  kid : String
  deriving DecidableEq, Repr

/-- A string field with a default; no two members have its name. -/
def stringField (members : List (String × Json)) (name : String) : Except String String :=
  match members.filter fun m => m.1 = name with
  | [] => .ok ""
  | [(_, .str s)] => .ok s
  | [_] => .error "invalid type, expected a string"
  | _ => .error ("duplicate field " ++ name)

/-- `serde_json::from_slice` of a header; an array holds the fields in order. -/
def headerOf : Json → Except String JoseHeader
  | .obj members => do
      let alg ← stringField members "alg"
      let kid ← stringField members "kid"
      return ⟨alg, kid⟩
  | .arr [] => .ok ⟨"", ""⟩
  | .arr [.str alg] => .ok ⟨alg, ""⟩
  | .arr [.str alg, .str kid] => .ok ⟨alg, kid⟩
  | _ => .error "invalid type, expected struct JoseHeader"

def segments (token : String) : List String :=
  (token.toList.splitOnP fun c => c = '.').map String.ofList

variable {K : Type}

def parseHeader (lib : Library K) (token : String) : Except IdentityError JoseHeader :=
  match segments token with
  | [header, _, _] =>
      if header = "" then .error (.validation "malformed token: empty header segment")
      else
        match lib.base64 header with
        | .error e => .error (.validation ("malformed token: decode header: " ++ e))
        | .ok raw =>
            match lib.document raw >>= headerOf with
            | .error e => .error (.validation ("malformed token: parse header JSON: " ++ e))
            | .ok h => .ok h
  | parts =>
      .error (.validation ("malformed token: compact JWS must have 3 segments, got " ++
        toString parts.length))

/-- The algorithms `algorithm_from_str` maps. -/
def supportedAlgorithms : List String :=
  ["RS256", "RS384", "RS512", "PS256", "PS384", "PS512", "ES256", "ES384"]

def isNone (alg : String) : Bool :=
  alg.toList.map Char.toLower = ['n', 'o', 'n', 'e']

def unsupported (lib : Library K) (alg : String) : IdentityError :=
  .validation ("unsupported or disallowed algorithm " ++ lib.claims.debug alg)

/-- `check_algorithm`; the algorithm is known by its name. -/
def checkAlgorithm (lib : Library K) (header : JoseHeader) (options : Options) :
    Except IdentityError String :=
  if isNone header.alg then
    .error (.validation "unsecured token with algorithm \"none\" is rejected")
  else if header.alg = "" then
    .error (.validation "malformed token: header is missing the \"alg\" parameter")
  else if header.alg ∉ options.allowedAlgorithms then .error (unsupported lib header.alg)
  else if header.alg ∈ supportedAlgorithms then .ok header.alg
  else .error (unsupported lib header.alg)

def decodingKeyFor (lib : Library K) (key : JsonWebKey) : Except IdentityError K :=
  if key.kty = "RSA" then
    (lib.fromRsaComponents key.n key.e).mapError fun e =>
      .validation ("convert RSA key " ++ lib.claims.debug key.kid ++ ": " ++ e)
  else if key.kty = "EC" then
    (lib.fromEcComponents key.x key.y).mapError fun e =>
      .validation ("convert EC key " ++ lib.claims.debug key.kid ++ ": " ++ e)
  else .error (.validation ("unsupported key type " ++ lib.claims.debug key.kty))

def mapVerifyErr : VerifyError → IdentityError
  | .invalidSignature => .validation "signature verification failed"
  | .other text => .validation ("signature verification failed: " ++ text)

def checkClaims (lib : Library K) (options : Options) (nowUnix : ℤ) (claims : Claims) :
    Except IdentityError Unit :=
  match claims.validate lib.claims (lib.debugList claims.audience) options.claims nowUnix with
  | some e => .error e
  | none =>
      match options.claimsValidator with
      | some validator => validator claims
      | none => .ok ()

def validateToken (lib : Library K) (rawToken : String) (key : JsonWebKey) (options : Options)
    (nowUnix : ℤ) : Except IdentityError Claims := do
  let token := trimSpace rawToken
  let header ← parseHeader lib token
  let alg ← checkAlgorithm lib header options
  let decodingKey ← decodingKeyFor lib key
  let value ← (lib.decode token decodingKey alg).mapError mapVerifyErr
  let claims ← Claims.fromValue lib.claims value
  checkClaims lib options nowUnix claims
  return claims

/-- What a JWKS client does for one call: its fetch, whether the refresh cooldown
runs, and its refresh. -/
structure KeySource where
  fetched : Except IdentityError JsonWebKeySet
  throttled : Bool
  refreshed : Except IdentityError JsonWebKeySet

/-- `JwksClient::resolve_key`. -/
def resolveKey (source : KeySource) (kid : String) : Except IdentityError JsonWebKey :=
  match source.fetched with
  | .error e => .error e
  | .ok set =>
      match set.find kid with
      | some key => .ok key
      | none =>
          if source.throttled then .error (.keyNotFound kid)
          else
            match source.refreshed with
            | .error e => .error e
            | .ok set =>
                match set.find kid with
                | some key => .ok key
                | none => .error (.keyNotFound kid)

def validateTokenWithJwks (lib : Library K) (rawToken : String) (source : KeySource)
    (options : Options) (nowUnix : ℤ) : Except IdentityError Claims := do
  let token := trimSpace rawToken
  let header ← parseHeader lib token
  let _ ← checkAlgorithm lib header options
  let key ← resolveKey source header.kid
  validateToken lib token key options nowUnix

/-- Trimming twice is trimming once. -/
theorem trimSpace_trimSpace (s : String) : trimSpace (trimSpace s) = trimSpace s := by
  have htrim : ∀ cs : List Char, ((cs.dropWhile GoJwks.isSpace).reverse.dropWhile GoJwks.isSpace).reverse =
      (cs.dropWhile GoJwks.isSpace).rdropWhile GoJwks.isSpace := fun _ => rfl
  unfold trimSpace
  rw [String.toList_ofList, htrim, htrim]
  congr 1
  generalize hl : s.toList.dropWhile GoJwks.isSpace = l
  have hstart : l.dropWhile GoJwks.isSpace = l := by
    rw [← hl]
    exact List.dropWhile_idempotent _ _
  have hfront : (l.rdropWhile GoJwks.isSpace).dropWhile GoJwks.isSpace = l.rdropWhile GoJwks.isSpace := by
    obtain ⟨tail, htail⟩ := List.rdropWhile_prefix GoJwks.isSpace l
    rw [List.dropWhile_eq_self_iff] at hstart ⊢
    intro hpos
    have hlen : 0 < l.length := by
      rw [← htail, List.length_append]
      omega
    have hhead : (l.rdropWhile GoJwks.isSpace)[0] = l[0] := by
      have happend := List.getElem_of_eq htail (i := 0) (by rw [htail]; exact hlen)
      rw [← happend, List.getElem_append_left hpos]
    rw [hhead]
    exact hstart hlen
  rw [hfront, List.rdropWhile_idempotent]

variable {lib : Library K} {rawToken : String} {key : JsonWebKey} {options : Options} {nowUnix : ℤ}
  {claims : Claims}

/-- What `validate_token` checks of a token besides its key's own declarations: its
algorithm is allowed, the key's material verifies it, and its claims pass. -/
structure Passes (lib : Library K) (options : Options) (nowUnix : ℤ) (token : String)
    (header : JoseHeader) (key : JsonWebKey) (claims : Claims) : Prop where
  allowed : checkAlgorithm lib header options = .ok header.alg
  verified : ∃ decodingKey value, decodingKeyFor lib key = .ok decodingKey ∧
    lib.decode token decodingKey header.alg = .ok value ∧
    Claims.fromValue lib.claims value = .ok claims
  checked : checkClaims lib options nowUnix claims = .ok ()

theorem checkAlgorithm_ok {header : JoseHeader} {alg : String}
    (h : checkAlgorithm lib header options = .ok alg) : alg = header.alg := by
  unfold checkAlgorithm at h
  split_ifs at h
  exact (Except.ok.inj h).symm

theorem validateToken_ok_iff : validateToken lib rawToken key options nowUnix = .ok claims ↔
    ∃ header, parseHeader lib (trimSpace rawToken) = .ok header ∧
      Passes lib options nowUnix (trimSpace rawToken) header key claims := by
  simp only [validateToken, bind_eq_ok, mapError_eq_ok]
  constructor
  · rintro ⟨header, hheader, alg, halg, decodingKey, hkey, value, hvalue, claims', hclaims, ⟨⟩,
      hchecked, hret⟩
    obtain rfl : claims' = claims := Except.ok.inj hret
    obtain rfl := checkAlgorithm_ok halg
    exact ⟨header, hheader, halg, ⟨decodingKey, value, hkey, hvalue, hclaims⟩, hchecked⟩
  · rintro ⟨header, hheader, halg, ⟨decodingKey, value, hkey, hvalue, hclaims⟩, hchecked⟩
    exact ⟨header, hheader, _, halg, decodingKey, hkey, value, hvalue, claims, hclaims, (), hchecked,
      rfl⟩

theorem validateTokenWithJwks_ok_iff {source : KeySource} :
    validateTokenWithJwks lib rawToken source options nowUnix = .ok claims ↔
      ∃ header key, parseHeader lib (trimSpace rawToken) = .ok header ∧
        resolveKey source header.kid = .ok key ∧
        Passes lib options nowUnix (trimSpace rawToken) header key claims := by
  simp only [validateTokenWithJwks, bind_eq_ok, validateToken_ok_iff, trimSpace_trimSpace]
  constructor
  · rintro ⟨header, hheader, _, _, key, hkey, header', hheader', hpasses⟩
    rw [hheader] at hheader'
    obtain rfl := Except.ok.inj hheader'
    exact ⟨header, key, hheader, hkey, hpasses⟩
  · rintro ⟨header, key, hheader, hkey, hpasses⟩
    exact ⟨header, hheader, header.alg, hpasses.allowed, key, hkey, header, hheader, hpasses⟩

end IdentityModel.RustValidate
