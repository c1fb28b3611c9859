import IdentityModel.ClaimsCombinators
import IdentityModel.GoClaims
import IdentityModel.GoJwks
import IdentityModel.Results

/-!
# Token validation in Go

`Validate` of `go/pkg/jwt/jwt.go` with `runClaimsValidator` and the options it
reads. A segment is decoded from base64 and then read as a document; go-jose parses
the token, makes a public key of JWK members and verifies a signature. The key set
is a handle of `go/pkg/jwks`, whose one refresh, if it comes to that, has a given
answer. A claims validator that panics counts as one that returns an error.
-/
namespace IdentityModel.GoValidate

open GoClaims (Claims foldName kind typeError)
open GoJwks (JSONWebKey JwksError trimSpace)
open Results

/-- What is taken from libraries; `K` is the type of public keys, `J` that of
parsed tokens. -/
structure Library (K J : Type) where
  fmt : GoClaims.Fmt
  base64 : String → Except String String
  document : String → Except String Json
  /-- The key a JWK with these members holds, if any. -/
  jwk : List (String × String) → Except String (Option K)
  parseSigned : String → List String → Except String J
  verify : J → K → Except String String

inductive ValidateError
  | malformedToken (reason : String)
  | algNone
  | unsupportedAlgorithm (alg : String)
  | jwks (err : JwksError)
  | keyConversion (kid err : String)
  | signature (err : String)
  | claimValidation (claim reason : String)
  | claimsValidator (err : Combinators.Go.Error)

def defaultAllowedAlgorithms : List String :=
  ["RS256", "RS384", "RS512", "PS256", "PS384", "PS512", "ES256", "ES384", "ES512"]

/-- `config`, as far as `Validate` reads it. -/
structure Config where
  allowedAlgs : List String := defaultAllowedAlgorithms
  claims : GoClaims.Config
  claimsValidator : Option (Combinators.Go.ClaimsValidator Claims) := none

/-- The algorithms `newConfig` leaves in place. -/
def Config.allowed (cfg : Config) : List String :=
  if cfg.allowedAlgs = [] then defaultAllowedAlgorithms else cfg.allowedAlgs

structure JoseHeader where
  alg : String := ""
  kid : String := ""
  deriving DecidableEq, Repr

def headerTypeError (value : Json) (field : String) : String :=
  "json: cannot unmarshal " ++ kind value ++ " into Go struct field joseHeader." ++ field ++
    " of type string"

/-- Decode one member into the header; the first error is kept. -/
def decodeMember (acc : JoseHeader × Option String) (m : String × Json) :
    JoseHeader × Option String :=
  if foldName m.1 = foldName "alg" then
    match m.2 with
    | .str s => ({ acc.1 with alg := s }, acc.2)
    | .null => acc
    | j => (acc.1, acc.2.or (some (headerTypeError j "alg")))
  else if foldName m.1 = foldName "kid" then
    match m.2 with
    | .str s => ({ acc.1 with kid := s }, acc.2)
    | .null => acc
    | j => (acc.1, acc.2.or (some (headerTypeError j "kid")))
  else acc

def unmarshalHeader : Json → Except String JoseHeader
  | .obj ms =>
      match ms.foldl decodeMember ({}, none) with
      | (h, none) => .ok h
      | (_, some err) => .error err
  | .null => .ok {}
  | j => .error (typeError (kind j) "jwt.joseHeader")

/-- `strings.Split` at dots. -/
def segments (token : String) : List String :=
  (token.toList.splitOnP fun c => c = '.').map String.ofList

variable {K J : Type}

def parseHeader (lib : Library K J) (token : String) : Except ValidateError JoseHeader :=
  match segments token with
  | [header, _, _] =>
      if header = "" then .error (.malformedToken "empty header segment")
      else
        match lib.base64 header with
        | .error err => .error (.malformedToken ("decode header: " ++ err))
        | .ok raw =>
            match lib.document raw >>= unmarshalHeader with
            | .error err => .error (.malformedToken ("parse header JSON: " ++ err))
            | .ok h => .ok h
  | parts =>
      .error (.malformedToken ("compact JWS must have 3 segments, got " ++ toString parts.length))

/-- `strings.EqualFold` with `none`. -/
def isNone (alg : String) : Bool := foldName alg = foldName "none"

def checkAlgorithm (cfg : Config) (header : JoseHeader) : Except ValidateError Unit :=
  if isNone header.alg then .error .algNone
  else if header.alg = "" then
    .error (.malformedToken "header is missing the \"alg\" parameter")
  else if header.alg ∉ cfg.allowed then .error (.unsupportedAlgorithm header.alg)
  else .ok ()

/-- A handle as a call finds it: its keys, whether the refresh cooldown runs, and
what a refresh brings. -/
structure KeySource where
  keys : List JSONWebKey
  throttled : Bool
  refreshed : Except JwksError (List JSONWebKey)

/-- `JSONWebKeySet.ResolveKey`. -/
def resolveKey (keys : List JSONWebKey) (kid : String) : Option JSONWebKey :=
  keys.find? fun k => k.kid = kid

/-- `JSONWebKeySet.ResolveKeyWithRefresh`. -/
def resolveKeyWithRefresh (s : KeySource) (kid : String) : Except JwksError JSONWebKey :=
  match resolveKey s.keys kid with
  | some k => .ok k
  | none =>
      if s.throttled then .error (.keyNotFound kid)
      else
        match s.refreshed with
        | .error err => .error err
        | .ok keys =>
            match resolveKey keys kid with
            | some k => .ok k
            | none => .error (.keyNotFound kid)

/-- The members `toPublicKey` copies: the material of the key's type, and what
describes the key. -/
def jwkFields (k : JSONWebKey) : Option (List (String × String)) :=
  let described := [("kid", k.kid), ("use", k.use_), ("alg", k.alg)].filter fun f => f.2 ≠ ""
  if k.kty = "RSA" then some ([("kty", k.kty), ("n", k.n), ("e", k.e)] ++ described)
  else if k.kty = "EC" then
    some ([("kty", k.kty), ("crv", k.crv), ("x", k.x), ("y", k.y)] ++ described)
  else none

def toPublicKey (lib : Library K J) (k : JSONWebKey) : Except String K :=
  match jwkFields k with
  | none => .error ("unsupported key type " ++ lib.fmt.quote k.kty)
  | some fields =>
      match lib.jwk fields with
      | .error err => .error ("decode jwk: " ++ err)
      | .ok none => .error "jwk produced no key material"
      | .ok (some pub) => .ok pub

/-- `toSignatureAlgorithms`. -/
def toSignatureAlgorithms (algs : List String) : List String :=
  algs.filter fun a => a ≠ "" ∧ ¬ isNone a

/-- `ParseSigned` and `Verify`. -/
def verifiedPayload (lib : Library K J) (cfg : Config) (token : String) (pub : K) :
    Except ValidateError String :=
  match lib.parseSigned token (toSignatureAlgorithms cfg.allowed) with
  | .error err => .error (.malformedToken ("parse compact JWS: " ++ err))
  | .ok jws =>
      match lib.verify jws pub with
      | .error err => .error (.signature err)
      | .ok payload => .ok payload

/-- `parseClaims` of the bytes of a payload. -/
def payloadClaims (lib : Library K J) (payload : String) : Except ValidateError Claims :=
  match lib.document payload with
  | .error err => .error (.malformedToken ("scan claims: " ++ err))
  | .ok doc =>
      match GoClaims.parseClaims lib.fmt doc with
      | .error err => .error (.malformedToken err.reason)
      | .ok claims => .ok claims

def errorText : Combinators.Go.Error → String
  | .claimsValidation reason _ => reason
  | .other text _ => text

def runClaimsValidator (cfg : Config) (claims : Claims) : Except ValidateError Unit :=
  match cfg.claimsValidator with
  | none => .ok ()
  | some validator =>
      match validator claims with
      | none => .ok ()
      | some err =>
          match err.asClaimsValidation with
          | some _ => .error (.claimsValidator err)
          | none =>
              .error (.claimsValidator
                (.other ("jwt: claims validation failed: " ++ errorText err) [err]))

def checkClaims (lib : Library K J) (cfg : Config) (claims : Claims) : Except ValidateError Unit :=
  match claims.validate lib.fmt cfg.claims with
  | some err => .error (.claimValidation err.claim err.reason)
  | none => runClaimsValidator cfg claims

/-- `Validate`; a nil key set is `none`. -/
def validate (lib : Library K J) (cfg : Config) (rawToken : String) (keySet : Option KeySource) :
    Except ValidateError Claims :=
  match keySet with
  | none => .error (.malformedToken "nil key set")
  | some source => do
      let token := trimSpace rawToken
      let header ← parseHeader lib token
      checkAlgorithm cfg header
      let key ← (resolveKeyWithRefresh source header.kid).mapError .jwks
      let pub ← (toPublicKey lib key).mapError fun err => .keyConversion header.kid err
      let payload ← verifiedPayload lib cfg token pub
      let claims ← payloadClaims lib payload
      checkClaims lib cfg claims
      return claims

variable {lib : Library K J} {cfg : Config} {rawToken : String} {source : KeySource}
  {claims : Claims}

/-- What `Validate` checks of a token besides its key's own declarations: its
algorithm is allowed, the key's material verifies it, and its claims pass. -/
structure Passes (lib : Library K J) (cfg : Config) (token : String) (header : JoseHeader)
    (key : JSONWebKey) (claims : Claims) : Prop where
  allowed : checkAlgorithm cfg header = .ok ()
  verified : ∃ pub payload, toPublicKey lib key = .ok pub ∧
    verifiedPayload lib cfg token pub = .ok payload ∧ payloadClaims lib payload = .ok claims
  checked : checkClaims lib cfg claims = .ok ()

/-- `Validate` accepts what passes under the key resolved for the header's `kid`. -/
theorem validate_ok_iff : validate lib cfg rawToken (some source) = .ok claims ↔
    ∃ header key, parseHeader lib (trimSpace rawToken) = .ok header ∧
      resolveKeyWithRefresh source header.kid = .ok key ∧
      Passes lib cfg (trimSpace rawToken) header key claims := by
  simp only [validate, bind_eq_ok, mapError_eq_ok]
  constructor
  · rintro ⟨header, hheader, ⟨⟩, hallowed, key, hkey, pub, hpub, payload, hpayload, claims', hclaims,
      ⟨⟩, hchecked, hret⟩
    obtain rfl : claims' = claims := Except.ok.inj hret
    exact ⟨header, key, hheader, hkey, hallowed, ⟨pub, payload, hpub, hpayload, hclaims⟩, hchecked⟩
  · rintro ⟨header, key, hheader, hkey, hallowed, ⟨pub, payload, hpub, hpayload, hclaims⟩, hchecked⟩
    exact ⟨header, hheader, (), hallowed, key, hkey, pub, hpub, payload, hpayload, claims, hclaims,
      (), hchecked, rfl⟩

end IdentityModel.GoValidate
