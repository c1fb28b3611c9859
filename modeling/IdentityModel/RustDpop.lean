import IdentityModel.Base64
import IdentityModel.RustValidate

/-!
# DPoP proofs in Rust

`DpopKey::proof`, `normalize_htu`, `verify_proof` and `verify_bound_proof` of
`rust/src/dpop`. Signing, the reading of a header, the check of a signature, key
thumbprints, the hash and the parser of URLs belong to libraries; what is relied on
of them is said in `Library.Sound`.
-/
namespace IdentityModel.RustDpop

open Combinators.Rust (IdentityError)
open Results
open RustJwks (JsonWebKey)
open RustValidate (segments)

instance neZero_nanos : NeZero (1000000000 : ℕ) := ⟨Nat.succ_ne_zero 999999999⟩

/-- `std::time::Duration`. -/
structure Duration where
  secs : UInt64
  nanos : Fin 1000000000
  deriving DecidableEq, Repr

def Duration.total (d : Duration) : ℕ := 1000000000 * d.secs.toNat + d.nanos.val

/-- `i64::abs_diff`. -/
def absDiff (a b : Int64) : UInt64 :=
  if a < b then b.toUInt64 - a.toUInt64 else a.toUInt64 - b.toUInt64

theorem toInt_cases (a : Int64) : a.toUInt64.toNat < 2 ^ 64 ∧
    (a.toInt = a.toUInt64.toNat ∧ a.toUInt64.toNat < 2 ^ 63 ∨
      a.toInt = a.toUInt64.toNat - 2 ^ 64 ∧ 2 ^ 63 ≤ a.toUInt64.toNat) := by
  have hint : a.toInt = _ := BitVec.toInt_eq_toNat_cond a.toBitVec
  have hnat : a.toUInt64.toNat = a.toBitVec.toNat := rfl
  have hlt := a.toBitVec.isLt
  rw [hint, hnat]
  split <;> omega

/-- The distance of two times does not wrap. -/
theorem toNat_absDiff (a b : Int64) : (absDiff a b).toNat = (a.toInt - b.toInt).natAbs := by
  have ha := toInt_cases a
  have hb := toInt_cases b
  unfold absDiff
  by_cases hlt : a < b
  · have hint := Int64.lt_iff_toInt_lt.mp hlt
    rw [if_pos hlt, UInt64.toNat_sub]
    omega
  · have hint := mt Int64.lt_iff_toInt_lt.mpr hlt
    rw [if_neg hlt, UInt64.toNat_sub]
    omega

/-- The seconds since the epoch as `unix_now` and `now_unix` cast them. -/
def Duration.asI64 (d : Duration) : Int64 := d.secs.toInt64

/-- `jsonwebtoken::Algorithm`. -/
inductive Algorithm
  | HS256 | HS384 | HS512 | ES256 | ES384 | RS256 | RS384 | RS512 | PS256 | PS384 | PS512 | EdDSA
  deriving DecidableEq, Repr

/-- The derived debug form. -/
def Algorithm.debug : Algorithm → String
  | HS256 => "HS256"
  | HS384 => "HS384"
  | HS512 => "HS512"
  | ES256 => "ES256"
  | ES384 => "ES384"
  | RS256 => "RS256"
  | RS384 => "RS384"
  | RS512 => "RS512"
  | PS256 => "PS256"
  | PS384 => "PS384"
  | PS512 => "PS512"
  | EdDSA => "EdDSA"

inductive DpopAlgorithm
  | es256
  | rs256
  deriving DecidableEq, Repr

def DpopAlgorithm.asStr : DpopAlgorithm → String
  | es256 => "ES256"
  | rs256 => "RS256"

def DpopAlgorithm.jwt : DpopAlgorithm → Algorithm
  | es256 => .ES256
  | rs256 => .RS256

/-- `EllipticCurve`; a curve added later is known by its serialized name. -/
inductive EllipticCurve
  | p256 | p384 | p521 | ed25519
  | other (name : String)
  deriving DecidableEq, Repr

def curveName : EllipticCurve → String
  | .p256 => "P-256"
  | .p384 => "P-384"
  | .p521 => "P-521"
  | .ed25519 => "Ed25519"
  | .other name => name

inductive AlgorithmParameters
  | ellipticCurve (curve : EllipticCurve) (x y : String)
  | rsa (n e : String)
  | octetKeyPair (curve : EllipticCurve) (x : String)
  | octetKey (value : String)
  deriving DecidableEq, Repr

/-- The arm of `verify_proof` that lets a key type through. -/
def AlgorithmParameters.asymmetric : AlgorithmParameters → Bool
  | ellipticCurve .. | rsa .. => true
  | octetKeyPair .. | octetKey .. => false

/-- `jsonwebtoken::jwk::Jwk`. -/
structure Jwk where
  keyId : Option String := none
  algorithm : AlgorithmParameters
  deriving DecidableEq, Repr

/-- `jsonwebtoken::Header`. -/
structure Header where
  typ : Option String
  alg : Algorithm
  jwk : Option Jwk
  deriving DecidableEq, Repr

structure ProofClaims where
  jti : String
  htm : String
  htu : String
  iat : Int64
  ath : Option String
  nonce : Option String
  deriving DecidableEq, Repr

/-- The `url` crate: its parser, what is asked of a URL and the setters, of which those
for the userinfo may fail. -/
structure UrlCrate (U : Type) where
  parse : String → Except String U
  hasHost : U → Bool
  setQuery : U → Option String → U
  setFragment : U → Option String → U
  setUsername : U → String → Option U
  setPassword : U → Option String → Option U
  text : U → String

/-- What is taken from libraries; `U`, `E` and `D` are the types of URLs, of encoding keys
and of decoding keys. A header and claims are encoded with a signature; `decode` checks
the signature under one algorithm and nothing else. -/
structure Library (U E D : Type) where
  url : UrlCrate U
  /-- The debug form of a string. -/
  debug : String → String
  display : Json → String
  /-- The literal of an integer. -/
  number : Int64 → Number
  asI64 : Number → Option Int64
  sha256 : List UInt8 → List UInt8
  base64 : String → Except String (List UInt8)
  document : List UInt8 → Except String Json
  fromEncodingKey : E → Algorithm → Except String Jwk
  fromJwk : Jwk → Except String D
  thumbprint : Jwk → Except String String
  encode : Header → ProofClaims → E → Except String String
  decodeHeader : String → Except String Header
  decode : String → D → Algorithm → Except String Json

/-- What the platform answers: random bytes and the time since the epoch. -/
structure Platform where
  random : Except String (Vector UInt8 16)
  sinceEpoch : Except String Duration

/-- The display form of an error. -/
def displayError (debug : String → String) : IdentityError → String
  | .http m => "http error: " ++ m
  | .deserialization m => "deserialization error: " ++ m
  | .validation m => "validation error: " ++ m
  | .idTokenValidation m => "id token validation error: " ++ m
  | .claimsValidation reason claim =>
      "claims validation error: " ++ reason ++
        (claim.map fun c => " (claim " ++ debug c ++ ")").getD ""
  | .dpopVerification field reason =>
      "dpop proof verification failed" ++ (field.map fun f => " for " ++ debug f).getD "" ++ ": " ++
        reason
  | .configuration m => "configuration error: " ++ m
  | .keyNotFound kid => "key not found: " ++ kid
  | .tokenEndpoint error description _ status =>
      "token endpoint error " ++ debug error ++ (description.map fun d => ": " ++ d).getD "" ++
        ": HTTP " ++ toString status
  | .userInfo status wwwAuthenticate _ =>
      "userinfo endpoint error: HTTP " ++ toString status ++
        (wwwAuthenticate.map fun w => ": " ++ w).getD ""

variable {U E D : Type}

def dpopProofTyp : String := "dpop+jwt"

def ath (lib : Library U E D) (accessToken : String) : String :=
  String.ofList (Base64.encodeUrl (lib.sha256 accessToken.toUTF8.toList))

/-- What `normalize_htu` takes off a URL; a setter that fails leaves it as it is. -/
def UrlCrate.strip (url : UrlCrate U) (u : U) : U :=
  let u := url.setFragment (url.setQuery u none) none
  let u := (url.setUsername u "").getD u
  (url.setPassword u none).getD u

def normalizeHtu (lib : Library U E D) (uri : String) : Except IdentityError String :=
  match lib.url.parse uri with
  | .error e =>
      .error (.validation ("DPoP htu requires a valid absolute URI: " ++ lib.debug uri ++ ": " ++ e))
  | .ok u =>
      if lib.url.hasHost u then .ok (lib.url.text (lib.url.strip u))
      else
        .error (.validation ("DPoP htu requires an absolute URI with a scheme and host, got " ++
          lib.debug uri))

def newJti (platform : Platform) : Except IdentityError String :=
  match platform.random with
  | .error e => .error (.configuration ("generate DPoP proof jti: " ++ e))
  | .ok bytes => .ok (String.ofList (Base64.encodeUrl bytes.toList))

def unixNow (platform : Platform) : Except IdentityError Int64 :=
  match platform.sinceEpoch with
  | .error e => .error (.configuration ("read the system clock for the DPoP proof iat: " ++ e))
  | .ok d => .ok d.asI64

/-- A key pair; its public half is derived from the encoding key. -/
structure DpopKey (lib : Library U E D) where
  algorithm : DpopAlgorithm
  encoding : E
  public_ : Jwk
  derived : lib.fromEncodingKey encoding algorithm.jwt = .ok public_

/-- The end of `DpopKey::from_pkcs8_der`, which every constructor comes to. -/
def DpopKey.ofEncoding (lib : Library U E D) (algorithm : DpopAlgorithm) (encoding : E) :
    Except IdentityError (DpopKey lib) :=
  match h : lib.fromEncodingKey encoding algorithm.jwt with
  | .error e =>
      .error (.validation ("load DPoP " ++ algorithm.asStr ++
        " key: cannot derive the public key: " ++ e))
  | .ok public_ => .ok ⟨algorithm, encoding, public_, h⟩

def DpopKey.thumbprint {lib : Library U E D} (key : DpopKey lib) : Except IdentityError String :=
  (lib.thumbprint key.public_).mapError fun e =>
    .validation ("compute DPoP key thumbprint: " ++ e)

structure DpopProofOptions where
  ath : Option String := none
  nonce : Option String := none
  issuedAt : Option Int64 := none
  deriving DecidableEq, Repr

def DpopProofOptions.accessToken (lib : Library U E D) (options : DpopProofOptions)
    (accessToken : String) : DpopProofOptions :=
  { options with ath := some (RustDpop.ath lib accessToken) }

/-- When a proof says it was issued. -/
def DpopProofOptions.iat (options : DpopProofOptions) (platform : Platform) :
    Except IdentityError Int64 :=
  match options.issuedAt with
  | some iat => .ok iat
  | none => unixNow platform

/-- The header of a key's proofs, with the public half of the key. -/
def DpopKey.header {lib : Library U E D} (key : DpopKey lib) : Header :=
  ⟨some dpopProofTyp, key.algorithm.jwt, some key.public_⟩

def DpopKey.proof {lib : Library U E D} (key : DpopKey lib) (platform : Platform)
    (method uri : String) (options : DpopProofOptions) : Except IdentityError String := do
  let jti ← newJti platform
  let htu ← normalizeHtu lib uri
  let iat ← options.iat platform
  let claims : ProofClaims := ⟨jti, method, htu, iat, options.ath, options.nonce⟩
  (lib.encode key.header claims key.encoding).mapError fun e =>
    .configuration ("sign DPoP proof: " ++ e)

/-- The claims as they are serialized; an absent one is left out. -/
def ProofClaims.toValue (number : Int64 → Number) (claims : ProofClaims) : Json :=
  .obj ([("jti", .str claims.jti), ("htm", .str claims.htm), ("htu", .str claims.htu),
    ("iat", .num (number claims.iat))] ++
    (claims.ath.map fun a => ("ath", Json.str a)).toList ++
    (claims.nonce.map fun n => ("nonce", Json.str n)).toList)

def reject (field reason : String) : IdentityError := .dpopVerification (some field) reason

/-- Goes on if a condition holds. -/
def demand (c : Prop) [Decidable c] (e : IdentityError) : Except IdentityError Unit :=
  if c then .ok () else .error e

theorem demand_eq_ok {c : Prop} [Decidable c] {e : IdentityError} {u : Unit} :
    demand c e = .ok u ↔ c := by
  by_cases hc : c <;> simp [demand, hc]

/-- `Option::ok_or_else`. -/
def okOr {α : Type} (x : Option α) (e : IdentityError) : Except IdentityError α :=
  match x with
  | some a => .ok a
  | none => .error e

theorem okOr_eq_ok {α : Type} {x : Option α} {e : IdentityError} {a : α} :
    okOr x e = .ok a ↔ x = some a := by
  cases x <;> simp [okOr]

def proofAlgorithms : List Algorithm :=
  [.ES256, .ES384, .RS256, .RS384, .RS512, .PS256, .PS384, .PS512]

def privateJwkMembers : List String := ["d", "p", "q", "dp", "dq", "qi", "k"]

structure DpopProof where
  typ : String
  algorithm : String
  publicJwk : JsonWebKey
  thumbprint : String
  jti : String
  htm : String
  htu : String
  iat : Int64
  ath : Option String
  nonce : Option String
  deriving DecidableEq, Repr

def defaultMaxIatAge : Duration := ⟨60, 0⟩

structure DpopVerifyOptions where
  maxIatAge : Duration := defaultMaxIatAge
  expectedAth : Option String := none
  expectedJkt : Option String := none
  expectedNonce : Option String := none
  now : Option Int64 := none
  deriving DecidableEq, Repr

def DpopVerifyOptions.accessToken (lib : Library U E D) (options : DpopVerifyOptions)
    (accessToken : String) : DpopVerifyOptions :=
  { options with expectedAth := some (RustDpop.ath lib accessToken) }

def DpopVerifyOptions.jkt (options : DpopVerifyOptions) (jkt : String) : DpopVerifyOptions :=
  { options with expectedJkt := some jkt }

def jsonType : Json → String
  | .null => "null"
  | .bool _ => "a boolean"
  | .num _ => "a number"
  | .str _ => "a string"
  | .arr _ => "an array"
  | .obj _ => "an object"

def stringClaim (claims : Json) (name : String) : Except IdentityError (Option String) :=
  match claims.member? name with
  | none => .ok none
  | some (.str value) => .ok (some value)
  | some other => .error (reject name (name ++ " claim must be a string, got " ++ jsonType other))

/-- The members of the `jwk` of a raw header, when that is an object. -/
def jwkMembers (header : Json) : List (String × Json) := ((header.member? "jwk").getD .null).members

def rejectPrivateJwkMembers (lib : Library U E D) (proof : String) : Except IdentityError Unit := do
  let decoded ← (lib.base64 ((segments proof).headD "")).mapError fun e =>
    reject "jwk" ("proof header is not valid base64url: " ++ e)
  let header ← (lib.document decoded).mapError fun e =>
    reject "jwk" ("proof header is not valid JSON: " ++ e)
  match privateJwkMembers.find? fun name => name ∈ (jwkMembers header).map Prod.fst with
  | none => .ok ()
  | some name =>
      .error (reject "jwk" ("embedded jwk must contain only the public key, but carries the " ++
        "private member " ++ lib.debug name))

def publicJwkOf (jwk : Jwk) : JsonWebKey :=
  let key : JsonWebKey := { kid := jwk.keyId.getD "" }
  match jwk.algorithm with
  | .ellipticCurve curve x y => { key with kty := "EC", crv := curveName curve, x, y }
  | .rsa n e => { key with kty := "RSA", n, e }
  | .octetKeyPair .. | .octetKey .. => key

/-- `verify_proof` down to the signature: the algorithm, the key in the header and the
claims it signs. -/
def signedClaims (lib : Library U E D) (proof : String) :
    Except IdentityError (Algorithm × Jwk × Json) := do
  let header ← (lib.decodeHeader proof).mapError fun e =>
    reject "alg" ("not a DPoP proof signed with a supported asymmetric algorithm: " ++ e)
  demand (header.alg ∈ proofAlgorithms)
    (reject "alg" ("algorithm " ++ lib.debug header.alg.debug ++
      " is not allowed for DPoP proofs: RFC 9449 §4.2 requires an asymmetric algorithm"))
  demand (header.typ = some dpopProofTyp)
    (reject "typ" ("header typ must be " ++ lib.debug dpopProofTyp))
  let jwk ← okOr header.jwk (reject "jwk" "proof header is missing the embedded jwk")
  rejectPrivateJwkMembers lib proof
  demand (jwk.algorithm.asymmetric = true)
    (reject "jwk" "embedded jwk is not an asymmetric key")
  let key ← (lib.fromJwk jwk).mapError fun e =>
    reject "jwk" ("embedded jwk is not a usable public key: " ++ e)
  let claims ← (lib.decode proof key header.alg).mapError fun e => reject "signature" e
  return (header.alg, jwk, claims)

def asI64 (lib : Library U E D) : Json → Option Int64
  | .num n => lib.asI64 n
  | _ => none

def iatClaim (lib : Library U E D) (claims : Json) : Except IdentityError Int64 := do
  let value ← okOr (claims.member? "iat") (reject "iat" "missing required iat claim")
  okOr (asI64 lib value)
    (reject "iat" ("iat claim must be an integer NumericDate, got " ++ lib.display value))

/-- The clock of the verifier, which an option of the tests overrides. -/
def DpopVerifyOptions.clock (options : DpopVerifyOptions) (sinceEpoch : Except String Duration) :
    Except IdentityError Int64 :=
  match options.now with
  | some now => .ok now
  | none =>
      match sinceEpoch with
      | .ok d => .ok d.asI64
      | .error e =>
          .error (.dpopVerification none
            ("cannot read the system clock to check the proof iat: " ++ e))

/-- An expectation, where there is one, is met. -/
def meets (expected actual : Option String) : Bool := expected.all fun e => actual = some e

/-- The claims a proof makes of its request, as `verify_proof` reads them. -/
structure Stated where
  jti : String
  htm : String
  htu : String
  iat : Int64
  ath : Option String
  nonce : Option String

/-- `verify_proof` from the `jti` to the type of the `nonce`. -/
def readClaims (lib : Library U E D) (expectedHtm expectedHtu : String) (claims : Json) :
    Except IdentityError Stated := do
  let jti ← stringClaim claims "jti"
  let jti ← okOr (jti.filter fun j => j ≠ "") (reject "jti" "missing required jti claim")
  let htm ← stringClaim claims "htm"
  let htm ← okOr htm (reject "htm" "missing required htm claim")
  demand (htm = expectedHtm) (reject "htm" "proof htm does not match the request method")
  let htu ← stringClaim claims "htu"
  let htu ← okOr htu (reject "htu" "missing required htu claim")
  let htu ← (normalizeHtu lib htu).mapError fun e =>
    reject "htu" ("proof htu is not a valid URI: " ++ displayError lib.debug e)
  let wantHtu ← (normalizeHtu lib expectedHtu).mapError fun e =>
    reject "htu" ("invalid expected request URI: " ++ displayError lib.debug e)
  demand (htu = wantHtu) (reject "htu" "proof htu does not match the request URI")
  let iat ← iatClaim lib claims
  let ath ← stringClaim claims "ath"
  let nonce ← stringClaim claims "nonce"
  return ⟨jti, htm, htu, iat, ath, nonce⟩

def verifyProof (lib : Library U E D) (sinceEpoch : Except String Duration)
    (proof expectedHtm expectedHtu : String) (options : DpopVerifyOptions) :
    Except IdentityError DpopProof := do
  let (alg, jwk, claims) ← signedClaims lib proof
  let stated ← readClaims lib expectedHtm expectedHtu claims
  let now ← options.clock sinceEpoch
  demand (absDiff now stated.iat ≤ options.maxIatAge.secs)
    (reject "iat" ("proof iat is outside the acceptable " ++
      toString options.maxIatAge.secs.toNat ++ "s window"))
  demand (meets options.expectedAth stated.ath = true)
    (reject "ath" "proof ath does not match the access token hash")
  demand (meets options.expectedNonce stated.nonce = true)
    (reject "nonce" "proof nonce does not match the expected nonce")
  let thumbprint ← (lib.thumbprint jwk).mapError fun e =>
    reject "jwk" ("cannot compute thumbprint: " ++ e)
  demand (meets options.expectedJkt (some thumbprint) = true)
    (reject "jkt" ("proof is signed by a key other than the one the token is bound to " ++
      "(cnf.jkt)"))
  return {
    typ := dpopProofTyp
    algorithm := alg.debug
    publicJwk := publicJwkOf jwk
    thumbprint
    jti := stated.jti
    htm := stated.htm
    htu := stated.htu
    iat := stated.iat
    ath := stated.ath
    nonce := stated.nonce }

def verifyBoundProof (lib : Library U E D) (sinceEpoch : Except String Duration)
    (proof expectedHtm expectedHtu accessToken jkt : String) (options : DpopVerifyOptions) :
    Except IdentityError DpopProof :=
  verifyProof lib sinceEpoch proof expectedHtm expectedHtu
    ((options.accessToken lib accessToken).jkt jkt)

theorem meets_iff {expected actual : Option String} :
    meets expected actual = true ↔ ∀ e, expected = some e → actual = some e := by
  cases expected <;> simp [meets]

section Verifier

variable {lib : Library U E D} {sinceEpoch : Except String Duration}
  {proof expectedHtm expectedHtu : String} {options : DpopVerifyOptions}

/-- The checks of `verify_proof`. -/
theorem verifyProof_eq_ok {v : DpopProof} :
    verifyProof lib sinceEpoch proof expectedHtm expectedHtu options = .ok v ↔
      ∃ alg jwk claims stated now thumbprint,
        signedClaims lib proof = .ok (alg, jwk, claims) ∧
        readClaims lib expectedHtm expectedHtu claims = .ok stated ∧
        options.clock sinceEpoch = .ok now ∧
        absDiff now stated.iat ≤ options.maxIatAge.secs ∧
        meets options.expectedAth stated.ath = true ∧
        meets options.expectedNonce stated.nonce = true ∧
        lib.thumbprint jwk = .ok thumbprint ∧
        meets options.expectedJkt (some thumbprint) = true ∧
        v = ⟨dpopProofTyp, alg.debug, publicJwkOf jwk, thumbprint, stated.jti, stated.htm,
          stated.htu, stated.iat, stated.ath, stated.nonce⟩ := by
  simp only [verifyProof, bind_eq_ok, demand_eq_ok, mapError_eq_ok, pure, Except.pure,
    Except.ok.injEq]
  constructor
  · rintro ⟨⟨alg, jwk, claims⟩, hs, stated, hr, now, hc, -, hw, -, ha, -, hn, thumbprint, ht, -,
      hj, rfl⟩
    exact ⟨alg, jwk, claims, stated, now, thumbprint, hs, hr, hc, hw, ha, hn, ht, hj, rfl⟩
  · rintro ⟨alg, jwk, claims, stated, now, thumbprint, hs, hr, hc, hw, ha, hn, ht, hj, rfl⟩
    exact ⟨(alg, jwk, claims), hs, stated, hr, now, hc, (), hw, (), ha, (), hn, thumbprint, ht, (),
      hj, rfl⟩

/-- The `jti` and the `iat` of what was read are those of the signed claims. -/
theorem readClaims_signed {claims : Json} {stated : Stated}
    (h : readClaims lib expectedHtm expectedHtu claims = .ok stated) :
    stringClaim claims "jti" = .ok (some stated.jti) ∧ iatClaim lib claims = .ok stated.iat := by
  simp only [readClaims, bind_eq_ok, demand_eq_ok, mapError_eq_ok, okOr_eq_ok, pure, Except.pure,
    Except.ok.injEq] at h
  obtain ⟨read, hread, jti, hjti, -, -, htm, -, -, -, -, -, htu, -, -, -, -, -, -, -, iat, hiat, ath, -,
    nonce, -, rfl⟩ := h
  obtain ⟨rfl, -⟩ := Option.filter_eq_some_iff.mp hjti
  exact ⟨hread, hiat⟩

end Verifier

end IdentityModel.RustDpop
