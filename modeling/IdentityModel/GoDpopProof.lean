import IdentityModel.Base64
import IdentityModel.GoClaims
import IdentityModel.GoUrl
import IdentityModel.IntegerLiteral
import IdentityModel.Results

/-!
# DPoP proofs in Go

`Key.Proof` and `VerifyProof` of `go/pkg/dpop`. What signs and parses a JWS, keys and their
thumbprints, the hash and the source of random bytes belong to libraries; what is relied on of
them is said in `Library.Sound`. A payload is the document its text denotes.
-/
namespace IdentityModel.GoDpop

open GoClaims (foldName kind typeError)
open GoUrl Results

/-- `time.Unix` of whole seconds, in nanoseconds since the epoch. A time counts its seconds from
the year one, and this count wraps. -/
def unixTime (sec : Int64) : ℤ := 1000000000 * ((sec + 62135596800).toInt - 62135596800)

/-- `Time.Unix`. -/
def unixSeconds (t : ℤ) : Int64 := Int64.ofInt (t / 1000000000)

/-- `Time.Sub`; a duration that does not fit is the greatest or the least one. -/
def sub (t u : ℤ) : Int64 :=
  if Int64.maxValue.toInt < t - u then Int64.maxValue
  else if t - u < Int64.minValue.toInt then Int64.minValue
  else Int64.ofInt (t - u)

theorem sub_self (t : ℤ) : sub t t = 0 := by
  rw [sub, Int.sub_self]
  decide

abbrev Algorithm := String

def ES256 : Algorithm := "ES256"

def RS256 : Algorithm := "RS256"

/-- What is asked of the type of a private key: an EC key and whether its curve is P-256, an RSA
key and the length of its modulus, or anything else. -/
inductive KeyKind
  | ecdsa (p256 : Bool)
  | rsa (bitLen : ℕ)
  | other
  deriving DecidableEq, Repr

/-- The types of public keys that a proof may embed, and every other one. -/
inductive PublicKind
  | ecdsa | rsa | other
  deriving DecidableEq, Repr

structure SignerOptions where
  embedJWK : Bool
  type : String
  deriving DecidableEq, Repr

/-- A signature of a JWS and what is read of its header. -/
structure Signature (P : Type) where
  jsonWebKey : Option P
  algorithm : String
  /-- The `typ` among the extra headers. -/
  typ : Option Json

/-- What is taken from libraries; `K`, `P`, `S` and `J` are the types of private keys, of public
JWKs, of signers and of JWSs. A payload that is no JSON is read as an error. -/
structure Library (K P S J : Type) where
  /-- `%q`. -/
  quote : String → String
  /-- The text of an error of `url.Parse`, with the text that was parsed. -/
  urlError : String → UrlError → String
  ipv6 : List ℕ → Bool
  sha256 : List UInt8 → List UInt8
  base64 : String → Except String (List UInt8)
  document : List UInt8 → Except String Json
  keyKind : K → KeyKind
  /-- `%T`. -/
  keyType : K → String
  newSigner : Algorithm → K → SignerOptions → Except String S
  sign : S → Json → Except String J
  compactSerialize : J → Except String String
  parseSigned : String → List Algorithm → Except String J
  signatures : J → List (Signature P)
  verify : J → P → Except String (Except String Json)
  isPublic : P → Bool
  publicKind : P → PublicKind
  thumbprint : P → Except String (List UInt8)

/-- What the platform answers: random bytes and the time. -/
structure Platform where
  random : Except String (Vector UInt8 16)
  now : ℤ

variable {K P S J : Type}

inductive DpopError
  | unsupportedAlgorithm (alg : String)
  | key (op err : String)
  deriving DecidableEq, Repr

structure VerificationError where
  field : String
  reason : String
  deriving DecidableEq, Repr

/-- An error of `normalizeHTU`, with the text of its cause. -/
def keyError (lib : Library K P S J) (uri : String) (e : KeyError) : DpopError :=
  .key e.op (match e.err with
    | .url cause => lib.urlError uri cause
    | .relative uri => "htu requires an absolute URI with scheme and host, got " ++ lib.quote uri)

def DpopError.text (lib : Library K P S J) : DpopError → String
  | .unsupportedAlgorithm alg =>
      "dpop: unsupported algorithm " ++ lib.quote alg ++ " (want ES256 or RS256)"
  | .key op err => "dpop: " ++ op ++ ": " ++ err

def rsaKeyBits : ℕ := 2048

def validateKeyType (lib : Library K P S J) (priv : K) (alg : Algorithm) : Except DpopError Unit :=
  if alg = ES256 then
    match lib.keyKind priv with
    | .ecdsa p256 => ensure p256 (.key "load key" "ES256 requires curve P-256")
    | _ => .error (.key "load key" ("ES256 requires an EC P-256 key, got " ++ lib.keyType priv))
  else if alg = RS256 then
    match lib.keyKind priv with
    | .rsa bitLen =>
        ensure (rsaKeyBits ≤ bitLen) (.key "load key" ("RS256 requires a modulus of at least " ++
          toString rsaKeyBits ++ " bits, got " ++ toString bitLen))
    | _ => .error (.key "load key" ("RS256 requires an RSA key, got " ++ lib.keyType priv))
  else .error (.unsupportedAlgorithm alg)

/-- A key pair; every constructor comes to `newKey`, which validates its type. -/
structure Key (lib : Library K P S J) where
  alg : Algorithm
  jwk : K
  valid : validateKeyType lib jwk alg = .ok ()

structure ProofClaims where
  jti : String := ""
  htm : String := ""
  htu : String := ""
  iat : Int64 := 0
  ath : String := ""
  nonce : String := ""
  deriving DecidableEq, Repr

inductive ClaimField
  | jti | htm | htu | iat | ath | nonce
  deriving DecidableEq, Repr

def ClaimField.all : List ClaimField := [.jti, .htm, .htu, .iat, .ath, .nonce]

/-- The JSON name in the field's tag. -/
def ClaimField.name : ClaimField → String
  | .jti => "jti"
  | .htm => "htm"
  | .htu => "htu"
  | .iat => "iat"
  | .ath => "ath"
  | .nonce => "nonce"

/-- A claim that is left out when it is empty. -/
def omitEmpty (field : ClaimField) (s : String) : List (String × Json) :=
  if s = "" then [] else [(field.name, .str s)]

/-- `json.Marshal`, which these claims never fail. -/
def ProofClaims.marshal (claims : ProofClaims) : Json :=
  .obj ([("jti", .str claims.jti), ("htm", .str claims.htm), ("htu", .str claims.htu),
    ("iat", .num (integerLiteral claims.iat))] ++ omitEmpty .ath claims.ath ++
    omitEmpty .nonce claims.nonce)

/-- The field a member of that name is decoded into: by its exact name, else by its folded one. -/
def claimFieldOf (name : String) : Option ClaimField :=
  match ClaimField.all.find? fun f => f.name = name with
  | some f => some f
  | none => ClaimField.all.find? fun f => foldName f.name = foldName name

/-- The integer of a literal that `strconv.ParseInt` reads. -/
def parseInt (n : Number) : Option Int64 :=
  if n.fraction = [] ∧ n.exponent = none then
    let value : ℤ := if n.negative then -(digitsValue n.whole : ℤ) else digitsValue n.whole
    if -2 ^ 63 ≤ value ∧ value < 2 ^ 63 then some (Int64.ofInt value) else none
  else none

def mistypedClaim (value : String) (field : ClaimField) (goType : String) : String :=
  "json: cannot unmarshal " ++ value ++ " into Go struct field proofClaims." ++ field.name ++
    " of type " ++ goType

/-- A string claim with a new value. -/
def ProofClaims.setString (claims : ProofClaims) : ClaimField → String → ProofClaims
  | .jti, s => { claims with jti := s }
  | .htm, s => { claims with htm := s }
  | .htu, s => { claims with htu := s }
  | .iat, _ => claims
  | .ath, s => { claims with ath := s }
  | .nonce, s => { claims with nonce := s }

/-- Decode a value into a field; a `null` leaves it as it is. -/
def decodeClaim (claims : ProofClaims) (field : ClaimField) (value : Json) :
    Except String ProofClaims :=
  match field, value with
  | _, .null => .ok claims
  | .iat, .num n =>
      match parseInt n with
      | some iat => .ok { claims with iat := iat }
      | none => .error (mistypedClaim ("number " ++ n.text) .iat "int64")
  | .iat, j => .error (mistypedClaim (kind j) .iat "int64")
  | field, .str s => .ok (claims.setString field s)
  | field, j => .error (mistypedClaim (kind j) field "string")

/-- Decode one member; the first error is kept. -/
def decodeClaimMember (acc : ProofClaims × Option String) (m : String × Json) :
    ProofClaims × Option String :=
  match claimFieldOf m.1 with
  | none => acc
  | some field =>
      match decodeClaim acc.1 field m.2 with
      | .ok claims => (claims, acc.2)
      | .error err => (acc.1, acc.2.or (some err))

/-- `json.Unmarshal` of a payload. -/
def unmarshalProofClaims : Json → Except String ProofClaims
  | .obj ms =>
      match ms.foldl decodeClaimMember ({}, none) with
      | (claims, none) => .ok claims
      | (_, some err) => .error err
  | .null => .ok {}
  | j => .error (typeError (kind j) "dpop.proofClaims")

theorem parseInt_integerLiteral (i : Int64) : parseInt (integerLiteral i) = some i := by
  obtain ⟨hfraction, hexponent, hvalue⟩ := value_integerLiteral i
  have hlower := Int64.le_toInt i
  have hupper := Int64.toInt_lt i
  rw [parseInt, if_pos ⟨hfraction, hexponent⟩]
  simp only [hvalue]
  rw [if_pos ⟨hlower, hupper⟩, Int64.ofInt_toInt]

theorem claimFieldOf_name (field : ClaimField) : claimFieldOf field.name = some field := by
  cases field <;> decide

theorem decodeClaimMember_string (claims : ProofClaims) (field : ClaimField) (hfield : field ≠ .iat)
    (s : String) :
    decodeClaimMember (claims, none) (field.name, .str s) = (claims.setString field s, none) := by
  simp only [decodeClaimMember, claimFieldOf_name]
  cases field <;> first | rfl | exact absurd rfl hfield

theorem decodeClaimMember_iat (claims : ProofClaims) (iat : Int64) :
    decodeClaimMember (claims, none) (ClaimField.iat.name, .num (integerLiteral iat)) =
      ({ claims with iat := iat }, none) := by
  simp only [decodeClaimMember, claimFieldOf_name, decodeClaim, parseInt_integerLiteral]

/-- An empty claim is read as it is when it is left out. -/
theorem decode_omitEmpty (claims : ProofClaims) (field : ClaimField) (hfield : field ≠ .iat)
    (s : String) (hempty : claims.setString field "" = claims) :
    (omitEmpty field s).foldl decodeClaimMember (claims, none) = (claims.setString field s, none) := by
  unfold omitEmpty
  split
  · next hs => rw [hs, hempty, List.foldl_nil]
  · rw [List.foldl_cons, decodeClaimMember_string claims field hfield, List.foldl_nil]

/-- Claims are read as they were written. -/
theorem unmarshal_marshal (claims : ProofClaims) : unmarshalProofClaims claims.marshal = .ok claims := by
  obtain ⟨jti, htm, htu, iat, ath, nonce⟩ := claims
  have hjti := decodeClaimMember_string {} .jti (by decide) jti
  have hhtm := decodeClaimMember_string ⟨jti, "", "", 0, "", ""⟩ .htm (by decide) htm
  have hhtu := decodeClaimMember_string ⟨jti, htm, "", 0, "", ""⟩ .htu (by decide) htu
  have hiat := decodeClaimMember_iat ⟨jti, htm, htu, 0, "", ""⟩ iat
  have hath := decode_omitEmpty ⟨jti, htm, htu, iat, "", ""⟩ .ath (by decide) ath rfl
  have hnonce := decode_omitEmpty ⟨jti, htm, htu, iat, ath, ""⟩ .nonce (by decide) nonce rfl
  simp only [ClaimField.name, ProofClaims.setString] at hjti hhtm hhtu hiat hath hnonce
  simp only [ProofClaims.marshal, unmarshalProofClaims, List.foldl_append, List.foldl_cons,
    List.foldl_nil, hjti, hhtm, hhtu, hiat, hath, hnonce]

/-- `ath`: the hash of an access token. -/
def ath (lib : Library K P S J) (accessToken : String) : String :=
  String.ofList (Base64.encodeUrl (lib.sha256 accessToken.toUTF8.toList))

structure ProofConfig where
  ath : String := ""
  nonce : String := ""
  /-- What the clock answers. -/
  now : ℤ

abbrev ProofOption := ProofConfig → ProofConfig

def withAth (lib : Library K P S J) (accessToken : String) : ProofOption :=
  fun c => { c with ath := ath lib accessToken }

def withNonce (nonce : String) : ProofOption := fun c => { c with nonce := nonce }

def newJTI (platform : Platform) : Except DpopError String :=
  match platform.random with
  | .error err => .error (.key "generate jti" err)
  | .ok b => .ok (String.ofList (Base64.encodeUrl b.toList))

def dpopTyp : String := "dpop+jwt"

/-- The end of `Key.Proof`: claims are signed under a header with the type and the public key. -/
def Key.signClaims {lib : Library K P S J} (k : Key lib) (claims : ProofClaims) :
    Except DpopError String := do
  let signer ← (lib.newSigner k.alg k.jwk ⟨true, dpopTyp⟩).mapError (.key "build signer")
  let jws ← (lib.sign signer claims.marshal).mapError (.key "sign proof")
  (lib.compactSerialize jws).mapError (.key "serialize proof")

/-- What the options make of a proof. -/
def proofConfig (platform : Platform) (opts : List ProofOption) : ProofConfig :=
  opts.foldl (fun cfg opt => opt cfg) { now := platform.now }

def Key.proof {lib : Library K P S J} (k : Key lib) (platform : Platform) (method uri : String)
    (opts : List ProofOption) : Except DpopError String := do
  let cfg := proofConfig platform opts
  let htu ← (normalizeHTU lib.ipv6 uri).mapError (keyError lib uri)
  let jti ← newJTI platform
  k.signClaims ⟨jti, method, htu, unixSeconds cfg.now, cfg.ath, cfg.nonce⟩

def asymmetricSigAlgs : List Algorithm :=
  ["ES256", "ES384", "ES512", "RS256", "RS384", "RS512", "PS256", "PS384", "PS512"]

/-- 60 seconds. -/
def defaultMaxIATAge : Int64 := 60000000000

def privateJWKMembers : List String := ["d", "p", "q", "dp", "dq", "qi", "oth", "k"]

def reasonPrivateJWK : String := "embedded jwk must contain only the public key"

structure Proof (P : Type) where
  typ : String
  alg : String
  jwk : P
  thumbprint : String
  jti : String
  htm : String
  htu : String
  iat : Int64
  ath : String
  nonce : String

structure VerifyConfig where
  maxIATAge : Int64 := defaultMaxIATAge
  /-- What the clock answers. -/
  now : ℤ
  expectAth : String := ""
  haveExpectAth : Bool := false
  expectNonce : String := ""
  haveNonce : Bool := false

abbrev VerifyOption := VerifyConfig → VerifyConfig

def verifyConfig (now : ℤ) (opts : List VerifyOption) : VerifyConfig :=
  opts.foldl (fun cfg opt => opt cfg) { now := now }

/-- The `alg` of a header and the names in its `jwk`, and whether all could be decoded; objects
under the same name are decoded into the same map. -/
structure PeekedHeader where
  alg : String := ""
  jwk : List String := []
  decoded : Bool := true

def decodeHeaderMember (h : PeekedHeader) (m : String × Json) : PeekedHeader :=
  if foldName m.1 = foldName "alg" then
    match m.2 with
    | .str s => { h with alg := s }
    | .null => h
    | _ => { h with decoded := false }
  else if foldName m.1 = foldName "jwk" then
    match m.2 with
    | .obj ms => { h with jwk := h.jwk ++ ms.map Prod.fst }
    | .null => { h with jwk := [] }
    | _ => { h with decoded := false }
  else h

def unmarshalHeader : Json → PeekedHeader
  | .obj ms => ms.foldl decodeHeaderMember {}
  | .null => {}
  | _ => { decoded := false }

def asymmetricProofWithPrivateJWK (lib : Library K P S J) (proof : String) : Bool :=
  if '.' ∈ proof.toList then
    match lib.base64 (String.ofList (proof.toList.takeWhile (· ≠ '.'))) with
    | .error _ => false
    | .ok raw =>
        match lib.document raw with
        | .error _ => false
        | .ok document =>
            let header := unmarshalHeader document
            header.decoded && header.alg ∈ asymmetricSigAlgs &&
              privateJWKMembers.any fun m => m ∈ header.jwk
  else false

def parseProof (lib : Library K P S J) (proof : String) : Except VerificationError J :=
  match lib.parseSigned proof asymmetricSigAlgs with
  | .ok jws => .ok jws
  | .error err =>
      if asymmetricProofWithPrivateJWK lib proof then
        .error ⟨"jwk", reasonPrivateJWK ++ ": " ++ err⟩
      else
        .error ⟨"alg", "not a DPoP proof signed with a supported asymmetric algorithm: " ++ err⟩

def onlySignature (lib : Library K P S J) (jws : J) : Except VerificationError (Signature P) :=
  match lib.signatures jws with
  | [sig] => .ok sig
  | _ => .error ⟨"signature", "a DPoP proof must carry exactly one signature"⟩

/-- The embedded key, which has to be public and asymmetric. -/
def embeddedJWK (lib : Library K P S J) (sig : Signature P) : Except VerificationError P :=
  match sig.jsonWebKey with
  | none => .error ⟨"jwk", "proof header is missing the embedded jwk"⟩
  | some jwk =>
      if lib.isPublic jwk = false then .error ⟨"jwk", reasonPrivateJWK⟩
      else if lib.publicKind jwk = .other then
        .error ⟨"jwk", "embedded jwk is not an asymmetric key"⟩
      else .ok jwk

/-- The `typ` of a header, empty unless it is a string. -/
def Signature.typText (sig : Signature P) : String := (sig.typ.bind Json.str?).getD ""

/-- The checks on the JWS: the signature and its key, and the claims that were signed. -/
def signedClaims (lib : Library K P S J) (proof : String) :
    Except VerificationError (Signature P × P × ProofClaims) := do
  let jws ← parseProof lib proof
  let sig ← onlySignature lib jws
  let jwk ← embeddedJWK lib sig
  let _ ← ensure (sig.typText = dpopTyp) ⟨"typ", "header typ must be \"dpop+jwt\""⟩
  let payload ← (lib.verify jws jwk).mapError (⟨"signature", ·⟩)
  let claims ← (payload.bind unmarshalProofClaims).mapError
    (⟨"payload", "proof payload is not valid JSON: " ++ ·⟩)
  return (sig, jwk, claims)

/-- The checks on the claims. -/
def checkClaims (lib : Library K P S J) (cfg : VerifyConfig) (claims : ProofClaims)
    (expectedHTM expectedHTU : String) : Except VerificationError Unit := do
  let _ ← ensure (claims.jti ≠ "") ⟨"jti", "missing required jti claim"⟩
  let _ ← ensure (claims.htm = expectedHTM) ⟨"htm", "proof htm does not match the request method"⟩
  let wantHTU ← (normalizeHTU lib.ipv6 expectedHTU).mapError fun e =>
    ⟨"htu", "invalid expected request URI: " ++ (keyError lib expectedHTU e).text lib⟩
  let _ ← ensure (claims.htu = wantHTU) ⟨"htu", "proof htu does not match the request URI"⟩
  let _ ← ensure (claims.iat ≠ 0) ⟨"iat", "missing required iat claim"⟩
  let age := sub cfg.now (unixTime claims.iat)
  let _ ← ensure (¬(cfg.maxIATAge < age ∨ age < -cfg.maxIATAge))
    ⟨"iat", "proof iat is outside the acceptable window"⟩
  let _ ← ensure (cfg.haveExpectAth = true → claims.ath = cfg.expectAth)
    ⟨"ath", "proof ath does not match the access token hash"⟩
  ensure (cfg.haveNonce = true → claims.nonce = cfg.expectNonce)
    ⟨"nonce", "proof nonce does not match the expected nonce"⟩

def verifyProof (lib : Library K P S J) (now : ℤ) (proof expectedHTM expectedHTU : String)
    (opts : List VerifyOption) : Except VerificationError (Proof P) := do
  let cfg := verifyConfig now opts
  let (sig, jwk, claims) ← signedClaims lib proof
  let _ ← checkClaims lib cfg claims expectedHTM expectedHTU
  let tp ← (lib.thumbprint jwk).mapError (⟨"jwk", "cannot compute thumbprint: " ++ ·⟩)
  return ⟨sig.typText, sig.algorithm, jwk, String.ofList (Base64.encodeUrl tp), claims.jti,
    claims.htm, claims.htu, claims.iat, claims.ath, claims.nonce⟩

end IdentityModel.GoDpop
