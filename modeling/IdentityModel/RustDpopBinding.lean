import IdentityModel.IntegerLiteral
import IdentityModel.RustDpop

/-!
# A DPoP proof and its verifier in Rust

What `DpopKey::proof` signs, `verify_bound_proof` reads back: the two build and read
header and claims apart, but a proof is accepted exactly for the request it was made
for.
-/
namespace IdentityModel.RustDpop

open Combinators.Rust (IdentityError)
open Results
open RustValidate (segments)

/-- The members a key of a public type may have in a header. -/
def publicJwkMembers : List String :=
  ["kty", "use", "key_ops", "alg", "kid", "x5u", "x5c", "x5t", "x5t#S256", "crv", "x", "y", "n", "e"]

variable {U E D : Type}

/-- What is relied on of the libraries. A token is read back as it was encoded: its header,
the text of its header, and under the key its encoding key belongs to, its claims. The
public half of a key is of a public type and has a thumbprint. An integer is read back from
its literal, and a URL with a host, stripped, from its text. -/
structure Library.Sound (lib : Library U E D) : Prop where
  header : ∀ {header claims encoding proof}, lib.encode header claims encoding = .ok proof →
    lib.decodeHeader proof = .ok header
  headerText : ∀ {header claims encoding proof jwk},
    lib.encode header claims encoding = .ok proof → header.jwk = some jwk →
    jwk.algorithm.asymmetric = true →
    ∃ decoded document, lib.base64 ((segments proof).headD "") = .ok decoded ∧
      lib.document decoded = .ok document ∧
      ∀ m ∈ jwkMembers document, m.1 ∈ publicJwkMembers
  verifies : ∀ {header claims encoding proof algorithm jwk},
    lib.fromEncodingKey encoding (DpopAlgorithm.jwt algorithm) = .ok jwk →
    header.alg = algorithm.jwt → lib.encode header claims encoding = .ok proof →
    ∃ key, lib.fromJwk jwk = .ok key ∧
      lib.decode proof key algorithm.jwt = .ok (claims.toValue lib.number)
  publicKey : ∀ {encoding algorithm jwk},
    lib.fromEncodingKey encoding (DpopAlgorithm.jwt algorithm) = .ok jwk →
    jwk.algorithm.asymmetric = true ∧ ∃ thumbprint, lib.thumbprint jwk = .ok thumbprint
  integer : ∀ i, lib.asI64 (lib.number i) = some i
  url : ∀ {text u}, lib.url.parse text = .ok u → lib.url.hasHost u = true →
    lib.url.hasHost (lib.url.strip u) = true ∧
    lib.url.strip (lib.url.strip u) = lib.url.strip u ∧
    lib.url.parse (lib.url.text (lib.url.strip u)) = .ok (lib.url.strip u)

theorem jwt_mem_proofAlgorithms (algorithm : DpopAlgorithm) :
    algorithm.jwt ∈ proofAlgorithms := by
  cases algorithm <;> decide

/-- No member of a public key is private. -/
theorem not_private {name : String} (h : name ∈ publicJwkMembers) : name ∉ privateJwkMembers := by
  have hdisjoint : publicJwkMembers.all (fun m => m ∉ privateJwkMembers) = true := by decide
  exact of_decide_eq_true (List.all_eq_true.mp hdisjoint name h)

section Proof

variable {lib : Library U E D} {key : DpopKey lib} {claims : ProofClaims} {proof : String}

theorem rejectPrivateJwkMembers_proof (sound : lib.Sound)
    (h : lib.encode key.header claims key.encoding = .ok proof) :
    rejectPrivateJwkMembers lib proof = .ok () := by
  obtain ⟨hpublic, -⟩ := sound.publicKey key.derived
  obtain ⟨decoded, document, hdecoded, hdocument, hmembers⟩ := sound.headerText h rfl hpublic
  have hnone : (privateJwkMembers.find? fun name =>
      name ∈ (jwkMembers document).map Prod.fst) = none := by
    rw [List.find?_eq_none]
    intro name hname hmem
    obtain ⟨m, hm, rfl⟩ := List.mem_map.mp (of_decide_eq_true hmem)
    exact not_private (hmembers m hm) hname
  simp only [rejectPrivateJwkMembers, bind_eq_ok, mapError_eq_ok]
  refine ⟨decoded, hdecoded, document, hdocument, ?_⟩
  rw [hnone]

/-- The verifier finds the claims that were signed. -/
theorem signedClaims_proof (sound : lib.Sound)
    (h : lib.encode key.header claims key.encoding = .ok proof) :
    signedClaims lib proof = .ok (key.algorithm.jwt, key.public_, claims.toValue lib.number) := by
  obtain ⟨hpublic, -⟩ := sound.publicKey key.derived
  obtain ⟨decodingKey, hkey, hdecode⟩ := sound.verifies key.derived rfl h
  simp only [signedClaims, bind_eq_ok, demand_eq_ok, mapError_eq_ok, okOr_eq_ok, pure, Except.pure,
    Except.ok.injEq]
  exact ⟨key.header, sound.header h, (), jwt_mem_proofAlgorithms _, (), rfl, key.public_, rfl, (),
    rejectPrivateJwkMembers_proof sound h, (), hpublic, decodingKey, hkey, _, hdecode, rfl⟩

end Proof

theorem stringClaim_toValue (number : Int64 → Number) (claims : ProofClaims) :
    stringClaim (claims.toValue number) "jti" = .ok (some claims.jti) ∧
    stringClaim (claims.toValue number) "htm" = .ok (some claims.htm) ∧
    stringClaim (claims.toValue number) "htu" = .ok (some claims.htu) ∧
    stringClaim (claims.toValue number) "ath" = .ok claims.ath ∧
    stringClaim (claims.toValue number) "nonce" = .ok claims.nonce := by
  obtain ⟨jti, htm, htu, iat, ath, nonce⟩ := claims
  cases ath <;> cases nonce <;>
    simp [stringClaim, ProofClaims.toValue, Json.member?, Json.members]

theorem member_iat_toValue (number : Int64 → Number) (claims : ProofClaims) :
    (claims.toValue number).member? "iat" = some (.num (number claims.iat)) := by
  obtain ⟨jti, htm, htu, iat, ath, nonce⟩ := claims
  cases ath <;> cases nonce <;>
    simp [ProofClaims.toValue, Json.member?, Json.members]

section Claims

variable {lib : Library U E D} {claims : ProofClaims}

theorem iatClaim_toValue (sound : lib.Sound) :
    iatClaim lib (claims.toValue lib.number) = .ok claims.iat := by
  simp only [iatClaim, bind_eq_ok, okOr_eq_ok]
  exact ⟨_, member_iat_toValue lib.number claims, sound.integer claims.iat⟩

/-- What was signed is read as it was stated. -/
theorem readClaims_toValue (sound : lib.Sound) {expectedHtm expectedHtu : String} {stated : Stated} :
    readClaims lib expectedHtm expectedHtu (claims.toValue lib.number) = .ok stated ↔
      claims.jti ≠ "" ∧ claims.htm = expectedHtm ∧
      ∃ htu, normalizeHtu lib claims.htu = .ok htu ∧ normalizeHtu lib expectedHtu = .ok htu ∧
        stated = ⟨claims.jti, claims.htm, htu, claims.iat, claims.ath, claims.nonce⟩ := by
  obtain ⟨hjti, hhtm, hhtu, hath, hnonce⟩ := stringClaim_toValue lib.number claims
  simp only [readClaims, hjti, hhtm, hhtu, hath, hnonce, iatClaim_toValue sound, bind_eq_ok,
    demand_eq_ok, mapError_eq_ok, okOr_eq_ok, pure, Except.pure, Except.ok.injEq]
  constructor
  · rintro ⟨_, rfl, jti, hne, _, rfl, htm, ⟨⟩, _, hm, _, rfl, _, ⟨⟩, htu, hu, want, hw, _, rfl, _,
      rfl, _, rfl, _, rfl, rfl⟩
    obtain ⟨hsome, hne⟩ := Option.filter_eq_some_iff.mp hne
    cases hsome
    exact ⟨of_decide_eq_true hne, hm, htu, hu, hw, rfl⟩
  · rintro ⟨hne, hm, htu, hu, hw, rfl⟩
    exact ⟨_, rfl, claims.jti, Option.filter_eq_some_iff.mpr ⟨rfl, decide_eq_true hne⟩, _, rfl,
      claims.htm, rfl, (), hm, _, rfl, claims.htu, rfl, htu, hu, htu, hw, (), rfl, claims.iat, rfl,
      claims.ath, rfl, claims.nonce, rfl, rfl⟩

/-- What was normalized stays as it is. -/
theorem normalizeHtu_normalizeHtu (sound : lib.Sound) {uri htu : String}
    (h : normalizeHtu lib uri = .ok htu) : normalizeHtu lib htu = .ok htu := by
  unfold normalizeHtu at h
  cases hparse : lib.url.parse uri with
  | error e =>
      rw [hparse] at h
      cases h
  | ok u =>
      by_cases hhost : lib.url.hasHost u = true
      · obtain ⟨hhost', hstrip, hagain⟩ := sound.url hparse hhost
        rw [hparse] at h
        simp only [hhost, if_true, Except.ok.injEq] at h
        rw [← h]
        simp only [normalizeHtu, hagain, hhost', if_true, hstrip]
      · rw [hparse] at h
        simp only [hhost, Bool.false_eq_true, if_false] at h
        cases h

end Claims

theorem newJti_ne {platform : Platform} {jti : String} (h : newJti platform = .ok jti) :
    jti ≠ "" := by
  unfold newJti at h
  cases hrandom : platform.random with
  | error e =>
      rw [hrandom] at h
      cases h
  | ok bytes =>
      rw [hrandom] at h
      obtain rfl := Except.ok.inj h
      have hlen : bytes.toList.length = 16 := by simp
      have hoctets : bytes.toList ≠ [] := by
        intro hnil
        rw [hnil] at hlen
        cases hlen
      intro hempty
      exact Base64.encodeUrl_ne_nil hoctets (by simpa using congrArg String.toList hempty)

section Bound

variable {lib : Library U E D} {key : DpopKey lib} {platform : Platform} {method uri proof : String}
  {options : DpopProofOptions}

theorem proof_eq_ok : key.proof platform method uri options = .ok proof ↔
    ∃ jti htu iat, newJti platform = .ok jti ∧ normalizeHtu lib uri = .ok htu ∧
      options.iat platform = .ok iat ∧
      lib.encode key.header ⟨jti, method, htu, iat, options.ath, options.nonce⟩ key.encoding =
        .ok proof := by
  simp only [DpopKey.proof, bind_eq_ok, mapError_eq_ok]
  constructor
  · rintro ⟨jti, hjti, htu, hhtu, iat, hiat, hencode⟩
    exact ⟨jti, htu, iat, hjti, hhtu, hiat, hencode⟩
  · rintro ⟨jti, htu, iat, hjti, hhtu, hiat, hencode⟩
    exact ⟨jti, hjti, htu, hhtu, iat, hiat, hencode⟩

/-- A distance in whole seconds is within an age when it is within its whole seconds. -/
theorem absDiff_le_secs {now iat : Int64} {age : Duration} :
    absDiff now iat ≤ age.secs ↔ 1000000000 * (now.toInt - iat.toInt).natAbs ≤ age.total := by
  have hnanos := age.nanos.isLt
  rw [UInt64.le_iff_toNat_le, toNat_absDiff, Duration.total]
  omega

theorem thumbprint_eq_ok {thumbprint : String} :
    key.thumbprint = .ok thumbprint ↔ lib.thumbprint key.public_ = .ok thumbprint := by
  simp only [DpopKey.thumbprint, mapError_eq_ok]

/-- When a proof of a key is accepted, and what is then said of it. -/
theorem verifyProof_proof (sound : lib.Sound) {jti htu : String} {iat : Int64} {thumbprint : String}
    (hjti : newJti platform = .ok jti) (hhtu : normalizeHtu lib uri = .ok htu)
    (hencode : lib.encode key.header ⟨jti, method, htu, iat, options.ath, options.nonce⟩
      key.encoding = .ok proof) (hthumbprint : lib.thumbprint key.public_ = .ok thumbprint)
    {sinceEpoch : Except String Duration} {expectedHtm expectedHtu : String}
    {verify : DpopVerifyOptions} {v : DpopProof} :
    verifyProof lib sinceEpoch proof expectedHtm expectedHtu verify = .ok v ↔
      method = expectedHtm ∧ normalizeHtu lib expectedHtu = .ok htu ∧
      (∃ now, verify.clock sinceEpoch = .ok now ∧ absDiff now iat ≤ verify.maxIatAge.secs) ∧
      (∀ e, verify.expectedAth = some e → options.ath = some e) ∧
      (∀ e, verify.expectedNonce = some e → options.nonce = some e) ∧
      (∀ e, verify.expectedJkt = some e → thumbprint = e) ∧
      v = ⟨dpopProofTyp, key.algorithm.jwt.debug, publicJwkOf key.public_, thumbprint, jti, method,
        htu, iat, options.ath, options.nonce⟩ := by
  have hsigned := signedClaims_proof sound hencode
  have hagain := normalizeHtu_normalizeHtu sound hhtu
  rw [verifyProof_eq_ok]
  constructor
  · rintro ⟨alg, jwk, claims, stated, now, t, hs, hr, hc, hw, ha, hn, ht, hj, rfl⟩
    rw [hsigned] at hs
    cases hs
    rw [hthumbprint] at ht
    cases ht
    obtain ⟨-, hm, htu', hu, hu', rfl⟩ := (readClaims_toValue sound).mp hr
    rw [hagain] at hu
    cases hu
    exact ⟨hm, hu', ⟨now, hc, hw⟩, meets_iff.mp ha, meets_iff.mp hn,
      fun e he => Option.some.inj (meets_iff.mp hj e he), rfl⟩
  · rintro ⟨hm, hu, ⟨now, hc, hw⟩, ha, hn, hj, rfl⟩
    refine ⟨_, _, _, _, now, thumbprint, hsigned, (readClaims_toValue sound).mpr
      ⟨newJti_ne hjti, hm, htu, hagain, hu, rfl⟩, hc, hw, meets_iff.mpr ha, meets_iff.mpr hn,
      hthumbprint, meets_iff.mpr fun e he => ?_, rfl⟩
    rw [hj e he]

/-- A bound proof is accepted exactly for its own method and URI, its own token and key,
while it is fresh, and with its nonce where one is expected; and the key it is said to be
signed with is the one that signed it. -/
theorem bound_proof_accepted_iff (sound : lib.Sound)
    (hproof : key.proof platform method uri options = .ok proof)
    (sinceEpoch : Except String Duration) (expectedHtm expectedHtu accessToken jkt : String)
    (verify : DpopVerifyOptions) :
    ((∃ v, verifyBoundProof lib sinceEpoch proof expectedHtm expectedHtu accessToken jkt verify =
        .ok v) ↔
      method = expectedHtm ∧
      (∃ htu, normalizeHtu lib uri = .ok htu ∧ normalizeHtu lib expectedHtu = .ok htu) ∧
      (∃ now iat, verify.clock sinceEpoch = .ok now ∧ options.iat platform = .ok iat ∧
        1000000000 * (now.toInt - iat.toInt).natAbs ≤ verify.maxIatAge.total) ∧
      options.ath = some (ath lib accessToken) ∧
      (∀ nonce, verify.expectedNonce = some nonce → options.nonce = some nonce) ∧
      key.thumbprint = .ok jkt) ∧
    ∀ v, verifyBoundProof lib sinceEpoch proof expectedHtm expectedHtu accessToken jkt verify =
      .ok v → key.thumbprint = .ok v.thumbprint := by
  obtain ⟨jti, htu, iat, hjti, hhtu, hiat, hencode⟩ := proof_eq_ok.mp hproof
  obtain ⟨-, thumbprint, hthumbprint⟩ := sound.publicKey key.derived
  have hkey := thumbprint_eq_ok.mpr hthumbprint
  constructor
  · constructor
    · rintro ⟨v, hv⟩
      obtain ⟨hm, hu, ⟨now, hc, hw⟩, ha, hn, hj, -⟩ :=
        (verifyProof_proof sound hjti hhtu hencode hthumbprint).mp hv
      rw [hj jkt rfl] at hkey
      exact ⟨hm, ⟨htu, hhtu, hu⟩, ⟨now, iat, hc, hiat, absDiff_le_secs.mp hw⟩, ha _ rfl, hn, hkey⟩
    · rintro ⟨hm, ⟨htu', hu, hu'⟩, ⟨now, iat', hc, hi, hw⟩, ha, hn, ht⟩
      rw [hhtu] at hu
      cases hu
      rw [hiat] at hi
      cases hi
      rw [hkey] at ht
      cases ht
      refine ⟨_, (verifyProof_proof sound hjti hhtu hencode hthumbprint).mpr
        ⟨hm, hu', ⟨now, hc, absDiff_le_secs.mpr hw⟩, ?_, hn, ?_, rfl⟩⟩
      · rintro e ⟨⟩
        exact ha
      · rintro e ⟨⟩
        rfl
  · intro v hv
    obtain ⟨-, -, -, -, -, -, rfl⟩ := (verifyProof_proof sound hjti hhtu hencode hthumbprint).mp hv
    exact hkey

end Bound

/-- A literal without a point or an exponent is an integer, if it has 64 bits and is not the
negative zero. -/
def integerOf (n : Number) : Option Int64 :=
  if n.fraction = [] ∧ n.exponent = none then
    let value : ℤ := digitsValue n.whole
    if n.negative = true then if value ≠ 0 ∧ value ≤ 2 ^ 63 then some (Int64.ofInt (-value)) else none
    else if value < 2 ^ 63 then some (Int64.ofInt value) else none
  else none

theorem integerOf_integerLiteral (i : Int64) : integerOf (integerLiteral i) = some i := by
  have hlower := Int64.le_toInt i
  have hupper := Int64.toInt_lt i
  unfold integerLiteral
  by_cases hzero : i.toInt.natAbs = 0
  · have hi : i = 0 := Int64.toInt_inj.mp (by simpa using hzero)
    rw [dif_pos hzero, hi]
    decide
  · rw [dif_neg hzero]
    unfold integerOf
    rw [if_pos ⟨rfl, rfl⟩]
    simp only [digitsValue_decimals, decide_eq_true_eq]
    by_cases hneg : i.toInt < 0
    · have hvalue : -(i.toInt.natAbs : ℤ) = i.toInt := by omega
      rw [if_pos hneg, if_pos (by omega), hvalue, Int64.ofInt_toInt]
    · have hvalue : (i.toInt.natAbs : ℤ) = i.toInt := by omega
      rw [if_neg hneg, if_pos (by omega), hvalue, Int64.ofInt_toInt]

def sampleKeyText : String := "gOyNSPMCSgKYfSJOVyQE3sJrr4AZ2eaY7Gr6IvYVNYM"

def sampleX : String := "R1_cAR40t8_oOmoq64DJKyCn_wp_M-31Vxx1KavGTtg"

def sampleY : String := "dkMh8R65lFQdtRvkgJ2Ebqp7IcAjS2xhCAUNAHyRaDI"

def sampleJwk : Jwk := { algorithm := .ellipticCurve .p256 sampleX sampleY }

def sampleToken : String := "Kz~8mXK1EalYznwH-LC-1fBAo.4Ljp~zsPE_NeO.gxU"

/-- The hash of the token. -/
def sampleDigest : List UInt8 :=
  [125, 65, 242, 59, 106, 246, 103, 112, 217, 231, 113, 44, 54, 181, 129, 111, 
   76, 86, 94, 134, 141, 203, 159, 72, 136, 160, 128, 170, 75, 38, 64, 74]

def sampleHtu : String := "https://resource.example.com/userinfo"

def sampleHeader : Header := ⟨some dpopProofTyp, .ES256, some sampleJwk⟩

def sampleClaims : ProofClaims where
  jti := "EBESExQVFhcYGRobHB0eHw"
  htm := "GET"
  htu := sampleHtu
  iat := 1732200000
  ath := some "fUHyO2r2Z3DZ53EsNrWBb0xWXoaNy59IiKCAqksmQEo"
  nonce := none

/-- The first segment of the proof. -/
def sampleHeaderText : String :=
  "eyJ0eXAiOiJkcG9wK2p3dCIsImFsZyI6IkVTMjU2IiwiandrIjp7ImFsZyI6IkVTMjU2Iiwia3R5Ijoi" ++
    "RUMiLCJjcnYiOiJQLTI1NiIsIngiOiJSMV9jQVI0MHQ4X29PbW9xNjRESkt5Q25fd3BfTS0zMVZ4eDFL" ++
    "YXZHVHRnIiwieSI6ImRrTWg4UjY1bEZRZHRSdmtnSjJFYnFwN0ljQWpTMnhoQ0FVTkFIeVJhREkifX0"

def sampleHeaderDocument : Json :=
  .obj [("typ", .str dpopProofTyp), ("alg", .str "ES256"),
    ("jwk", .obj [("alg", .str "ES256"), ("kty", .str "EC"), ("crv", .str "P-256"),
      ("x", .str sampleX), ("y", .str sampleY)])]

def sampleHeaderOctets : List UInt8 :=
  ("\x7b\"typ\":\"dpop+jwt\",\"alg\":\"ES256\",\"jwk\":\x7b\"alg\":\"E" ++
    "S256\",\"kty\":\"EC\",\"crv\":\"P-256\",\"x\":\"R1_cAR40t8_oOmoq64DJKyCn_wp" ++
    "_M-31Vxx1KavGTtg\",\"y\":\"dkMh8R65lFQdtRvkgJ2Ebqp7IcAjS2xhCAUNAHyRaDI\"\x7d\x7d").toUTF8.toList

def samplePayloadText : String :=
  "eyJqdGkiOiJFQkVTRXhRVkZoY1lHUm9iSEIwZUh3IiwiaHRtIjoiR0VUIiwiaHR1IjoiaHR0cHM6Ly9y" ++
    "ZXNvdXJjZS5leGFtcGxlLmNvbS91c2VyaW5mbyIsImlhdCI6MTczMjIwMDAwMCwiYXRoIjoiZlVIeU8y" ++
    "cjJaM0RaNTNFc05yV0JiMHhXWG9hTnk1OUlpS0NBcWtzbVFFbyJ9"

def sampleSignatureText : String :=
  "eUbJevUnH2pp98Z-pEEfZ1C-t1_eCt0kRrni6tcWUeizoM2Ka9E2dpVjx6YSWElkHMpepdC0BN00lR21" ++
    "tDL1Ag"

def sampleProof : String :=
  String.ofList (sampleHeaderText.toList ++ '.' :: (samplePayloadText.toList ++
    '.' :: sampleSignatureText.toList))

/-- The libraries, as far as that proof, its key and its token are concerned. -/
def sampleLibrary : Library String String (String × String) where
  url := {
    parse := fun text =>
      if text = sampleHtu ∨ text = sampleHtu ++ "?fields=email" then .ok text
      else .error "relative URL without a base"
    hasHost := fun _ => true
    setQuery := fun _ _ => sampleHtu
    setFragment := fun u _ => u
    setUsername := fun u _ => some u
    setPassword := fun u _ => some u
    text := fun u => u }
  debug s := "\"" ++ s ++ "\""
  display _ := "1732200000"
  number := integerLiteral
  asI64 := integerOf
  sha256 octets := if octets = sampleToken.toUTF8.toList then sampleDigest else []
  base64 text :=
    if text = sampleHeaderText then .ok sampleHeaderOctets else .error "Invalid symbol"
  document octets :=
    if octets = sampleHeaderOctets then .ok sampleHeaderDocument else .error "expected value"
  fromEncodingKey key algorithm :=
    if key = sampleKeyText ∧ algorithm = .ES256 then .ok sampleJwk else .error "InvalidEcdsaKey"
  fromJwk jwk :=
    if jwk = sampleJwk then .ok (sampleX, sampleY) else .error "InvalidKeyFormat"
  thumbprint jwk :=
    if jwk = sampleJwk then .ok "x4bBYZ9vUTI9MboLfj1FuSMrI-sh5I8nTTPhZCHmDac"
    else .error "InvalidKeyFormat"
  encode header claims key :=
    if header = sampleHeader ∧ claims = sampleClaims ∧ key = sampleKeyText then .ok sampleProof
    else .error "InvalidKeyFormat"
  decodeHeader proof :=
    if proof = sampleProof then .ok sampleHeader else .error "InvalidToken"
  decode proof key algorithm :=
    if proof = sampleProof ∧ key = (sampleX, sampleY) ∧ algorithm = .ES256 then
      .ok (sampleClaims.toValue integerLiteral)
    else .error "InvalidSignature"

/-- The characters of a literal are read from the literal. -/
theorem all_toList_ofList {p : Char → Bool} {s : List Char} (h : s.all p = true) :
    (String.ofList s).toList.all p = true := by
  rw [String.toList_ofList]
  exact h

theorem sampleLibrary_sound : sampleLibrary.Sound where
  header := by
    intro header claims encoding proof hencode
    simp only [sampleLibrary] at hencode ⊢
    split at hencode
    · rename_i h
      obtain rfl := Except.ok.inj hencode
      rw [if_pos rfl, h.1]
    · cases hencode
  headerText := by
    intro header claims encoding proof jwk hencode hjwk hpublic
    simp only [sampleLibrary] at hencode ⊢
    split at hencode
    · obtain rfl := Except.ok.inj hencode
      have hfirst : (segments sampleProof).headD "" = sampleHeaderText := by
        have hall : (sampleHeaderText.toList.all fun c => !decide (c = '.')) = true := by
          unfold sampleHeaderText
          rw [String.toList_append, String.toList_append, List.all_append, List.all_append,
            Bool.and_eq_true, Bool.and_eq_true]
          exact ⟨⟨all_toList_ofList (by decide), all_toList_ofList (by decide)⟩,
            all_toList_ofList (by decide)⟩
        have hdots : ∀ c ∈ sampleHeaderText.toList, decide (c = '.') = false := by
          simpa using List.all_eq_true.mp hall
        unfold segments sampleProof
        rw [String.toList_ofList, List.splitOnP_append_cons _ _ (by decide),
          List.splitOnP_eq_singleton hdots]
        simp
      rw [hfirst, if_pos rfl]
      refine ⟨_, sampleHeaderDocument, rfl, if_pos rfl, ?_⟩
      decide
    · cases hencode
  verifies := by
    intro header claims encoding proof algorithm jwk hderived halg hencode
    simp only [sampleLibrary] at hderived hencode ⊢
    split at hderived
    · rename_i h
      cases hderived
      split at hencode
      · rename_i h'
        obtain rfl := Except.ok.inj hencode
        rw [h'.2.1]
        refine ⟨(sampleX, sampleY), if_pos rfl, if_pos ⟨rfl, rfl, h.2⟩⟩
      · cases hencode
    · cases hderived
  publicKey := by
    intro encoding algorithm jwk hderived
    simp only [sampleLibrary] at hderived ⊢
    split at hderived
    · cases hderived
      exact ⟨rfl, _, if_pos rfl⟩
    · cases hderived
  integer := integerOf_integerLiteral
  url := by
    intro text u hparse hhost
    refine ⟨rfl, rfl, ?_⟩
    simp [sampleLibrary, UrlCrate.strip]

def sampleKey : DpopKey sampleLibrary :=
  ⟨.es256, sampleKeyText, sampleJwk, by simp [sampleLibrary, DpopAlgorithm.jwt]⟩

def samplePlatform : Platform where
  random := .ok #v[16, 17, 18, 19, 20, 21, 22, 23, 24, 25, 26, 27, 28, 29, 30, 31]
  sinceEpoch := .ok ⟨1732200000, 0⟩

def sampleOptions : DpopProofOptions :=
  ({} : DpopProofOptions).accessToken sampleLibrary sampleToken

theorem ath_sampleToken :
    ath sampleLibrary sampleToken = "fUHyO2r2Z3DZ53EsNrWBb0xWXoaNy59IiKCAqksmQEo" := by
  unfold ath
  simp only [sampleLibrary, if_true]
  decide

theorem normalizeHtu_sampleHtu : normalizeHtu sampleLibrary sampleHtu = .ok sampleHtu := by
  simp [normalizeHtu, sampleLibrary, UrlCrate.strip]

theorem sampleClaims_encoded :
    sampleLibrary.encode sampleKey.header
      ⟨sampleClaims.jti, "GET", sampleHtu, 1732200000, sampleOptions.ath, sampleOptions.nonce⟩
      sampleKey.encoding = .ok sampleProof := by
  rw [sampleOptions, DpopProofOptions.accessToken, ath_sampleToken]
  simp [sampleLibrary, sampleKey, DpopKey.header, sampleHeader, sampleClaims, DpopAlgorithm.jwt]

theorem newJti_samplePlatform : newJti samplePlatform = .ok sampleClaims.jti := by
  decide

theorem sampleProof_made :
    sampleKey.proof samplePlatform "GET" (sampleHtu ++ "?fields=email") sampleOptions =
      .ok sampleProof := by
  refine proof_eq_ok.mpr ⟨sampleClaims.jti, sampleHtu, 1732200000, newJti_samplePlatform, ?_, rfl,
    sampleClaims_encoded⟩
  simp [normalizeHtu, sampleLibrary, UrlCrate.strip]

theorem thumbprint_sampleKey :
    sampleKey.thumbprint = .ok "x4bBYZ9vUTI9MboLfj1FuSMrI-sh5I8nTTPhZCHmDac" := by
  rw [thumbprint_eq_ok]
  simp [sampleLibrary, sampleKey]

/-- A minute later the proof is still accepted, with the token it was made for. -/
theorem sample_proof_accepted :
    ∃ v, verifyBoundProof sampleLibrary (.ok ⟨1732200060, 999⟩) sampleProof "GET" sampleHtu
      sampleToken "x4bBYZ9vUTI9MboLfj1FuSMrI-sh5I8nTTPhZCHmDac" {} = .ok v := by
  refine (bound_proof_accepted_iff sampleLibrary_sound sampleProof_made _ _ _ _ _ _).1.mpr
    ⟨rfl, ⟨sampleHtu, ?_, normalizeHtu_sampleHtu⟩,
      ⟨1732200060, 1732200000, rfl, rfl, by decide⟩, rfl, ?_, thumbprint_sampleKey⟩
  · simp [normalizeHtu, sampleLibrary, UrlCrate.strip]
  · intro nonce h
    cases h

end IdentityModel.RustDpop
