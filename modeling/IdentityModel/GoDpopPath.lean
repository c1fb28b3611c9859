import IdentityModel.FormsRoundTrip
import IdentityModel.GoDpopProof
import IdentityModel.HtuPaths

/-!
# The path a DPoP proof in Go is bound to

What `Key.Proof` signs, `VerifyProof` reads back, and both write the path decoded and encoded
again. So a proof for one resource is a proof for every other whose path decodes to the same
bytes, however the two are escaped.
-/
namespace IdentityModel.GoUrl

open Url Percent Whatwg

/-- `validEncoded` of a path. -/
def validEncoded (s : List Char) : Bool :=
  s.all fun c =>
    c ∈ ['!', '$', '&', '\'', '(', ')', '*', '+', ',', ';', '=', ':', '@', '[', ']', '%'] ||
      isAscii c && !shouldEscape c.toNat .path

/-- `URL.EscapedPath` of an absolute URI and what it was parsed to. `Parse` keeps the path as it
is written where it is not the default encoding of what it decodes to. -/
def escapedPath (uri : String) (u : URL) : List Char :=
  let raw := pathOf uri.toList
  if raw ≠ escape .path u.path ∧ validEncoded raw = true then raw else u.escapedPath

variable {bytes bytes' : List ℕ} {s : List Char}

theorem unquoteToBytes_escape_path (h : ∀ b ∈ bytes, b < 256) :
    Forms.unquoteToBytes (escape .path bytes) = bytes := by
  induction bytes with
  | nil => rfl
  | cons b bytes ih =>
      have hb := h b List.mem_cons_self
      have hrest := ih fun x hx => h x (List.mem_cons_of_mem b hx)
      rw [GoUrl.escape, List.flatMap_cons]
      change Forms.unquoteToBytes (_ ++ escape .path bytes) = _
      cases hescape : shouldEscape b .path with
      | true =>
          rw [if_pos rfl, escapeByte]
          exact (Forms.unquoteToBytes_escape hb _).trans (congrArg _ hrest)
      | false =>
          have hlow : b < 128 := by
            by_contra hhigh
            rw [shouldEscape_high .path (by omega) hb] at hescape
            cases hescape
          have hnat : (Char.ofNat b).toNat = b := by
            rw [Char.ofNat, dif_pos (.inl (by omega))]
            rfl
          rw [if_neg Bool.false_ne_true, List.singleton_append,
            Forms.unquoteToBytes_cons (HtuPaths.ofNat_ne_percent hescape), hrest, hnat]

/-- Every escape of a path survives. -/
theorem escape_path_inj (h : ∀ b ∈ bytes, b < 256) (h' : ∀ b ∈ bytes', b < 256) :
    escape .path bytes = escape .path bytes' ↔ bytes = bytes' := by
  constructor
  · intro heq
    rw [← unquoteToBytes_escape_path h, heq, unquoteToBytes_escape_path h']
  · rintro rfl
    rfl

theorem Unescapes.lt {mode : Encoding} (h : Unescapes mode s bytes) : ∀ b ∈ bytes, b < 256 := by
  induction h with
  | nil => simp
  | @escape a b x y rest bytes hx hy hok hrest ih =>
      have hlt := (hexDigit_lt hx).1
      have hlt' := (hexDigit_lt hy).1
      intro z hz
      obtain rfl | hz := List.mem_cons.mp hz
      · omega
      · exact ih z hz
  | char hc hok hrest ih =>
      intro z hz
      obtain hz | hz := List.mem_append.mp hz
      · exact utf8_lt hz
      · exact ih z hz

section Absolute

variable {ipv6 : List ℕ → Bool} {uri : String} {u u' : URL}

/-- The path of an absolute URI is empty or begins with a slash, and its bytes are bytes. -/
theorem path_of_parse (h : parse ipv6 uri.toList = .ok u) (hscheme : u.scheme ≠ [])
    (hhost : u.host ≠ []) :
    (u.path = [] ∨ u.path.head? = some 47) ∧ ∀ b ∈ u.path, b < 256 := by
  obtain ⟨-, -, -, -, -, hbegins, -, -, -, hpath⟩ := parse_texts h hscheme hhost
  refine ⟨?_, (unescapes hpath).lt⟩
  cases hraw : pathOf uri.toList with
  | nil =>
      rw [hraw] at hpath
      exact .inl (Except.ok.inj hpath).symm
  | cons c rest =>
      rw [hraw] at hpath hbegins
      rw [hbegins c rfl] at hpath
      exact .inr ((unescapes hpath).head_slash rfl)

theorem string_eq (hscheme : u.scheme ≠ []) (hhost : u.host ≠ [])
    (hpath : u.path = [] ∨ u.path.head? = some 47) :
    u.string = u.scheme ++ [':', '/', '/'] ++ escape .host u.host ++ escape .path u.path := by
  obtain hnil | hslash := hpath
  · have hempty : u.escapedPath = [] := by
      rw [URL.escapedPath, hnil]
      rfl
    rw [URL.string, hempty, hnil]
    simp [hscheme, hhost, GoUrl.escape]
  · exact string_of_slash hscheme hhost hslash

/-- Of URIs with the same scheme and host, those with the same path are written alike. -/
theorem string_inj (h : parse ipv6 uri.toList = .ok u) {uri' : String}
    (h' : parse ipv6 uri'.toList = .ok u') (hscheme : u.scheme ≠ []) (hhost : u.host ≠ [])
    (heqScheme : u'.scheme = u.scheme) (heqHost : u'.host = u.host) :
    u.string = u'.string ↔ u.path = u'.path := by
  have hscheme' : u'.scheme ≠ [] := heqScheme ▸ hscheme
  have hhost' : u'.host ≠ [] := heqHost ▸ hhost
  obtain ⟨hform, hlt⟩ := path_of_parse h hscheme hhost
  obtain ⟨hform', hlt'⟩ := path_of_parse h' hscheme' hhost'
  rw [string_eq hscheme hhost hform, string_eq hscheme' hhost' hform', heqScheme, heqHost,
    List.append_cancel_left_eq, escape_path_inj hlt hlt']

end Absolute

end IdentityModel.GoUrl

namespace IdentityModel.GoDpop

open GoUrl Results

variable {K P S J : Type}

/-- What is relied on of the libraries: what a key signs is parsed as a JWS with one signature,
whose header has the type and the public half of the key; under this half it is verified as the
payload that was signed. Such a key has a thumbprint. -/
structure Library.Sound (lib : Library K P S J) : Prop where
  signed : ∀ {alg jwk signer jws proof} {claims : ProofClaims},
    validateKeyType lib jwk alg = .ok () → lib.newSigner alg jwk ⟨true, dpopTyp⟩ = .ok signer →
    lib.sign signer claims.marshal = .ok jws → lib.compactSerialize jws = .ok proof →
    ∃ parsed sig public_ tp, lib.parseSigned proof asymmetricSigAlgs = .ok parsed ∧
      lib.signatures parsed = [sig] ∧ sig.jsonWebKey = some public_ ∧
      sig.typ = some (.str dpopTyp) ∧ lib.isPublic public_ = true ∧
      lib.publicKind public_ ≠ .other ∧ lib.verify parsed public_ = .ok (.ok claims.marshal) ∧
      lib.thumbprint public_ = .ok tp

section Verify

variable {lib : Library K P S J} {k : Key lib} {claims : ProofClaims} {proof : String}

theorem signClaims_eq_ok : k.signClaims claims = .ok proof ↔
    ∃ signer jws, lib.newSigner k.alg k.jwk ⟨true, dpopTyp⟩ = .ok signer ∧
      lib.sign signer claims.marshal = .ok jws ∧ lib.compactSerialize jws = .ok proof := by
  simp only [Key.signClaims, bind_eq_ok, mapError_eq_ok]
  constructor
  · rintro ⟨signer, hsigner, jws, hjws, hproof⟩
    exact ⟨signer, jws, hsigner, hjws, hproof⟩
  · rintro ⟨signer, jws, hsigner, hjws, hproof⟩
    exact ⟨signer, hsigner, jws, hjws, hproof⟩

theorem proof_eq_ok {platform : Platform} {method uri : String} {opts : List ProofOption} :
    k.proof platform method uri opts = .ok proof ↔
      ∃ htu jti, normalizeHTU lib.ipv6 uri = .ok htu ∧ newJTI platform = .ok jti ∧
        k.signClaims ⟨jti, method, htu, unixSeconds (proofConfig platform opts).now,
          (proofConfig platform opts).ath, (proofConfig platform opts).nonce⟩ = .ok proof := by
  simp only [Key.proof, bind_eq_ok, mapError_eq_ok]
  constructor
  · rintro ⟨htu, hhtu, jti, hjti, hproof⟩
    exact ⟨htu, jti, hhtu, hjti, hproof⟩
  · rintro ⟨htu, jti, hhtu, hjti, hproof⟩
    exact ⟨htu, hhtu, jti, hjti, hproof⟩

theorem newJTI_ne {platform : Platform} {jti : String} (h : newJTI platform = .ok jti) :
    jti ≠ "" := by
  unfold newJTI at h
  split at h
  · cases h
  · next b _ =>
      obtain rfl := Except.ok.inj h
      have hlen : b.toList.length = 16 := by simp
      have hoctets : b.toList ≠ [] := by
        intro hnil
        rw [hnil] at hlen
        cases hlen
      intro hempty
      exact Base64.encodeUrl_ne_nil hoctets (by simpa using congrArg String.toList hempty)

/-- The verifier finds the claims that were signed, under a key with a thumbprint. -/
theorem signedClaims_proof (sound : lib.Sound) (h : k.signClaims claims = .ok proof) :
    ∃ sig jwk tp, signedClaims lib proof = .ok (sig, jwk, claims) ∧ lib.thumbprint jwk = .ok tp := by
  obtain ⟨signer, jws, hsigner, hjws, hproof⟩ := signClaims_eq_ok.mp h
  obtain ⟨parsed, sig, jwk, tp, hparsed, hsignatures, hjwk, htyp, hpublic, hkind, hverify, htp⟩ :=
    sound.signed k.valid hsigner hjws hproof
  have hparse : parseProof lib proof = .ok parsed := by rw [parseProof, hparsed]
  have honly : onlySignature lib parsed = .ok sig := by rw [onlySignature, hsignatures]
  have hembedded : embeddedJWK lib sig = .ok jwk := by
    simp only [embeddedJWK, hjwk]
    rw [if_neg (by rw [hpublic]; decide), if_neg hkind]
  have htypText : sig.typText = dpopTyp := by
    rw [Signature.typText, htyp]
    rfl
  refine ⟨sig, jwk, tp, ?_, htp⟩
  simp only [signedClaims, bind_eq_ok, mapError_eq_ok, ensure_eq_ok]
  exact ⟨parsed, hparse, sig, honly, jwk, hembedded, (), htypText, .ok claims.marshal, hverify,
    claims, unmarshal_marshal claims, rfl⟩

/-- A proof is accepted when its claims pass. -/
theorem verifyProof_proof (sound : lib.Sound) (h : k.signClaims claims = .ok proof) (now : ℤ)
    (expectedHTM expectedHTU : String) (opts : List VerifyOption) :
    (∃ v, verifyProof lib now proof expectedHTM expectedHTU opts = .ok v) ↔
      checkClaims lib (verifyConfig now opts) claims expectedHTM expectedHTU = .ok () := by
  obtain ⟨sig, jwk, tp, hsigned, htp⟩ := signedClaims_proof sound h
  simp only [verifyProof, bind_eq_ok, mapError_eq_ok]
  constructor
  · rintro ⟨v, ⟨sig', jwk', claims'⟩, hsigned', ⟨⟩, hcheck, -⟩
    rw [hsigned] at hsigned'
    cases hsigned'
    exact hcheck
  · intro hcheck
    exact ⟨_, (sig, jwk, claims), hsigned, (), hcheck, tp, htp, rfl⟩

theorem checkClaims_eq_ok {cfg : VerifyConfig} {expectedHTM expectedHTU : String} :
    checkClaims lib cfg claims expectedHTM expectedHTU = .ok () ↔
      claims.jti ≠ "" ∧ claims.htm = expectedHTM ∧
      normalizeHTU lib.ipv6 expectedHTU = .ok claims.htu ∧ claims.iat ≠ 0 ∧
      ¬(cfg.maxIATAge < sub cfg.now (unixTime claims.iat) ∨
        sub cfg.now (unixTime claims.iat) < -cfg.maxIATAge) ∧
      (cfg.haveExpectAth = true → claims.ath = cfg.expectAth) ∧
      (cfg.haveNonce = true → claims.nonce = cfg.expectNonce) := by
  simp only [checkClaims, bind_eq_ok, mapError_eq_ok, ensure_eq_ok]
  constructor
  · rintro ⟨_, hjti, _, hhtm, htu, hhtu, _, rfl, _, hiat, _, hage, _, hath, hnonce⟩
    exact ⟨hjti, hhtm, hhtu, hiat, hage, hath, hnonce⟩
  · rintro ⟨hjti, hhtm, hhtu, hiat, hage, hath, hnonce⟩
    exact ⟨(), hjti, (), hhtm, _, hhtu, (), rfl, (), hiat, (), hage, (), hath, hnonce⟩

end Verify

theorem normalizeHTU_of_parse {ipv6 : List ℕ → Bool} {uri : String} {u : URL}
    (h : parse ipv6 uri.toList = .ok u) (hscheme : u.scheme ≠ []) (hhost : u.host ≠ []) :
    normalizeHTU ipv6 uri = .ok (String.ofList u.string) := by
  simp only [normalizeHTU, h]
  rw [if_neg (not_or.mpr ⟨hscheme, hhost⟩)]

/-- Of two URIs with the same scheme and host, a proof for one is never a proof for the other,
exactly if their paths decode to different bytes, or the clock stood at the epoch when the
proof was made, or the paths are escaped alike and there is nothing to tell apart. -/
theorem proof_binds_path {lib : Library K P S J} (sound : lib.Sound) {k : Key lib}
    {platform : Platform} {method uri uri' proof : String} {opts : List ProofOption} {u u' : URL}
    (hu : parse lib.ipv6 uri.toList = .ok u) (hu' : parse lib.ipv6 uri'.toList = .ok u')
    (hscheme : u.scheme ≠ []) (hhost : u.host ≠ []) (heqScheme : u'.scheme = u.scheme)
    (heqHost : u'.host = u.host) (hproof : k.proof platform method uri opts = .ok proof) :
    (escapedPath uri u ≠ escapedPath uri' u' → ∀ now expectedHTM verify v,
        verifyProof lib now proof expectedHTM uri' verify ≠ .ok v) ↔
      escapedPath uri u = escapedPath uri' u' ∨ u.path ≠ u'.path ∨
        unixSeconds (proofConfig platform opts).now = 0 := by
  obtain ⟨htu, jti, hhtu, hjti, hsigned⟩ := proof_eq_ok.mp hproof
  have hhtu' := normalizeHTU_of_parse hu' (heqScheme ▸ hscheme) (heqHost ▸ hhost)
  rw [normalizeHTU_of_parse hu hscheme hhost] at hhtu
  obtain rfl := Except.ok.inj hhtu
  have hpath := string_inj hu hu' hscheme hhost heqScheme heqHost
  constructor
  · intro hnever
    by_contra hno
    obtain ⟨hescaped, hsame, hiat⟩ : escapedPath uri u ≠ escapedPath uri' u' ∧ u.path = u'.path ∧
        unixSeconds (proofConfig platform opts).now ≠ 0 := by
      simpa only [not_or, not_not] using hno
    have hage : ¬(defaultMaxIATAge < 0 ∨ 0 < -defaultMaxIATAge) := by decide
    -- a server whose clock reads what the proof says accepts it
    obtain ⟨v, hv⟩ := (verifyProof_proof sound hsigned
      (unixTime (unixSeconds (proofConfig platform opts).now)) method uri' []).mpr
      (checkClaims_eq_ok.mpr ⟨newJTI_ne hjti, rfl, by rw [hhtu', hpath.mpr hsame], hiat,
        by rw [verifyConfig, List.foldl_nil, sub_self]; exact hage, nofun, nofun⟩)
    exact hnever hescaped _ _ _ v hv
  · rintro hcase hescaped now expectedHTM verify v hv
    obtain ⟨-, -, hwant, hiat, -⟩ :=
      checkClaims_eq_ok.mp ((verifyProof_proof sound hsigned now expectedHTM uri' verify).mp ⟨v, hv⟩)
    rw [hhtu'] at hwant
    have hsame : u.path = u'.path :=
      hpath.mp (String.ofList_injective (Except.ok.inj hwant)).symm
    obtain heq | hne | hzero := hcase
    · exact hescaped heq
    · exact hne hsame
    · exact hiat hzero

def samplePrivate : String := "gOyNSPMCSgKYfSJOVyQE3sJrr4AZ2eaY7Gr6IvYVNYM"

/-- The coordinates of the public key. -/
def samplePublic : String × String :=
  ("R1_cAR40t8_oOmoq64DJKyCn_wp_M-31Vxx1KavGTtg", "dkMh8R65lFQdtRvkgJ2Ebqp7IcAjS2xhCAUNAHyRaDI")

def sampleClaims : ProofClaims where
  jti := "EBESExQVFhcYGRobHB0eHw"
  htm := "GET"
  htu := "https://rs/a/b"
  iat := 1732200000

def sampleProof : String :=
  "eyJhbGciOiJFUzI1NiIsImp3ayI6eyJrdHkiOiJFQyIsImNydiI6IlAtMjU2IiwieCI6IlIxX2NBUjQwdDhfb09t" ++
    "b3E2NERKS3lDbl93cF9NLTMxVnh4MUthdkdUdGciLCJ5IjoiZGtNaDhSNjVsRlFkdFJ2a2dKMkVicXA3SWNBalMy" ++
    "eGhDQVVOQUh5UmFESSJ9LCJ0eXAiOiJkcG9wK2p3dCJ9.eyJqdGkiOiJFQkVTRXhRVkZoY1lHUm9iSEIwZUh3Iiw" ++
    "iaHRtIjoiR0VUIiwiaHR1IjoiaHR0cHM6Ly9ycy9hL2IiLCJpYXQiOjE3MzIyMDAwMDB9.ripfYdd3IPsHnxkPVA" ++
    "lwi9GP549vimy3ULHC7Edc6XK0wg1jEIw90J1wDfzVgZai_GLT6t5T_zvkqgHGCo4aBg"

def sampleThumbprint : List UInt8 :=
  [199, 134, 193, 97, 159, 111, 81, 50, 61, 49, 186, 11, 126, 61, 69, 185, 35, 43, 35, 235, 33,
    228, 143, 39, 77, 51, 225, 100, 33, 230, 13, 167]

/-- The libraries, as far as that proof and its key are concerned. -/
def sampleLibrary : Library String (String × String) Unit Json where
  quote s := "\"" ++ s ++ "\""
  urlError s _ := "parse \"" ++ s ++ "\": invalid URL"
  ipv6 _ := true
  sha256 _ := []
  base64 _ := .error "illegal base64 data at input byte 0"
  document _ := .error "unexpected end of JSON input"
  keyKind _ := .ecdsa true
  keyType _ := "*ecdsa.PrivateKey"
  newSigner alg key options :=
    if alg = ES256 ∧ key = samplePrivate ∧ options = ⟨true, dpopTyp⟩ then .ok ()
    else .error "go-jose/go-jose: unsupported key type/format"
  sign _ payload :=
    if payload = sampleClaims.marshal then .ok payload else .error "go-jose/go-jose: crypto error"
  compactSerialize _ := .ok sampleProof
  parseSigned proof algs :=
    if proof = sampleProof ∧ ES256 ∈ algs then .ok sampleClaims.marshal
    else .error "go-jose/go-jose: compact JWS format must have three parts"
  signatures _ := [⟨some samplePublic, ES256, some (.str dpopTyp)⟩]
  verify payload key :=
    if key = samplePublic then .ok (.ok payload)
    else .error "go-jose/go-jose: error in cryptographic primitive"
  isPublic _ := true
  publicKind _ := .ecdsa
  thumbprint key := if key = samplePublic then .ok sampleThumbprint else .error "invalid EC key"

theorem sampleLibrary_sound : sampleLibrary.Sound where
  signed := by
    intro alg jwk signer jws proof claims _ _ hsign hproof
    obtain rfl := Except.ok.inj hproof
    refine ⟨sampleClaims.marshal, ⟨some samplePublic, ES256, some (.str dpopTyp)⟩, samplePublic,
      sampleThumbprint, ?_, rfl, rfl, rfl, rfl, nofun, ?_, ?_⟩
    · have halg : ES256 ∈ asymmetricSigAlgs := by decide
      simp only [sampleLibrary, halg, and_self, if_true]
    · simp only [sampleLibrary] at hsign
      split at hsign
      · next hpayload => simp only [sampleLibrary, hpayload, if_true]
      · cases hsign
    · simp only [sampleLibrary, if_true]

def sampleKey : Key sampleLibrary := ⟨ES256, samplePrivate, rfl⟩

def sampleRandom : Array UInt8 := #[16, 17, 18, 19, 20, 21, 22, 23, 24, 25, 26, 27, 28, 29, 30, 31]

theorem size_sampleRandom : sampleRandom.size = 16 := rfl

def samplePlatform : Platform where
  random := .ok ⟨sampleRandom, size_sampleRandom⟩
  now := 1732200000000000000

theorem sampleClaims_signed : sampleKey.signClaims sampleClaims = .ok sampleProof := by
  refine signClaims_eq_ok.mpr ⟨(), sampleClaims.marshal, ?_, ?_, rfl⟩
  · simp only [sampleLibrary, sampleKey, and_self, if_true]
  · simp only [sampleLibrary, if_true]

theorem newJTI_samplePlatform : newJTI samplePlatform = .ok sampleClaims.jti := by
  decide

/-- The proof for a path with an escaped slash. -/
theorem sampleProof_made :
    sampleKey.proof samplePlatform "GET" "https://rs/a%2Fb" [] = .ok sampleProof := by
  have hhtu : normalizeHTU sampleLibrary.ipv6 "https://rs/a%2Fb" = .ok sampleClaims.htu := by
    decide
  have hiat : unixSeconds (proofConfig samplePlatform []).now = sampleClaims.iat := by
    decide
  refine proof_eq_ok.mpr ⟨sampleClaims.htu, sampleClaims.jti, hhtu, newJTI_samplePlatform, ?_⟩
  rw [hiat]
  exact sampleClaims_signed

/-- What `Parse` makes of a URI of the host `rs` with that path. -/
def sampleURL (path : List ℕ) : URL := ⟨['h', 't', 't', 'p', 's'], [114, 115], path⟩

/-- The proof for `a%2Fb` is accepted for `a/b`. -/
theorem escaped_slash_forgotten :
    sampleKey.proof samplePlatform "GET" "https://rs/a%2Fb" [] = .ok sampleProof ∧
      parse sampleLibrary.ipv6 "https://rs/a%2Fb".toList = .ok (sampleURL [47, 97, 47, 98]) ∧
      parse sampleLibrary.ipv6 "https://rs/a/b".toList = .ok (sampleURL [47, 97, 47, 98]) ∧
      escapedPath "https://rs/a%2Fb" (sampleURL [47, 97, 47, 98]) = "/a%2Fb".toList ∧
      escapedPath "https://rs/a/b" (sampleURL [47, 97, 47, 98]) = "/a/b".toList ∧
      ∃ v, verifyProof sampleLibrary 1732200030000000000 sampleProof "GET" "https://rs/a/b" [] =
        .ok v := by
  refine ⟨sampleProof_made, by decide, by decide, by decide,
    by decide, ?_⟩
  refine (verifyProof_proof sampleLibrary_sound sampleClaims_signed _ _ _ _).mpr
    (checkClaims_eq_ok.mpr ⟨by decide, rfl, by decide, by decide, by decide, ?_, ?_⟩)
  · exact nofun
  · exact nofun

/-- It is never accepted for `c`. -/
theorem proof_binds_path_sample : ¬∃ now expectedHTM verify v,
    verifyProof sampleLibrary now sampleProof expectedHTM "https://rs/c" verify = .ok v := by
  have hu : parse sampleLibrary.ipv6 "https://rs/a%2Fb".toList =
      .ok (sampleURL [47, 97, 47, 98]) := by decide
  have hu' : parse sampleLibrary.ipv6 "https://rs/c".toList = .ok (sampleURL [47, 99]) := by
    decide
  rintro ⟨now, expectedHTM, verify, v, haccepted⟩
  exact (proof_binds_path sampleLibrary_sound hu hu' (by decide) (by decide) rfl rfl
    sampleProof_made).mpr (.inr (.inl (by decide))) (by decide) now expectedHTM verify v haccepted

end IdentityModel.GoDpop
