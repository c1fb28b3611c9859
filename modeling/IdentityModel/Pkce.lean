import IdentityModel.FormsParity
import IdentityModel.PyDpop
import Mathlib.Data.String.Basic

/-!
# Proof keys for code exchange

Each client draws a code verifier and derives the challenge that goes with it, and each of them may
redeem the code. The verifiers of any one are good at the others, under the same challenge, and a
verifier settles every octet of its draw that it spells in full.
-/
namespace IdentityModel.Pkce

open GoToken (Visit)
open RustForms (values)

/-- SHA-256. -/
abbrev Sha256 := List UInt8 → List UInt8

/-- The digest of a text's octets, in base64url. -/
def digest (sha256 : Sha256) (verifier : String) : String :=
  String.ofList (Base64.encodeUrl (sha256 verifier.toUTF8.toList))

/-- What a call raises: a `ValueError` with its text, or the `UnicodeEncodeError` of `encode`. -/
inductive PyError
  | value (text : String)
  | unicodeEncode
  deriving DecidableEq, Repr

def lengthError (length : ℤ) : PyError :=
  .value ("Code verifier length must be between 43 and 128, got " ++ toString length)

/-- `generate_code_verifier`, where `token_urlsafe` draws as many octets as are asked for. -/
def generateCodeVerifier (length : ℤ) (drawn : Vector UInt8 length.toNat) : Except PyError String :=
  if length < 43 ∨ 128 < length then .error (lengthError length)
  else .ok (String.ofList ((Base64.encodeUrl drawn.toList).take length.toNat))

/-- `generate_code_challenge`. -/
def generateCodeChallenge (sha256 : Sha256) (verifier method : String) : Except PyError String :=
  if verifier.length < 43 ∨ 128 < verifier.length then .error (lengthError verifier.length)
  else if method = "S256" then
    if verifier.toList.all Url.isAscii then .ok (digest sha256 verifier) else .error .unicodeEncode
  else if method = "plain" then .ok verifier
  else .error (.value ("Unsupported code challenge method: " ++ method))

/-- `generate_pkce_pair`. -/
def generatePkcePair (sha256 : Sha256) (method : String) (length : ℤ)
    (drawn : Vector UInt8 length.toNat) : Except PyError (String × String) := do
  let verifier ← generateCodeVerifier length drawn
  let challenge ← generateCodeChallenge sha256 verifier method
  return (verifier, challenge)

/-- `GenerateCodeVerifier`; what is read of the random source, or its error. -/
def goGenerateCodeVerifier (read : Except String (Vector UInt8 32)) : Except String String :=
  match read with
  | .error e => .error ("token: generate code verifier: " ++ e)
  | .ok drawn => .ok (String.ofList (Base64.encodeUrl drawn.toList))

/-- `S256Challenge`. -/
def goS256Challenge (sha256 : Sha256) (verifier : String) : String := digest sha256 verifier

structure PkceChallenge where
  codeVerifier : String
  codeChallenge : String
  codeChallengeMethod : String
  deriving DecidableEq, Repr

/-- `s256_challenge`. -/
def s256Challenge (sha256 : Sha256) (verifier : String) : String := digest sha256 verifier

/-- `PkceChallenge::generate`. -/
def PkceChallenge.generate (sha256 : Sha256) (fill : Except String (Vector UInt8 32)) :
    Except RustForms.IdentityError PkceChallenge :=
  match fill with
  | .error e => .error (.configuration ("generate code verifier: " ++ e))
  | .ok drawn =>
      let codeVerifier := String.ofList (Base64.encodeUrl drawn.toList)
      .ok ⟨codeVerifier, s256Challenge sha256 codeVerifier, "S256"⟩

/-- A verifier with its challenge, and the draw it comes from. -/
inductive Generated (sha256 : Sha256) : String → String → List UInt8 → Prop
  | python {length : ℤ} {drawn : Vector UInt8 length.toNat} {verifier challenge : String}
      (h : generatePkcePair sha256 "S256" length drawn = .ok (verifier, challenge)) :
      Generated sha256 verifier challenge drawn.toList
  | go {drawn : Vector UInt8 32} {verifier : String} (h : goGenerateCodeVerifier (.ok drawn) = .ok verifier) :
      Generated sha256 verifier (goS256Challenge sha256 verifier) drawn.toList
  | rust {drawn : Vector UInt8 32} {pkce : PkceChallenge}
      (h : PkceChallenge.generate sha256 (.ok drawn) = .ok pkce) :
      Generated sha256 pkce.codeVerifier pkce.codeChallenge drawn.toList

/-- The verifier alone is posted with a code, and it is the one that the challenge was made of. -/
def Redeems (sha256 : Sha256) (verifier challenge : String) (posted : List String) : Prop :=
  posted = [verifier] ∧ digest sha256 verifier = challenge

/-- All clients give a verifier one challenge, and each redeems a code that was asked for under it. -/
structure Interoperates (sha256 : Sha256) (verifier challenge : String) : Prop where
  python : generateCodeChallenge sha256 verifier "S256" = .ok challenge
  go : goS256Challenge sha256 verifier = challenge
  rust : s256Challenge sha256 verifier = challenge
  pythonRedeems : ∀ {lib draw request nonce prepared}, request.codeVerifier = some verifier →
    Py.Dpop.prepareAuthCodeTokenRequestData lib draw request nonce = .ok prepared →
      Redeems sha256 verifier challenge (values id prepared.data "code_verifier")
  goRedeems : ∀ {lib} {c : GoToken.Config} {endpoint clientID code redirectURI} {visit : Visit c.extraParams},
    c.codeVerifier = verifier → GoToken.ValidEndpoint lib c endpoint → ∃ r,
      GoToken.authorizationCode lib c endpoint clientID code redirectURI visit = .ok r ∧
        Redeems sha256 verifier challenge (r.values "code_verifier")
  rustRedeems : ∀ {lib} {client : RustForms.TokenClient} {code redirectUri}
    {visit : Visit client.extraParams},
    RustHttp.schemeOk client.allowHttp client.tokenEndpoint.toList = true → ∃ r,
      client.exchangeCode lib code redirectUri (some verifier) visit = .ok r ∧
        Redeems sha256 verifier challenge (values id r.form "code_verifier")

theorem utf8ByteSize_of_ascii {s : String} (h : ∀ c ∈ s.toList, Url.isAscii c = true) :
    s.utf8ByteSize = s.length := by
  have hlen (l : List Char) (hl : ∀ c ∈ l, Url.isAscii c = true) : String.utf8Len l = l.length := by
    induction l with
    | nil => rfl
    | cons c l ih =>
        have hascii : c.toNat < 128 := of_decide_eq_true (hl c List.mem_cons_self)
        have hone : c.utf8Size = 1 :=
          Char.utf8Size_eq_one_iff.mpr (UInt32.le_iff_toNat_le.mpr (Nat.le_of_lt_succ hascii))
        rw [String.utf8Len_cons, ih fun d hd => hl d (List.mem_cons_of_mem c hd), hone, List.length_cons]
  rw [← String.ofList_toList (s := s), String.utf8ByteSize_ofList, hlen s.toList h, String.length_ofList]

/-- A valid verifier is ASCII, with from 43 to 128 characters. -/
theorem valid_spec {verifier : String} (h : RustForms.validCodeVerifier verifier = true) :
    43 ≤ verifier.length ∧ verifier.length ≤ 128 ∧ verifier.toList.all Url.isAscii = true := by
  simp only [RustForms.validCodeVerifier, Bool.and_eq_true, Bool.not_eq_true', Bool.or_eq_false_iff,
    decide_eq_false_iff_not, List.all_eq_true] at h
  obtain ⟨⟨hmin, hmax⟩, hchars⟩ := h
  have hascii : ∀ c ∈ verifier.toList, Url.isAscii c = true := by
    intro c hc
    have hallowed := hchars c hc
    simp only [Url.isAsciiAlpha, Url.isDigit, Bool.or_eq_true, Bool.and_eq_true, decide_eq_true_eq,
      List.mem_cons, List.not_mem_nil, or_false] at hallowed
    rw [Url.isAscii, decide_eq_true_eq]
    obtain ((⟨-, hz⟩ | ⟨-, hz⟩) | ⟨-, hz⟩) | rfl | rfl | rfl | rfl := hallowed
    · exact Nat.lt_of_le_of_lt hz (by decide)
    · exact Nat.lt_of_le_of_lt hz (by decide)
    · exact Nat.lt_of_le_of_lt hz (by decide)
    · decide
    · decide
    · decide
    · decide
  rw [utf8ByteSize_of_ascii hascii] at hmin hmax
  exact ⟨Nat.le_of_not_lt hmin, Nat.le_of_not_lt hmax, List.all_eq_true.mpr hascii⟩

theorem valid_of_alphabet {verifier : String} (hmin : 43 ≤ verifier.length) (hmax : verifier.length ≤ 128)
    (h : ∀ c ∈ verifier.toList, c ∈ Base64.alphabet) : RustForms.validCodeVerifier verifier = true := by
  have hall : (Base64.alphabet.all fun c => Url.isAscii c &&
      (Url.isAsciiAlpha c || Url.isDigit c || c ∈ ['-', '.', '_', '~'])) = true := by decide
  have hchar (c : Char) (hc : c ∈ verifier.toList) :=
    Bool.and_eq_true_iff.mp (List.all_eq_true.mp hall c (h c hc))
  rw [RustForms.validCodeVerifier, utf8ByteSize_of_ascii fun c hc => (hchar c hc).1, Bool.and_eq_true]
  refine ⟨by simp [Nat.not_lt.mpr hmin, Nat.not_lt.mpr hmax], List.all_eq_true.mpr ?_⟩
  exact fun c hc => (hchar c hc).2

/-- How many octets of a draw a verifier spells in full. -/
def spelled (verifier : String) : ℕ := 3 * verifier.length / 4

/-- A verifier is the truncated encoding of a draw. -/
abbrev Spells (verifier : String) (drawn : List UInt8) : Prop :=
  ∃ n : ℕ, n ≤ (Base64.encodeUrl drawn).length ∧ 43 ≤ n ∧ n ≤ 128 ∧
    verifier = String.ofList ((Base64.encodeUrl drawn).take n)

/-- What 32 octets encode to. -/
theorem spells_vector (drawn : Vector UInt8 32) :
    Spells (String.ofList (Base64.encodeUrl drawn.toList)) drawn.toList := by
  have hlength : (Base64.encodeUrl drawn.toList).length = 43 := by
    rw [Base64.length_encodeUrl, Vector.length_toList]
  refine ⟨43, le_of_eq hlength.symm, le_rfl, by omega, ?_⟩
  rw [List.take_of_length_le (le_of_eq hlength)]

theorem generatePkcePair_eq_ok {sha256 : Sha256} {length : ℤ} {drawn : Vector UInt8 length.toNat}
    {verifier challenge : String}
    (h : generatePkcePair sha256 "S256" length drawn = .ok (verifier, challenge)) :
    Spells verifier drawn.toList ∧ challenge = digest sha256 verifier := by
  obtain ⟨v, hverifier, hrest⟩ := Results.bind_eq_ok.mp h
  obtain ⟨c, hchallenge, hpair⟩ := Results.bind_eq_ok.mp hrest
  cases hpair
  unfold generateCodeVerifier at hverifier
  split_ifs at hverifier with hlength
  cases hverifier
  constructor
  · refine ⟨length.toNat, ?_, by omega, by omega, rfl⟩
    rw [Base64.length_encodeUrl, Vector.length_toList]
    omega
  · unfold generateCodeChallenge at hchallenge
    split_ifs at hchallenge with hsize hmethod hascii
    · exact (Except.ok.inj hchallenge).symm
    · exact absurd rfl hmethod

theorem Generated.spec {sha256 : Sha256} {verifier challenge : String} {drawn : List UInt8}
    (h : Generated sha256 verifier challenge drawn) :
    Spells verifier drawn ∧ challenge = digest sha256 verifier := by
  cases h with
  | python h => exact generatePkcePair_eq_ok h
  | @go drawn verifier h =>
      obtain rfl := Except.ok.inj h
      exact ⟨spells_vector drawn, rfl⟩
  | @rust drawn pkce h =>
      obtain rfl := Except.ok.inj h
      exact ⟨spells_vector drawn, rfl⟩

theorem Spells.length {verifier : String} {drawn : List UInt8} (h : Spells verifier drawn) :
    verifier.length ≤ (Base64.encodeUrl drawn).length ∧ 43 ≤ verifier.length ∧ verifier.length ≤ 128 := by
  obtain ⟨n, hn, hmin, hmax, rfl⟩ := h
  rw [String.length_ofList, List.length_take_of_le hn]
  exact ⟨hn, hmin, hmax⟩

theorem Spells.valid {verifier : String} {drawn : List UInt8} (h : Spells verifier drawn) :
    RustForms.validCodeVerifier verifier = true := by
  obtain ⟨-, hmin, hmax⟩ := h.length
  refine valid_of_alphabet hmin hmax ?_
  obtain ⟨n, -, -, -, rfl⟩ := h
  intro c hc
  rw [String.toList_ofList] at hc
  exact Base64.mem_alphabet_of_mem (List.mem_of_mem_take hc)

/-- The octets that a verifier spells in full are read off it. -/
theorem Spells.read {verifier : String} {drawn : List UInt8} (h : Spells verifier drawn) :
    drawn.take (spelled verifier) = Base64.decodeWhole verifier.toList := by
  obtain ⟨n, hn, -, -, rfl⟩ := h
  rw [spelled, String.length_ofList, List.length_take_of_le hn, String.toList_ofList, Base64.decodeWhole_take hn]

/-- They are 32 at least, and no more than were drawn. -/
theorem Spells.spelled {verifier : String} {drawn : List UInt8} (h : Spells verifier drawn) :
    32 ≤ spelled verifier ∧ spelled verifier ≤ drawn.length := by
  obtain ⟨hlength, hmin, -⟩ := h.length
  rw [Base64.length_encodeUrl] at hlength
  unfold Pkce.spelled
  omega

section Requests

variable {sha256 : Sha256} {verifier : String}

theorem redeems_digest {posted : List String} (h : posted = [verifier]) :
    Redeems sha256 verifier (digest sha256 verifier) posted :=
  ⟨h, rfl⟩

/-- The client authentication only adds parameters of its own. -/
theorem authenticate_data {lib : Py.Dpop.Library} {draw : Py.Dpop.Draw}
    {request : Py.Dpop.AuthorizationCodeTokenRequest} {params data : List (String × String)}
    {auth : Option (String × String)} (h : Py.Dpop.authenticate lib draw request params = .ok (data, auth)) :
    ∃ added, data = params ++ added ∧
      ∀ field ∈ added, field.1 ∈ ["client_id", "client_assertion_type", "client_assertion"] := by
  unfold Py.Dpop.authenticate at h
  split at h
  · obtain ⟨_, hassertion, hpair⟩ := Results.map_eq_ok.mp h
    cases hpair
    obtain ⟨assertion, -, rfl⟩ := Results.map_eq_ok.mp hassertion
    exact ⟨_, rfl, by simp⟩
  · split_ifs at h
    · cases h
      exact ⟨_, rfl, by simp⟩
    · split at h
      · cases h
        exact ⟨[], (List.append_nil _).symm, by simp⟩
      · cases h
        exact ⟨_, rfl, by simp⟩

theorem python_posts {lib : Py.Dpop.Library} {draw : Py.Dpop.Draw}
    {request : Py.Dpop.AuthorizationCodeTokenRequest} {nonce : Option String} {prepared : Py.Dpop.Prepared}
    (hverifier : request.codeVerifier = some verifier)
    (h : Py.Dpop.prepareAuthCodeTokenRequestData lib draw request nonce = .ok prepared) :
    values id prepared.data "code_verifier" = [verifier] := by
  obtain ⟨headers, -, hrest⟩ := Results.bind_eq_ok.mp h
  obtain ⟨⟨data, auth⟩, hauth, hprepared⟩ := Results.bind_eq_ok.mp hrest
  cases hprepared
  obtain ⟨added, hdata, hadded⟩ := authenticate_data hauth
  have hnone : values id added "code_verifier" = [] := by
    apply RustForms.values_eq_nil
    intro field hfield heq
    have hname : "code_verifier" ∈ ["client_id", "client_assertion_type", "client_assertion"] :=
      heq ▸ hadded field hfield
    exact absurd hname (by decide)
  rw [hdata, RustForms.values_append, hnone, List.append_nil, hverifier]
  cases request.scope <;> simp [values]

theorem go_posts {lib : GoToken.Library} {c : GoToken.Config} {endpoint clientID code redirectURI : String}
    {visit : Visit c.extraParams} (hverifier : c.codeVerifier = verifier)
    (hvalid : RustForms.validCodeVerifier verifier = true) (hendpoint : GoToken.ValidEndpoint lib c endpoint) :
    ∃ r, GoToken.authorizationCode lib c endpoint clientID code redirectURI visit = .ok r ∧
      r.values "code_verifier" = [verifier] := by
  have hne : verifier ≠ "" := by
    rintro rfl
    exact absurd hvalid (by decide)
  obtain ⟨r, hr⟩ : ∃ r, GoToken.authorizationCode lib c endpoint clientID code redirectURI visit = .ok r := by
    rw [GoToken.authorizationCode, if_neg, GoToken.doTokenRequest, GoToken.checkEndpoint_ok hendpoint]
    · exact ⟨_, rfl⟩
    · rw [hverifier, ← FormsParity.validCodeVerifier_eq, hvalid]
      simp
  refine ⟨r, hr, ?_⟩
  have hclean := GoToken.request_unpolluted
    (show (GoToken.Grant.authorizationCode clientID code redirectURI).request lib c endpoint visit visit =
      .ok r from hr)
  rw [hclean.own "code_verifier" (GoToken.reserves_own (by simp [GoToken.Grant.ownNames])), GoToken.Grant.ownValues,
    GoToken.Grant.ownFields, hverifier, if_pos hne]
  rfl

theorem rust_posts {lib : RustForms.Library} {client : RustForms.TokenClient} {code redirectUri : String}
    {visit : Visit client.extraParams} (hvalid : RustForms.validCodeVerifier verifier = true)
    (hscheme : RustHttp.schemeOk client.allowHttp client.tokenEndpoint.toList = true) :
    ∃ r, client.exchangeCode lib code redirectUri (some verifier) visit = .ok r ∧
      values id r.form "code_verifier" = [verifier] := by
  refine ⟨_, RustForms.exchangeCode_ok_iff.mpr ⟨?_, RustForms.doRequest_ok_iff.mpr ⟨hscheme, rfl⟩⟩, ?_⟩
  · intro v hv
    rwa [← Option.some.inj hv]
  · have hreserved : "code_verifier" ∈ RustForms.reservedParams := by decide
    have hreads := @RustForms.reads_reserved (.exchangeCode client code redirectUri (some verifier)) _ hreserved
    have hsent := @RustForms.values_sent (.exchangeCode client code redirectUri (some verifier)) trivial
      visit "code_verifier"
    have hnone : values id client.authenticate.1 "code_verifier" = [] := by
      unfold RustForms.TokenClient.authenticate
      split
      · split_ifs <;> simp [values]
      · split <;> simp [values]
    refine (hsent.trans (if_pos (by rw [hreads]; exact hreserved))).trans ?_
    rw [RustForms.Call.own, RustForms.values_append, hnone, List.append_nil]
    by_cases hredirect : redirectUri = "" <;> simp [values, RustForms.TokenClient.codeForm, hredirect]

end Requests

/-- Whatever verifier is valid: its challenge is the same for all, and each posts it as it is. -/
theorem interoperates_of_valid (sha256 : Sha256) {verifier : String}
    (h : RustForms.validCodeVerifier verifier = true) :
    Interoperates sha256 verifier (digest sha256 verifier) := by
  obtain ⟨hmin, hmax, hascii⟩ := valid_spec h
  refine ⟨?_, rfl, rfl, ?_, ?_, ?_⟩
  · rw [generateCodeChallenge, if_neg (by omega), if_pos rfl, if_pos hascii]
  · exact fun hverifier hprepared => redeems_digest (python_posts hverifier hprepared)
  · intro lib c endpoint clientID code redirectURI visit hverifier hendpoint
    obtain ⟨r, hr, hposted⟩ := go_posts hverifier h hendpoint
    exact ⟨r, hr, redeems_digest hposted⟩
  · intro lib client code redirectUri visit hscheme
    obtain ⟨r, hr, hposted⟩ := rust_posts h hscheme
    exact ⟨r, hr, redeems_digest hposted⟩

/-- Whichever client generates a verifier, all of them take it, derive its challenge, and redeem a code
that was asked for under it. -/
theorem pairs_interoperate (sha256 : Sha256) (verifier challenge : String) (drawn : List UInt8)
    (h : Generated sha256 verifier challenge drawn) :
    RustForms.validCodeVerifier verifier = true ∧ GoToken.validCodeVerifier verifier = true ∧
      Interoperates sha256 verifier challenge := by
  obtain ⟨hspells, rfl⟩ := h.spec
  have hvalid := hspells.valid
  exact ⟨hvalid, FormsParity.validCodeVerifier_eq verifier ▸ hvalid, interoperates_of_valid sha256 hvalid⟩

def exampleDraw : Vector UInt8 32 :=
  #v[116, 24, 223, 180, 151, 153, 224, 37, 79, 250, 96, 125, 216, 173, 187, 186, 22, 212, 37, 77, 105, 214,
    191, 240, 91, 88, 5, 88, 83, 132, 141, 121]

def exampleDigest : Sha256 := fun _ =>
  [19, 211, 30, 150, 26, 26, 216, 236, 47, 22, 177, 12, 76, 152, 46, 8, 118, 168, 120, 173, 109, 241, 68, 86,
    110, 225, 137, 74, 203, 112, 249, 195]

def exampleVerifier : String := "dBjftJeZ4CVP-mB92K27uhbUJU1p1r_wW1gFWFOEjXk"

def exampleChallenge : String := "E9Melhoa2OwvFrEMTJguCHaoeK1t8URWbuGJSstw-cM"

theorem example_generated : Generated exampleDigest exampleVerifier exampleChallenge exampleDraw.toList :=
  @Generated.rust exampleDigest exampleDraw ⟨exampleVerifier, exampleChallenge, "S256"⟩ rfl

theorem pairs_interoperate_example :
    goS256Challenge exampleDigest exampleVerifier = exampleChallenge ∧
      GoToken.validCodeVerifier exampleVerifier = true := by
  obtain ⟨-, hgo, hsame⟩ := pairs_interoperate exampleDigest exampleVerifier exampleChallenge
    exampleDraw.toList example_generated
  exact ⟨hsame.go, hgo⟩

/-- Draws that differ in an octet which the verifier of one spells in full give different verifiers,
whichever clients make them; a draw of 32 octets is so spelled to its end. -/
theorem draws_kept (sha256 : Sha256) (verifier challenge challenge' : String) (drawn drawn' : List UInt8)
    (h : Generated sha256 verifier challenge drawn) (h' : Generated sha256 verifier challenge' drawn') :
    drawn.take (spelled verifier) = drawn'.take (spelled verifier) ∧ 32 ≤ spelled verifier ∧
      (drawn.length = 32 → drawn = drawn'.take 32) ∧ challenge = challenge' := by
  obtain ⟨hspells, rfl⟩ := h.spec
  obtain ⟨hspells', rfl⟩ := h'.spec
  obtain ⟨hmin, hmax⟩ := hspells.spelled
  have hread : drawn.take (spelled verifier) = drawn'.take (spelled verifier) := by
    rw [hspells.read, hspells'.read]
  refine ⟨hread, hmin, ?_, rfl⟩
  intro hlength
  have hwhole : spelled verifier = 32 := by omega
  rw [hwhole] at hread
  rw [← hread, List.take_of_length_le (le_of_eq hlength)]

/-- The same octets, drawn by Python with eleven more. -/
def exampleLongDraw : Vector UInt8 43 := exampleDraw ++ Vector.replicate 11 (7 : UInt8)

theorem example_generated_python :
    Generated exampleDigest exampleVerifier exampleChallenge exampleLongDraw.toList :=
  @Generated.python exampleDigest 43 exampleLongDraw _ _ rfl

/-- Of the long draw the verifier settles the octets that the short one holds, and not the others. -/
theorem draws_kept_example :
    exampleDraw.toList = exampleLongDraw.toList.take 32 ∧ exampleDraw.toList ≠ exampleLongDraw.toList :=
  ⟨(draws_kept exampleDigest exampleVerifier exampleChallenge exampleChallenge exampleDraw.toList
    exampleLongDraw.toList example_generated example_generated_python).2.2.1 rfl, by decide⟩

end IdentityModel.Pkce
