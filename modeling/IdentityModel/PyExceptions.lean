import IdentityModel.PyRelyingParty
import IdentityModel.PySoundness

/-!
# The exceptions of a validation

What `validate_token` raises, and what each exception comes from: a check of the library's own, an
answer of the provider, the claims validator, or PyJWT. The checks of the library never borrow the
words that report a failed fetch, by which the middleware tells an outage from a bad token.
-/
namespace IdentityModel.Py

open Runs Tasks

/-- `_UPSTREAM_FETCH_FAILURE_PREFIXES`. -/
def upstreamFetchFailurePrefixes : List String :=
  ["Network error during discovery", "Network error during JWKS"]

/-- `_is_upstream_fetch_failure`, of the text of an exception. -/
def isUpstreamFetchFailure (message : String) : Bool :=
  upstreamFetchFailurePrefixes.any fun p => p.toList.isPrefixOf message.toList

theorem upstreamFetchFailure_start {message : String} (h : isUpstreamFetchFailure message = true) :
    message.toList.take 2 = ['N', 'e'] := by
  obtain ⟨p, hp, hpre⟩ := List.any_eq_true.mp h
  obtain ⟨rest, hrest⟩ := List.isPrefixOf_iff_prefix.mp hpre
  rw [← hrest]
  simp only [upstreamFetchFailurePrefixes, List.mem_cons, List.not_mem_nil, or_false] at hp
  obtain rfl | rfl := hp <;> simp

/-- An exception of the library that reports no failed fetch. -/
structure PyError.Own (e : PyError) : Prop where
  library : e.isLibrary = true
  text : isUpstreamFetchFailure e.message = false

/-- The reports of a failed fetch start with the same two letters. -/
theorem own_of_start {e : PyError} (hlibrary : e.isLibrary = true)
    (hstart : e.message.toList.take 2 ≠ ['N', 'e']) : e.Own := by
  refine ⟨hlibrary, ?_⟩
  by_contra h
  exact hstart (upstreamFetchFailure_start (by simpa using h))

/-- A text that is given letter by letter is not encoded to see its start. -/
theorem own_of_text {e : PyError} {text : List Char} (hlibrary : e.isLibrary = true)
    (htext : e.message = String.ofList text) (hstart : text.take 2 ≠ ['N', 'e']) : e.Own := by
  refine own_of_start hlibrary ?_
  rw [htext, String.toList_ofList]
  exact hstart

section Checks

variable {pyjwt : PyJwt} {jwt : String} {config : TokenValidationConfig} {e : PyError}

theorem rejectNonStringAlg_own {alg : Option HeaderAlg} (h : rejectNonStringAlg alg = .error e) :
    e.Own := by
  unfold rejectNonStringAlg at h
  split at h
  · cases h
  · cases h
  · cases h
    exact own_of_text rfl rfl (by decide)

theorem noneNotPermitted_own : noneNotPermitted.Own := own_of_text rfl rfl (by decide)

theorem matchDeclaredAlg_own {key : JsonWebKey} {alg : String}
    (h : validateKeyAlgConsistency.matchDeclaredAlg key alg = .error e) : e.Own := by
  unfold validateKeyAlgConsistency.matchDeclaredAlg at h
  split at h
  · cases h
  · split at h
    · cases h
      exact own_of_start rfl (by simp [PyError.message])
    · cases h

theorem validateKeyAlgConsistency_own {key : JsonWebKey} {alg : Option HeaderAlg}
    (h : validateKeyAlgConsistency key alg = .error e) : e.Own := by
  unfold validateKeyAlgConsistency at h
  split at h
  · rename_i e' he
    cases h
    exact rejectNonStringAlg_own he
  · split at h
    · cases h
    · split at h
      · cases h
        exact noneNotPermitted_own
      · split at h
        · split at h
          · cases h
            exact own_of_start rfl (by simp [PyError.message])
          · exact matchDeclaredAlg_own h
        · exact matchDeclaredAlg_own h

theorem noKidCandidates_own {keys : List JsonWebKey} {alg : Option HeaderAlg}
    (h : noKidCandidates keys alg = .error e) : e.Own := by
  unfold noKidCandidates at h
  split at h
  · rename_i e' he
    cases h
    exact rejectNonStringAlg_own he
  · split at h
    · cases h
    · split at h
      · cases h
        exact noneNotPermitted_own
      · simp only at h
        split at h
        · split at h <;> cases h
        · cases h

theorem selectKey_own {key : JsonWebKey} {alg : Option HeaderAlg}
    (h : selectKey key alg = .error e) : e.Own := by
  unfold selectKey at h
  split at h
  · rename_i e' he
    cases h
    exact validateKeyAlgConsistency_own he
  · cases h

theorem findKeyByKid_own {kid : Option String} {keys : List JsonWebKey} {alg : Option HeaderAlg}
    (h : findKeyByKid kid keys alg = .error e) : e.Own := by
  unfold findKeyByKid at h
  split at h
  · cases h
    exact own_of_text rfl rfl (by decide)
  · split at h
    · split at h
      · rename_i e' he
        cases h
        exact noKidCandidates_own he
      · exact selectKey_own h
      · cases h
        exact own_of_start rfl (by simp [PyError.message])
    · split at h
      · cases h
        exact own_of_start rfl (by simp [PyError.message])
      · exact selectKey_own h

theorem unresolvedIssuer_own : unresolvedIssuer.Own :=
  own_of_start rfl (by simp [PyError.message, unresolvedIssuer])

/-- An issuer that is no string may have no hash. -/
theorem enforceAllowedIssuer_own {str : Json → String} {allowed : List String} {iss : Json}
    (h : enforceAllowedIssuer str allowed iss = some e) : e.Own ∨ e.isLibrary = false := by
  cases iss with
  | str s =>
      simp only [enforceAllowedIssuer] at h
      split at h
      · cases h
      · cases h
        exact .inl (own_of_start rfl (by simp [PyError.message]))
  | arr elems =>
      cases h
      exact .inr rfl
  | obj members =>
      cases h
      exact .inr rfl
  | _ =>
      cases h
      exact .inl (own_of_start rfl (by simp [PyError.message]))

theorem listed_foreign {issuer : Issuer} (h : issuer.listed = .error e) : e.isLibrary = false := by
  cases issuer with
  | one s => cases h
  | many ss => cases h
  | other value mistyped =>
      simp only [Issuer.listed] at h
      split at h
      · cases hvalue : iterate value with
        | ok elems =>
            rw [hvalue] at h
            cases h
        | error e' =>
            rw [hvalue] at h
            cases h
            rfl
      · cases h

/-- The `TypeError`s of the check are not the library's. -/
theorem enforceAllowedIssuers_own {str : Json → String} {issuer : Option Issuer}
    {allowed : List String} (h : enforceAllowedIssuers str issuer allowed = some e) :
    e.Own ∨ e.isLibrary = false := by
  unfold enforceAllowedIssuers at h
  split at h
  · cases h
    exact .inl unresolvedIssuer_own
  · split at h
    · rename_i e' he
      cases h
      exact .inr (listed_foreign he)
    · cases h
      exact .inl unresolvedIssuer_own
    · obtain ⟨iss, -, hiss⟩ := List.exists_of_findSome?_eq_some h
      exact enforceAllowedIssuer_own hiss

theorem sanitizeOptions_own {options : Option (List (String × Bool))}
    (h : sanitizeOptions options = some e) : e.Own := by
  obtain ⟨o, -, rfl⟩ := Option.map_eq_some_iff.mp h
  exact own_of_start rfl (by simp [PyError.message])

theorem emptyIssuerList_own : emptyIssuerList.Own := own_of_text rfl rfl (by decide)

/-- PyJWT's errors become the library's, those aside that are no `InvalidTokenError`. -/
theorem translateJwtError_own (err : JwtError) :
    (translateJwtError err).Own ∨ ∃ text, err = .other text := by
  cases err with
  | other text => exact .inr ⟨text, rfl⟩
  | _ => exact .inl (own_of_start rfl (by simp [translateJwtError, PyError.message]))

/-- An `int` that is too large for a `float`. -/
def Leeway.Overflows : Leeway → Prop
  | .int i => 0 ≤ i ∧ ∀ q, Float64.ofRat i ≠ .finite q
  | _ => False

/-- The settings on which `validate_token_config` fails itself, once it has come to the leeway. -/
def TokenValidationConfig.Overflows (config : TokenValidationConfig) : Prop :=
  checkIssuerSetting config.issuer = none ∧ ∃ leeway, config.leeway = some leeway ∧ leeway.Overflows

theorem checkIssuerSetting_own {issuer : Option Issuer} (h : checkIssuerSetting issuer = some e) :
    e.Own := by
  unfold checkIssuerSetting at h
  split at h
  · split at h
    · cases h
      exact emptyIssuerList_own
    · split at h
      · cases h
        exact own_of_text rfl rfl (by decide)
      · cases h
  · cases h
    exact own_of_text rfl rfl (by decide)
  · cases h

theorem checkLeeway_own {leeway : Leeway} (h : checkLeeway (some leeway) = some e) :
    e.Own ∨ e.isLibrary = false ∧ leeway.Overflows := by
  cases leeway with
  | bool b =>
      cases h
      exact .inl (own_of_text rfl rfl (by decide))
  | int i =>
      simp only [checkLeeway] at h
      split at h
      · cases h
        exact .inl (own_of_text rfl rfl (by decide))
      · rename_i hnonneg
        split at h
        · cases h
        · rename_i hinfinite
          cases h
          exact .inr ⟨rfl, by omega, fun q hq => hinfinite q hq⟩
  | float x =>
      cases x with
      | finite q =>
          simp only [checkLeeway] at h
          split at h
          · cases h
            exact .inl (own_of_text rfl rfl (by decide))
          · cases h
      | inf negative =>
          simp only [checkLeeway] at h
          split at h <;> cases h <;> exact .inl (own_of_text rfl rfl (by decide))
      | nan =>
          cases h
          exact .inl (own_of_text rfl rfl (by decide))

theorem validateTokenConfig_own (h : validateTokenConfig config = some e) :
    e.Own ∨ e.isLibrary = false ∧ config.Overflows := by
  unfold validateTokenConfig at h
  obtain h | ⟨hissuer, h⟩ := Option.or_eq_some_iff.mp h
  · exact .inl (checkIssuerSetting_own h)
  · obtain h | ⟨-, h⟩ := Option.or_eq_some_iff.mp h
    · cases hleeway : config.leeway with
      | none =>
          rw [hleeway] at h
          cases h
      | some leeway =>
          rw [hleeway] at h
          obtain hown | ⟨hforeign, hover⟩ := checkLeeway_own h
          · exact .inl hown
          · exact .inr ⟨hforeign, hissuer, leeway, hleeway, hover⟩
    · split at h
      · cases h
      · split at h
        · cases h
          exact .inl (own_of_start rfl (by simp [PyError.message]))
        · cases h

theorem TokenValidationConfig.Overflows.raises (h : config.Overflows) :
    validateTokenConfig config = some (.other "int too large to convert to float") := by
  obtain ⟨hissuer, leeway, hleeway, hover⟩ := h
  cases leeway with
  | int i =>
      obtain ⟨hnonneg, hinfinite⟩ := hover
      have hraised : checkLeeway (some (.int i)) =
          some (.other "int too large to convert to float") := by
        unfold checkLeeway
        dsimp only
        rw [if_neg (not_lt.mpr hnonneg)]
        split
        · rename_i q hq
          exact absurd hq (hinfinite q)
        · rfl
      unfold validateTokenConfig
      rw [hissuer, hleeway, hraised]
      rfl
  | _ => cases hover

theorem validateConfigForManualValidation_own
    (h : validateConfigForManualValidation config = some e) : e.Own := by
  unfold validateConfigForManualValidation at h
  split at h
  · cases h
    exact own_of_text rfl rfl (by decide)
  · split at h
    · cases h
      exact own_of_text rfl rfl (by decide)
    · cases h

theorem buildResolvedConfig_own {key : JsonWebKey} {alg : String}
    (h : buildResolvedConfig config key alg = .error e) : e.Own := by
  unfold buildResolvedConfig at h
  split at h
  · cases h
    exact own_of_start rfl (by simp [PyError.message])
  · cases h

end Checks

/-- The arguments with which a token comes to PyJWT's decoder under settings that name a key and
algorithms. -/
structure DecodeArgs.Reached (args : DecodeArgs) (str : Json → String) (jwt : String)
    (config : TokenValidationConfig) (issuer : Option Issuer) : Prop where
  jwt : args.jwt = jwt
  key : config.key = some args.key
  algorithms : config.algorithms = some args.algorithms
  someAlgorithm : args.algorithms ≠ []
  issuer : args.issuer = issuer.or config.issuer
  someIssuer : args.issuer ≠ some (.many [])
  pinned : ∀ allowed, config.allowedIssuers = some allowed →
    enforceAllowedIssuers str args.issuer allowed = none
  audience : args.audience = config.audience
  options : args.options = config.options
  enforced : sanitizeOptions config.options = none
  leeway : args.leeway = config.leeway.getD (.int 0)
  required : args.required = config.required

/-- What `decode_with_config` may raise that is not the library's: the issuer cannot be looked for
among the allowed ones, or a decode it reaches raises, at some time, what is no
`InvalidTokenError`. -/
inductive DecodeRaises (pyjwt : PyJwt) (jwt : String) (config : TokenValidationConfig)
    (issuer : Option Issuer) : PyError → Prop
  | issuers (e : PyError) (hkey : config.key ≠ none) (halgorithms : config.algorithms.getD [] ≠ [])
      (h : config.allowedIssuers.bind
        (enforceAllowedIssuers pyjwt.str (issuer.or config.issuer)) = some e)
      (hforeign : e.isLibrary = false) : DecodeRaises pyjwt jwt config issuer e
  | decode (now : ℚ) (args : DecodeArgs) (text : String)
      (hargs : args.Reached pyjwt.str jwt config issuer)
      (h : pyjwt.decode now args = .error (.other text)) :
      DecodeRaises pyjwt jwt config issuer (.other text)

section Decode

variable {pyjwt : PyJwt} {jwt : String} {config : TokenValidationConfig} {e : PyError}
  {issuer : Option Issuer}

/-- What `decode_with_config` raises. -/
theorem decodeWithConfig_error (h : decodeWithConfig pyjwt jwt config issuer = .error e) :
    e.Own ∨ DecodeRaises pyjwt jwt config issuer e := by
  simp only [decodeWithConfig] at h
  split at h
  · rename_i key alg algs hkey halgs
    split at h
    · rename_i e' he
      cases h
      obtain ⟨allowed, -, hissuers⟩ := Option.bind_eq_some_iff.mp he
      obtain hown | hforeign := enforceAllowedIssuers_own hissuers
      · exact .inl hown
      · exact .inr (.issuers e (by simp [hkey]) (by simp [halgs]) he hforeign)
    · rename_i hpinned
      have halgorithms : config.algorithms = some (alg :: algs) := by
        cases hc : config.algorithms with
        | none =>
            rw [hc] at halgs
            cases halgs
        | some as =>
            rw [hc] at halgs
            exact congrArg some halgs
      unfold decodeAndValidateJwt at h
      split at h
      · cases h
        exact .inl (own_of_text rfl rfl (by decide))
      · split at h
        · cases h
          exact .inl emptyIssuerList_own
        · rename_i hissuer
          split at h
          · rename_i e' he
            cases h
            exact .inl (sanitizeOptions_own he)
          · rename_i hoptions
            split at h
            · rename_i err herr
              cases h
              obtain hown | ⟨text, rfl⟩ := translateJwtError_own err
              · exact .inl hown
              · refine .inr (.decode _ _ text ?_ herr)
                exact ⟨rfl, hkey, halgorithms, List.cons_ne_nil _ _, rfl, hissuer,
                  fun allowed hallowed => Option.bind_eq_none_iff.mp hpinned allowed hallowed,
                  rfl, rfl, hoptions, rfl, rfl⟩
            · split at h
              · cases h
                exact .inl (own_of_text rfl rfl (by decide))
              · cases h
  · cases h
    exact .inl (own_of_text rfl rfl (by decide))

/-- A decode that is reached and fails so ends `decode_with_config`. -/
theorem DecodeArgs.Reached.fails {args : DecodeArgs}
    (hargs : args.Reached pyjwt.str jwt config issuer) {text : String}
    (h : pyjwt.decode pyjwt.now args = .error (.other text)) :
    decodeWithConfig pyjwt jwt config issuer = .error (.other text) := by
  obtain ⟨jwt', key, algorithms, audience, issuer', options, leeway, required⟩ := args
  obtain ⟨rfl, hkey, halgorithms, hne, rfl, hsome, hpinned, rfl, rfl, henforced, rfl, rfl⟩ := hargs
  cases algorithms with
  | nil => exact absurd rfl hne
  | cons alg algs =>
      have hbind : config.allowedIssuers.bind
          (enforceAllowedIssuers pyjwt.str (issuer.or config.issuer)) = none :=
        Option.bind_eq_none_iff.mpr fun allowed hallowed => hpinned allowed hallowed
      simp only [decodeWithConfig, hkey, halgorithms, Option.getD_some, hbind,
        decodeAndValidateJwt, List.cons_ne_nil, if_false, if_neg hsome, henforced, h,
        translateJwtError]

theorem DecodeRaises.settings (h : DecodeRaises pyjwt jwt config issuer e) :
    config.key ≠ none ∧ config.algorithms.getD [] ≠ [] := by
  cases h with
  | issuers _ hkey halgorithms h hforeign => exact ⟨hkey, halgorithms⟩
  | decode now args text hargs h => simp [hargs.key, hargs.algorithms, hargs.someAlgorithm]

theorem DecodeRaises.foreign (h : DecodeRaises pyjwt jwt config issuer e) : e.isLibrary = false := by
  cases h with
  | issuers _ hkey halgorithms h hforeign => exact hforeign
  | decode now args text hargs h => rfl

theorem DecodeRaises.fails (h : DecodeRaises pyjwt jwt config issuer e) :
    ∃ now, decodeWithConfig (pyjwt.at now) jwt config issuer = .error e := by
  cases h with
  | issuers _ hkey halgorithms h hforeign =>
      obtain ⟨key, hkey⟩ := Option.ne_none_iff_exists'.mp hkey
      obtain ⟨alg, algs, halgs⟩ := List.exists_cons_of_ne_nil halgorithms
      have hraised : (config.allowedIssuers.bind fun allowed =>
          enforceAllowedIssuers (pyjwt.at 0).str (issuer.or config.issuer) allowed) = some e := h
      exact ⟨0, by simp only [decodeWithConfig, hkey, halgs, hraised]⟩
  | decode now args text hargs h =>
      have hreached : args.Reached (pyjwt.at now).str jwt config issuer := hargs
      exact ⟨now, hreached.fails h⟩

theorem DecodeRaises.at_iff {now : ℚ} :
    DecodeRaises (pyjwt.at now) jwt config issuer e ↔ DecodeRaises pyjwt jwt config issuer e := by
  constructor <;> intro h <;> cases h with
  | issuers _ hkey halgorithms h hforeign => exact .issuers e hkey halgorithms h hforeign
  | decode now args text hargs h => exact .decode now args text hargs h

end Decode

/-- What is known of the answers of the provider. -/
structure Upstream where
  disco : DiscoveryDocumentResponse → Prop
  keys : JwksResponse → Prop

/-- A document that was answered and accepted, with an address for its keys. -/
structure Disco.Known (up : Upstream) (d : Disco) : Prop where
  answered : up.disco d.doc
  found : d.doc.isSuccessful = true
  uri : d.doc.jwksUri = some (.str d.uri)
  someUri : d.uri ≠ ""

/-- Keys that were answered and accepted. -/
structure JwksResponse.Known (up : Upstream) (response : JwksResponse) : Prop where
  answered : up.keys response
  valid : validateJwksResponse response = none

/-- A decode that the token may come to raises what is not the library's: under its settings alone,
or with a key found for it in an answer of the provider and the issuer of a document. -/
inductive Undecodable (pyjwt : PyJwt) (up : Upstream) (jwt : String)
    (config : TokenValidationConfig) (e : PyError) : Prop
  | manual (hdisco : config.performDisco = false) (h : DecodeRaises pyjwt jwt config none e)
  | discovered (d : Disco) (response : JwksResponse) (header : Header)
      (key : JsonWebKey) (alg : String) (hdisco : config.performDisco = true)
      (hd : d.Known up) (hkeys : response.Known up)
      (hheader : pyjwt.header jwt = .ok header)
      (hfind : findKeyByKid header.kid response.keyList header.alg = .ok (key, alg))
      (hallowed : ∀ algs, config.algorithms = some algs → alg ∈ algs)
      (h : DecodeRaises pyjwt jwt { config with key := some key, algorithms := some [alg] }
        d.doc.issuer e)

theorem Undecodable.foreign {pyjwt : PyJwt} {up : Upstream} {jwt : String}
    {config : TokenValidationConfig} {e : PyError} (h : Undecodable pyjwt up jwt config e) :
    e.isLibrary = false := by
  cases h with
  | manual hdisco h => exact h.foreign
  | discovered d response header key alg hdisco hd hkeys hheader hfind hallowed h => exact h.foreign

theorem Undecodable.at_iff {pyjwt : PyJwt} {now : ℚ} {up : Upstream} {jwt : String}
    {config : TokenValidationConfig} {e : PyError} :
    Undecodable (pyjwt.at now) up jwt config e ↔ Undecodable pyjwt up jwt config e := by
  constructor <;> intro h <;> cases h with
  | manual hdisco h => exact .manual hdisco (by simpa only [DecodeRaises.at_iff] using h)
  | discovered d response header key alg hdisco hd hkeys hheader hfind hallowed h =>
      exact .discovered d response header key alg hdisco hd hkeys hheader hfind hallowed
        (by simpa only [DecodeRaises.at_iff] using h)

/-- The synchronous module reports a `jwks_uri` that it cannot fetch in its own words. -/
theorem mistypedJwksUri_own {rt : Runtime} {uri : Json}
    (h : (mistypedJwksUri rt uri).isLibrary = true) : (mistypedJwksUri rt uri).Own := by
  refine ⟨h, ?_⟩
  unfold mistypedJwksUri at h ⊢
  cases uri with
  | arr elems => cases h
  | obj members => cases h
  | _ =>
      cases hflavour : rt.flavour with
      | sync => exact (own_of_start rfl (by simp [PyError.message])).text
      | aio =>
          simp only [hflavour] at h
          cases h

/-- Where an exception of a validation comes from. -/
inductive Sourced (rt : Runtime) (up : Upstream) (req : Request) : PyError → Prop
  | own (e : PyError) (h : e.Own) : Sourced rt up req e
  | settings (e : PyError) (h : validateTokenConfig req.config = some e) : Sourced rt up req e
  | discovery (response : DiscoveryDocumentResponse) (e : PyError) (hknown : up.disco response)
      (h : validateDiscoResponse response = some e) : Sourced rt up req e
  | keys (response : JwksResponse) (e : PyError) (hknown : up.keys response)
      (h : validateJwksResponse response = some e) : Sourced rt up req e
  | uri (response : DiscoveryDocumentResponse) (uri : Json) (hknown : up.disco response)
      (hfound : response.isSuccessful = true) (h : validateJwksUri response = .ok uri)
      (hmistyped : uri.str? = none) : Sourced rt up req (mistypedJwksUri rt uri)
  | header (d : Disco) (response : JwksResponse) (e : PyError)
      (hdisco : req.config.performDisco = true) (hd : d.Known up) (hkeys : response.Known up)
      (h : rt.pyjwt.header req.jwt = .error e) : Sourced rt up req e
  | decode (e : PyError) (h : Undecodable rt.pyjwt up req.jwt req.config e) : Sourced rt up req e
  | refused (claims : Claims) (e : PyError)
      (h : validateClaims rt.flavour req.config claims = some e) : Sourced rt up req e
  | counting (address : String) (e : PyError) (h : rt.countingError address req.policy = some e) :
      Sourced rt up req e

/-- A refresh goes on with what the call found out before. -/
def Why.Known (rt : Runtime) (up : Upstream) (req : Request) : Why → Prop
  | .kidMiss _ header cached => rt.pyjwt.header req.jwt = .ok header ∧ cached.Known up
  | .retry => True

/-- What a call has at hand is known, and what it is about to raise has a source. -/
def Pc.Sourced (rt : Runtime) (up : Upstream) (req : Request) : Pc → Prop
  | .done (.error e) => Py.Sourced rt up req e
  | .discoTouch response _ => up.disco response
  | .discoWrite response => up.disco response
  | .jwksRead d => d.Known up
  | .jwksTouch d response _ => d.Known up ∧ up.keys response
  | .jwksWait d => d.Known up
  | .jwksRecheck d => d.Known up
  | .jwksFetch d => d.Known up
  | .jwksWrite d response => d.Known up ∧ up.keys response
  | .gate d why => d.Known up ∧ why.Known rt up req
  | .gateCheck d why _ => d.Known up ∧ why.Known rt up req
  | .refreshWait d why => d.Known up ∧ why.Known rt up req
  | .refreshCheck d why => d.Known up ∧ why.Known rt up req
  | .refreshFetch d why => d.Known up ∧ why.Known rt up req
  | .refreshWrite d why response => (d.Known up ∧ why.Known rt up req) ∧ up.keys response
  | .settle _ _ next => next.Sourced rt up req
  | _ => True

/-- The caches hold known answers. -/
structure Shared.Known (up : Upstream) (w : Shared) : Prop where
  disco : ∀ key entry, w.disco.lookup key = some entry → up.disco entry.response
  jwks : ∀ uri entry, w.jwks.lookup uri = some entry → up.keys entry.response

section Parts

variable {rt : Runtime} {up : Upstream} {req : Request} {d : Disco}

theorem finish_sourced {r : Result} (h : ∀ e, r = .error e → Sourced rt up req e) :
    (finish rt req r).Sourced rt up req := by
  cases r with
  | error e => exact h e rfl
  | ok claims =>
      simp only [finish]
      split
      · rename_i e he
        exact .refused claims e he
      · trivial

theorem validateJwksUri_own {response : DiscoveryDocumentResponse} {e : PyError}
    (h : validateJwksUri response = .error e) : e.Own := by
  unfold validateJwksUri at h
  split at h
  · cases h
  · cases h
    exact own_of_text rfl rfl (by decide)

theorem validateJwksUri_str {response : DiscoveryDocumentResponse} {uri : String}
    (h : validateJwksUri response = .ok (.str uri)) :
    response.jwksUri = some (.str uri) ∧ uri ≠ "" := by
  unfold validateJwksUri at h
  split at h
  · rename_i htruthy
    have hvalue : response.jwksUri.getD .null = .str uri := Except.ok.inj h
    rw [hvalue] at htruthy
    refine ⟨?_, by simpa [isTruthy] using htruthy⟩
    cases huri : response.jwksUri with
    | none =>
        rw [huri] at hvalue
        cases hvalue
    | some j =>
        rw [huri] at hvalue
        exact congrArg some hvalue
  · cases h

theorem validateDiscoResponse_none {response : DiscoveryDocumentResponse}
    (h : validateDiscoResponse response = none) : response.isSuccessful = true := by
  unfold validateDiscoResponse at h
  split at h
  · assumption
  · cases h

theorem afterDisco_sourced {response : DiscoveryDocumentResponse} (hknown : up.disco response) :
    (afterDisco rt response).Sourced rt up req := by
  unfold afterDisco
  split
  · rename_i e he
    exact .discovery response e hknown he
  · rename_i hvalid
    have hfound := validateDiscoResponse_none hvalid
    split
    · rename_i e he
      exact .own e (validateJwksUri_own he)
    · rename_i uri huri
      obtain ⟨huri, hne⟩ := validateJwksUri_str huri
      exact ⟨hknown, hfound, huri, hne⟩
    · rename_i uri hmistyped huri
      refine .uri response uri hknown hfound huri ?_
      cases uri with
      | str s => exact absurd rfl (hmistyped s)
      | _ => rfl

variable (hdisco : req.config.performDisco = true) (hd : d.Known up)
include hdisco hd

theorem resolveAndDecode_error {header : Header} {response : JwksResponse} {e : PyError}
    (hheader : rt.pyjwt.header req.jwt = .ok header) (hknown : response.Known up)
    (h : resolveAndDecode rt.pyjwt req.jwt req.config header response.keyList d.doc.issuer =
      .error e) : e.Own ∨ Undecodable rt.pyjwt up req.jwt req.config e := by
  unfold resolveAndDecode at h
  split at h
  · rename_i e' he
    cases h
    exact .inl (findKeyByKid_own he)
  · rename_i key alg hfind
    split at h
    · rename_i e' he
      cases h
      exact .inl (buildResolvedConfig_own he)
    · rename_i resolved hresolved
      obtain ⟨rfl, hallowed⟩ := buildResolvedConfig_ok hresolved
      obtain hown | hraises := decodeWithConfig_error h
      · exact .inl hown
      · exact .inr
          (.discovered d response header key alg hdisco hd hknown hheader hfind hallowed hraises)

theorem resolveAndDecode_sourced {header : Header} {response : JwksResponse} {e : PyError}
    (hheader : rt.pyjwt.header req.jwt = .ok header) (hknown : response.Known up)
    (h : resolveAndDecode rt.pyjwt req.jwt req.config header response.keyList d.doc.issuer =
      .error e) : Sourced rt up req e := by
  obtain hown | hraises := resolveAndDecode_error hdisco hd hheader hknown h
  · exact .own e hown
  · exact .decode e hraises

theorem attempt_sourced {header : Header} {response : JwksResponse}
    (hheader : rt.pyjwt.header req.jwt = .ok header) (hknown : response.Known up) :
    (attempt rt req d header response.keyList).Sourced rt up req := by
  unfold attempt
  split
  · exact finish_sourced fun e he => by cases he
  · rename_i e he
    split
    · exact ⟨hd, trivial⟩
    · exact resolveAndDecode_sourced hdisco hd hheader hknown he

theorem afterJwks_sourced {response : JwksResponse} (hknown : up.keys response) :
    (afterJwks rt req d response).Sourced rt up req := by
  unfold afterJwks
  split
  · rename_i e he
    exact .keys response e hknown he
  · rename_i hvalid
    have hkeys : response.Known up := ⟨hknown, hvalid⟩
    split
    · rename_i e he
      exact .header d response e hdisco hd hkeys he
    · rename_i header hheader
      split
      · exact attempt_sourced hdisco hd hheader hkeys
      · split
        · exact attempt_sourced hdisco hd hheader hkeys
        · exact ⟨hd, hheader, hkeys⟩

theorem afterBlocked_sourced {why : Why} (hwhy : why.Known rt up req) :
    (afterBlocked rt req d why).Sourced rt up req := by
  cases why with
  | kidMiss kid header cached => exact attempt_sourced hdisco hd hwhy.1 hwhy.2
  | retry => exact .own _ (own_of_text rfl rfl (by decide))

theorem retryDecode_sourced {response : JwksResponse} {e : PyError} (hknown : response.Known up)
    (h : retryDecode rt req d response.keyList = .error e) : Sourced rt up req e := by
  unfold retryDecode at h
  split at h
  · rename_i e' he
    cases h
    exact .header d response _ hdisco hd hknown he
  · rename_i header hheader
    exact resolveAndDecode_sourced hdisco hd hheader hknown h

theorem afterRefresh_sourced {why : Why} (hwhy : why.Known rt up req) {response : JwksResponse}
    (retained : Bool) (hknown : up.keys response) :
    (afterRefresh rt req d why response retained).Sourced rt up req := by
  cases why with
  | kidMiss kid header cached =>
      simp only [afterRefresh]
      split
      · rename_i hvalid
        have hattempt : (attempt rt req d header response.keyList).Sourced rt up req :=
          attempt_sourced hdisco hd hwhy.1 ⟨hknown, hvalid⟩
        split
        · exact hattempt
        · exact hattempt
      · rename_i e he
        have hdone : (Pc.done (.error e)).Sourced rt up req := .keys response e hknown he
        split
        · exact hdone
        · exact hdone
  | retry =>
      simp only [afterRefresh]
      split
      · rename_i e he
        exact .keys response e hknown he
      · rename_i hvalid
        have hfinish :
            (finish rt req (retryDecode rt req d response.keyList)).Sourced rt up req :=
          finish_sourced fun e => retryDecode_sourced hdisco hd ⟨hknown, hvalid⟩
        split <;> exact hfinish

end Parts

section Steps

variable {rt : Runtime} {up : Upstream} {req : Request} {w w' : Shared} {pc pc' : Pc} {act : Act}

/-- The answer that a move brings is known. -/
def Act.Known (up : Upstream) : Act → Prop
  | .run => True
  | .discovery answer => up.disco (processDiscoveryResponse answer)
  | .keys response => up.keys response

theorem known_writeJwks (h : w.Known up) (uri : String) (purpose : Purpose)
    {response : JwksResponse} (hknown : up.keys response) :
    (writeJwks rt w uri purpose response).Known up := by
  refine ⟨h.disco, fun k entry hentry => ?_⟩
  obtain hold | ⟨-, rfl, -⟩ := lookup_applyJwksCacheOutcome hentry
  · exact h.jwks k entry hold
  · exact hknown

theorem known_surfaced (h : w.Known up) (uri : String) {response : JwksResponse}
    (hknown : up.keys response) : up.keys (surfaced w uri response).1 := by
  unfold surfaced
  split
  · split
    · rename_i entry hentry
      split
      · exact h.jwks uri entry hentry
      · exact hknown
    · exact hknown
  · exact hknown

theorem Advance.known (h : Advance rt w req pc act w' pc') (hw : w.Known up)
    (hpc : pc.Sourced rt up req) : w'.Known up := by
  cases h with
  | discoTouch response locked held =>
      exact ⟨fun key entry hentry => hw.disco key entry (by simpa using hentry), hw.jwks⟩
  | discoWrite response held =>
      refine ⟨fun key entry hentry => ?_, hw.jwks⟩
      obtain hold | ⟨-, hresponse, -⟩ := lookup_applyDiscoCacheOutcome hentry
      · exact hw.disco key entry hold
      · rw [hresponse]
        exact hpc
  | jwksTouch d response locked held =>
      exact ⟨hw.disco, fun uri entry hentry => hw.jwks uri entry (by simpa using hentry)⟩
  | jwksWrite d response held =>
      have hw' : (writeJwks rt w d.uri .fetch response).Known up :=
        known_writeJwks hw d.uri .fetch hpc.2
      exact ⟨hw'.disco, hw'.jwks⟩
  | refreshWrite d why response =>
      have hw' : (writeJwks rt w d.uri why.purpose response).Known up :=
        known_writeJwks hw d.uri why.purpose hpc.2
      exact ⟨hw'.disco, hw'.jwks⟩
  | _ => exact ⟨hw.disco, hw.jwks⟩

theorem Advance.sourced (hdisco : req.config.performDisco = true)
    (h : Advance rt w req pc act w' pc') (hact : act.Known up) (hw : w.Known up)
    (hpc : pc.Sourced rt up req) : pc'.Sourced rt up req := by
  cases h with
  | discoReadHit response hfresh =>
      obtain ⟨entry, hentry, rfl⟩ := freshResponse_eq_some hfresh
      exact hw.disco _ entry hentry
  | discoTouch response locked held => exact afterDisco_sourced hpc
  | discoRecheckHit response hfresh =>
      obtain ⟨entry, hentry, rfl⟩ := freshResponse_eq_some hfresh
      exact hw.disco _ entry hentry
  | discoAnswer answer => exact hact
  | discoRaised answer e held he => exact .counting _ e he
  | discoWrite response held => exact afterDisco_sourced hpc
  | jwksReadHit d response hfresh =>
      obtain ⟨entry, hentry, rfl⟩ := freshResponse_eq_some hfresh
      exact ⟨hpc, hw.jwks _ entry hentry⟩
  | jwksReadMiss d => exact hpc
  | jwksTouch d response locked held => exact afterJwks_sourced hdisco hpc.1 hpc.2
  | jwksLock d => exact hpc
  | jwksRecheckHit d response hfresh =>
      obtain ⟨entry, hentry, rfl⟩ := freshResponse_eq_some hfresh
      exact ⟨hpc, hw.jwks _ entry hentry⟩
  | jwksRecheckMiss d => exact hpc
  | jwksAnswer d response => exact ⟨hpc, hact⟩
  | jwksRaised d response e held he => exact .counting _ e he
  | jwksWrite d response held => exact afterJwks_sourced hdisco hpc.1 hpc.2
  | gate d why => exact hpc
  | gatePassed d why now hpass => exact hpc
  | gateBlocked d why now => exact afterBlocked_sourced hdisco hpc.1 hpc.2
  | refreshLock d why => exact hpc
  | coalesced d why entry held hentry =>
      exact afterRefresh_sourced hdisco hpc.1 hpc.2 false (hw.jwks _ entry hentry)
  | refreshSend d why => exact hpc
  | refreshAnswer d why response => exact ⟨hpc, hact⟩
  | refreshRaised d why response e held he => exact .counting _ e he
  | refreshWrite d why response =>
      have hw' : (writeJwks rt w d.uri why.purpose response).Known up :=
        known_writeJwks hw d.uri why.purpose hpc.2
      exact afterRefresh_sourced hdisco hpc.1.1 hpc.1.2 _ (known_surfaced hw' d.uri hpc.2)
  | settle d stamp next => exact hpc
  | _ => trivial

end Steps

/-- A call that has not returned is one with discovery. -/
def Task.Sourced (rt : Runtime) (up : Upstream) : Task → Prop
  | .token req pc => pc.Sourced rt up req ∧ (req.config.performDisco = true ∨ ∃ r, pc = .done r)
  | _ => True

section Times

variable {rt : Runtime} {now : ℚ} {up : Upstream} {req : Request}

theorem Sourced.at_iff {e : PyError} : Sourced (rt.at now) up req e ↔ Sourced rt up req e := by
  constructor <;> intro h <;> cases h with
  | own _ h => exact .own e h
  | settings _ h => exact .settings e h
  | discovery response _ hknown h => exact .discovery response e hknown h
  | keys response _ hknown h => exact .keys response e hknown h
  | uri response uri hknown hfound h hmistyped => exact .uri response uri hknown hfound h hmistyped
  | header d response _ hdisco hd hkeys h => exact .header d response e hdisco hd hkeys h
  | decode _ h => exact .decode e (Undecodable.at_iff.mp h)
  | refused claims _ h => exact .refused claims e h
  | counting address _ h => exact .counting address e h

theorem Why.known_at {why : Why} : why.Known (rt.at now) up req ↔ why.Known rt up req := by
  cases why <;> exact Iff.rfl

theorem Pc.sourced_at {pc : Pc} : pc.Sourced (rt.at now) up req ↔ pc.Sourced rt up req := by
  induction pc with
  | settle d stamp next ih => exact ih
  | done result =>
      cases result with
      | error e => exact Sourced.at_iff
      | ok claims => exact Iff.rfl
  | gate d why => exact and_congr_right' Why.known_at
  | gateCheck d why attempted => exact and_congr_right' Why.known_at
  | refreshWait d why => exact and_congr_right' Why.known_at
  | refreshCheck d why => exact and_congr_right' Why.known_at
  | refreshFetch d why => exact and_congr_right' Why.known_at
  | refreshWrite d why response => exact and_congr_left' (and_congr_right' Why.known_at)
  | _ => exact Iff.rfl

theorem Task.sourced_at {x : Task} : x.Sourced (rt.at now) up ↔ x.Sourced rt up := by
  cases x with
  | token req pc => exact and_congr_left' Pc.sourced_at
  | _ => exact Iff.rfl

end Times

/-- Without discovery the key is the one of the settings. -/
theorem manualResult_error {rt : Runtime} {up : Upstream} {jwt : String}
    {config : TokenValidationConfig} {e : PyError} (hdisco : config.performDisco = false)
    (h : manualResult rt jwt config = .error e) : e.Own ∨ Undecodable rt.pyjwt up jwt config e := by
  unfold manualResult at h
  split at h
  · rename_i e' he
    cases h
    exact .inl (validateConfigForManualValidation_own he)
  · obtain hown | hraises := decodeWithConfig_error h
    · exact .inl hown
    · exact .inr (.manual hdisco hraises)

theorem manualResult_sourced {rt : Runtime} {up : Upstream} {req : Request} {e : PyError}
    (hdisco : req.config.performDisco = false)
    (h : manualResult rt req.jwt req.config = .error e) : Sourced rt up req e := by
  obtain hown | hraises := manualResult_error hdisco h
  · exact .own e hown
  · exact .decode e hraises

theorem startToken_sourced (rt : Runtime) (up : Upstream) (jwt : String)
    (config : TokenValidationConfig) (address : Option String) :
    (startToken rt jwt config address).Sourced rt up := by
  simp only [startToken]
  split
  · rename_i e he
    exact ⟨.settings e he, .inr ⟨_, rfl⟩⟩
  · split
    · rename_i hdisco
      split
      · exact ⟨.own _ (own_of_text rfl rfl (by decide)), .inr ⟨_, rfl⟩⟩
      · exact ⟨trivial, .inl hdisco⟩
    · rename_i hdisco
      have hmanual : config.performDisco = false := by simpa using hdisco
      exact ⟨finish_sourced fun e he => manualResult_sourced hmanual he, .inr (finish_done rt _ _)⟩

abbrev AllSourced (rt : Runtime) (up : Upstream) : State → Prop :=
  Holds (Shared.Known up) (fun _ => Task.Sourced rt up) (fun _ _ => True)

/-- The answer that a label brings is known. -/
def answersKnown (up : Upstream) : Label → Prop
  | .move _ e => e.act.Known up
  | .spawn _ => True

theorem sourced_step (rt : Runtime) (up : Upstream) (s : State) (l : Label) (s' : State)
    (h : AllSourced rt up s) (hok : answersKnown up l)
    (hstep : (validator rt).step s l = some s') : AllSourced rt up s' := by
  refine validator_holds (answersKnown up) ?_ ?_ s l s' h hok hstep
  · intro now call _
    cases call with
    | validateToken jwt config address =>
        exact Task.sourced_at.mp (startToken_sourced (rt.at now) up jwt config address)
    | _ => trivial
  · intro t e w x w' x' hact hknown hself hmoved
    have hnow : ({ w with now := e.now } : Shared).Known up := ⟨hknown.disco, hknown.jwks⟩
    constructor
    · cases hmoved with
      | token req pc _ pc' hadv => exact hadv.known hnow (Pc.sourced_at.mpr hself.1)
      | clearJwks => exact ⟨hknown.disco, fun uri entry hentry => by cases hentry⟩
      | clearDisco => exact ⟨fun key entry hentry => (by cases hentry), hknown.jwks⟩
    · cases hmoved with
      | token req pc _ pc' hadv =>
          obtain hdisco | ⟨r, rfl⟩ := hself.2
          · have hsourced := hadv.sourced hdisco hact hnow (Pc.sourced_at.mpr hself.1)
            exact ⟨Pc.sourced_at.mp hsourced, .inl hdisco⟩
          · cases hadv
      | _ => trivial

/-- In every run with known answers, an exception that a call raised has a source. -/
theorem sourced_of_run {rt : Runtime} {up : Upstream} {ls : List Label} {s : State}
    (hrun : run rt initial ls = some s) (hknown : ∀ l ∈ ls, answersKnown up l) {req : Request}
    {e : PyError} (hdone : .token req (.done (.error e)) ∈ s.tasks) : Sourced rt up req e := by
  have hstart : AllSourced rt up initial :=
    Holds.of_idle ⟨fun key entry h => (by cases h), fun uri entry h => (by cases h)⟩ rfl
  have hmeets : Meets (validator rt).step (fun _ => answersKnown up) initial ls :=
    Meets.of_forall hknown
  exact ((exec_invariant (sourced_step rt up) hstart hmeets hrun).of_mem hdone).1

end IdentityModel.Py
