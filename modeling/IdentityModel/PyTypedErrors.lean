import IdentityModel.PyExceptions
import IdentityModel.PyRaised

/-!
# Typed exceptions of the synchronous validation

`validate_token` of the synchronous module, over its caches and with an injected HTTP client. PyJWT
reads the header of a token outside the `try` that translates its exceptions, and the translation
knows the `InvalidTokenError`s only. Besides these two ways out for an exception that is not the
library's there are values of unexpected types: an `int` for the leeway that no `float` holds, and
issuers and a `jwks_uri` of a document that have no hash.
-/
namespace IdentityModel.Py

open Runs Tasks

/-- What an injected client comes back with: the document, the keys, and the keys of the retry; and
when the two decodes are. -/
structure InjectedAnswers where
  discovery : DiscoveryDocumentResponse
  keys : JwksResponse
  refreshed : JwksResponse
  decoding : ℚ := 0
  retrying : ℚ := 0

/-- `_retry_with_refreshed_jwks` with an injected client. -/
def injectedRetry (rt : Runtime) (req : Request) (d : Disco) (answers : InjectedAnswers) : Result :=
  match validateJwksResponse answers.refreshed with
  | some e => .error e
  | none => retryDecode (rt.at answers.retrying) req d answers.refreshed.keyList

/-- `_discover_and_resolve_key` with an injected client, and the decode. -/
def injectedDecode (rt : Runtime) (req : Request) (answers : InjectedAnswers) : Result :=
  match validateDiscoResponse answers.discovery with
  | some e => .error e
  | none =>
      match validateJwksUri answers.discovery with
      | .error e => .error e
      | .ok (.str uri) =>
          match validateJwksResponse answers.keys with
          | some e => .error e
          | none =>
              match rt.pyjwt.header req.jwt with
              | .error e => .error e
              | .ok header =>
                  match resolveAndDecode (rt.pyjwt.at answers.decoding) req.jwt req.config header
                      answers.keys.keyList answers.discovery.issuer with
                  | .ok claims => .ok claims
                  | .error e =>
                      if e.isSignatureVerification then
                        injectedRetry rt req ⟨answers.discovery, uri⟩ answers
                      else .error e
      | .ok uri =>
          -- `get_jwks` reports that `urlparse` failed on the address
          .error (.tokenValidation ("Unhandled exception during JWKS request: '" ++ typeName uri ++
            "' object has no attribute 'decode'"))

/-- `validate_token` with an injected client: no cache and no cooldown. -/
def validateTokenInjected (rt : Runtime) (jwt : String) (config : TokenValidationConfig)
    (discoDocAddress : Option String) (answers : InjectedAnswers) : Result :=
  let policy := resolveDiscoveryPolicy config.discoveryPolicy config.requireHttps
  let decoded : Result :=
    if config.performDisco then
      match discoDocAddress with
      | none =>
          .error (.configuration "disco_doc_address is required when perform_disco is True")
      | some address => injectedDecode rt ⟨jwt, config, address, policy⟩ answers
    else manualResult (rt.at answers.decoding) jwt config
  match validateTokenConfig config with
  | some e => .error e
  | none =>
      match decoded with
      | .error e => .error e
      | .ok claims =>
          match validateClaims rt.flavour config claims with
          | some e => .error e
          | none => .ok claims

/-- The answers are known. -/
structure InjectedAnswers.Known (up : Upstream) (answers : InjectedAnswers) : Prop where
  discovery : up.disco answers.discovery
  keys : up.keys answers.keys
  refreshed : up.keys answers.refreshed

/-- What is not the library's for the token: a call with discovery, once it has its keys, asks PyJWT
for a header that it cannot read, or a decode that the token may come to raises it. -/
inductive Indigestible (pyjwt : PyJwt) (up : Upstream) (jwt : String)
    (config : TokenValidationConfig) : Prop
  | header (d : Disco) (response : JwksResponse) (e : PyError) (hdisco : config.performDisco = true)
      (hd : d.Known up) (hkeys : response.Known up) (h : pyjwt.header jwt = .error e)
      (hforeign : e.isLibrary = false)
  | decode (e : PyError) (h : Undecodable pyjwt up jwt config e)

/-- A document that is accepted has a `jwks_uri` with no hash: a list or an object. -/
def Unhashable (up : Upstream) : Prop :=
  ∃ response, up.disco response ∧ response.isSuccessful = true ∧
    ((∃ elems, validateJwksUri response = .ok (.arr elems)) ∨
      ∃ members, validateJwksUri response = .ok (.obj members))

theorem Sourced.escapes {rt : Runtime} {up : Upstream} {req : Request} {e : PyError}
    (hsync : rt.flavour = .sync) (h : Sourced rt up req e) (hforeign : e.isLibrary = false) :
    req.config.Overflows ∨ Indigestible rt.pyjwt up req.jwt req.config ∨ Unhashable up := by
  cases h with
  | own _ h => exact (h.not_foreign hforeign).elim
  | settings _ h =>
      obtain hown | ⟨-, hover⟩ := validateTokenConfig_own h
      · exact (hown.not_foreign hforeign).elim
      · exact .inl hover
  | discovery response _ hknown h =>
      rw [validateDiscoResponse_library h] at hforeign
      cases hforeign
  | keys response _ hknown h =>
      rw [validateJwksResponse_library h] at hforeign
      cases hforeign
  | uri response uri hknown hfound h hmistyped =>
      right
      right
      cases uri with
      | arr elems => exact ⟨response, hknown, hfound, .inl ⟨elems, h⟩⟩
      | obj members => exact ⟨response, hknown, hfound, .inr ⟨members, h⟩⟩
      | str s => cases hmistyped
      | _ =>
          simp only [mistypedJwksUri, hsync] at hforeign
          cases hforeign
  | header d response _ hdisco hd hkeys h =>
      exact .inr (.inl (.header d response e hdisco hd hkeys h hforeign))
  | decode _ h => exact .inr (.inl (.decode e h))
  | refused claims _ h =>
      rw [validateClaims_library h] at hforeign
      cases hforeign
  | counting address _ h =>
      simp only [Runtime.countingError, hsync] at h
      cases h

section Parts

variable {pyjwt : PyJwt} {up : Upstream} {jwt : String} {config : TokenValidationConfig} {e : PyError}

theorem escapes_of_undecoded {now : ℚ} (h : e.Own ∨ Undecodable (pyjwt.at now) up jwt config e) :
    e.isLibrary = true ∨ Indigestible pyjwt up jwt config := by
  obtain hown | hraises := h
  · exact .inl hown.library
  · exact .inr (.decode e (Undecodable.at_iff.mp hraises))

theorem escapes_of_unread {d : Disco} {response : JwksResponse}
    (hdisco : config.performDisco = true) (hd : d.Known up) (hkeys : response.Known up)
    (h : pyjwt.header jwt = .error e) : e.isLibrary = true ∨ Indigestible pyjwt up jwt config := by
  by_cases hlibrary : e.isLibrary = true
  · exact .inl hlibrary
  · exact .inr (.header d response e hdisco hd hkeys h (by simpa using hlibrary))

theorem injectedRetry_escapes {rt : Runtime} {req : Request} {d : Disco} {answers : InjectedAnswers}
    (hknown : answers.Known up) (hdisco : req.config.performDisco = true) (hd : d.Known up)
    (h : injectedRetry rt req d answers = .error e) :
    e.isLibrary = true ∨ Indigestible rt.pyjwt up req.jwt req.config := by
  unfold injectedRetry at h
  split at h
  · rename_i e' he
    cases h
    exact .inl (validateJwksResponse_library he)
  · rename_i hvalid
    have hkeys : answers.refreshed.Known up := ⟨hknown.refreshed, hvalid⟩
    unfold retryDecode at h
    split at h
    · rename_i e' he
      cases h
      exact escapes_of_unread hdisco hd hkeys he
    · rename_i header hheader
      have hraised : e.Own ∨ Undecodable (rt.at answers.retrying).pyjwt up req.jwt req.config e :=
        resolveAndDecode_error hdisco hd hheader hkeys h
      exact escapes_of_undecoded hraised

end Parts

section Injected

variable {rt : Runtime} {up : Upstream} {answers : InjectedAnswers} {e : PyError}
  (hknown : answers.Known up)
include hknown

/-- No cache asks for the hash of a `jwks_uri`. -/
theorem injectedDecode_escapes {req : Request} (hdisco : req.config.performDisco = true)
    (h : injectedDecode rt req answers = .error e) :
    e.isLibrary = true ∨ Indigestible rt.pyjwt up req.jwt req.config := by
  unfold injectedDecode at h
  split at h
  · rename_i e' he
    cases h
    exact .inl (validateDiscoResponse_library he)
  · rename_i hfound
    split at h
    · rename_i e' he
      cases h
      exact .inl (validateJwksUri_own he).library
    · rename_i uri huri
      obtain ⟨huri, hne⟩ := validateJwksUri_str huri
      have hd : Disco.Known up ⟨answers.discovery, uri⟩ :=
        ⟨hknown.discovery, validateDiscoResponse_none hfound, huri, hne⟩
      split at h
      · rename_i e' he
        cases h
        exact .inl (validateJwksResponse_library he)
      · rename_i hvalid
        have hkeys : answers.keys.Known up := ⟨hknown.keys, hvalid⟩
        split at h
        · rename_i e' he
          cases h
          exact escapes_of_unread hdisco hd hkeys he
        · rename_i header hheader
          split at h
          · cases h
          · rename_i e' he
            split at h
            · exact injectedRetry_escapes hknown hdisco hd h
            · cases h
              have hraised :
                  e.Own ∨ Undecodable (rt.at answers.decoding).pyjwt up req.jwt req.config e :=
                resolveAndDecode_error hdisco hd hheader hkeys he
              exact escapes_of_undecoded hraised
    · cases h
      exact .inl rfl

/-- An exception of a call that got past the check of its settings. -/
theorem validateTokenInjected_escapes {jwt : String} {config : TokenValidationConfig}
    {address : Option String}
    (h : validateTokenInjected rt jwt config address answers = .error e) :
    e.isLibrary = true ∨ config.Overflows ∨ validateTokenConfig config = none ∧
      (config.performDisco = true → address ≠ none) ∧ Indigestible rt.pyjwt up jwt config := by
  simp only [validateTokenInjected] at h
  split at h
  · rename_i e' he
    cases h
    obtain hown | ⟨-, hover⟩ := validateTokenConfig_own he
    · exact .inl hown.library
    · exact .inr (.inl hover)
  · rename_i hvalid
    split at h
    · rename_i e' he
      cases h
      split at he
      · rename_i hdisco
        cases address with
        | none =>
            cases he
            exact .inl rfl
        | some address =>
            obtain hlibrary | hindigest := injectedDecode_escapes hknown hdisco he
            · exact .inl hlibrary
            · exact .inr (.inr ⟨hvalid, fun _ => Option.some_ne_none _, hindigest⟩)
      · rename_i hmanual
        have hdisco : config.performDisco = false := by simpa using hmanual
        have hraised : e.Own ∨ Undecodable (rt.at answers.decoding).pyjwt up jwt config e :=
          manualResult_error hdisco he
        obtain hlibrary | hindigest := escapes_of_undecoded hraised
        · exact .inl hlibrary
        · exact .inr (.inr ⟨hvalid, fun hdisco => absurd hdisco hmanual, hindigest⟩)
    · rename_i claims hclaims
      split at h
      · rename_i e' he
        cases h
        exact .inl (validateClaims_library he)
      · cases h

end Injected

/-- The answers that the labels of a run bring. -/
def answersOf (ls : List Label) : Upstream where
  disco doc := ∃ t now answer, doc = processDiscoveryResponse answer ∧
    .move t ⟨now, .discovery answer⟩ ∈ ls
  keys response := ∃ t now, .move t ⟨now, .keys response⟩ ∈ ls

theorem answersOf_known (ls : List Label) : ∀ l ∈ ls, answersKnown (answersOf ls) l := by
  intro l hl
  cases l with
  | spawn call => trivial
  | move t e =>
      obtain ⟨now, act⟩ := e
      cases act with
      | run => trivial
      | discovery answer => exact ⟨t, now, answer, rfl, hl⟩
      | keys response => exact ⟨t, now, hl⟩

section Escapes

variable {rt : Runtime} {up : Upstream} {jwt : String} {config : TokenValidationConfig} {e : PyError}

theorem validateDiscoResponse_of_known {d : Disco} (h : d.Known up) :
    validateDiscoResponse d.doc = none := if_pos h.found

theorem validateJwksUri_of_known {d : Disco} (h : d.Known up) :
    validateJwksUri d.doc = .ok (.str d.uri) := by
  simp [validateJwksUri, h.uri, isTruthy, h.someUri]

/-- A call whose token has a header that cannot be read, once it has keys. -/
theorem escapes_of_header (hvalid : validateTokenConfig config = none)
    (hdisco : config.performDisco = true) (address : String) {d : Disco} (hd : d.Known up)
    {response : JwksResponse} (hkeys : response.Known up) (h : rt.pyjwt.header jwt = .error e) :
    validateTokenInjected rt jwt config (some address)
      { discovery := d.doc, keys := response, refreshed := response } = .error e := by
  simp [validateTokenInjected, hvalid, hdisco, injectedDecode, validateDiscoResponse_of_known hd,
    validateJwksUri_of_known hd, hkeys.valid, h]

/-- A call that comes to a decode that raises what is not the library's. -/
theorem escapes_of_decode (hvalid : validateTokenConfig config = none) {address : Option String}
    (haddress : config.performDisco = true → address ≠ none) {answers : InjectedAnswers}
    (hknown : answers.Known up) (h : Undecodable rt.pyjwt up jwt config e) :
    ∃ answers : InjectedAnswers, answers.Known up ∧
      validateTokenInjected rt jwt config address answers = .error e := by
  obtain ⟨hdisco, hraises⟩ | ⟨d, response, header, key, alg, hdisco, hd, hkeys, hheader, hfind,
    hallowed, hraises⟩ := h
  · have hmanual : validateConfigForManualValidation config = none := by
      obtain ⟨hkey, halgorithms⟩ := hraises.settings
      cases hk : config.key with
      | none => exact absurd hk hkey
      | some key => simp [validateConfigForManualValidation, hk, halgorithms]
    obtain ⟨now, hfails⟩ := hraises.fails
    refine ⟨{ answers with decoding := now }, ⟨hknown.discovery, hknown.keys, hknown.refreshed⟩, ?_⟩
    have hresult : manualResult (rt.at now) jwt config = .error e := by
      simp only [manualResult, hmanual]
      exact hfails
    simp [validateTokenInjected, hvalid, hdisco, hresult]
  · obtain ⟨a, rfl⟩ := Option.ne_none_iff_exists'.mp (haddress hdisco)
    have hbuild : buildResolvedConfig config key alg =
        .ok { config with key := some key, algorithms := some [alg] } := by
      unfold buildResolvedConfig
      rw [if_neg]
      cases halgs : config.algorithms with
      | none => simp
      | some algs => simpa using hallowed algs halgs
    obtain ⟨now, hfails⟩ := hraises.fails
    have hdecode : resolveAndDecode (rt.pyjwt.at now) jwt config header response.keyList
        d.doc.issuer = .error e := by
      simp [resolveAndDecode, hfind, hbuild, hfails]
    have hother : e.isSignatureVerification = false := by
      have hforeign := hraises.foreign
      cases e <;> first | rfl | cases hforeign
    refine ⟨{ discovery := d.doc, keys := response, refreshed := response, decoding := now },
      ⟨hd.answered, hkeys.answered, hkeys.answered⟩, ?_⟩
    simp [validateTokenInjected, hvalid, hdisco, injectedDecode, validateDiscoResponse_of_known hd,
      validateJwksUri_of_known hd, hkeys.valid, hheader, hdecode, hother]

end Escapes

/-- In every run of the synchronous module a call raises exceptions of the library only, if its
leeway fits a `float`, PyJWT can digest its token with the documents and keys that were answered,
and no document has a `jwks_uri` without a hash. With an injected client, whatever documents and
keys it may come back with, the exceptions are the library's if and only if the leeway fits, and
the settings are refused, the address that discovery needs is missing, or PyJWT can digest the
token. -/
theorem typed_errors (rt : Runtime) (hsync : rt.flavour = .sync) :
    (∀ ls s, run rt initial ls = some s → ∀ req e, .token req (.done (.error e)) ∈ s.tasks →
      ¬ req.config.Overflows → ¬ Indigestible rt.pyjwt (answersOf ls) req.jwt req.config →
      ¬ Unhashable (answersOf ls) → e.isLibrary = true) ∧
    ∀ up, (∃ answers : InjectedAnswers, answers.Known up) → ∀ jwt config address,
      (∀ answers : InjectedAnswers, answers.Known up → ∀ e,
        validateTokenInjected rt jwt config address answers = .error e → e.isLibrary = true) ↔
      ¬ config.Overflows ∧
      ¬ (validateTokenConfig config = none ∧ (config.performDisco = true → address ≠ none) ∧
        Indigestible rt.pyjwt up jwt config) := by
  refine ⟨fun ls s hrun req e hdone hfits hdigest hhashed => ?_,
    fun up hsome jwt config address => ⟨fun hlibrary => ⟨?_, ?_⟩, ?_⟩⟩
  · by_contra hforeign
    have hsourced := sourced_of_run hrun (answersOf_known ls) hdone
    obtain hover | hindigest | hunhashable := hsourced.escapes hsync (by simpa using hforeign)
    · exact hfits hover
    · exact hdigest hindigest
    · exact hhashed hunhashable
  · intro hover
    obtain ⟨answers, hknown⟩ := hsome
    have hraised : validateTokenInjected rt jwt config address answers =
        .error (.other "int too large to convert to float") := by
      simp only [validateTokenInjected, hover.raises]
    cases hlibrary answers hknown _ hraised
  · rintro ⟨hvalid, haddress, hindigest⟩
    obtain ⟨answers, hknown⟩ := hsome
    cases hindigest with
    | header d response e hdisco hd hkeys h hforeign =>
        obtain ⟨a, rfl⟩ := Option.ne_none_iff_exists'.mp (haddress hdisco)
        rw [hlibrary _ ⟨hd.answered, hkeys.answered, hkeys.answered⟩ e
          (escapes_of_header hvalid hdisco a hd hkeys h)] at hforeign
        cases hforeign
    | decode e h =>
        obtain ⟨answers', hknown', hraised⟩ := escapes_of_decode hvalid haddress hknown h
        have hforeign := h.foreign
        rw [hlibrary answers' hknown' e hraised] at hforeign
        cases hforeign
  · rintro ⟨hfits, hdigest⟩ answers hknown e h
    obtain hlibrary | hover | hindigest := validateTokenInjected_escapes hknown h
    · exact hlibrary
    · exact absurd hover hfits
    · exact absurd hindigest hdigest

/-- A sample call whose signature does not verify raises a `SignatureVerificationException`. -/
theorem typed_errors_sample :
    ∃ answers e, validateTokenInjected (sampleRuntime .sync) "token" { performDisco := true }
        (some "https://idp") answers = .error e ∧ e.isLibrary = true := by
  let keys : JwksResponse :=
    { isSuccessful := true, keys := some [{ kty := "RSA", kid := some "x" }] }
  let answers : InjectedAnswers :=
    { discovery := processDiscoveryResponse sampleAnswer, keys := keys, refreshed := keys }
  have hresult : validateTokenInjected (sampleRuntime .sync) "token" { performDisco := true }
      (some "https://idp") answers = .error (.signatureVerification "Invalid signature") := by rfl
  have hknown : answers.Known anyAnswers := ⟨trivial, trivial, trivial⟩
  have hdigest : ¬ Indigestible (sampleRuntime .sync).pyjwt anyAnswers "token"
      { performDisco := true } := by
    intro hindigest
    cases hindigest with
    | header d response e hdisco hd hkeys h hforeign => cases h
    | decode e h =>
        obtain ⟨now, args, text, -, hdecode, -⟩ := h.raised rfl
        cases hdecode
  have hfits : ¬ TokenValidationConfig.Overflows { performDisco := true } := by
    rintro ⟨-, leeway, hleeway, -⟩
    cases hleeway
  have htyped := (typed_errors (sampleRuntime .sync) rfl).2 anyAnswers ⟨answers, hknown⟩ "token"
    { performDisco := true } (some "https://idp")
  exact ⟨answers, _, hresult,
    htyped.mpr ⟨hfits, fun h => hdigest h.2.2⟩ answers hknown _ hresult⟩

/-- PyJWT cannot read the header of any token. -/
def unreadableRuntime : Runtime :=
  { sampleRuntime .sync with
    pyjwt :=
      { header := fun _ => .error (.other "Not enough segments")
        decode := fun _ _ => .error (.invalidToken "")
        str := fun _ => "" } }

/-- The call has raised what is not the library's. -/
def Task.raisedForeign : Task → Bool
  | .token _ (.done (.error e)) => !e.isLibrary
  | _ => false

/-- PyJWT's exception for a token without segments leaves the synchronous `validate_token`, over
its caches and with an injected client. -/
theorem decode_error_escapes :
    (∃ s x, run unreadableRuntime initial (signedRun none) = some s ∧ x ∈ s.tasks ∧
      x.raisedForeign = true) ∧
    validateTokenInjected unreadableRuntime "x" { performDisco := true } (some "https://idp")
      { discovery := processDiscoveryResponse sampleAnswer
        keys := { isSuccessful := true, keys := some [{ kty := "RSA" }] }
        refreshed := { isSuccessful := true, keys := some [{ kty := "RSA" }] } } =
      .error (.other "Not enough segments") := by
  have hrun := eq_some_getD initial
    (show (run unreadableRuntime initial (signedRun none)).isSome = true by decide +kernel)
  have hany : ((run unreadableRuntime initial (signedRun none)).getD initial).tasks.any
      Task.raisedForeign = true := by decide +kernel
  obtain ⟨x, hx, hraised⟩ := List.any_eq_true.mp hany
  exact ⟨⟨_, x, hrun, hx, hraised⟩, by rfl⟩

end IdentityModel.Py
