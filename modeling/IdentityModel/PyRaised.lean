import IdentityModel.PyExceptions
import IdentityModel.PyReturned

/-!
# Exceptions that are not the library's

`validate_token` promises exceptions of the library. Under plain settings the others it lets
through have these sources: PyJWT, which is asked for the header of a token outside any `try`, and
whose `decode` may raise what is no `InvalidTokenError`; an address that the asynchronous module
cannot parse when it counts a fetch; and a `jwks_uri` that is no string.
-/
namespace IdentityModel.Py

open Runs Tasks Url

/-- PyJWT raises this exception, at some time, while it decodes the token. -/
def RaisedInDecode (pyjwt : PyJwt) (jwt : String) (e : PyError) : Prop :=
  ∃ now args text, args.jwt = jwt ∧ pyjwt.decode now args = .error (.other text) ∧ e = .other text

/-- A document with a `jwks_uri` that is no string ended the validation. -/
def MistypedUri (rt : Runtime) (e : PyError) : Prop :=
  ∃ response uri, response.isSuccessful = true ∧ validateJwksUri response = .ok uri ∧
    uri.str? = none ∧ e = mistypedJwksUri rt uri

/-- Where an exception that is not the library's comes from. -/
def Foreign (rt : Runtime) (jwt : String) (e : PyError) : Prop :=
  rt.pyjwt.header jwt = .error e ∨ RaisedInDecode rt.pyjwt jwt e ∨
    (∃ address text, urlparse rt.platform address = .error text ∧ e = .other text) ∨
    MistypedUri rt e

section Library

variable {config : TokenValidationConfig} {e : PyError}

theorem PyError.Own.not_foreign (h : e.Own) (hforeign : e.isLibrary = false) : False := by
  rw [h.library] at hforeign
  cases hforeign

theorem claimsVerdict_library {result : Except PyError Unit} (h : claimsVerdict result = some e) :
    e.isLibrary = true := by
  unfold claimsVerdict at h
  split at h
  · cases h
  · split at h
    · rename_i e' hkind
      cases h
      cases e <;> simp_all [PyError.isTokenValidation, PyError.isLibrary]
    · cases h
      rfl

theorem validateClaims_library {flavour : Flavour} {decoded : Claims}
    (h : validateClaims flavour config decoded = some e) : e.isLibrary = true := by
  unfold validateClaims at h
  split at h
  · cases h
  · split at h
    · cases h
    · split at h
      · cases h
      · exact claimsVerdict_library h
      · split at h
        · exact claimsVerdict_library h
        · cases h

theorem validateDiscoResponse_library {response : DiscoveryDocumentResponse}
    (h : validateDiscoResponse response = some e) : e.isLibrary = true := by
  unfold validateDiscoResponse at h
  split at h
  · cases h
  · cases h
    rfl

theorem validateJwksResponse_library {response : JwksResponse}
    (h : validateJwksResponse response = some e) : e.isLibrary = true := by
  unfold validateJwksResponse at h
  split at h
  · cases h
    rfl
  · split at h
    · cases h
      rfl
    · cases h

end Library

section Sources

variable {rt : Runtime} {up : Upstream} {req : Request} {jwt : String}
  {config : TokenValidationConfig} {e : PyError}

theorem DecodeRaises.raised {pyjwt : PyJwt} {config : TokenValidationConfig}
    {issuer : Option Issuer} (hallowed : config.allowedIssuers = none)
    (h : DecodeRaises pyjwt jwt config issuer e) :
    RaisedInDecode pyjwt jwt e := by
  cases h with
  | issuers _ hkey halgorithms h hforeign =>
      rw [hallowed] at h
      cases h
  | decode now args text hargs h => exact ⟨now, args, text, hargs.jwt, h, rfl⟩

theorem Undecodable.raised {pyjwt : PyJwt} (hallowed : config.allowedIssuers = none)
    (h : Undecodable pyjwt up jwt config e) : RaisedInDecode pyjwt jwt e := by
  cases h with
  | manual hdisco h => exact h.raised hallowed
  | discovered d response header key alg hdisco hd hkeys hheader hfind hpermitted h =>
      refine h.raised ?_
      exact hallowed

theorem countingError_foreign {address : String} {policy : DiscoveryPolicy}
    (h : rt.countingError address policy = some e) :
    ∃ address text, urlparse rt.platform address = .error text ∧ e = .other text := by
  unfold Runtime.countingError upstreamFetchAttempted at h
  split at h
  · cases h
  · split at h
    · cases h
    · rename_i text htext
      cases h
      split at htext
      · cases htext
      · rename_i text' hscheme
        cases htext
        exact ⟨address, text, validateUrlScheme_value hscheme, rfl⟩
      · cases htext

theorem Sourced.foreign (hleeway : req.config.leeway = none)
    (hallowed : req.config.allowedIssuers = none) (h : Sourced rt up req e)
    (hforeign : e.isLibrary = false) : Foreign rt req.jwt e := by
  cases h with
  | own _ h => exact (h.not_foreign hforeign).elim
  | settings _ h =>
      obtain hown | ⟨-, -, leeway, hsome, -⟩ := validateTokenConfig_own h
      · exact (hown.not_foreign hforeign).elim
      · cases hleeway.symm.trans hsome
  | discovery response _ hknown h =>
      rw [validateDiscoResponse_library h] at hforeign
      cases hforeign
  | keys response _ hknown h =>
      rw [validateJwksResponse_library h] at hforeign
      cases hforeign
  | uri response uri hknown hfound h hmistyped =>
      exact .inr (.inr (.inr ⟨response, uri, hfound, h, hmistyped, rfl⟩))
  | header d response _ hdisco hd hkeys h => exact .inl h
  | decode _ h => exact .inr (.inl (h.raised hallowed))
  | refused claims _ h =>
      rw [validateClaims_library h] at hforeign
      cases hforeign
  | counting address _ h => exact .inr (.inr (.inl (countingError_foreign h)))

end Sources

/-- Any answer. -/
def anyAnswers : Upstream where
  disco _ := True
  keys _ := True

theorem anyAnswers_known (l : Label) : answersKnown anyAnswers l := by
  cases l with
  | spawn call => trivial
  | move t e =>
      obtain ⟨now, act⟩ := e
      cases act <;> trivial

/-- In every run, an exception that is not the library's and ends a validation without leeway and
allowed issuers was raised by PyJWT for its token, by counting a fetch, or by a `jwks_uri` that is
no string. -/
theorem foreign_of_run {rt : Runtime} {ls : List Label} {s : State}
    (hrun : run rt initial ls = some s) {req : Request} {e : PyError}
    (hdone : .token req (.done (.error e)) ∈ s.tasks) (hleeway : req.config.leeway = none)
    (hallowed : req.config.allowedIssuers = none) (hforeign : e.isLibrary = false) :
    Foreign rt req.jwt e :=
  (sourced_of_run hrun (fun l _ => anyAnswers_known l) hdone).foreign hleeway hallowed hforeign

end IdentityModel.Py
