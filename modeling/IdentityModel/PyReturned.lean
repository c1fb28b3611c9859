import IdentityModel.PySoundness

/-!
# Settings of returned claims

Claims that a validation returns, with or without discovery, were decoded from its own token for
its own audience, with the claims its settings require.
-/
namespace IdentityModel.Py

open Runs Tasks

/-- The claims come from a decode of the token, at some time, under the settings. -/
def DecodedUnder (pyjwt : PyJwt) (jwt : String) (config : TokenValidationConfig) (claims : Claims) :
    Prop :=
  ∃ now args, pyjwt.decode now args = .ok claims ∧ args.Enforced ∧ args.jwt = jwt ∧
    args.audience = config.audience ∧ args.options = config.options ∧
    args.required = config.required

def Pc.Decodes (rt : Runtime) (req : Request) : Pc → Prop
  | .done (.ok claims) => DecodedUnder rt.pyjwt req.jwt req.config claims
  | .settle _ _ next => next.Decodes rt req
  | _ => True

def Task.Decodes (rt : Runtime) : Task → Prop
  | .token req pc => pc.Decodes rt req
  | _ => True

section Decode

variable {pyjwt : PyJwt} {jwt : String} {config : TokenValidationConfig} {claims : Claims}

theorem decodeWithConfig_decoded {issuer : Option Issuer}
    (h : decodeWithConfig pyjwt jwt config issuer = .ok claims) :
    DecodedUnder pyjwt jwt config claims := by
  simp only [decodeWithConfig] at h
  split at h
  · split at h
    · cases h
    · obtain ⟨hdecode, henforced⟩ := decodeAndValidateJwt_ok h
      exact ⟨_, _, hdecode, henforced, rfl, rfl, rfl, rfl⟩
  · cases h

theorem resolveAndDecode_decoded {header : Header} {keys : List JsonWebKey} {issuer : Option Issuer}
    (h : resolveAndDecode pyjwt jwt config header keys issuer = .ok claims) :
    DecodedUnder pyjwt jwt config claims := by
  unfold resolveAndDecode at h
  split at h
  · cases h
  · split at h
    · cases h
    · rename_i resolved hresolved
      obtain ⟨rfl, -⟩ := buildResolvedConfig_ok hresolved
      obtain ⟨now, args, hargs⟩ := decodeWithConfig_decoded h
      exact ⟨now, args, hargs⟩

end Decode

section Steps

variable {rt : Runtime} {req : Request} {d : Disco} {w w' : Shared} {pc pc' : Pc} {act : Act}

theorem finish_decodes {r : Result}
    (h : ∀ claims, r = .ok claims → DecodedUnder rt.pyjwt req.jwt req.config claims) :
    (finish rt req r).Decodes rt req := by
  cases r with
  | error e => trivial
  | ok decoded =>
      simp only [finish]
      split
      · trivial
      · exact h decoded rfl

theorem attempt_decodes (header : Header) (keys : List JsonWebKey) :
    (attempt rt req d header keys).Decodes rt req := by
  unfold attempt
  split
  · rename_i decoded hdecoded
    refine finish_decodes fun claims heq => ?_
    cases heq
    exact resolveAndDecode_decoded hdecoded
  · split <;> trivial

theorem afterDisco_decodes (response : DiscoveryDocumentResponse) :
    (afterDisco rt response).Decodes rt req := by
  obtain ⟨e, he⟩ | ⟨uri, huri, -⟩ := afterDisco_cases rt response
  · rw [he]
    trivial
  · rw [huri]
    trivial

theorem afterJwks_decodes (response : JwksResponse) :
    (afterJwks rt req d response).Decodes rt req := by
  unfold afterJwks
  split
  · trivial
  · split
    · trivial
    · split
      · exact attempt_decodes _ _
      · split
        · exact attempt_decodes _ _
        · trivial

theorem afterBlocked_decodes (why : Why) : (afterBlocked rt req d why).Decodes rt req := by
  cases why with
  | kidMiss kid header cached => exact attempt_decodes header _
  | retry => trivial

theorem retryDecode_decoded {keys : List JsonWebKey} {claims : Claims}
    (h : retryDecode rt req d keys = .ok claims) :
    DecodedUnder rt.pyjwt req.jwt req.config claims := by
  unfold retryDecode at h
  split at h
  · cases h
  · exact resolveAndDecode_decoded h

theorem afterRefresh_decodes (why : Why) (response : JwksResponse) (retained : Bool) :
    (afterRefresh rt req d why response retained).Decodes rt req := by
  cases why with
  | kidMiss kid header cached =>
      have hattempt : (attempt rt req d header response.keyList).Decodes rt req :=
        attempt_decodes header _
      simp only [afterRefresh]
      split
      · split
        · exact hattempt
        · exact hattempt
      · split <;> trivial
  | retry =>
      have hfinish : (finish rt req (retryDecode rt req d response.keyList)).Decodes rt req :=
        finish_decodes fun claims => retryDecode_decoded
      simp only [afterRefresh]
      split
      · trivial
      · split <;> exact hfinish

theorem Advance.decodes (h : Advance rt w req pc act w' pc') (hpc : pc.Decodes rt req) :
    pc'.Decodes rt req := by
  cases h with
  | discoTouch response locked held => exact afterDisco_decodes response
  | discoWrite response held => exact afterDisco_decodes response
  | jwksTouch d response locked held => exact afterJwks_decodes response
  | jwksWrite d response held => exact afterJwks_decodes response
  | gateBlocked d why now => exact afterBlocked_decodes why
  | coalesced d why entry held => exact afterRefresh_decodes why _ _
  | refreshWrite d why response => exact afterRefresh_decodes why _ _
  | settle d stamp _ => exact hpc
  | _ => trivial

end Steps

theorem Pc.decodes_at {rt : Runtime} {now : ℚ} {req : Request} {pc : Pc} :
    pc.Decodes (rt.at now) req ↔ pc.Decodes rt req := by
  induction pc with
  | settle d stamp next ih => exact ih
  | done result => cases result <;> exact Iff.rfl
  | _ => exact Iff.rfl

theorem Task.decodes_at {rt : Runtime} {now : ℚ} {x : Task} :
    x.Decodes (rt.at now) ↔ x.Decodes rt := by
  cases x with
  | token req pc => exact Pc.decodes_at
  | _ => exact Iff.rfl

theorem startToken_decodes (rt : Runtime) (jwt : String) (config : TokenValidationConfig)
    (address : Option String) : (startToken rt jwt config address).Decodes rt := by
  simp only [startToken]
  split
  · trivial
  · split
    · split <;> trivial
    · refine finish_decodes fun claims hclaims => ?_
      unfold manualResult at hclaims
      split at hclaims
      · cases hclaims
      · exact decodeWithConfig_decoded hclaims

abbrev AllDecode (rt : Runtime) : State → Prop :=
  Holds (fun _ => True) (fun _ => Task.Decodes rt) (fun _ _ => True)

theorem decodes_step (rt : Runtime) (s : State) (l : Label) (s' : State) (h : AllDecode rt s)
    (hstep : (validator rt).step s l = some s') : AllDecode rt s' := by
  refine validator_holds (fun _ => True) ?_ ?_ s l s' h trivial hstep
  · intro now call _
    cases call with
    | validateToken jwt config address =>
        exact Task.decodes_at.mp (startToken_decodes (rt.at now) jwt config address)
    | _ => trivial
  · intro t e w x w' x' _ _ hself hmoved
    refine ⟨trivial, ?_⟩
    cases hmoved with
    | token req pc _ pc' hadv => exact Pc.decodes_at.mp (hadv.decodes (Pc.decodes_at.mpr hself))
    | _ => trivial

/-- In every run, claims that were returned were decoded under the settings of their call. -/
theorem decoded_of_run {rt : Runtime} {ls : List Label} {s : State}
    (hrun : run rt initial ls = some s) {req : Request} {claims : Claims}
    (hdone : .token req (.done (.ok claims)) ∈ s.tasks) :
    DecodedUnder rt.pyjwt req.jwt req.config claims :=
  (exec_preserves (decodes_step rt) (Holds.of_idle trivial rfl) hrun).of_mem hdone

/-- The `aud` claim is the audience, or lists it. -/
def HasAudience (claims : Claims) (audience : String) : Prop :=
  claims.lookup "aud" = some (.str audience) ∨
    ∃ listed, claims.lookup "aud" = some (.arr listed) ∧ .str audience ∈ listed

/-- The claim is there, and not null. -/
def HasClaim (claims : Claims) (name : String) : Prop :=
  ∃ value, claims.lookup name = some value ∧ value ≠ .null

/-- The options do not disable the audience check. -/
def verifiesAud (options : Option (List (String × Bool))) : Bool :=
  (options.getD []).lookup "verify_aud" ≠ some false

/-- What is assumed of PyJWT beside its signature check: a token that is decoded has the audience
and the claims that were asked for. -/
structure PyJwt.Checks (pyjwt : PyJwt) : Prop where
  audience : ∀ now args a claims, args.Enforced → args.audience = some a →
    verifiesAud args.options = true → pyjwt.decode now args = .ok claims → HasAudience claims a
  required : ∀ now args claims, args.Enforced → pyjwt.decode now args = .ok claims →
    ∀ name ∈ args.required, HasClaim claims name

section Checked

variable {pyjwt : PyJwt} (hchecks : pyjwt.Checks) {jwt : String} {config : TokenValidationConfig}
  {claims : Claims} (h : DecodedUnder pyjwt jwt config claims)
include hchecks h

theorem DecodedUnder.hasAudience {a : String} (haudience : config.audience = some a)
    (hverify : verifiesAud config.options = true) : HasAudience claims a := by
  obtain ⟨now, args, hdecode, henforced, -, haud, hoptions, -⟩ := h
  rw [← hoptions] at hverify
  exact hchecks.audience now args a claims henforced (haud.trans haudience) hverify hdecode

theorem DecodedUnder.hasClaim {name : String} (hname : name ∈ config.required) :
    HasClaim claims name := by
  obtain ⟨now, args, hdecode, henforced, -, -, -, hrequired⟩ := h
  rw [← hrequired] at hname
  exact hchecks.required now args claims henforced hdecode name hname

end Checked

end IdentityModel.Py
