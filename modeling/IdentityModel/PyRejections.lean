import IdentityModel.PyMiddleware

/-!
# What a rejection tells

The responses of `TokenValidationMiddleware` to tokens that it turns down while discovery and JWKS
requests succeed, for every way in which `validate_token` can end in any run.
-/
namespace IdentityModel.Py.Web

open Runs Tasks

/-- A provider that answers with success. -/
def succeeding : Upstream where
  disco doc := doc.isSuccessful = true
  keys response := response.isSuccessful = true

/-- The exception that leaves `validate_token`. PyJWT reads the header of a token or raises an
`InvalidTokenError`; what else is not the library's is of neither class. -/
def excOf (pyjwt : PyJwt) (jwt : String) (e : PyError) : Exc :=
  match pyjwt.header jwt with
  | .error e' => if e' = e then .invalidToken e.message else ofError e
  | .ok _ => ofError e
where
  /-- No exception of a validation is a `NetworkException`. -/
  ofError (e : PyError) : Exc :=
    if e.isLibrary then .library false e.message else .other e.message

/-- The middleware's answer to a token whose validation has ended. -/
def Settings.answer (s : Settings) (str : Json → String) (pyjwt : PyJwt) (token : String)
    (r : Result) : Dispatched :=
  s.authenticate str (fun _ _ _ => r.mapError (excOf pyjwt token)) token

/-- The middleware's validation of the token ended so, in a run in which every request of the
process for a document or for keys was answered with success. -/
def Validated (rt : Runtime) (s : Settings) (token : String) (r : Result) : Prop :=
  ∃ ls st req, run rt initial ls = some st ∧ (∀ l ∈ ls, answersKnown succeeding l) ∧
    .token req (.done r) ∈ st.tasks ∧ req.jwt = token ∧ req.config = s.tokenValidationConfig

/-- The validation raised an exception of the library, or the one of PyJWT that could not read the
header. -/
def Refuses (pyjwt : PyJwt) (token : String) (r : Result) : Prop :=
  ∃ e, r = .error e ∧ (e.isLibrary = true ∨ pyjwt.header token = .error e)

/-- The exceptions of the library that a claims validator raises itself do not report a failed
fetch. -/
def Settings.Quiet (s : Settings) : Prop :=
  ∀ v, s.customClaimsValidator = some v → ∀ claims e,
    (v.call claims = .raised e ∨ v.call claims = .awaitable (.error e)) →
      e.isTokenValidation = true → isUpstreamFetchFailure e.message = false

theorem claimsVerdict_own {result : Except PyError Unit} {e : PyError}
    (hquiet : ∀ e', result = .error e' → e'.isTokenValidation = true →
      isUpstreamFetchFailure e'.message = false)
    (h : claimsVerdict result = some e) : e.Own := by
  unfold claimsVerdict at h
  split at h
  · cases h
  · rename_i e'
    split at h
    · rename_i hkind
      cases h
      refine ⟨?_, hquiet _ rfl hkind⟩
      cases e <;> simp_all [PyError.isTokenValidation, PyError.isLibrary]
    · cases h
      exact own_of_start rfl (by simp [PyError.message])

theorem validateClaims_own {s : Settings} (hquiet : s.Quiet) {flavour : Flavour} {claims : Claims}
    {e : PyError} (h : validateClaims flavour s.tokenValidationConfig claims = some e) : e.Own := by
  unfold validateClaims at h
  split at h
  · cases h
  · rename_i v hv
    have hvalidator : s.customClaimsValidator = some v := hv
    split at h
    · cases h
    · split at h
      · cases h
      · rename_i e' hcall
        refine claimsVerdict_own (fun e'' he'' => ?_) h
        cases he''
        exact hquiet v hvalidator claims _ (.inl hcall)
      · rename_i result hcall
        split at h
        · refine claimsVerdict_own (fun e'' he'' => ?_) h
          subst he''
          exact hquiet v hvalidator claims _ (.inr hcall)
        · cases h

/-- While the provider answers with success, an exception of the library reports no failed fetch. -/
theorem own_of_sourced {rt : Runtime} {s : Settings} (hquiet : s.Quiet) {req : Request}
    (hconfig : req.config = s.tokenValidationConfig) {e : PyError}
    (h : Sourced rt succeeding req e) (hlibrary : e.isLibrary = true) :
    e.Own ∨ rt.pyjwt.header req.jwt = .error e := by
  cases h with
  | own _ h => exact .inl h
  | settings _ h =>
      obtain hown | ⟨hforeign, -⟩ := validateTokenConfig_own h
      · exact .inl hown
      · rw [hlibrary] at hforeign
        cases hforeign
  | discovery response _ hknown h =>
      have hfound : response.isSuccessful = true := hknown
      rw [validateDiscoResponse, if_pos hfound] at h
      cases h
  | keys response _ hknown h =>
      have hfound : response.isSuccessful = true := hknown
      simp only [validateJwksResponse, hfound, Bool.not_true, Bool.false_eq_true, if_false] at h
      split at h
      · cases h
        exact .inl ⟨rfl, by decide⟩
      · cases h
  | uri response uri hknown hfound h hmistyped => exact .inl (mistypedJwksUri_own hlibrary)
  | header d response _ hdisco hd hkeys h => exact .inr h
  | decode _ h =>
      rw [h.foreign] at hlibrary
      cases hlibrary
  | refused claims _ h =>
      rw [hconfig] at h
      exact .inl (validateClaims_own hquiet h)
  | counting address _ h =>
      unfold Runtime.countingError at h
      split at h
      · cases h
      · split at h
        · cases h
        · cases h
          cases hlibrary

theorem failureResponse_excOf {pyjwt : PyJwt} {token : String} {e : PyError}
    (h : e.Own ∨ pyjwt.header token = .error e) :
    failureResponse (excOf pyjwt token e) = some (unauthorized generic401Detail) := by
  by_cases hheader : pyjwt.header token = .error e
  · simp [excOf, hheader, failureResponse]
  · have hown : e.Own := h.resolve_right hheader
    have hexc : excOf pyjwt token e = .library false e.message := by
      unfold excOf
      split
      · rename_i e' he'
        have hne : e' ≠ e := by
          rintro rfl
          exact hheader he'
        rw [if_neg hne, excOf.ofError, if_pos hown.library]
      · rw [excOf.ofError, if_pos hown.library]
    simp [hexc, failureResponse, hown.text]

/-- A refused token gets the generic response. -/
theorem answer_of_refuses {rt : Runtime} {s : Settings} (hquiet : s.Quiet) (str : Json → String)
    {token : String} {r : Result} (h : Validated rt s token r)
    (hrefuses : Refuses rt.pyjwt token r) :
    s.answer str rt.pyjwt token r = .responded (unauthorized generic401Detail) := by
  obtain ⟨e, rfl, hkind⟩ := hrefuses
  obtain ⟨ls, st, req, hrun, hknown, hdone, rfl, hconfig⟩ := h
  have hsourced := sourced_of_run hrun hknown hdone
  have hown : e.Own ∨ rt.pyjwt.header req.jwt = .error e := by
    obtain hlibrary | hheader := hkind
    · exact own_of_sourced hquiet hconfig hsourced hlibrary
    · exact .inr hheader
  simp only [Settings.answer, Settings.authenticate, Except.mapError, failureResponse_excOf hown]

/-- The response to a token of the wrong type tells which of the two checks failed, and nothing
else. -/
theorem answer_of_claims (s : Settings) (str : Json → String) (pyjwt : PyJwt) (token : String)
    (claims : Claims) :
    s.answer str pyjwt token (.ok claims) =
      if idTokenOnlyClaims.any (isClaim claims) then .responded (unauthorized idTokenDetail)
      else if s.requireAccessTokenMarker && !s.accessTokenMarkerClaims.any (isClaim claims) then
        .responded (unauthorized noMarkerDetail)
      else .passed (some ⟨toPrincipal str claims, claims, token⟩) := by
  simp only [Settings.answer, Settings.authenticate, Except.mapError, evaluateTokenType]
  split_ifs <;> rfl

/-- A validation ended in an exception of neither kind. -/
theorem other_of_not_refuses {pyjwt : PyJwt} {token : String} {e : PyError}
    (h : ¬ Refuses pyjwt token (.error e)) :
    ∃ text, e = .other text ∧ pyjwt.header token ≠ .error e := by
  have hheader : pyjwt.header token ≠ .error e := fun hh => h ⟨e, rfl, .inr hh⟩
  have hlibrary : ¬ e.isLibrary = true := fun hl => h ⟨e, rfl, .inl hl⟩
  cases e with
  | other text => exact ⟨text, rfl, hheader⟩
  | _ => exact absurd rfl hlibrary

/-- While requests to the provider succeed: any two tokens whose validation is refused get the same
response, the generic 401. A token that is turned down otherwise is valid but of the wrong type,
with one of two fixed responses by the names of its claims, or its validation ended in an exception
that is neither the library's nor an `InvalidTokenError`. -/
theorem rejections_alike (rt : Runtime) (s : Settings) (hquiet : s.Quiet) (str : Json → String) :
    (∀ t₁ r₁ t₂ r₂, Validated rt s t₁ r₁ → Validated rt s t₂ r₂ →
      Refuses rt.pyjwt t₁ r₁ → Refuses rt.pyjwt t₂ r₂ →
      s.answer str rt.pyjwt t₁ r₁ = .responded (unauthorized generic401Detail) ∧
      s.answer str rt.pyjwt t₂ r₂ = s.answer str rt.pyjwt t₁ r₁) ∧
    ∀ t r response, Validated rt s t r → s.answer str rt.pyjwt t r = .responded response →
      ¬ Refuses rt.pyjwt t r →
      (∃ claims, r = .ok claims ∧ response =
        if idTokenOnlyClaims.any (isClaim claims) then unauthorized idTokenDetail
        else unauthorized noMarkerDetail) ∨
      ∃ text, r = .error (.other text) ∧ rt.pyjwt.header t ≠ .error (.other text) := by
  refine ⟨fun t₁ r₁ t₂ r₂ h₁ h₂ hr₁ hr₂ => ?_, fun t r response _ hresponse hother => ?_⟩
  · have hfirst := answer_of_refuses hquiet str h₁ hr₁
    have hsecond := answer_of_refuses hquiet str h₂ hr₂
    exact ⟨hfirst, hsecond.trans hfirst.symm⟩
  · cases r with
    | error e =>
        obtain ⟨text, rfl, hheader⟩ := other_of_not_refuses hother
        exact .inr ⟨text, rfl, hheader⟩
    | ok claims =>
        refine .inl ⟨claims, rfl, ?_⟩
        rw [answer_of_claims] at hresponse
        split at hresponse
        · rename_i hid
          cases hresponse
          rw [if_pos hid]
        · rename_i hid
          rw [if_neg hid]
          split at hresponse
          · cases hresponse
            rfl
          · cases hresponse

/-- A process whose one readable token is an ID token; every other one is expired. -/
def idTokenRuntime : Runtime :=
  { sampleRuntime .aio with
    pyjwt :=
      { header := fun _ => .ok ⟨some "k1", some (.str "RS256")⟩
        decode := fun _ args =>
          if args.jwt = "id" then .ok (AList.insert "nonce" (.str "n") ∅)
          else .error (.expiredSignature "")
        str := fun _ => "" } }

/-- The middleware's validation of a token, on empty caches. -/
def tokenRun (s : Settings) (token : String) : List Label :=
  [.spawn (.validateToken token s.tokenValidationConfig (some s.discoveryUrl))] ++
    runsAt 0 0 3 ++ [.move 0 ⟨0, .discovery sampleAnswer⟩] ++ runsAt 0 0 4 ++
    [oneKeyAnswer 0 0 "k1"] ++ runsAt 0 0 1

theorem tokenRun_known (s : Settings) (token : String) :
    ∀ l ∈ tokenRun s token, answersKnown succeeding l := by
  intro l hl
  simp only [tokenRun, runsAt, oneKeyAnswer, List.mem_append, List.mem_singleton,
    List.mem_replicate] at hl
  obtain ((((rfl | ⟨-, rfl⟩) | rfl) | ⟨-, rfl⟩) | rfl) | ⟨-, rfl⟩ := hl <;> trivial

/-- The validation raised an exception of the library. -/
def raisedLibrary : Result → Bool
  | .error e => e.isLibrary
  | .ok _ => false

theorem refuses_of_raisedLibrary {pyjwt : PyJwt} {token : String} {r : Result}
    (h : raisedLibrary r = true) : Refuses pyjwt token r := by
  cases r with
  | error e => exact ⟨e, rfl, .inl h⟩
  | ok claims => cases h

/-- The token of a call that has ended, whether it raised an exception of the library, and the
response. -/
def responseOf (s : Settings) (rt : Runtime) : Task → Option (String × Bool × JsonResponse)
  | .token req (.done r) =>
      match s.answer (fun _ => "") rt.pyjwt req.jwt r with
      | .responded response => some (req.jwt, raisedLibrary r, response)
      | _ => none
  | _ => none

/-- The calls in progress were started by these labels. -/
def SpawnedIn (ls : List Label) (st : State) : Prop :=
  ∀ req pc, .token req pc ∈ st.tasks →
    ∃ address, .spawn (.validateToken req.jwt req.config address) ∈ ls

theorem spawnedIn_step (rt : Runtime) (ls : List Label) (s : State) (l : Label) (s' : State)
    (h : SpawnedIn ls s) (hl : l ∈ ls) (hs : (validator rt).step s l = some s') :
    SpawnedIn ls s' := by
  intro req pc hmem
  cases l with
  | spawn call =>
      obtain rfl := validator_step_spawn hs
      obtain hold | hnew := List.mem_append.mp hmem
      · exact h req pc hold
      · cases call with
        | validateToken jwt config address =>
            obtain ⟨pc', hstart, -⟩ := startToken_eq (rt.at s.shared.now) jwt config address
            rw [Call.start, hstart, List.mem_singleton] at hnew
            cases hnew
            exact ⟨address, hl⟩
        | _ => cases List.mem_singleton.mp hnew
  | move t e =>
      obtain ⟨x, w, x', hx, -, hmoved, rfl⟩ := validator_step_move hs
      obtain hold | rfl := List.mem_or_eq_of_mem_set hmem
      · exact h req pc hold
      · cases hmoved with
        | token _ before _ _ hadv => exact h req before (List.mem_of_getElem? hx)

theorem spawned_of_run {rt : Runtime} {ls : List Label} {st : State}
    (hrun : run rt initial ls = some st) : SpawnedIn ls st := by
  have hmeets : Meets (validator rt).step (fun _ l => l ∈ ls) initial ls :=
    Meets.of_forall fun l hl => hl
  exact exec_invariant (spawnedIn_step rt ls) (fun _ _ h => by cases h) hmeets hrun

/-- What the run of one call shows, once it has been executed. -/
theorem validated_of_response (rt : Runtime) (s : Settings) (token : String) {library : Bool}
    {response : JsonResponse} (hrun : (run rt initial (tokenRun s token)).isSome = true)
    (hany : ((run rt initial (tokenRun s token)).getD initial).tasks.any
      (fun x => responseOf s rt x = some (token, library, response)) = true) :
    ∃ r, Validated rt s token r ∧ raisedLibrary r = library ∧
      s.answer (fun _ => "") rt.pyjwt token r = .responded response := by
  obtain ⟨x, hx, hresponse⟩ := List.any_eq_true.mp hany
  have hgot : responseOf s rt x = some (token, library, response) := by simpa using hresponse
  unfold responseOf at hgot
  split at hgot
  · rename_i req r
    split at hgot
    · rename_i response' hanswer
      have hrun' := eq_some_getD initial hrun
      obtain ⟨address, hspawn⟩ := spawned_of_run hrun' req _ hx
      obtain ⟨jwt, config, address', policy⟩ := req
      cases hgot
      refine ⟨r, ⟨_, _, _, hrun', tokenRun_known s _, hx, rfl, ?_⟩, rfl, hanswer⟩
      simp only [tokenRun, runsAt, oneKeyAnswer, List.mem_append, List.mem_singleton,
        List.mem_replicate] at hspawn
      obtain ((((hspawn | ⟨-, hspawn⟩) | hspawn) | ⟨-, hspawn⟩) | hspawn) | ⟨-, hspawn⟩ := hspawn <;>
        cases hspawn
      rfl
    · cases hgot
  · cases hgot

/-- The expired tokens of the sample. -/
theorem expired_response (token : String) (htoken : token = "x" ∨ token = "y") :
    ∃ r, Validated idTokenRuntime sampleMiddleware.toSettings token r ∧ raisedLibrary r = true ∧
      sampleMiddleware.answer (fun _ => "") idTokenRuntime.pyjwt token r =
        .responded (unauthorized generic401Detail) := by
  obtain rfl | rfl := htoken
  · exact validated_of_response _ _ _ (by decide +kernel) (by decide +kernel)
  · exact validated_of_response _ _ _ (by decide +kernel) (by decide +kernel)

/-- The ID token of the sample. -/
theorem idToken_response :
    ∃ r, Validated idTokenRuntime sampleMiddleware.toSettings "id" r ∧ raisedLibrary r = false ∧
      sampleMiddleware.answer (fun _ => "") idTokenRuntime.pyjwt "id" r =
        .responded (unauthorized idTokenDetail) :=
  validated_of_response _ _ _ (by decide +kernel) (by decide +kernel)

/-- Two expired tokens of the sample. -/
theorem rejections_alike_sample :
    ∃ r₁ r₂, Validated idTokenRuntime sampleMiddleware.toSettings "x" r₁ ∧
      Validated idTokenRuntime sampleMiddleware.toSettings "y" r₂ ∧
      sampleMiddleware.answer (fun _ => "") idTokenRuntime.pyjwt "y" r₂ =
        sampleMiddleware.answer (fun _ => "") idTokenRuntime.pyjwt "x" r₁ := by
  obtain ⟨r₁, h₁, hl₁, -⟩ := expired_response "x" (.inl rfl)
  obtain ⟨r₂, h₂, hl₂, -⟩ := expired_response "y" (.inr rfl)
  have hquiet : sampleMiddleware.Quiet := fun v hv => by cases hv
  exact ⟨r₁, r₂, h₁, h₂, ((rejections_alike idTokenRuntime sampleMiddleware.toSettings hquiet
    (fun _ => "")).1 "x" r₁ "y" r₂ h₁ h₂ (refuses_of_raisedLibrary hl₁)
    (refuses_of_raisedLibrary hl₂)).2⟩

/-- An expired token and an ID token are turned down with different responses. -/
theorem id_token_told_apart :
    ∃ r₁ r₂ response₁ response₂, Validated idTokenRuntime sampleMiddleware.toSettings "x" r₁ ∧
      Validated idTokenRuntime sampleMiddleware.toSettings "id" r₂ ∧
      sampleMiddleware.answer (fun _ => "") idTokenRuntime.pyjwt "x" r₁ = .responded response₁ ∧
      sampleMiddleware.answer (fun _ => "") idTokenRuntime.pyjwt "id" r₂ = .responded response₂ ∧
      response₁ ≠ response₂ := by
  obtain ⟨r₁, h₁, -, hanswer₁⟩ := expired_response "x" (.inl rfl)
  obtain ⟨r₂, h₂, -, hanswer₂⟩ := idToken_response
  exact ⟨r₁, r₂, _, _, h₁, h₂, hanswer₁, hanswer₂, by decide⟩

end IdentityModel.Py.Web
