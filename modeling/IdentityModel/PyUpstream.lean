import IdentityModel.PyDiscovery
import IdentityModel.PyValidateToken

/-!
# Token validation over HTTP

The cached token validation with `get_discovery_document` and `get_jwks` in place: a label
carries what the HTTP client comes back with, and the call that waits makes its answer of it
under its own policy. A run over HTTP is a run of the validation.
-/
namespace IdentityModel.Py

open Runs Tasks Url

/-- The issuer of a document. -/
def issuerOf (j : Json) : Issuer :=
  match j with
  | .str s => .one s
  | .arr es =>
      if h : isIssuerValue (.arr es) = false then .other (.arr es) h
      else .many (es.filterMap Json.str?)
  | .null => .other .null rfl
  | .bool b => .other (.bool b) rfl
  | .num n => .other (.num n) rfl
  | .obj ms => .other (.obj ms) rfl

/-- The response as token validation reads it. -/
def DiscoveryResult.toResponse (r : DiscoveryResult) : DiscoveryDocumentResponse :=
  if r.isSuccessful then
    { isSuccessful := true, issuer := some (issuerOf ((r.members.lookup "issuer").getD .null))
      jwksUri := r.members.lookup "jwks_uri", cacheControl := r.cacheControl }
  else failedDiscovery (r.error.getD "")

/-- The answer behind a response. -/
def DiscoveryDocumentResponse.answer (r : DiscoveryDocumentResponse) : DiscoveryAnswer :=
  if r.isSuccessful then .document r.issuer true true true r.jwksUri r.cacheControl none
  else .failed (r.error.getD "")

/-- `handle_jwks_error`, for the exceptions of the pre-flight check. -/
def handleJwksError : UrlError → JwksResponse
  | .configuration m | .httpsRequired m =>
      { isSuccessful := false, error := some ("Invalid JWKS endpoint URL: " ++ m) }
  | .value m =>
      { isSuccessful := false, error := some ("Unhandled exception during JWKS request: " ++ m) }

/-- `get_jwks`: no request is made for an address the policy refuses; `answer` is what is made
of the exchange otherwise. -/
def getJwks (i : Interpreter) (address : String) (policy : DiscoveryPolicy)
    (answer : JwksResponse) : JwksResponse :=
  match validateUrlScheme i.platform address policy with
  | .ok () => answer
  | .error e => handleJwksError e

/-- A call runs on, or its exchange ends. -/
inductive HttpAct
  | run
  | discovery (a : HttpAnswer)
  | keys (response : JwksResponse)

structure HttpEvent where
  now : ℚ
  act : HttpAct

abbrev HttpLabel := Tasks.Label Call HttpEvent

/-- What a call makes of the end of its exchange. -/
def Task.receive (i : Interpreter) (x : Task) : HttpAct → Option Act
  | .run => some .run
  | .discovery a =>
      match x with
      | .token req .discoFetch =>
          some (.discovery (getDiscoveryDocument i req.address req.policy a).toResponse.answer)
      | _ => none
  | .keys response =>
      match x with
      | .token req (.jwksFetch d) | .token req (.refreshFetch d _) =>
          some (.keys (getJwks i d.uri req.policy response))
      | _ => none

/-- The process with the interpreter's platform. -/
def Runtime.on (rt : Runtime) (i : Interpreter) : Runtime := { rt with platform := i.platform }

/-- The validation over HTTP. -/
def upstream (rt : Runtime) (i : Interpreter) : Machine Shared Task Call HttpEvent where
  spawn := (validator (rt.on i)).spawn
  move w x e := (x.receive i e.act).bind fun act => (validator (rt.on i)).move w x ⟨e.now, act⟩

abbrev runUpstream (rt : Runtime) (i : Interpreter) : State → List HttpLabel → Option State :=
  exec (upstream rt i).step

theorem upstream_step {rt : Runtime} {i : Interpreter} {s s' : State} {l : HttpLabel}
    (h : (upstream rt i).step s l = some s') : ∃ l', (validator (rt.on i)).step s l' = some s' := by
  cases l with
  | spawn c => exact ⟨.spawn c, h⟩
  | move t e =>
      obtain ⟨x, w, x', hx, hmove, rfl⟩ := Machine.step_move_fork h
      obtain ⟨act, -, hact⟩ := Option.bind_eq_some_iff.mp hmove
      refine ⟨.move t ⟨e.now, act⟩, ?_⟩
      simp only [Machine.step, hx, Option.bind_some, hact, Option.map_some]
      rfl

theorem runUpstream_run {rt : Runtime} {i : Interpreter} {s s' : State} {ls : List HttpLabel}
    (h : runUpstream rt i s ls = some s') : ∃ ls', run (rt.on i) s ls' = some s' := by
  induction ls generalizing s with
  | nil => exact ⟨[], h⟩
  | cons l ls ih =>
      obtain ⟨m, hm, hrest⟩ := exec_cons_eq_some.mp h
      obtain ⟨l', hl'⟩ := upstream_step hm
      obtain ⟨ls', hls'⟩ := ih hrest
      exact ⟨l' :: ls', exec_cons_eq_some.mpr ⟨m, hl', hls'⟩⟩

/-- A discovery answer is made of the result of `get_discovery_document`. -/
theorem Task.receive_discovery {i : Interpreter} {x : Task} {act : HttpAct} {answer : DiscoveryAnswer}
    (h : x.receive i act = some (.discovery answer)) :
    ∃ req a, x = .token req .discoFetch ∧
      answer = (getDiscoveryDocument i req.address req.policy a).toResponse.answer := by
  unfold Task.receive at h
  split at h
  · cases h
  · split at h
    · cases h
      exact ⟨_, _, rfl, rfl⟩
    · cases h
  · split at h <;> cases h

/-- A key set is the result of `get_jwks`. -/
theorem Task.receive_keys {i : Interpreter} {x : Task} {act : HttpAct} {response : JwksResponse}
    (h : x.receive i act = some (.keys response)) :
    ∃ req d answer, (x = .token req (.jwksFetch d) ∨ ∃ why, x = .token req (.refreshFetch d why)) ∧
      response = getJwks i d.uri req.policy answer := by
  unfold Task.receive at h
  split at h
  · cases h
  · split at h
    · cases h
    · cases h
  · split at h
    · cases h
      exact ⟨_, _, _, .inl rfl, rfl⟩
    · cases h
      exact ⟨_, _, _, .inr ⟨_, rfl⟩, rfl⟩
    · cases h

theorem lookup_map_mem {β : Type*} (f : String → β) {name : String} {names : List String}
    (h : name ∈ names) : (names.map fun n => (n, f n)).lookup name = some (f name) := by
  induction names with
  | nil => cases h
  | cons n ns ih =>
      by_cases hn : name = n
      · subst hn
        simp
      · have hne : (name == n) = false := by simpa using hn
        rw [List.map_cons, List.lookup_cons, hne]
        exact ih ((List.mem_cons.mp h).resolve_left hn)

/-- The members of a built response. -/
theorem buildDiscoveryResponse_lookup {doc : Json} {cacheControl : Option String} {name : String}
    (h : name ∈ discoveryMembers) :
    (buildDiscoveryResponse doc cacheControl).members.lookup name = some (doc.get name) :=
  lookup_map_mem doc.get h

section Received

variable {i : Interpreter} {address : String} {policy : DiscoveryPolicy} {a : HttpAnswer}

/-- A response is unsuccessful, or made of a document that passed the checks. -/
theorem toResponse_cases (i : Interpreter) (address : String) (policy : DiscoveryPolicy)
    (a : HttpAnswer) :
    (∃ error, (getDiscoveryDocument i address policy a).toResponse = failedDiscovery error) ∨
      ∃ r doc, Checked i r (some policy) doc ∧
        (getDiscoveryDocument i address policy a).toResponse =
          { isSuccessful := true, issuer := some (issuerOf (doc.get "issuer"))
            jwksUri := some (doc.get "jwks_uri"), cacheControl := r.cacheControl } := by
  by_cases hs : (getDiscoveryDocument i address policy a).isSuccessful = true
  · right
    obtain ⟨r, doc, -, -, -, -, hparse, hbuilt⟩ := getDiscoveryDocument_checked hs
    refine ⟨r, doc, validateAndParse_checked hparse, ?_⟩
    have hissuer : "issuer" ∈ discoveryMembers := by decide
    have huri : "jwks_uri" ∈ discoveryMembers := by decide
    rw [hbuilt, DiscoveryResult.toResponse, buildDiscoveryResponse_lookup hissuer,
      buildDiscoveryResponse_lookup huri]
    rfl
  · left
    rw [DiscoveryResult.toResponse, if_neg hs]
    exact ⟨_, rfl⟩

theorem issuerOf_nonempty {j : Json} (h : isTruthy j = true) :
    isEmptyIssuer (some (issuerOf j)) = false := by
  cases j with
  | str s => simpa [isEmptyIssuer, issuerOf, isTruthy] using h
  | arr es =>
      by_cases hvalue : isIssuerValue (.arr es) = false
      · simp [issuerOf, hvalue, isEmptyIssuer, h]
      · rw [Bool.not_eq_false] at hvalue
        have hall : ∀ e ∈ es, e.str?.isSome = true := List.all_eq_true.mp hvalue
        cases es with
        | nil => cases h
        | cons e es =>
            obtain ⟨s, hs⟩ := Option.isSome_iff_exists.mp (hall e (by simp))
            simp [issuerOf, hvalue, isEmptyIssuer, hs]
  | _ => simp_all [isEmptyIssuer, issuerOf]

/-- The validation sees the response that `get_discovery_document` returned. -/
theorem processDiscoveryResponse_answer (i : Interpreter) (address : String)
    (policy : DiscoveryPolicy) (a : HttpAnswer) :
    processDiscoveryResponse (getDiscoveryDocument i address policy a).toResponse.answer =
      (getDiscoveryDocument i address policy a).toResponse := by
  obtain ⟨error, herror⟩ | ⟨r, doc, hchecked, hresponse⟩ := toResponse_cases i address policy a
  · rw [herror]
    rfl
  · have hempty := issuerOf_nonempty hchecked.issuer_truthy
    rw [hresponse]
    simp [DiscoveryDocumentResponse.answer, processDiscoveryResponse, missingParameters, hempty]

/-- Where the policy checks endpoints, the `jwks_uri` of a document may be fetched under it. -/
theorem jwksUri_admitted (hvalidate : policy.validateEndpoints = true) {uri : String}
    (huri : (getDiscoveryDocument i address policy a).toResponse.jwksUri = some (.str uri))
    (hne : uri ≠ "") : validateUrlScheme i.platform uri policy = .ok () := by
  obtain ⟨error, herror⟩ | ⟨r, doc, hchecked, hresponse⟩ := toResponse_cases i address policy a
  · rw [herror] at huri
    cases huri
  · rw [hresponse] at huri
    have hurl := hchecked.endpoint_url (show "jwks_uri" ∈ endpointNames by decide)
    rw [Option.some.inj huri] at hurl
    exact validateUrlScheme_of_endpoint hvalidate hne hurl

/-- A key set comes only from an address the policy admits. -/
theorem getJwks_admitted {answer : JwksResponse}
    (h : (getJwks i address policy answer).isSuccessful = true) :
    validateUrlScheme i.platform address policy = .ok () := by
  unfold getJwks at h
  split at h
  · assumption
  · rename_i e he
    cases e <;> cases h

end Received

end IdentityModel.Py
