import IdentityModel.PyDpop
import IdentityModel.RustFormGuards

/-!
# Form requests of the Python package

What `core/` prepares for the token, introspection, revocation, device and pushed authorization
endpoints: the form, the headers and the credentials for HTTP Basic. A signed assertion goes before a
client certificate, a certificate before a secret, and what counts as a secret is up to the request.
-/
namespace IdentityModel.PyForms

open Gathering
open Py.Dpop (Library Draw Exc PrivateKeyJwt DpopKey Prepared AssertionClaims present isBlank
  buildClientAssertion basicAuthCredentials createDpopProof AuthorizationCodeTokenRequest
  prepareAuthCodeTokenRequestData)
open RustForms (Form values)

/-- What the requests share: where they go, and the client. -/
structure Request where
  address : String
  clientId : String
  clientSecret : Option String := none
  privateKeyJwt : Option PrivateKeyJwt := none
  /-- Whether a client certificate is configured. -/
  mtls : Bool := false
  deriving DecidableEq, Repr

/-- `apply_private_key_jwt`. -/
def applyPrivateKeyJwt (lib : Library) (draw : Draw) (params : Form) (config : PrivateKeyJwt)
    (clientId defaultAudience : String) : Except Exc Form :=
  (buildClientAssertion lib draw clientId ((present config.audience).getD defaultAudience) config).map
    fun assertion =>
      let params := assign params "client_id" clientId
      let params := assign params "client_assertion_type"
        "urn:ietf:params:oauth:client-assertion-type:jwt-bearer"
      assign params "client_assertion" assertion

/-- `apply_mtls_client_auth`. -/
def applyMtlsClientAuth (params : Form) (clientId : String) : Form := assign params "client_id" clientId

/-- How a request without a secret ends: it names the client, or has done so already. -/
inductive Public
  | names | named
  deriving DecidableEq, Repr

def Public.params (mode : Public) (params : Form) (clientId : String) : Form :=
  match mode with
  | .names => assign params "client_id" clientId
  | .named => params

/-- The branches that each preparation ends with; `secret` is what it takes for a secret. -/
def authenticate (lib : Library) (draw : Draw) (request : Request) (secret : Option String) (mode : Public)
    (params : Form) : Except Exc (Form × Option (String × String)) :=
  match request.privateKeyJwt with
  | some config =>
      (applyPrivateKeyJwt lib draw params config request.clientId request.address).map
        fun params => (params, none)
  | none =>
      if request.mtls then .ok (applyMtlsClientAuth params request.clientId, none)
      else
        match secret with
        | some secret => .ok (params, some (basicAuthCredentials request.clientId secret))
        | none => .ok (mode.params params request.clientId, none)

/-- An optional parameter. -/
def optional (name : String) (value : Option String) : Form := (value.map fun v => (name, v)).toList

def formHeaders : Form := [("Content-Type", "application/x-www-form-urlencoded")]

/-- The end of a preparation without a proof of possession. -/
def prepare (lib : Library) (draw : Draw) (request : Request) (secret : Option String) (mode : Public)
    (params : Form) : Except Exc Prepared :=
  (authenticate lib draw request secret mode params).map fun r => ⟨r.1, formHeaders, r.2⟩

structure ClientCredentialsTokenRequest extends Request where
  scope : Option String := none

def ClientCredentialsTokenRequest.params (r : ClientCredentialsTokenRequest) : Form :=
  ("grant_type", "client_credentials") :: optional "scope" r.scope

def prepareTokenRequestData (lib : Library) (draw : Draw) (r : ClientCredentialsTokenRequest) :
    Except Exc Prepared :=
  prepare lib draw r.toRequest r.clientSecret .names r.params

structure RefreshTokenRequest extends Request where
  refreshToken : String
  scope : Option String := none

def RefreshTokenRequest.params (r : RefreshTokenRequest) : Form :=
  [("grant_type", "refresh_token"), ("refresh_token", r.refreshToken)] ++ optional "scope" r.scope

def prepareRefreshTokenRequestData (lib : Library) (draw : Draw) (r : RefreshTokenRequest) :
    Except Exc Prepared :=
  prepare lib draw r.toRequest r.clientSecret .names r.params

structure TokenExchangeRequest extends Request where
  subjectToken : String
  subjectTokenType : String
  actorToken : Option String := none
  actorTokenType : Option String := none
  resource : Option String := none
  audience : Option String := none
  scope : Option String := none
  requestedTokenType : Option String := none

/-- `_validate_request_params`. -/
def TokenExchangeRequest.validate (r : TokenExchangeRequest) : Except Exc Unit :=
  if r.clientId = "" then .error (.other "client_id must not be empty")
  else if r.subjectToken = "" then .error (.other "subject_token must not be empty")
  else if r.subjectTokenType = "" then .error (.other "subject_token_type must not be empty")
  else if r.actorToken.isSome ∧ r.actorTokenType.isNone then
    .error (.other "actor_token_type is REQUIRED when actor_token is provided (RFC 8693 Section 2.1)")
  else if r.actorTokenType.isSome ∧ r.actorToken.isNone then
    .error (.other "actor_token_type has no meaning without actor_token (RFC 8693 Section 2.1)")
  else if r.actorToken = some "" then .error (.other "actor_token must not be empty when provided")
  else if r.actorTokenType = some "" then
    .error (.other "actor_token_type must not be empty when provided")
  else .ok ()

def TokenExchangeRequest.params (r : TokenExchangeRequest) : Form :=
  [("grant_type", "urn:ietf:params:oauth:grant-type:token-exchange"), ("subject_token", r.subjectToken),
    ("subject_token_type", r.subjectTokenType)] ++ optional "actor_token" r.actorToken ++
    optional "actor_token_type" r.actorTokenType ++ optional "resource" (present r.resource) ++
    optional "audience" (present r.audience) ++ optional "scope" (present r.scope) ++
    optional "requested_token_type" (present r.requestedTokenType)

def prepareTokenExchangeRequestData (lib : Library) (draw : Draw) (r : TokenExchangeRequest) :
    Except Exc Prepared := do
  r.validate
  prepare lib draw r.toRequest (present r.clientSecret) .names r.params

structure DeviceTokenRequest extends Request where
  deviceCode : String

def DeviceTokenRequest.params (r : DeviceTokenRequest) : Form :=
  [("grant_type", "urn:ietf:params:oauth:grant-type:device_code"), ("device_code", r.deviceCode),
    ("client_id", r.clientId)]

def prepareDeviceTokenRequestData (lib : Library) (draw : Draw) (r : DeviceTokenRequest) :
    Except Exc Prepared :=
  prepare lib draw r.toRequest (present r.clientSecret) .named r.params

/-- `TokenIntrospectionRequest` and `TokenRevocationRequest`. -/
structure TokenRequest extends Request where
  token : String
  tokenTypeHint : Option String := none

def TokenRequest.params (r : TokenRequest) : Form :=
  ("token", r.token) :: optional "token_type_hint" r.tokenTypeHint

def prepareIntrospectionRequestData (lib : Library) (draw : Draw) (r : TokenRequest) :
    Except Exc Prepared :=
  prepare lib draw r.toRequest r.clientSecret .names r.params

/-- A blank secret is none. -/
def prepareRevocationRequestData (lib : Library) (draw : Draw) (r : TokenRequest) : Except Exc Prepared :=
  prepare lib draw r.toRequest (r.clientSecret.filter fun s => !isBlank s) .names r.params

structure DeviceAuthorizationRequest extends Request where
  scope : String := "openid"

def DeviceAuthorizationRequest.params (r : DeviceAuthorizationRequest) : Form :=
  ("client_id", r.clientId) :: if r.scope ≠ "" then [("scope", r.scope)] else []

def prepareDeviceAuthRequestData (lib : Library) (draw : Draw) (r : DeviceAuthorizationRequest) :
    Except Exc Prepared :=
  prepare lib draw r.toRequest (present r.clientSecret) .named r.params

structure PushedAuthorizationRequest extends Request where
  redirectUri : String
  scope : String := "openid"
  responseType : String := "code"
  state : Option String := none
  nonce : Option String := none
  codeChallenge : Option String := none
  codeChallengeMethod : Option String := none
  dpopKey : Option DpopKey := none
  responseMode : Option String := none

def PushedAuthorizationRequest.params (r : PushedAuthorizationRequest) : Form :=
  [("client_id", r.clientId), ("redirect_uri", r.redirectUri), ("scope", r.scope),
    ("response_type", r.responseType)] ++ optional "state" (present r.state) ++
    optional "nonce" (present r.nonce) ++ optional "code_challenge" (present r.codeChallenge) ++
    optional "code_challenge_method" (present r.codeChallengeMethod) ++
    optional "response_mode" (present r.responseMode)

/-- The headers of a request, with a proof of its key if it has one. -/
def proofHeaders (lib : Library) (draw : Draw) (dpopKey : Option DpopKey) (address : String)
    (dpopNonce : Option String) : Except Exc Form :=
  match dpopKey with
  | none => .ok formHeaders
  | some key =>
      (createDpopProof lib draw key "POST" address none dpopNonce).map fun proof =>
        formHeaders ++ [("DPoP", proof)]

def prepareParRequestData (lib : Library) (draw : Draw) (r : PushedAuthorizationRequest)
    (dpopNonce : Option String) : Except Exc Prepared :=
  if (present r.codeChallenge).isSome ≠ (present r.codeChallengeMethod).isSome then
    .error (.other "code_challenge and code_challenge_method must both be set or both be absent")
  else do
    let headers ← proofHeaders lib draw r.dpopKey r.address dpopNonce
    let (data, auth) ← authenticate lib draw r.toRequest (present r.clientSecret) .named r.params
    return ⟨data, headers, auth⟩

inductive Call
  | token (r : ClientCredentialsTokenRequest)
  | authCode (r : AuthorizationCodeTokenRequest)
  | refresh (r : RefreshTokenRequest)
  | exchange (r : TokenExchangeRequest)
  | deviceToken (r : DeviceTokenRequest)
  | introspection (r : TokenRequest)
  | revocation (r : TokenRequest)
  | deviceAuth (r : DeviceAuthorizationRequest)
  | par (r : PushedAuthorizationRequest)

namespace Call

/-- The preparation; the nonce is for those that may prove a key. -/
def prepared (lib : Library) (draw : Draw) (dpopNonce : Option String) : Call → Except Exc Prepared
  | .token r => prepareTokenRequestData lib draw r
  | .authCode r => prepareAuthCodeTokenRequestData lib draw r dpopNonce
  | .refresh r => prepareRefreshTokenRequestData lib draw r
  | .exchange r => prepareTokenExchangeRequestData lib draw r
  | .deviceToken r => prepareDeviceTokenRequestData lib draw r
  | .introspection r => prepareIntrospectionRequestData lib draw r
  | .revocation r => prepareRevocationRequestData lib draw r
  | .deviceAuth r => prepareDeviceAuthRequestData lib draw r
  | .par r => prepareParRequestData lib draw r dpopNonce

def request : Call → Request
  | .token r => r.toRequest
  | .authCode r => ⟨r.address, r.clientId, r.clientSecret, r.privateKeyJwt, r.mtls⟩
  | .refresh r => r.toRequest
  | .exchange r => r.toRequest
  | .deviceToken r => r.toRequest
  | .introspection r | .revocation r => r.toRequest
  | .deviceAuth r => r.toRequest
  | .par r => r.toRequest

/-- What counts as a secret. -/
def secret : Call → Option String
  | .token r => r.clientSecret
  | .authCode r => r.clientSecret
  | .refresh r => r.clientSecret
  | .exchange r => present r.clientSecret
  | .deviceToken r => present r.clientSecret
  | .introspection r => r.clientSecret
  | .revocation r => r.clientSecret.filter fun s => !isBlank s
  | .deviceAuth r => present r.clientSecret
  | .par r => present r.clientSecret

def mode : Call → Public
  | .deviceToken _ | .deviceAuth _ | .par _ => .named
  | _ => .names

/-- The parameters of the request itself. -/
def own : Call → Form
  | .token r => r.params
  | .authCode r =>
      [("grant_type", "authorization_code"), ("code", r.code), ("redirect_uri", r.redirectUri)] ++
        optional "code_verifier" r.codeVerifier ++ optional "scope" r.scope
  | .refresh r => r.params
  | .exchange r => r.params
  | .deviceToken r => r.params
  | .introspection r | .revocation r => r.params
  | .deviceAuth r => r.params
  | .par r => r.params

end Call

/-- What a client assertion says: it is the client's, for the endpoint or the audience configured, and
it holds when it is made. -/
def Vouched (lib : Library) (draw : Draw) (request : Request) (config : PrivateKeyJwt)
    (assertion : String) : Prop :=
  ∃ claims : AssertionClaims,
    lib.encodeAssertion config.privateKey config.algorithm config.kid claims = .ok assertion ∧
      config.algorithm ∈ Py.Dpop.supportedSigningAlgorithms ∧
      claims.iss = request.clientId ∧ claims.sub = request.clientId ∧
      claims.aud = (present config.audience).getD request.address ∧ claims.jti = draw.assertionId ∧
      claims.iat = claims.nbf ∧ claims.nbf < draw.assertionTime ∧ draw.assertionTime < claims.exp ∧
      claims.exp = claims.iat + config.lifetime

/-- The one way in which a request authenticates its client. -/
inductive Authenticates (lib : Library) (draw : Draw) (call : Call) (p : Prepared) : Prop
  | assertion (config : PrivateKeyJwt) (assertion : String)
      (hconfig : call.request.privateKeyJwt = some config)
      (hvouched : Vouched lib draw call.request config assertion)
      (hbody : ("client_id", call.request.clientId) ∈ p.data ∧
        ("client_assertion_type", "urn:ietf:params:oauth:client-assertion-type:jwt-bearer") ∈ p.data ∧
        ("client_assertion", assertion) ∈ p.data)
      (hauth : p.auth = none) : Authenticates lib draw call p
  | certificate (hjwt : call.request.privateKeyJwt = none) (hmtls : call.request.mtls = true)
      (hbody : ("client_id", call.request.clientId) ∈ p.data ∧ "client_assertion" ∉ p.data.map Prod.fst)
      (hauth : p.auth = none) : Authenticates lib draw call p
  | secret (secret : String) (credentials : String × String) (hjwt : call.request.privateKeyJwt = none)
      (hmtls : call.request.mtls = false) (hsecret : call.secret = some secret)
      (hbody : p.data = call.own) (hauth : p.auth = some credentials)
      (hread : BasicCredentials.readHeader (BasicCredentials.header credentials) =
        some (call.request.clientId, secret)) : Authenticates lib draw call p
  | noSecret (hjwt : call.request.privateKeyJwt = none) (hmtls : call.request.mtls = false)
      (hsecret : call.secret = none)
      (hbody : ("client_id", call.request.clientId) ∈ p.data ∧ "client_assertion" ∉ p.data.map Prod.fst)
      (hauth : p.auth = none) : Authenticates lib draw call p

/-- The names that a client authentication may write. -/
def authNames : List String := ["client_id", "client_assertion_type", "client_assertion"]

/-- Each name stands once; what the request itself says is said, and nothing else but the client's
authentication, of which no part is the secret. -/
structure Authenticated (lib : Library) (draw : Draw) (call : Call) (p : Prepared) : Prop where
  once : (p.data.map Prod.fst).Nodup
  own : ∀ field ∈ call.own, field ∈ p.data
  closed : ∀ field ∈ p.data, field ∈ call.own ∨ field.1 ∈ authNames
  secretless : "client_secret" ∉ p.data.map Prod.fst
  authenticates : Authenticates lib draw call p

section Own

variable {call : Call}

theorem optional_names (name : String) (value : Option String) :
    ((optional name value).map Prod.fst).Sublist [name] := by
  cases value with
  | none => exact List.nil_sublist _
  | some v => exact List.Sublist.refl _

/-- The names a request may use itself, in their order. -/
def Call.names : Call → List String
  | .token _ => ["grant_type", "scope"]
  | .authCode _ => ["grant_type", "code", "redirect_uri", "code_verifier", "scope"]
  | .refresh _ => ["grant_type", "refresh_token", "scope"]
  | .exchange _ =>
      ["grant_type", "subject_token", "subject_token_type", "actor_token", "actor_token_type", "resource",
        "audience", "scope", "requested_token_type"]
  | .deviceToken _ => ["grant_type", "device_code", "client_id"]
  | .introspection _ | .revocation _ => ["token", "token_type_hint"]
  | .deviceAuth _ => ["client_id", "scope"]
  | .par _ =>
      ["client_id", "redirect_uri", "scope", "response_type", "state", "nonce", "code_challenge",
        "code_challenge_method", "response_mode"]

theorem own_names (call : Call) : (call.own.map Prod.fst).Sublist call.names := by
  cases call with
  | token r => exact (optional_names _ _).cons_cons _
  | authCode r =>
      simp only [Call.own, List.map_append, List.append_assoc]
      exact (List.Sublist.refl _).append ((optional_names _ _).append (optional_names _ _))
  | refresh r =>
      simp only [Call.own, RefreshTokenRequest.params, List.map_append]
      exact (List.Sublist.refl _).append (optional_names _ _)
  | exchange r =>
      simp only [Call.own, TokenExchangeRequest.params, List.map_append, List.append_assoc]
      exact (List.Sublist.refl _).append ((optional_names _ _).append ((optional_names _ _).append
        ((optional_names _ _).append ((optional_names _ _).append ((optional_names _ _).append
          (optional_names _ _))))))
  | deviceToken r => exact List.Sublist.refl _
  | introspection r => exact (optional_names _ _).cons_cons _
  | revocation r => exact (optional_names _ _).cons_cons _
  | deviceAuth r =>
      simp only [Call.own, DeviceAuthorizationRequest.params]
      split
      · exact List.Sublist.refl _
      · exact (List.nil_sublist _).cons_cons _
  | par r =>
      simp only [Call.own, PushedAuthorizationRequest.params, List.map_append, List.append_assoc]
      exact (List.Sublist.refl _).append ((optional_names _ _).append ((optional_names _ _).append
        ((optional_names _ _).append ((optional_names _ _).append (optional_names _ _)))))

theorem names_nodup (call : Call) : call.names.Nodup := by
  cases call <;> (rw [Call.names]; decide)

/-- No request uses a name of an assertion or of a secret. -/
theorem names_clean (call : Call) :
    ∀ name ∈ call.names, name ∉ ["client_assertion_type", "client_assertion", "client_secret"] := by
  cases call <;> (rw [Call.names]; decide)

theorem own_nodup (call : Call) : (call.own.map Prod.fst).Nodup := (names_nodup call).sublist (own_names call)

theorem own_clean {field : String × String} (h : field ∈ call.own) :
    field.1 ∉ ["client_assertion_type", "client_assertion", "client_secret"] :=
  names_clean call _ ((own_names call).subset (List.mem_map_of_mem h))

/-- The requests that name their client from the start name it as it is. -/
theorem own_clientId {field : String × String} (h : field ∈ call.own) (hname : field.1 = "client_id") :
    field = ("client_id", call.request.clientId) := by
  have hmem : "client_id" ∈ call.names := (own_names call).subset (List.mem_map.mpr ⟨field, h, hname⟩)
  have hhead {rest : Form} (heq : call.own = ("client_id", call.request.clientId) :: rest) :
      field = ("client_id", call.request.clientId) := by
    have hnodup := own_nodup call
    rw [heq] at h hnodup
    obtain rfl | hrest := List.mem_cons.mp h
    · rfl
    · exact absurd (List.mem_map.mpr ⟨field, hrest, hname⟩) (List.nodup_cons.mp hnodup).1
  cases call with
  | deviceToken r =>
      simp only [Call.own, DeviceTokenRequest.params, List.mem_cons, List.not_mem_nil, or_false] at h
      obtain rfl | rfl | rfl := h
      · exact absurd hname (by simp)
      · exact absurd hname (by simp)
      · rfl
  | deviceAuth r => exact hhead rfl
  | par r => exact hhead rfl
  | token r => exact absurd hmem (by simp [Call.names])
  | authCode r => exact absurd hmem (by simp [Call.names])
  | refresh r => exact absurd hmem (by simp [Call.names])
  | exchange r => exact absurd hmem (by simp [Call.names])
  | introspection r => exact absurd hmem (by simp [Call.names])
  | revocation r => exact absurd hmem (by simp [Call.names])

end Own

section Authentication

variable {lib : Library} {draw : Draw} {call : Call} {data : Form}

/-- The parameters of a request with some of its authentication. -/
structure Extends (call : Call) (data : Form) : Prop where
  once : (data.map Prod.fst).Nodup
  own : ∀ field ∈ call.own, field ∈ data
  closed : ∀ field ∈ data, field ∈ call.own ∨ field.1 ∈ authNames

theorem extends_own (call : Call) : Extends call call.own :=
  ⟨own_nodup call, fun _ hfield => hfield, fun _ hfield => .inl hfield⟩

/-- A name of an authentication is assigned, and nothing of the request is lost. -/
theorem Extends.assign (h : Extends call data) {name : String} (value : String) (hname : name ∈ authNames)
    (hkept : ∀ field ∈ call.own, field.1 = name → field = (name, value)) :
    Extends call (assign data name value) where
  once := nodup_assign h.once
  own := by
    intro field hfield
    by_cases heq : field.1 = name
    · rw [hkept field hfield heq]
      exact mem_assign_self
    · exact mem_assign_of_ne (h.own field hfield) heq
  closed := by
    intro field hfield
    obtain rfl | hold := mem_assign hfield
    · exact .inr hname
    · exact h.closed field hold

theorem Extends.clientId (h : Extends call data) :
    Extends call (Gathering.assign data "client_id" call.request.clientId) :=
  h.assign _ (by decide) fun _ hfield hname => own_clientId hfield hname

theorem Extends.secretless (h : Extends call data) : "client_secret" ∉ data.map Prod.fst := by
  intro hsecret
  obtain ⟨field, hfield, hname⟩ := List.mem_map.mp hsecret
  obtain hown | hauth := h.closed field hfield
  · exact own_clean hown (by simp [hname])
  · rw [hname] at hauth
    exact absurd hauth (by decide)

/-- An assertion is what its claims were signed to. -/
theorem vouched_of_ok {request : Request} {config : PrivateKeyJwt} {assertion : String}
    (h : buildClientAssertion lib draw request.clientId ((present config.audience).getD request.address)
      config = .ok assertion) : Vouched lib draw request config assertion := by
  unfold buildClientAssertion at h
  split_ifs at h with hid haudience hkey halg hlifetime hkid
  have hsigned := Results.mapError_eq_ok.mp h
  refine ⟨_, hsigned, halg, rfl, rfl, rfl, rfl, rfl, ?_, ?_, rfl⟩
  · exact Int.sub_lt_self _ (by decide)
  · have hleeway : Py.Dpop.clockSkewLeewaySeconds = 10 := rfl
    dsimp only
    omega

theorem unasserted
    (hclosed : ∀ field ∈ data, field ∈ call.own ∨ field.1 = "client_id") :
    "client_assertion" ∉ data.map Prod.fst := by
  intro hassertion
  obtain ⟨field, hfield, hname⟩ := List.mem_map.mp hassertion
  obtain hown | hid := hclosed field hfield
  · exact own_clean hown (by simp [hname])
  · exact absurd (hname.symm.trans hid) (by decide)

/-- A request that is signed for. -/
theorem asserted {config : PrivateKeyJwt}
    (h : applyPrivateKeyJwt lib draw call.own config call.request.clientId call.request.address = .ok data) :
    Extends call data ∧ ∃ assertion, Vouched lib draw call.request config assertion ∧
      ("client_id", call.request.clientId) ∈ data ∧
      ("client_assertion_type", "urn:ietf:params:oauth:client-assertion-type:jwt-bearer") ∈ data ∧
      ("client_assertion", assertion) ∈ data := by
  obtain ⟨assertion, hassertion, rfl⟩ := Results.map_eq_ok.mp h
  have hfresh {name value : String} (hname : name ∈ ["client_assertion_type", "client_assertion"]) :
      ∀ field ∈ call.own, field.1 = name → field = (name, value) := by
    rintro field hfield rfl
    exact absurd (List.mem_append_left ["client_secret"] hname) (own_clean hfield)
  have htype : Extends call (Gathering.assign (Gathering.assign call.own "client_id" call.request.clientId)
      "client_assertion_type" "urn:ietf:params:oauth:client-assertion-type:jwt-bearer") :=
    (extends_own call).clientId.assign _ (by decide) (hfresh (by decide))
  refine ⟨htype.assign assertion (by decide) (hfresh (by decide)), assertion, vouched_of_ok hassertion, ?_, ?_,
    mem_assign_self⟩
  · exact mem_assign_of_ne (mem_assign_of_ne mem_assign_self (show "client_id" ≠ _ by decide))
      (show "client_id" ≠ _ by decide)
  · exact mem_assign_of_ne mem_assign_self (show "client_assertion_type" ≠ _ by decide)

theorem named_own (hmode : call.mode = .named) : ("client_id", call.request.clientId) ∈ call.own := by
  cases call with
  | deviceToken r => exact List.mem_cons_of_mem _ (List.mem_cons_of_mem _ List.mem_cons_self)
  | deviceAuth r => exact List.mem_cons_self
  | par r => exact List.mem_cons_self
  | token r => cases hmode
  | authCode r => cases hmode
  | refresh r => cases hmode
  | exchange r => cases hmode
  | introspection r => cases hmode
  | revocation r => cases hmode

/-- A request that only names its client. -/
theorem named (h : data = Gathering.assign call.own "client_id" call.request.clientId ∨
    (data = call.own ∧ call.mode = .named)) :
    Extends call data ∧ ("client_id", call.request.clientId) ∈ data ∧
      "client_assertion" ∉ data.map Prod.fst := by
  obtain rfl | ⟨rfl, hmode⟩ := h
  · refine ⟨(extends_own call).clientId, mem_assign_self, @unasserted call _ ?_⟩
    intro field hfield
    obtain rfl | hown := mem_assign hfield
    · exact .inr rfl
    · exact .inl hown
  · exact ⟨extends_own call, named_own hmode, unasserted fun _ hfield => .inl hfield⟩

theorem authenticate_spec {p : Prepared}
    (h : authenticate lib draw call.request call.secret call.mode call.own = .ok (p.data, p.auth)) :
    Authenticated lib draw call p := by
  have hbuild (hext : Extends call p.data) (hauth : Authenticates lib draw call p) :
      Authenticated lib draw call p :=
    ⟨hext.once, hext.own, hext.closed, hext.secretless, hauth⟩
  unfold authenticate at h
  cases hjwt : call.request.privateKeyJwt with
  | some config =>
      rw [hjwt] at h
      obtain ⟨data, happly, hpair⟩ := Results.map_eq_ok.mp h
      obtain ⟨hdata, hauth⟩ := Prod.mk.inj hpair
      obtain ⟨hext, assertion, hvouched, hbody⟩ := asserted happly
      rw [hdata] at hext hbody
      exact hbuild hext (.assertion config assertion hjwt hvouched hbody hauth.symm)
  | none =>
      rw [hjwt] at h
      cases hmtls : call.request.mtls with
      | true =>
          simp only [hmtls, if_true, Except.ok.injEq, Prod.mk.injEq] at h
          obtain ⟨hext, hbody⟩ := named (.inl h.1.symm)
          exact hbuild hext (.certificate hjwt hmtls hbody h.2.symm)
      | false =>
          cases hsecret : call.secret with
          | some secret =>
              simp only [hmtls, hsecret, Bool.false_eq_true, if_false, Except.ok.injEq, Prod.mk.injEq] at h
              obtain ⟨hdata, hauth⟩ := h
              have hread := BasicCredentials.recovered_userpass .python call.request.clientId secret
              rw [← BasicCredentials.readHeader_header] at hread
              exact hbuild (hdata ▸ extends_own call)
                (.secret secret _ hjwt hmtls hsecret hdata.symm hauth.symm hread)
          | none =>
              simp only [hmtls, hsecret, Bool.false_eq_true, if_false, Except.ok.injEq, Prod.mk.injEq] at h
              obtain ⟨hdata, hauth⟩ := h
              have hnamed : p.data = Gathering.assign call.own "client_id" call.request.clientId ∨
                  (p.data = call.own ∧ call.mode = .named) := by
                rw [← hdata]
                cases hmode : call.mode with
                | names => exact .inl rfl
                | named => exact .inr ⟨rfl, rfl⟩
              obtain ⟨hext, hbody⟩ := named hnamed
              exact hbuild hext (.noSecret hjwt hmtls hsecret hbody hauth.symm)

theorem prepare_eq_ok {request : Request} {secret : Option String} {mode : Public} {params : Form}
    {p : Prepared} (h : prepare lib draw request secret mode params = .ok p) :
    authenticate lib draw request secret mode params = .ok (p.data, p.auth) := by
  obtain ⟨⟨data, auth⟩, hr, rfl⟩ := Results.map_eq_ok.mp h
  exact hr

/-- Names that are not there yet are assigned at the end. -/
theorem assign_authNames {params : Form} (clientId assertionType assertion : String)
    (h : ∀ name ∈ authNames, name ∉ params.map Prod.fst) :
    Gathering.assign params "client_id" clientId = params ++ [("client_id", clientId)] ∧
      Gathering.assign (Gathering.assign (Gathering.assign params "client_id" clientId)
          "client_assertion_type" assertionType) "client_assertion" assertion =
        params ++ [("client_id", clientId), ("client_assertion_type", assertionType),
          ("client_assertion", assertion)] := by
  have hid : Gathering.assign params "client_id" clientId = params ++ [("client_id", clientId)] :=
    assign_of_not_mem (h _ (by decide))
  have htype : Gathering.assign (params ++ [("client_id", clientId)]) "client_assertion_type" assertionType =
      params ++ [("client_id", clientId)] ++ [("client_assertion_type", assertionType)] := by
    apply assign_of_not_mem
    rw [List.map_append, List.mem_append]
    exact not_or.mpr ⟨h _ (by decide), by simp⟩
  have hassertion : Gathering.assign (params ++ [("client_id", clientId)] ++
      [("client_assertion_type", assertionType)]) "client_assertion" assertion =
        params ++ [("client_id", clientId)] ++ [("client_assertion_type", assertionType)] ++
          [("client_assertion", assertion)] := by
    apply assign_of_not_mem
    rw [List.map_append, List.map_append, List.mem_append, List.mem_append]
    exact not_or.mpr ⟨not_or.mpr ⟨h _ (by decide), by simp⟩, by simp⟩
  refine ⟨hid, ?_⟩
  rw [hid, htype, hassertion]
  simp only [List.append_assoc, List.cons_append, List.nil_append]

/-- The authentication of a code exchange puts all it adds at the end. -/
theorem authenticate_authCode (r : AuthorizationCodeTokenRequest) :
    authenticate lib draw (Call.authCode r).request r.clientSecret .names (Call.authCode r).own =
      Py.Dpop.authenticate lib draw r (Call.authCode r).own := by
  have hnames : ∀ name ∈ authNames, name ∉ (Call.authCode r).own.map Prod.fst := by
    have hdisjoint : ∀ name ∈ authNames,
        name ∉ ["grant_type", "code", "redirect_uri", "code_verifier", "scope"] := by decide
    exact fun name hname hmem => hdisjoint name hname ((own_names (.authCode r)).subset hmem)
  have hid := (assign_authNames r.clientId "" "" hnames).1
  unfold authenticate Py.Dpop.authenticate
  rw [show (Call.authCode r).request.privateKeyJwt = r.privateKeyJwt from rfl,
    show (Call.authCode r).request.mtls = r.mtls from rfl]
  cases r.privateKeyJwt with
  | some config =>
      refine congrArg (Except.map _) ?_
      unfold applyPrivateKeyJwt Py.Dpop.applyPrivateKeyJwt
      refine congrArg (fun f => Except.map f _) (funext fun assertion => ?_)
      exact (assign_authNames r.clientId _ assertion hnames).2
  | none =>
      dsimp only
      split
      · exact congrArg (fun params => Except.ok (params, none)) hid
      · cases r.clientSecret with
        | some secret => rfl
        | none => exact congrArg (fun params => Except.ok (params, none)) hid

theorem prepared_eq_ok {nonce : Option String} {p : Prepared} (h : call.prepared lib draw nonce = .ok p) :
    authenticate lib draw call.request call.secret call.mode call.own = .ok (p.data, p.auth) := by
  cases call with
  | token r => exact prepare_eq_ok h
  | authCode r =>
      obtain ⟨headers, -, hrest⟩ := Results.bind_eq_ok.mp h
      obtain ⟨⟨data, auth⟩, hauth, hp⟩ := Results.bind_eq_ok.mp hrest
      cases hp
      exact (authenticate_authCode r).trans hauth
  | refresh r => exact prepare_eq_ok h
  | exchange r =>
      obtain ⟨_, -, hprepare⟩ := Results.bind_eq_ok.mp h
      exact prepare_eq_ok hprepare
  | deviceToken r => exact prepare_eq_ok h
  | introspection r => exact prepare_eq_ok h
  | revocation r => exact prepare_eq_ok h
  | deviceAuth r => exact prepare_eq_ok h
  | par r =>
      rw [Call.prepared, prepareParRequestData] at h
      split at h
      · cases h
      · obtain ⟨headers, -, hrest⟩ := Results.bind_eq_ok.mp h
        obtain ⟨⟨data, auth⟩, hauth, hp⟩ := Results.bind_eq_ok.mp hrest
        cases hp
        exact hauth

end Authentication

/-- Whatever is asked for, a request that can be prepared authenticates its client in one way: by an
assertion that is the client's and holds, by its certificate, by its secret, or by name alone. -/
theorem forms_authenticated (lib : Library) (draw : Draw) (call : Call) (nonce : Option String)
    (p : Prepared) (h : call.prepared lib draw nonce = .ok p) : Authenticated lib draw call p :=
  authenticate_spec (prepared_eq_ok h)

/-- Nothing is signed here. -/
def sampleLibrary : Library where
  platform := Url.asciiPlatform
  upper s := String.ofList (s.toList.map Char.toUpper)
  sha256 _ := []
  encodeProof _ _ := .error "Could not parse the provided public key."
  encodeAssertion _ _ _ _ := .error "Could not parse the provided public key."
  jti _ := none

def sampleExchange : TokenExchangeRequest where
  address := "https://as.example.com/token"
  clientId := "back end"
  clientSecret := some "p:w"
  subjectToken := "subject"
  subjectTokenType := "urn:ietf:params:oauth:token-type:access_token"
  audience := some "urn:example:api"
  scope := some ""

theorem forms_authenticated_exchange :
    Authenticated sampleLibrary ⟨"p", "a", 0, 0⟩ (.exchange sampleExchange)
      ⟨[("grant_type", "urn:ietf:params:oauth:grant-type:token-exchange"), ("subject_token", "subject"),
          ("subject_token_type", "urn:ietf:params:oauth:token-type:access_token"),
          ("audience", "urn:example:api")],
        [("Content-Type", "application/x-www-form-urlencoded")], some ("back%20end", "p%3Aw")⟩ :=
  forms_authenticated sampleLibrary ⟨"p", "a", 0, 0⟩ (.exchange sampleExchange) none _ (by decide +kernel)

end IdentityModel.PyForms
