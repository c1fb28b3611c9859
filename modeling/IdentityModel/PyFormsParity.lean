import IdentityModel.FormsParity
import IdentityModel.PyForms

/-!
# The forms of the Python package beside those of the crates

A client with a secret over HTTP Basic, or without one, makes the same requests in all three packages:
the fields are the same and a server reads the same credentials. What Python does not check itself is
the code verifier and the scheme of the endpoint; a blank secret it keeps from the revocation endpoint.
-/
namespace IdentityModel.PyFormsParity

open FormsParity (TokenMethod)
open GoToken (Visit)
open Py.Dpop (Library Draw Prepared present isBlank)
open PyForms (Call Public authenticate optional)
open RustForms (Form ProtectedClient TokenClient values)

/-- The same fields in some order, and the same credentials once a server has read them. -/
structure Same (p : Prepared) (r : RustForms.Request) : Prop where
  form : p.data.Perm r.form
  credentials : (p.auth.map BasicCredentials.header).bind BasicCredentials.readHeader =
    r.authorization.bind BasicCredentials.readHeader

/-- What a client without an assertion or a certificate adds. -/
theorem authenticate_plain {lib : Library} {draw : Draw} {request : PyForms.Request} {secret : Option String}
    {params : Form} (hjwt : request.privateKeyJwt = none) (hmtls : request.mtls = false)
    (hnames : "client_id" ∉ params.map Prod.fst) :
    authenticate lib draw request secret .names params =
      .ok (params ++ (if secret.isSome then [] else [("client_id", request.clientId)]),
        secret.map (Py.Dpop.basicAuthCredentials request.clientId)) := by
  unfold authenticate
  rw [hjwt]
  simp only [hmtls, Bool.false_eq_true, if_false]
  cases secret with
  | none =>
      have hassign : Gathering.assign params "client_id" request.clientId =
          params ++ [("client_id", request.clientId)] := Gathering.assign_of_not_mem hnames
      exact congrArg (fun params => Except.ok (params, none)) hassign
  | some secret => simp

/-- Python and Rust escape a space differently, and a server reads the same pair. -/
theorem readHeader_python (clientId secret : String) :
    BasicCredentials.readHeader (BasicCredentials.header (Py.Dpop.basicAuthCredentials clientId secret)) =
      some (clientId, secret) :=
  (BasicCredentials.readHeader_header _).trans (BasicCredentials.recovered_userpass .python clientId secret)

theorem readHeader_rust (clientId secret : String) :
    BasicCredentials.readHeader (RustForms.basicAuthHeader clientId secret) = some (clientId, secret) := by
  rw [FormsParity.basicAuthHeader_eq, BasicCredentials.readHeader_header]
  exact BasicCredentials.recovered_userpass .go clientId secret

def codeRequest (client : TokenClient) (code redirectUri : String) (codeVerifier : Option String) :
    Py.Dpop.AuthorizationCodeTokenRequest :=
  { address := client.tokenEndpoint
    clientId := client.clientId
    clientSecret := client.clientSecret
    code := code
    redirectUri := redirectUri
    codeVerifier := codeVerifier }

def exchangeRequest (client : TokenClient) (r : RustForms.TokenExchangeRequest) :
    PyForms.TokenExchangeRequest :=
  { address := client.tokenEndpoint
    clientId := client.clientId
    clientSecret := client.clientSecret
    subjectToken := r.subjectToken
    subjectTokenType := r.subjectTokenType
    actorToken := r.actorToken
    actorTokenType := r.actorTokenType
    resource := r.resources.head?
    audience := r.audiences.head?
    scope := r.scope
    requestedTokenType := r.requestedTokenType }

/-- The same call in Python. -/
def pyCall (m : TokenMethod) (client : TokenClient) : Call :=
  match m with
  | .clientCredentials scope =>
      .token
        { address := client.tokenEndpoint
          clientId := client.clientId
          clientSecret := client.clientSecret
          scope := scope }
  | .exchangeCode code redirectUri codeVerifier =>
      .authCode (codeRequest client code redirectUri codeVerifier)
  | .tokenExchange r =>
      .exchange (exchangeRequest client r)

/-- What Python can ask for as well: a redirection that is named, one resource and one audience at most,
and no type of an actor token without the token. -/
def Shared : TokenMethod → Prop
  | .clientCredentials _ => True
  | .exchangeCode _ redirectUri _ => redirectUri ≠ ""
  | .tokenExchange r =>
      r.resources.length ≤ 1 ∧ r.audiences.length ≤ 1 ∧ (r.actorToken = none → r.actorTokenType = none)

/-- The code verifier is valid, if there is one. -/
def VerifierValid : TokenMethod → Prop
  | .exchangeCode _ _ codeVerifier =>
      ∀ verifier ∈ codeVerifier, RustForms.validCodeVerifier verifier = true
  | _ => True

/-- An exchange passes the checks of its request. -/
def ExchangeValid : TokenMethod → Prop
  | .tokenExchange r => r.validate = .ok ()
  | _ => True

/-- The fields of a Rust call but for those of its client. -/
def rustOwn : TokenMethod → Form
  | .clientCredentials scope => TokenClient.credentialsForm scope
  | .exchangeCode code redirectUri codeVerifier => TokenClient.codeForm code redirectUri codeVerifier
  | .tokenExchange r => r.form

section Tokens

variable {m : TokenMethod} {client : TokenClient}

theorem validate_iff (client : TokenClient) {r : RustForms.TokenExchangeRequest}
    (hshared : Shared (.tokenExchange r)) :
    (exchangeRequest client r).validate = .ok () ↔ r.validate = .ok () := by
  rw [FormsParity.validate_ok_iff]
  have hid := client.clientId_ne
  have hpair := hshared.2.2
  unfold PyForms.TokenExchangeRequest.validate exchangeRequest
  cases htoken : r.actorToken with
  | none =>
      rw [hpair htoken]
      split_ifs <;> simp_all
  | some token =>
      cases r.actorTokenType with
      | none => split_ifs <;> simp_all
      | some tokenType => split_ifs <;> simp_all

theorem optional_eq (name : String) (value : Option String) :
    optional name value = value.toList.map fun v => (name, v) := by
  cases value <;> rfl

/-- One value at most, if it is not empty. -/
theorem head_filter {values : List String} (h : values.length ≤ 1) :
    (present values.head?).toList = values.filter fun v => v ≠ "" := by
  obtain _ | ⟨v, _ | ⟨w, rest⟩⟩ := values
  · rfl
  · by_cases hv : v = "" <;> simp [present, Option.filter, hv]
  · simp at h

/-- The optional fields of an exchange in the two orders. -/
theorem reordered (required actor resources audiences scope requested : Form) :
    (required ++ actor ++ resources ++ audiences ++ scope ++ requested).Perm
      (required ++ actor ++ requested ++ scope ++ resources ++ audiences) := by
  refine Multiset.coe_eq_coe.mp ?_
  simp only [← Multiset.coe_add]
  abel

/-- The actor of a valid exchange: both halves or none. -/
theorem actor_eq {r : RustForms.TokenExchangeRequest} (hshared : Shared (.tokenExchange r))
    (hvalid : (TokenMethod.tokenExchange r).Valid) :
    (r.actorToken = none ∧ r.actorTokenType = none) ∨
      ∃ token tokenType, r.actorToken = some token ∧ r.actorTokenType = some tokenType := by
  obtain ⟨-, -, hactor⟩ := FormsParity.validate_ok_iff.mp hvalid
  cases htoken : r.actorToken with
  | none => exact .inl ⟨rfl, hshared.2.2 htoken⟩
  | some token =>
      obtain ⟨-, tokenType, htype, -⟩ := hactor token htoken
      exact .inr ⟨token, tokenType, rfl, htype⟩

theorem own_perm (hshared : Shared m) (hvalid : m.Valid) : (pyCall m client).own.Perm (rustOwn m) := by
  cases m with
  | clientCredentials scope =>
      rw [rustOwn, TokenClient.credentialsForm, ← optional_eq]
      exact List.Perm.refl _
  | exchangeCode code redirectUri codeVerifier =>
      have hredirect : redirectUri ≠ "" := hshared
      have hown : (pyCall (.exchangeCode code redirectUri codeVerifier) client).own =
          [("grant_type", "authorization_code"), ("code", code), ("redirect_uri", redirectUri)] ++
            optional "code_verifier" codeVerifier ++ [] := rfl
      rw [hown, List.append_nil, rustOwn, TokenClient.codeForm, if_pos hredirect, ← optional_eq]
      exact List.Perm.refl _
  | tokenExchange r =>
      have hresources := head_filter hshared.1
      have haudiences := head_filter hshared.2.1
      have hown : (pyCall (.tokenExchange r) client).own =
          [("grant_type", "urn:ietf:params:oauth:grant-type:token-exchange"),
            ("subject_token", r.subjectToken), ("subject_token_type", r.subjectTokenType)] ++
            optional "actor_token" r.actorToken ++ optional "actor_token_type" r.actorTokenType ++
            optional "resource" (present r.resources.head?) ++
            optional "audience" (present r.audiences.head?) ++ optional "scope" (present r.scope) ++
            optional "requested_token_type" (present r.requestedTokenType) := rfl
      rw [hown, rustOwn, RustForms.TokenExchangeRequest.form, optional_eq "resource", optional_eq "audience",
        optional_eq "scope", optional_eq "requested_token_type", hresources, haudiences]
      obtain ⟨htoken, htype⟩ | ⟨token, tokenType, htoken, htype⟩ := actor_eq hshared hvalid
      · rw [htoken, htype]
        exact reordered _ [] _ _ _ _
      · rw [htoken, htype, List.append_assoc _ (optional "actor_token" _)]
        exact reordered _ [("actor_token", token), ("actor_token_type", tokenType)] _ _ _ _

/-- Without extra parameters nothing is added. -/
theorem visited_nil {extras : Dict String String} (h : extras = ∅) (visit : Visit extras) :
    RustForms.visited visit = [] := by
  subst h
  rw [RustForms.visited, List.Perm.eq_nil visit.property, List.map_nil]

theorem sent_own (call : RustForms.Call) (h : call.extraParams = ∅) (visit : Visit call.extraParams) :
    (call.sent visit).form = call.own := by
  obtain ⟨added, hsub, -, hform⟩ := RustForms.sent_form visit
  rw [visited_nil h visit] at hsub
  rw [hform, List.sublist_nil.mp hsub, List.append_nil]

/-- What Rust sends, and what it has checked. -/
theorem rust_request {rust : RustForms.Library} {visit : Visit client.extraParams} {r : RustForms.Request}
    (hextras : client.extraParams = ∅) (h : m.request rust client visit = .ok r) :
    m.Valid ∧ r.form = rustOwn m ++ client.authenticate.1 ∧ r.authorization = client.authenticate.2 := by
  cases m with
  | clientCredentials scope =>
      obtain ⟨rfl, -⟩ := @RustForms.request_ok rust (.clientCredentials client scope) visit r h
      exact ⟨trivial, sent_own (.clientCredentials client scope) hextras visit, rfl⟩
  | exchangeCode code redirectUri codeVerifier =>
      obtain ⟨hvalid, -⟩ := RustForms.exchangeCode_ok_iff.mp h
      obtain ⟨rfl, -⟩ := @RustForms.request_ok rust (.exchangeCode client code redirectUri codeVerifier) visit r h
      exact ⟨hvalid, sent_own (.exchangeCode client code redirectUri codeVerifier) hextras visit, rfl⟩
  | tokenExchange request =>
      obtain ⟨hvalid, -⟩ := RustForms.tokenExchange_ok_iff.mp h
      obtain ⟨rfl, -⟩ := @RustForms.request_ok rust (.tokenExchange client request) visit r h
      exact ⟨hvalid, sent_own (.tokenExchange client request) hextras visit, rfl⟩

theorem valid_iff : m.Valid ↔ ExchangeValid m ∧ VerifierValid m := by
  cases m with
  | clientCredentials scope => exact ⟨fun h => ⟨h, h⟩, And.left⟩
  | exchangeCode code redirectUri codeVerifier => exact ⟨fun h => ⟨trivial, h⟩, And.right⟩
  | tokenExchange r => exact ⟨fun h => ⟨h, trivial⟩, And.left⟩

/-- What Python adds to the fields of its own. -/
def pyCredentials (client : TokenClient) : Form :=
  if client.clientSecret.isSome then [] else [("client_id", client.clientId)]

theorem clientId_not_mem (m : TokenMethod) (client : TokenClient) :
    "client_id" ∉ (pyCall m client).own.map Prod.fst := by
  intro hmem
  have htable := (PyForms.own_names _).subset hmem
  cases m <;> exact absurd htable (by simp [pyCall, Call.names])

theorem present_secret (client : TokenClient) : present client.clientSecret = client.clientSecret := by
  cases hsecret : client.clientSecret with
  | none => rfl
  | some secret =>
      have hne : secret ≠ "" := fun heq => client.clientSecret_ne (heq ▸ hsecret)
      simp [present, Option.filter, hne]

theorem authenticate_eq (m : TokenMethod) (client : TokenClient) (lib : Library) (draw : Draw)
    {request : PyForms.Request} (hrequest : request = ⟨client.tokenEndpoint, client.clientId,
      client.clientSecret, none, false⟩) :
    authenticate lib draw request client.clientSecret .names (pyCall m client).own =
      .ok ((pyCall m client).own ++ pyCredentials client,
        client.clientSecret.map (Py.Dpop.basicAuthCredentials client.clientId)) := by
  subst hrequest
  exact authenticate_plain rfl rfl (clientId_not_mem m client)

theorem prepare_of_authenticate {lib : Library} {draw : Draw} {request : PyForms.Request}
    {secret : Option String} {mode : Public} {params data : Form} {auth : Option (String × String)}
    (h : authenticate lib draw request secret mode params = .ok (data, auth)) :
    PyForms.prepare lib draw request secret mode params = .ok ⟨data, PyForms.formHeaders, auth⟩ := by
  rw [PyForms.prepare, h]
  rfl

/-- What Python sends. -/
theorem python_prepared (lib : Library) (draw : Draw) (hshared : Shared m) (hvalid : ExchangeValid m) :
    (pyCall m client).prepared lib draw none = .ok
      ⟨(pyCall m client).own ++ pyCredentials client, PyForms.formHeaders,
        client.clientSecret.map (Py.Dpop.basicAuthCredentials client.clientId)⟩ := by
  have hauth := authenticate_eq m client lib draw rfl
  cases m with
  | clientCredentials scope => exact prepare_of_authenticate hauth
  | exchangeCode code redirectUri codeVerifier =>
      have hpy := (PyForms.authenticate_authCode
        (codeRequest client code redirectUri codeVerifier)).symm.trans hauth
      refine Results.bind_eq_ok.mpr ⟨PyForms.formHeaders, rfl, ?_⟩
      exact Results.bind_eq_ok.mpr ⟨_, hpy, rfl⟩
  | tokenExchange r =>
      have hok := (validate_iff client hshared).mpr hvalid
      have hsecret : present (exchangeRequest client r).clientSecret = client.clientSecret :=
        present_secret client
      refine Results.bind_eq_ok.mpr ⟨(), hok, ?_⟩
      rw [hsecret]
      exact prepare_of_authenticate hauth

/-- Python refuses an exchange whose request is not valid, and nothing else. -/
theorem python_ok_iff (lib : Library) (draw : Draw) (hshared : Shared m) :
    (∃ p, (pyCall m client).prepared lib draw none = .ok p) ↔ ExchangeValid m := by
  refine ⟨fun ⟨p, hp⟩ => ?_, fun hvalid => ⟨_, python_prepared lib draw hshared hvalid⟩⟩
  cases m with
  | clientCredentials scope => exact trivial
  | exchangeCode code redirectUri codeVerifier => exact trivial
  | tokenExchange r =>
      obtain ⟨_, hok, -⟩ := Results.bind_eq_ok.mp hp
      exact (validate_iff client hshared).mp hok

/-- The credentials of both, where Rust sends them in the header. -/
theorem credentials_eq (hbasic : client.authMethod = .clientSecretBasic) :
    pyCredentials client = client.authenticate.1 ∧
      ((client.clientSecret.map (Py.Dpop.basicAuthCredentials client.clientId)).map
          BasicCredentials.header).bind BasicCredentials.readHeader =
        client.authenticate.2.bind BasicCredentials.readHeader := by
  rw [pyCredentials, TokenClient.authenticate, hbasic]
  cases client.clientSecret with
  | none => simp [client.clientId_ne]
  | some secret =>
      simp only [Option.isSome_some, if_true, Option.map_some, Option.bind_some, true_and]
      rw [readHeader_python, readHeader_rust]

/-- The Go request has the values of the Rust request. -/
theorem go_same {rust : RustForms.Library} {go : GoToken.Library} {visit : Visit client.extraParams}
    {first second : Visit (m.goConfig client).extraParams} {r : RustForms.Request} {g : GoToken.Request}
    (hextras : client.extraParams = ∅) (hvalid : m.Valid) (hr : m.request rust client visit = .ok r)
    (hg : (m.goGrant client).request go (m.goConfig client) client.tokenEndpoint first second = .ok g) :
    (∀ name, values id r.form name = g.values name) ∧
      r.authorization = g.basicAuth.map BasicCredentials.header := by
  have hsame := FormsParity.sameRequest hvalid hr hg
  refine ⟨fun name => ?_, hsame.credentials⟩
  by_cases hgo : FormsParity.OnlyGo go m client name
  · obtain ⟨hrust, hnone⟩ := hsame.dropped name hgo
    rw [hrust, hnone, hextras]
    rfl
  · exact hsame.same name hgo

/-- The three packages make the same token requests: Python sends what Rust sends, in some order, and what
Go sends under each name. Rust refuses what Python does not for its code verifier alone. -/
theorem python_token_requests_agree (lib : Library) (draw : Draw) (rust : RustForms.Library)
    (go : GoToken.Library) (client : TokenClient) (m : TokenMethod)
    (hbasic : client.authMethod = .clientSecretBasic) (hextras : client.extraParams = ∅)
    (hshared : Shared m) (visit : Visit client.extraParams)
    (hscheme : RustHttp.schemeOk client.allowHttp client.tokenEndpoint.toList = true) :
    ((∃ r, m.request rust client visit = .ok r) ↔
      (∃ p, (pyCall m client).prepared lib draw none = .ok p) ∧ VerifierValid m) ∧
    ∀ r, m.request rust client visit = .ok r → ∃ p, (pyCall m client).prepared lib draw none = .ok p ∧
      Same p r ∧ ∀ first second g,
        (m.goGrant client).request go (m.goConfig client) client.tokenEndpoint first second = .ok g →
          (∀ name, (values id p.data name).Perm (g.values name)) ∧
            (p.auth.map BasicCredentials.header).bind BasicCredentials.readHeader =
              (g.basicAuth.map BasicCredentials.header).bind BasicCredentials.readHeader := by
  constructor
  · have hfree : ∀ name ∈ client.extraParams, RustForms.normalizeParamKey name ∉ m.grantReserved := by
      intro name hname
      rw [hextras] at hname
      exact absurd hname (AList.notMem_empty name)
    rw [FormsParity.rust_ok_iff hscheme, python_ok_iff lib draw hshared, ← valid_iff]
    exact and_iff_left hfree
  · intro r hr
    obtain ⟨hvalid, hform, hauthorization⟩ := rust_request hextras hr
    obtain ⟨hfields, hcredentials⟩ := credentials_eq hbasic
    have hsame : Same ⟨(pyCall m client).own ++ pyCredentials client, PyForms.formHeaders,
        client.clientSecret.map (Py.Dpop.basicAuthCredentials client.clientId)⟩ r := by
      refine ⟨?_, hauthorization ▸ hcredentials⟩
      rw [hform, hfields]
      exact (own_perm hshared hvalid).append_right _
    refine ⟨_, python_prepared lib draw hshared (valid_iff.mp hvalid).1, hsame, fun first second g hg => ?_⟩
    obtain ⟨hvalues, hgo⟩ := go_same hextras hvalid hr hg
    refine ⟨fun name => ?_, hgo ▸ hsame.credentials⟩
    rw [← hvalues name]
    exact (hsame.form.filter _).map _

/-- A secret with a space, which Python writes as `%20` and the crates as a plus sign. -/
def sampleClient : TokenClient where
  tokenEndpoint := "https://as.example.com/token"
  clientId := "app"
  clientSecret := some "p w"
  authMethod := .clientSecretBasic
  extraParams := ∅
  allowHttp := false
  clientId_ne := by decide
  clientSecret_ne := by decide

def sampleExchange : RustForms.TokenExchangeRequest where
  subjectToken := "subject"
  subjectTokenType := "urn:ietf:params:oauth:token-type:access_token"
  actorToken := some "actor"
  actorTokenType := some "urn:ietf:params:oauth:token-type:jwt"
  scope := some "read"
  audiences := ["urn:example:api"]

theorem sampleExchange_sent : ∃ r, (TokenMethod.tokenExchange sampleExchange).request
    RustForms.sampleLibrary sampleClient (.stored _) = .ok r :=
  (FormsParity.rust_ok_iff (by decide)).mpr
    ⟨show sampleExchange.validate = .ok () by decide, fun name hname => absurd hname (AList.notMem_empty name)⟩

theorem python_token_requests_agree_exchange :
    ∃ r p, (TokenMethod.tokenExchange sampleExchange).request RustForms.sampleLibrary sampleClient
        (.stored _) = .ok r ∧
      (pyCall (.tokenExchange sampleExchange) sampleClient).prepared PyForms.sampleLibrary
        ⟨"p", "a", 0, 0⟩ none = .ok p ∧ Same p r := by
  obtain ⟨r, hr⟩ := sampleExchange_sent
  obtain ⟨p, hp, hsame, -⟩ := (python_token_requests_agree PyForms.sampleLibrary ⟨"p", "a", 0, 0⟩
    RustForms.sampleLibrary RustForms.asciiLibrary sampleClient (.tokenExchange sampleExchange) rfl rfl
    ⟨by decide, by decide, by decide⟩ (.stored _) (by decide)).2 r hr
  exact ⟨r, p, hr, hp, hsame⟩

end Tokens

section Protected

variable {client : ProtectedClient} {token : String} {hint : Option String}

/-- The same request in Python. -/
def tokenRequest (client : ProtectedClient) (token : String) (hint : Option String) :
    PyForms.TokenRequest :=
  { address := client.endpoint
    clientId := client.clientId
    clientSecret := some client.clientSecret
    token := token
    tokenTypeHint := hint }

/-- What Python sends for what it takes for a secret. -/
theorem prepared_token (lib : Library) (draw : Draw) (secret : Option String) :
    PyForms.prepare lib draw (tokenRequest client token hint).toRequest secret .names
        (tokenRequest client token hint).params =
      .ok ⟨(tokenRequest client token hint).params ++
          (if secret.isSome then [] else [("client_id", client.clientId)]),
        PyForms.formHeaders, secret.map (Py.Dpop.basicAuthCredentials client.clientId)⟩ := by
  refine prepare_of_authenticate (authenticate_plain rfl rfl ?_)
  intro hmem
  have htable := (PyForms.own_names (.introspection (tokenRequest client token hint))).subset hmem
  exact absurd htable (by simp [Call.names])

/-- The fields of both, where no hint is empty. -/
theorem tokenForm_eq (hhint : hint ≠ some "") :
    (tokenRequest client token hint).params = ProtectedClient.tokenForm token hint := by
  cases hint with
  | none => rfl
  | some h =>
      have hne : h ≠ "" := fun heq => hhint (congrArg some heq)
      simp [tokenRequest, PyForms.TokenRequest.params, PyForms.optional, ProtectedClient.tokenForm,
        Option.filter, hne]

theorem protected_authenticate (hbasic : client.authMethod = .clientSecretBasic) :
    client.authenticate = ([], some (RustForms.basicAuthHeader client.clientId client.clientSecret)) := by
  rw [ProtectedClient.authenticate, hbasic]

/-- What Rust sends for a token. -/
theorem protected_sent {r : RustForms.Request} {call : RustForms.Call} {visit : Visit call.extraParams}
    (hbasic : client.authMethod = .clientSecretBasic) (hextras : call.extraParams = ∅)
    (hown : call.own = ProtectedClient.tokenForm token hint ++ client.authenticate.1)
    (hauthorization : call.authorization = client.authenticate.2) (hr : r = call.sent visit) :
    r.form = ProtectedClient.tokenForm token hint ∧
      r.authorization = some (RustForms.basicAuthHeader client.clientId client.clientSecret) := by
  subst hr
  rw [protected_authenticate hbasic] at hown hauthorization
  refine ⟨?_, hauthorization⟩
  rw [sent_own call hextras visit, hown, List.append_nil]

/-- The same fields and the same credentials. -/
theorem same_of_secret {r : RustForms.Request} (hhint : hint ≠ some "")
    (hform : r.form = ProtectedClient.tokenForm token hint)
    (hauthorization : r.authorization =
      some (RustForms.basicAuthHeader client.clientId client.clientSecret)) :
    Same ⟨(tokenRequest client token hint).params ++
        (if (some client.clientSecret).isSome then [] else [("client_id", client.clientId)]),
      PyForms.formHeaders,
      (some client.clientSecret).map (Py.Dpop.basicAuthCredentials client.clientId)⟩ r := by
  constructor
  · rw [hform, tokenForm_eq hhint]
    exact List.Perm.of_eq (List.append_nil _)
  · rw [hauthorization, Option.map_some, Option.map_some, Option.bind_some, Option.bind_some,
      readHeader_python, readHeader_rust]

/-- Introspections are the same in Python and in Rust, and revocations are but for a blank secret, which
Python leaves out. -/
theorem python_protected_requests_agree (lib : Library) (draw : Draw) (rust : RustForms.Library)
    (client : ProtectedClient) (hbasic : client.authMethod = .clientSecretBasic)
    (hextras : client.extraParams = ∅) (token : String) (hint : Option String) (hhint : hint ≠ some "")
    (visit : Visit client.extraParams) (r : RustForms.Request) :
    (client.introspect rust token hint visit = .ok r → ∃ p,
      PyForms.prepareIntrospectionRequestData lib draw (tokenRequest client token hint) = .ok p ∧ Same p r) ∧
    (client.revoke rust token hint visit = .ok r → ∃ p,
      PyForms.prepareRevocationRequestData lib draw (tokenRequest client token hint) = .ok p ∧
        (Same p r ↔ isBlank client.clientSecret = false)) := by
  constructor
  · intro h
    obtain ⟨hr, -⟩ := @RustForms.request_ok rust (.introspect client token hint) visit r h
    obtain ⟨hform, hauthorization⟩ :=
      @protected_sent client token hint r (.introspect client token hint) visit hbasic hextras rfl rfl hr
    exact ⟨_, prepared_token lib draw (some client.clientSecret), same_of_secret hhint hform hauthorization⟩
  · intro h
    obtain ⟨hr, -⟩ := @RustForms.request_ok rust (.revoke client token hint) visit r h
    obtain ⟨hform, hauthorization⟩ :=
      @protected_sent client token hint r (.revoke client token hint) visit hbasic hextras rfl rfl hr
    have hprepared := @prepared_token client token hint lib draw
      ((some client.clientSecret).filter fun s => !isBlank s)
    refine ⟨_, hprepared, ?_⟩
    cases hblank : isBlank client.clientSecret with
    | false =>
        have hsecret : ((some client.clientSecret).filter fun s => !isBlank s) = some client.clientSecret := by
          simp [Option.filter, hblank]
        rw [hsecret]
        exact ⟨fun _ => rfl, fun _ => same_of_secret hhint hform hauthorization⟩
    | true =>
        have hsecret : ((some client.clientSecret).filter fun s => !isBlank s) = none := by
          simp [Option.filter, hblank]
        rw [hsecret]
        refine ⟨fun hsame => ?_, fun hfalse => absurd hfalse (by decide)⟩
        have hcredentials := hsame.credentials
        rw [hauthorization, Option.bind_some, readHeader_rust] at hcredentials
        cases hcredentials

def sampleRevoker : ProtectedClient where
  endpoint := "https://as.example.com/revoke"
  clientId := "app"
  clientSecret := "  "
  authMethod := .clientSecretBasic
  extraParams := ∅
  allowHttp := false
  clientId_ne := by decide
  clientSecret_ne := by decide

theorem python_protected_requests_agree_blank :
    ∃ p, PyForms.prepareRevocationRequestData PyForms.sampleLibrary ⟨"p", "a", 0, 0⟩
        (tokenRequest sampleRevoker "token" none) = .ok p ∧
      (Same p (sampleRevoker.send ProtectedClient.revocationSkips "token" none (.stored _)) ↔
        isBlank sampleRevoker.clientSecret = false) :=
  (python_protected_requests_agree PyForms.sampleLibrary ⟨"p", "a", 0, 0⟩ RustForms.sampleLibrary
    sampleRevoker rfl rfl "token" none (by decide) (.stored _) _).2 rfl

end Protected

end IdentityModel.PyFormsParity
