import IdentityModel.BasicCredentials
import IdentityModel.Gathering
import IdentityModel.RustHttp
import IdentityModel.RustJwksClient

/-!
# Form requests of the Rust crate

The token, introspection and revocation clients of `rust/src`, up to the request each one sends: the
form, the client authentication of `client_auth.rs` and the extra parameters. The `HashMap` of the
extras is visited in some order, the same one each time. Timeouts are left out, and so is what becomes
of the answer.
-/
namespace IdentityModel.RustForms

open Gathering
open GoToken (Visit)
open RustJwks (trim toAsciiLowercase)

/-- What is not of this crate: `{:?}` of a string, and what a URL reads as once it is parsed, its user
name and password are taken out and it is written again. -/
structure Library where
  debug : String → String
  withoutUserinfo : String → Option String

inductive IdentityError
  | validation (message : String)
  | configuration (message : String)
  deriving DecidableEq, Repr

/-- Names and values in the order in which they are written. -/
abbrev Form := List (String × String)

inductive ClientAuthMethod
  | clientSecretBasic | clientSecretPost
  deriving DecidableEq, Repr

/-- One byte of `form_urlencode`. -/
def urlencodedByte (byte : ℕ) : List Char :=
  let c := Char.ofNat byte
  if ('A' ≤ c ∧ c ≤ 'Z') ∨ ('a' ≤ c ∧ c ≤ 'z') ∨ ('0' ≤ c ∧ c ≤ '9') ∨ c = '-' ∨ c = '.' ∨ c = '_' ∨
      c = '~' then [c]
  else if c = ' ' then ['+']
  else ['%', Forms.hexUpper (byte / 16), Forms.hexUpper (byte % 16)]

def formUrlencode (value : String) : List Char :=
  (Forms.encodeUtf8 value.toList).flatMap urlencodedByte

def basicAuthHeader (clientId clientSecret : String) : List Char :=
  let credentials := formUrlencode clientId ++ ':' :: formUrlencode clientSecret
  "Basic ".toList ++ Base64.Padded.encode (BasicCredentials.octets credentials)

def normalizeParamKey (key : String) : String := String.ofList ((trim key).toList.map toAsciiLowercase)

def eqIgnoreAsciiCase (a b : String) : Bool :=
  a.toList.map toAsciiLowercase = b.toList.map toAsciiLowercase

/-- The loop over the extra parameters: one that is not skipped is pushed. -/
def addExtras (skips : Form → String → Bool) (form extras : Form) : Form :=
  gather (fun form field => !skips form field.1) form extras

/-- The entries of a map as they are visited. -/
def visited {extras : Dict String String} (visit : Visit extras) : Form :=
  visit.val.map fun e => (e.1, e.2)

/-- `form.iter().any(|(k, _)| k == key)`. -/
def inForm (form : Form) (key : String) : Bool := key ∈ form.map Prod.fst

/-- What is sent. -/
structure Request where
  endpoint : String
  form : Form
  authorization : Option (List Char)
  deriving DecidableEq, Repr

/-- `TokenClient`, with what its builder ensures. -/
structure TokenClient where
  tokenEndpoint : String
  clientId : String
  clientSecret : Option String
  authMethod : ClientAuthMethod
  extraParams : Dict String String
  allowHttp : Bool
  clientId_ne : clientId ≠ ""
  clientSecret_ne : clientSecret ≠ some ""

structure TokenClientBuilder where
  tokenEndpoint : Option String := none
  clientId : Option String := none
  clientSecret : Option String := none
  authMethod : ClientAuthMethod := .clientSecretBasic
  extraParams : Dict String String := ∅
  allowHttp : Bool := false

/-- An empty secret is none. -/
theorem filter_ne_empty (secret : Option String) :
    (secret.filter fun s => s ≠ "") ≠ some "" := by
  cases secret with
  | none => simp
  | some s => by_cases h : s = "" <;> simp [Option.filter, h]

def TokenClientBuilder.build (b : TokenClientBuilder) : Except IdentityError TokenClient :=
  let clientId := b.clientId.getD ""
  if h : clientId = "" then .error (.configuration "client_id is required")
  else
    let tokenEndpoint := b.tokenEndpoint.getD ""
    if tokenEndpoint = "" then .error (.configuration "token_endpoint is required")
    else
      .ok
        { tokenEndpoint := tokenEndpoint
          clientId := clientId
          clientSecret := b.clientSecret.filter fun s => s ≠ ""
          authMethod := b.authMethod
          extraParams := b.extraParams
          allowHttp := b.allowHttp
          clientId_ne := h
          clientSecret_ne := filter_ne_empty b.clientSecret }

/-- `RESERVED_PARAMS` of every grant. -/
def reservedParams : List String :=
  ["grant_type", "client_id", "client_secret", "code", "redirect_uri", "code_verifier", "scope",
    "subject_token", "subject_token_type", "actor_token", "actor_token_type"]

/-- `EXCHANGE_RESERVED_PARAMS`. -/
def exchangeReservedParams : List String := ["requested_token_type", "resource", "audience"]

def tokenSkips (grantReserved : List String) (form : Form) (key : String) : Bool :=
  let normalized := normalizeParamKey key
  normalized ∈ reservedParams || normalized ∈ grantReserved || inForm form key

namespace TokenClient

/-- The credentials in the body, and the Basic header. -/
def authenticate (client : TokenClient) : Form × Option (List Char) :=
  match client.clientSecret with
  | none => (if client.clientId ≠ "" then [("client_id", client.clientId)] else [], none)
  | some secret =>
      match client.authMethod with
      | .clientSecretPost => ([("client_id", client.clientId), ("client_secret", secret)], none)
      | .clientSecretBasic => ([], some (basicAuthHeader client.clientId secret))

/-- `do_request`, up to the request it sends. -/
def doRequest (lib : Library) (client : TokenClient) (form : Form) (grantReserved : List String)
    (visit : Visit client.extraParams) : Except IdentityError Request :=
  if RustHttp.schemeOk client.allowHttp client.tokenEndpoint.toList = false then
    .error (.configuration ("token endpoint " ++ lib.debug client.tokenEndpoint ++
      " must use https (enable allow_http for development)"))
  else
    .ok
      { endpoint := client.tokenEndpoint
        form := addExtras (tokenSkips grantReserved) (form ++ client.authenticate.1) (visited visit)
        authorization := client.authenticate.2 }

/-- The form of `client_credentials`. -/
def credentialsForm (scope : Option String) : Form :=
  ("grant_type", "client_credentials") :: scope.toList.map fun s => ("scope", s)

def clientCredentials (lib : Library) (client : TokenClient) (scope : Option String)
    (visit : Visit client.extraParams) : Except IdentityError Request :=
  client.doRequest lib (credentialsForm scope) [] visit

end TokenClient

/-- `valid_code_verifier`; no byte of a character beyond ASCII passes. -/
def validCodeVerifier (verifier : String) : Bool :=
  !(verifier.utf8ByteSize < 43 || 128 < verifier.utf8ByteSize) &&
    verifier.toList.all fun c => Url.isAsciiAlpha c || Url.isDigit c || c ∈ ['-', '.', '_', '~']

namespace TokenClient

/-- The form of `exchange_code`. -/
def codeForm (code redirectUri : String) (codeVerifier : Option String) : Form :=
  [("grant_type", "authorization_code"), ("code", code)] ++
    (if redirectUri ≠ "" then [("redirect_uri", redirectUri)] else []) ++
    codeVerifier.toList.map fun verifier => ("code_verifier", verifier)

def exchangeCode (lib : Library) (client : TokenClient) (code redirectUri : String)
    (codeVerifier : Option String) (visit : Visit client.extraParams) : Except IdentityError Request :=
  if codeVerifier.any fun verifier => !validCodeVerifier verifier then
    .error (.validation "code_verifier must be 43-128 unreserved characters")
  else client.doRequest lib (codeForm code redirectUri codeVerifier) [] visit

end TokenClient

structure TokenExchangeRequest where
  subjectToken : String
  subjectTokenType : String
  actorToken : Option String := none
  actorTokenType : Option String := none
  requestedTokenType : Option String := none
  scope : Option String := none
  resources : List String := []
  audiences : List String := []

def TokenExchangeRequest.validate (r : TokenExchangeRequest) : Except IdentityError Unit :=
  if r.subjectToken = "" then .error (.validation "token exchange: subject_token is required")
  else if r.subjectTokenType = "" then
    .error (.validation "token exchange: subject_token_type is required")
  else if r.actorToken = some "" then
    .error (.validation "token exchange: actor_token must not be empty when provided")
  else if r.actorToken.isSome ∧ ¬(r.actorTokenType.any fun t => t ≠ "") then
    .error (.validation ("token exchange: actor_token_type is required and must not be empty " ++
      "when actor_token is set"))
  else .ok ()

/-- The form of `token_exchange`. -/
def TokenExchangeRequest.form (r : TokenExchangeRequest) : Form :=
  [("grant_type", "urn:ietf:params:oauth:grant-type:token-exchange"),
    ("subject_token", r.subjectToken), ("subject_token_type", r.subjectTokenType)] ++
    (match r.actorToken, r.actorTokenType with
      | some token, some tokenType => [("actor_token", token), ("actor_token_type", tokenType)]
      | _, _ => []) ++
    ((r.requestedTokenType.filter fun t => t ≠ "").toList.map fun t => ("requested_token_type", t)) ++
    ((r.scope.filter fun s => s ≠ "").toList.map fun s => ("scope", s)) ++
    ((r.resources.filter fun s => s ≠ "").map fun s => ("resource", s)) ++
    (r.audiences.filter fun s => s ≠ "").map fun s => ("audience", s)

/-- The keys of extra parameters that the exchange owns, sorted. -/
def colliding {extras : Dict String String} (visit : Visit extras) : List String :=
  (((visited visit).map Prod.fst).filter fun key =>
    normalizeParamKey key ∈ exchangeReservedParams).mergeSort (· ≤ ·)

def TokenClient.tokenExchange (lib : Library) (client : TokenClient) (request : TokenExchangeRequest)
    (visit : Visit client.extraParams) : Except IdentityError Request :=
  match request.validate with
  | .error e => .error e
  | .ok () =>
      match (colliding visit).head? with
      | some key =>
          .error (.validation ("token exchange: extra param " ++ lib.debug key ++
            " names a parameter this grant owns; set it with TokenExchangeRequest::resource, " ++
            "::audience, or ::requested_token_type instead"))
      | none => client.doRequest lib request.form exchangeReservedParams visit

/-- `IntrospectionClient` and `RevocationClient`, with what their builders ensure. -/
structure ProtectedClient where
  endpoint : String
  clientId : String
  clientSecret : String
  authMethod : ClientAuthMethod
  extraParams : Dict String String
  allowHttp : Bool
  clientId_ne : clientId ≠ ""
  clientSecret_ne : clientSecret ≠ ""

structure ProtectedClientBuilder where
  endpoint : Option String := none
  clientId : Option String := none
  clientSecret : Option String := none
  authMethod : ClientAuthMethod := .clientSecretBasic
  extraParams : Dict String String := ∅
  allowHttp : Bool := false

/-- The two builders, with their texts, and what becomes of the endpoint. -/
def ProtectedClientBuilder.buildWith (missingSecret missingEndpoint : String) (canonical : String → String)
    (b : ProtectedClientBuilder) : Except IdentityError ProtectedClient :=
  let clientId := b.clientId.getD ""
  if hid : clientId = "" then .error (.configuration "client_id is required")
  else
    let clientSecret := b.clientSecret.getD ""
    if hsecret : clientSecret = "" then .error (.configuration missingSecret)
    else
      let endpoint := b.endpoint.getD ""
      if endpoint = "" then .error (.configuration missingEndpoint)
      else
        .ok
          { endpoint := canonical endpoint
            clientId := clientId
            clientSecret := clientSecret
            authMethod := b.authMethod
            extraParams := b.extraParams
            allowHttp := b.allowHttp
            clientId_ne := hid
            clientSecret_ne := hsecret }

/-- `IntrospectionClientBuilder::build`. -/
def buildIntrospection (b : ProtectedClientBuilder) : Except IdentityError ProtectedClient :=
  b.buildWith ("client_secret is required: the introspection endpoint requires client authentication " ++
    "with both client_id and client_secret (RFC 7662 §2.1)") "introspection_endpoint is required" id

/-- `RevocationClientBuilder::build`: user name and password go, and what cannot be parsed stays. -/
def buildRevocation (lib : Library) (b : ProtectedClientBuilder) : Except IdentityError ProtectedClient :=
  b.buildWith ("client_secret is required: the revocation endpoint requires client authentication " ++
    "with both client_id and client_secret (RFC 7009 §2.1)") "revocation_endpoint is required"
    fun endpoint => (lib.withoutUserinfo endpoint).getD endpoint

/-- `RESERVED_PARAMS` of both clients. -/
def tokenParams : List String := ["token", "token_type_hint", "client_id", "client_secret"]

namespace ProtectedClient

def authenticate (client : ProtectedClient) : Form × Option (List Char) :=
  match client.authMethod with
  | .clientSecretPost =>
      ([("client_id", client.clientId), ("client_secret", client.clientSecret)], none)
  | .clientSecretBasic => ([], some (basicAuthHeader client.clientId client.clientSecret))

/-- The token and its hint; an empty hint is none. -/
def tokenForm (token : String) (tokenTypeHint : Option String) : Form :=
  ("token", token) :: (tokenTypeHint.filter fun hint => hint ≠ "").toList.map fun hint =>
    ("token_type_hint", hint)

/-- What `introspect` and `revoke` send, after the checks. -/
def send (client : ProtectedClient) (skips : Form → String → Bool) (token : String)
    (tokenTypeHint : Option String) (visit : Visit client.extraParams) : Request :=
  { endpoint := client.endpoint
    form := addExtras skips (tokenForm token tokenTypeHint ++ client.authenticate.1) (visited visit)
    authorization := client.authenticate.2 }

/-- The test of the endpoint, with the word its error uses. -/
def checkScheme (lib : Library) (client : ProtectedClient) (what : String) : Except IdentityError Unit :=
  if RustHttp.schemeOk client.allowHttp client.endpoint.toList = false then
    .error (.configuration (what ++ " endpoint " ++ lib.debug client.endpoint ++
      " must use https (enable allow_http for development)"))
  else .ok ()

def introspectionSkips (form : Form) (key : String) : Bool := key ∈ tokenParams || inForm form key

def introspect (lib : Library) (client : ProtectedClient) (token : String) (tokenTypeHint : Option String)
    (visit : Visit client.extraParams) : Except IdentityError Request :=
  (client.checkScheme lib "introspection").map fun _ =>
    client.send introspectionSkips token tokenTypeHint visit

/-- Here a name is compared with those in the form whatever the case. -/
def revocationSkips (form : Form) (key : String) : Bool :=
  let normalised := normalizeParamKey key
  normalised ∈ tokenParams || form.any fun field => eqIgnoreAsciiCase field.1 (trim normalised)

def revoke (lib : Library) (client : ProtectedClient) (token : String) (tokenTypeHint : Option String)
    (visit : Visit client.extraParams) : Except IdentityError Request :=
  if token = "" then
    .error (.configuration ("token is required: refusing to send an empty revocation request, which a " ++
      "server would answer 200 and the caller would read as a successful revocation"))
  else
    (client.checkScheme lib "revocation").map fun _ =>
      client.send revocationSkips token tokenTypeHint visit

end ProtectedClient

/-- A call of one of the clients. -/
inductive Call
  | clientCredentials (client : TokenClient) (scope : Option String)
  | exchangeCode (client : TokenClient) (code redirectUri : String) (codeVerifier : Option String)
  | tokenExchange (client : TokenClient) (request : TokenExchangeRequest)
  | introspect (client : ProtectedClient) (token : String) (tokenTypeHint : Option String)
  | revoke (client : ProtectedClient) (token : String) (tokenTypeHint : Option String)

namespace Call

def extraParams : Call → Dict String String
  | .clientCredentials client _ | .exchangeCode client _ _ _ | .tokenExchange client _ =>
      client.extraParams
  | .introspect client _ _ | .revoke client _ _ => client.extraParams

def request (lib : Library) : (call : Call) → Visit call.extraParams → Except IdentityError Request
  | .clientCredentials client scope, visit => client.clientCredentials lib scope visit
  | .exchangeCode client code redirectUri codeVerifier, visit =>
      client.exchangeCode lib code redirectUri codeVerifier visit
  | .tokenExchange client request, visit => client.tokenExchange lib request visit
  | .introspect client token hint, visit => client.introspect lib token hint visit
  | .revoke client token hint, visit => client.revoke lib token hint visit

end Call

end IdentityModel.RustForms
