import IdentityModel.Binary64
import IdentityModel.PyPolicy
import IdentityModel.Results

/-!
# Discovery documents in Python

`validate_and_parse_discovery_response` of `core/response_processors.py` with the checks of
`core/validators.py`, and `get_discovery_document` around it. A document is any JSON value:
the checks meet values of the wrong type, which Python turns into a `TypeError` or an
`AttributeError`, and every exception ends in an unsuccessful response.
-/
namespace IdentityModel.Py

open Results Url

/-- What `str` of a decoded value raises: a `ValueError` for an integer of too many digits, a
`RecursionError` for a value nested too deeply. -/
inductive PrintError
  | value (message : String)
  | recursion (message : String)
  deriving DecidableEq, Repr

/-- The platform, and how the interpreter prints values: `str` of a decoded value and of an
IP address, and `repr` of a list of strings. A value that is logged is printed by the handlers
of the log, if they print at all; of what that raises they let only a `RecursionError` out. -/
structure Interpreter where
  platform : Platform
  str : Json → Except PrintError String
  ipStr : Ip → String
  reprList : List String → String
  logged : Json → Except String Unit

/-- The exceptions of the checks. `DiscoveryHTTPSRequiredError` is a
`ConfigurationException`; `DiscoveryMissingFieldsError` and `DiscoveryParseError` are
`DiscoveryException`s. -/
inductive DiscoError
  | configuration (message : String)
  | httpsRequired (message : String)
  | discovery (message : String)
  | missingFields (message : String) (fields : List String)
  | parse (message : String)
  | value (message : String)
  | type_ (message : String)
  | attribute (message : String)
  | recursion (message : String)
  deriving DecidableEq, Repr

def PrintError.toDiscoError : PrintError → DiscoError
  | .value m => .value m
  | .recursion m => .recursion m

/-- A value in an f-string; a string stands for itself. -/
def Interpreter.format (i : Interpreter) : Json → Except DiscoError String
  | .str s => .ok s
  | j => (i.str j).mapError PrintError.toDiscoError

/-- The literal denotes a zero: an `int` without digits other than 0, or a `float` that is
rounded to zero. -/
def isZero (n : Number) : Bool :=
  if n.fraction = [] ∧ n.exponent = none then digitsValue n.whole = 0
  else Float64.ofRat n.value = .finite 0

/-- `bool` of a decoded value. -/
def isTruthy : Json → Bool
  | .null => false
  | .bool b => b
  | .num n => !isZero n
  | .str s => s ≠ ""
  | .arr es => !es.isEmpty
  | .obj ms => !ms.isEmpty

def typeName : Json → String
  | .null => "NoneType"
  | .bool _ => "bool"
  | .num n => if n.fraction = [] ∧ n.exponent = none then "int" else "float"
  | .str _ => "str"
  | .arr _ => "list"
  | .obj _ => "dict"

/-- The members of a `dict` in its order: a repeated name keeps its first place and its last
value. -/
def dictItems (members : List (String × Json)) : List (String × Json) :=
  (members.map Prod.fst).reverse.dedup.reverse.map fun name => (name, Json.get (.obj members) name)

/-- The whitespace of `str.split` and `str.strip`. -/
def isPySpace (c : Char) : Bool :=
  let n := c.toNat
  (9 ≤ n && n ≤ 13) || (0x1C ≤ n && n ≤ 0x20) || n == 0x85 || n == 0xA0 || n == 0x1680 ||
    (0x2000 ≤ n && n ≤ 0x200A) || n == 0x2028 || n == 0x2029 || n == 0x202F || n == 0x205F ||
    n == 0x3000

def pyStrip (s : List Char) : List Char :=
  ((s.dropWhile isPySpace).reverse.dropWhile isPySpace).reverse

/-- `str.split()`. -/
def pySplit (s : String) : List String :=
  ((s.toList.splitOnP isPySpace).filter fun w => w ≠ []).map String.ofList

/-- `urlparse` of a decoded value; what is not a string has no `decode`, unless it is empty. -/
def urlparseValue (i : Interpreter) : Json → Except DiscoError Split
  | .str s =>
      match urlparse i.platform s with
      | .ok parsed => .ok parsed
      | .error e => .error (.value e)
  | j =>
      if isTruthy j then
        .error (.attribute ("'" ++ typeName j ++ "' object has no attribute 'decode'"))
      else .ok ⟨[], [], [], [], []⟩

section Checks

variable (i : Interpreter)

def requiredParams : List String :=
  ["issuer", "response_types_supported", "subject_types_supported",
    "id_token_signing_alg_values_supported"]

def missingParams (missing : List String) : Except DiscoError Unit :=
  if missing = [] then .ok ()
  else
    .error (.missingFields ("Missing required parameters: " ++ ", ".intercalate missing) missing)

/-- `validate_required_parameters`. A document that is no object either lacks all of them or
cannot be indexed. -/
def validateRequiredParameters (doc : Json) : Except DiscoError Unit :=
  match doc with
  | .obj _ =>
      missingParams (requiredParams.filter fun name =>
        match doc.get name with
        | .null => true
        | _ => false)
  | .arr es =>
      if requiredParams.any fun name => es.any fun e => match e with
        | .str s => s = name
        | _ => false
      then .error (.type_ "list indices must be integers or slices, not str")
      else missingParams requiredParams
  | .str s =>
      if requiredParams.any fun name => decide (name.toList <:+: s.toList) then
        .error (.type_ "string indices must be integers, not 'str'")
      else missingParams requiredParams
  | j => .error (.type_ ("argument of type '" ++ typeName j ++ "' is not iterable"))

/-- `validate_issuer`. -/
def validateIssuer (issuer : Json) (requireHttps : Bool) : Except DiscoError Unit :=
  if !isTruthy issuer then .error (.configuration "Issuer parameter is required")
  else
    match urlparseValue i issuer with
    | .error e => .error e
    | .ok parsed =>
        if requireHttps ∧ schemeOf parsed ≠ "https" then
          .error (.httpsRequired "Issuer must use HTTPS scheme")
        else if ¬ requireHttps ∧ schemeOf parsed ≠ "http" ∧ schemeOf parsed ≠ "https" then
          .error (.configuration "Issuer must use HTTP or HTTPS scheme")
        else if parsed.query ≠ [] ∨ parsed.fragment ≠ [] then
          .error (.configuration "Issuer must not contain query or fragment components")
        else if parsed.netloc = [] then
          .error (.configuration "Issuer must be a valid URL with host")
        else .ok ()

/-- `validate_issuer_with_policy`. -/
def validateIssuerWithPolicy (issuer : Json) (policy : Option DiscoveryPolicy) :
    Except DiscoError Unit :=
  match policy with
  | none => validateIssuer i issuer true
  | some p =>
      if p.validateIssuer then
        if p.requireHttps ∧ p.allowHttpOnLoopback then
          match urlparseValue i issuer with
          | .error e => .error e
          | .ok parsed =>
              validateIssuer i issuer
                !(schemeOf parsed = "http" && isLoopback (parsed.hostname i.platform))
        else validateIssuer i issuer p.requireHttps
      else if !isTruthy issuer then .error (.configuration "Issuer parameter is required")
      else .ok ()

/-- What a `for` loop over a decoded value visits. -/
def iterate : Json → Except DiscoError (List Json)
  | .arr es => .ok es
  | .str s => .ok (s.toList.map fun c => .str (String.singleton c))
  | .obj ms => .ok ((dictItems ms).map fun m => .str m.1)
  | j => .error (.type_ ("'" ++ typeName j ++ "' object is not iterable"))

/-- The body of the loop of `_validate_subject_types`. -/
def validateSubjectType (subjectType : Json) : Except DiscoError Unit :=
  match subjectType with
  | .str "public" => .ok ()
  | .str "pairwise" => .ok ()
  | j => do
      let text ← i.format j
      .error (.discovery ("Invalid subject type: " ++ text ++ ". Must be 'public' or 'pairwise'"))

def validResponseTypes : List String :=
  ["code", "id_token", "token", "none", "code id_token", "code token", "id_token token",
    "code id_token token"]

/-- `_validate_response_type`. -/
def validateResponseType (responseType : Json) : Except DiscoError Unit :=
  match responseType with
  | .str s =>
      if s ∈ validResponseTypes then .ok ()
      else if (pySplit s).all fun c => c ∈ ["code", "id_token", "token"] then .ok ()
      else .error (.discovery ("Invalid response type: " ++ s))
  | j => .error (.attribute ("'" ++ typeName j ++ "' object has no attribute 'split'"))

/-- A loop over a member, if there is one. -/
def forMember (doc : Json) (name : String) (check : Json → Except DiscoError Unit) :
    Except DiscoError Unit :=
  if isTruthy (doc.get name) then do
    let elems ← iterate (doc.get name)
    elems.forM check
  else .ok ()

/-- `validate_parameter_values`. -/
def validateParameterValues (doc : Json) : Except DiscoError Unit := do
  forMember doc "subject_types_supported" (validateSubjectType i)
  forMember doc "response_types_supported" validateResponseType

/-- The key set the policy asks for. -/
def validateKeySet (doc : Json) (policy : Option DiscoveryPolicy) : Except DiscoError Unit :=
  if (policy.all DiscoveryPolicy.requireKeySet) && !isTruthy (doc.get "jwks_uri") then
    .error (.missingFields ("Discovery document does not contain a jwks_uri, " ++
      "required by policy (require_key_set=True)") ["jwks_uri"])
  else .ok ()

/-- `validate_https_url`. -/
def validateHttpsUrl (url : Json) (parameterName : String) : Except DiscoError Unit :=
  if !isTruthy url then .ok ()
  else
    match urlparseValue i url with
    | .error e => .error e
    | .ok parsed =>
        if parsed.netloc = [] then
          .error (.configuration (parameterName ++ " must be an absolute URL with host"))
        else if schemeOf parsed ≠ "https" then
          .error (.httpsRequired (parameterName ++ " must use HTTPS scheme"))
        else .ok ()

/-- `validate_https_url_with_policy`. -/
def validateHttpsUrlWithPolicy (url : Json) (parameterName : String)
    (policy : Option DiscoveryPolicy) : Except DiscoError Unit :=
  match policy with
  | none => validateHttpsUrl i url parameterName
  | some p =>
      if !p.validateEndpoints then .ok ()
      else if !isTruthy url then .ok ()
      else
        match urlparseValue i url with
        | .error e => .error e
        | .ok parsed =>
            if parsed.netloc = [] then
              .error (.configuration (parameterName ++ " must be an absolute URL with host"))
            else if schemeOf parsed ≠ "http" ∧ schemeOf parsed ≠ "https" then
              .error (.configuration (parameterName ++ " must use HTTP or HTTPS scheme, got: " ++
                schemeOf parsed))
            else if secureEnough i.platform parsed p then .ok ()
            else
              .error (.httpsRequired (parameterName ++
                " must use HTTPS (policy: require_https=True)"))

/-- `_get_url_authority`. -/
def getUrlAuthority (url : Json) : Except DiscoError String :=
  if !isTruthy url then .ok ""
  else
    match urlparseValue i url with
    | .error e => .error e
    | .ok parsed =>
        .ok (String.ofList (i.platform.lower (parsed.scheme ++ "://".toList ++ parsed.netloc)))

/-- The authorities an endpoint may have, with repetitions. -/
def allowedAuthorities (doc : Json) (policy : DiscoveryPolicy) (discoveryUrl : String) :
    Except DiscoError (List String) := do
  let own : Json :=
    match policy.authority with
    | some authority => if authority ≠ "" then .str authority else doc.get "issuer"
    | none => doc.get "issuer"
  let first ← getUrlAuthority i own
  let fetched ← getUrlAuthority i (.str discoveryUrl)
  let others ← policy.additionalEndpointBaseAddresses.mapM fun a => getUrlAuthority i (.str a)
  return (first :: fetched :: others).filter fun a => a ≠ ""

/-- `_validate_endpoint_authority`. -/
def validateEndpointAuthority (url : Json) (parameterName : String) (doc : Json)
    (policy : DiscoveryPolicy) (discoveryUrl : String) : Except DiscoError Unit := do
  let epAuthority ← getUrlAuthority i url
  let allowed ← allowedAuthorities i doc policy discoveryUrl
  if allowed = [] then
    .error (.discovery ("Cannot validate " ++ parameterName ++ " authority: no authority " ++
      "constraint available (issuer is empty and no policy.authority or " ++
      "additional_endpoint_base_addresses set)"))
  else if epAuthority ∉ allowed then
    .error (.discovery (parameterName ++ " authority '" ++ epAuthority ++
      "' does not match expected authorities: " ++
      i.reprList (allowed.dedup.mergeSort fun a b => a ≤ b) ++
      ". If this is a legitimate endpoint on a different host (RFC 8414 / RFC 9126 permit this)," ++
      " add its base address to DiscoveryPolicy.additional_endpoint_base_addresses."))
  else .ok ()

def endpointNames : List String :=
  ["jwks_uri", "authorization_endpoint", "token_endpoint", "userinfo_endpoint",
    "registration_endpoint", "introspection_endpoint", "end_session_endpoint",
    "pushed_authorization_request_endpoint"]

/-- The body of the loop over the endpoints. -/
def validateEndpoint (doc : Json) (policy : Option DiscoveryPolicy) (discoveryUrl : String)
    (name : String) : Except DiscoError Unit := do
  validateHttpsUrlWithPolicy i (doc.get name) name policy
  if isTruthy (doc.get name) && (policy.getD {}).validateEndpoints then
    validateEndpointAuthority i (doc.get name) name doc (policy.getD {}) discoveryUrl
  else .ok ()

/-- `_parse_ip_literal`. -/
def parseIpLiteral (host : List Char) : Except DiscoError (Option Ip) :=
  match ipAddress host with
  | some ip => .ok (some ip)
  | none =>
      if Char.ofNat 0 ∈ host then .error (.value "embedded null character")
      else .ok ((i.platform.inetAton host).map .v4)

/-- `_reject_internal_ip_host`. -/
def rejectInternalIpHost (url parameterName : String) (policy : DiscoveryPolicy) :
    Except DiscoError Unit := do
  let parsed ← urlparseValue i (.str url)
  let host := parsed.hostname i.platform
  if host = [] then return ()
  match ← parseIpLiteral i host with
  | none => return ()
  | some ip =>
      if ip.isLoopback && policy.allowLoopbackEndpoints then return ()
      if ip.isInternal then
        .error (.discovery (parameterName ++ " host '" ++ String.ofList host ++
          "' is an internal/reserved IP address (" ++ i.ipStr ip ++
          "); refusing to route a request there"))
      else return ()

/-- The body of the loop over `mtls_endpoint_aliases`. -/
def validateAlias (policy : Option DiscoveryPolicy) (item : String × Json) :
    Except DiscoError Unit := do
  validateHttpsUrlWithPolicy i item.2 ("mtls_endpoint_aliases." ++ item.1) policy
  match item.2 with
  | .str url =>
      if url ≠ "" then
        rejectInternalIpHost i url ("mtls_endpoint_aliases." ++ item.1) (policy.getD {})
      else .ok ()
  | _ => .ok ()

def validateAliases (doc : Json) (policy : Option DiscoveryPolicy) : Except DiscoError Unit :=
  match doc.get "mtls_endpoint_aliases" with
  | .obj ms => (dictItems ms).forM (validateAlias i policy)
  | _ => .ok ()

/-- An `httpx.Response`: `url` is missing where no request is set, `body` is what `json()`
makes of it. -/
structure HttpResponse where
  statusCode : ℕ
  contentType : Option String
  cacheControl : Option String
  url : Option String
  content : String
  body : Except String Json

/-- The check of the media type. -/
def validateContentType (r : HttpResponse) : Except DiscoError Unit :=
  let mediaType := i.platform.lower (pyStrip ((r.contentType.getD "").toList.takeWhile (· ≠ ';')))
  if String.ofList mediaType ≠ "application/json" then
    .error (.discovery ("Invalid content type. Expected application/json, got: " ++
      r.contentType.getD "unknown"))
  else .ok ()

def parseBody (r : HttpResponse) : Except DiscoError Json :=
  match r.body with
  | .ok doc => .ok doc
  | .error e => .error (.parse ("Invalid JSON response: " ++ e))

/-- `validate_and_parse_discovery_response`. -/
def validateAndParseDiscoveryResponse (r : HttpResponse) (policy : Option DiscoveryPolicy) :
    Except DiscoError Json := do
  validateContentType i r
  let doc ← parseBody r
  validateRequiredParameters doc
  validateIssuerWithPolicy i (doc.get "issuer") policy
  validateParameterValues i doc
  validateKeySet doc policy
  endpointNames.forM (validateEndpoint i doc policy (r.url.getD ""))
  validateAliases i doc policy
  return doc

/-- `DiscoveryErrorKind`. -/
inductive DiscoveryErrorKind
  | httpsRequired
  | invalidConfiguration
  | missingFields
  | invalidJson
  | invalidDocument
  | networkError
  | unexpectedError
  | unexpectedStatus
  deriving DecidableEq, Repr

/-- `DiscoveryDocumentResponse` with all its members; `null` stands for those a document does
not have. -/
structure DiscoveryResult where
  isSuccessful : Bool
  members : List (String × Json) := []
  cacheControl : Option String := none
  error : Option String := none
  errorKind : Option DiscoveryErrorKind := none
  statusCode : Option ℕ := none
  missing : List String := []

/-- The members `build_discovery_response` takes over. -/
def discoveryMembers : List String :=
  ["issuer", "jwks_uri", "authorization_endpoint", "token_endpoint", "response_types_supported",
    "subject_types_supported", "id_token_signing_alg_values_supported", "userinfo_endpoint",
    "registration_endpoint", "introspection_endpoint", "scopes_supported",
    "response_modes_supported", "grant_types_supported", "acr_values_supported",
    "id_token_encryption_alg_values_supported", "id_token_encryption_enc_values_supported",
    "userinfo_signing_alg_values_supported", "userinfo_encryption_alg_values_supported",
    "userinfo_encryption_enc_values_supported", "request_object_signing_alg_values_supported",
    "request_object_encryption_alg_values_supported",
    "request_object_encryption_enc_values_supported", "token_endpoint_auth_methods_supported",
    "code_challenge_methods_supported", "token_endpoint_auth_signing_alg_values_supported",
    "display_values_supported", "claim_types_supported", "claims_supported",
    "claims_locales_supported", "ui_locales_supported", "claims_parameter_supported",
    "request_parameter_supported", "request_uri_parameter_supported",
    "require_request_uri_registration", "pushed_authorization_request_endpoint",
    "require_pushed_authorization_requests", "authorization_response_iss_parameter_supported",
    "authorization_signing_alg_values_supported", "authorization_encryption_alg_values_supported",
    "authorization_encryption_enc_values_supported", "mtls_endpoint_aliases",
    "tls_client_certificate_bound_access_tokens", "end_session_endpoint",
    "backchannel_logout_supported", "backchannel_logout_session_supported",
    "service_documentation", "op_policy_uri", "op_tos_uri"]

/-- `build_discovery_response`. -/
def buildDiscoveryResponse (doc : Json) (cacheControl : Option String) : DiscoveryResult :=
  { isSuccessful := true, members := discoveryMembers.map fun name => (name, doc.get name)
    cacheControl := cacheControl }

def DiscoError.message : DiscoError → String
  | .configuration m | .httpsRequired m | .discovery m | .missingFields m _ | .parse m | .value m |
    .type_ m | .attribute m | .recursion m => m

/-- `needle in text.lower()`. -/
def mentions (needle text : String) : Bool := decide (needle.toList <:+: i.platform.lower text.toList)

/-- The texts `handle_discovery_error` makes of a `ConfigurationException`. -/
def configurationText (m : String) : String :=
  if mentions i "issuer" m then "Invalid issuer: " ++ m
  else if mentions i "url" m then "Invalid endpoint URL: " ++ m
  else m

/-- The texts it makes of a `DiscoveryException`. -/
def discoveryText (m : String) : String :=
  if mentions i "parameter" m && !mentions i "subject" m then "Missing required parameters: " ++ m
  else if mentions i "subject" m || mentions i "response_type" m then
    "Invalid parameter values: " ++ m
  else m

def failedResult (error : String) (kind : DiscoveryErrorKind) : DiscoveryResult :=
  { isSuccessful := false, error := some error, errorKind := some kind }

def unexpectedResult (message : String) : DiscoveryResult :=
  failedResult ("Unexpected error during discovery document request: " ++ message) .unexpectedError

/-- `handle_discovery_error`. -/
def handleDiscoveryError (e : DiscoError) : DiscoveryResult :=
  match e with
  | .configuration m => failedResult (configurationText i m) .invalidConfiguration
  | .httpsRequired m => failedResult (configurationText i m) .httpsRequired
  | .missingFields m fields =>
      { failedResult (discoveryText i m) .missingFields with missing := fields }
  | .parse m => failedResult (discoveryText i m) .invalidJson
  | .discovery m => failedResult (discoveryText i m) .invalidDocument
  | .value m | .type_ m | .attribute m | .recursion m => unexpectedResult m

/-- `process_discovery_response`. -/
def processHttpResponse (r : HttpResponse) (policy : DiscoveryPolicy) : DiscoveryResult :=
  if r.statusCode < 200 ∨ 300 ≤ r.statusCode then
    { failedResult ("Discovery document request failed with status code: " ++
        toString r.statusCode ++ ". Response Content: " ++ r.content) .unexpectedStatus with
      statusCode := some r.statusCode }
  else
    match validateAndParseDiscoveryResponse i r (some policy) with
    | .ok doc => buildDiscoveryResponse doc r.cacheControl
    | .error e => handleDiscoveryError i e

/-- What the HTTP client comes back with: a response, an `httpx.RequestError`, or another
exception. -/
inductive HttpAnswer
  | response (r : HttpResponse)
  | requestError (message : String)
  | raised (message : String)

/-- The exception of the pre-flight check. -/
def UrlError.toDiscoError : UrlError → DiscoError
  | .configuration m => .configuration m
  | .httpsRequired m => .httpsRequired m
  | .value m => .value m

/-- `get_discovery_document`: no request is made for an address the policy refuses. -/
def getDiscoveryDocument (address : String) (policy : DiscoveryPolicy) (answer : HttpAnswer) :
    DiscoveryResult :=
  match validateUrlScheme i.platform address policy with
  | .error e => handleDiscoveryError i e.toDiscoError
  | .ok () =>
      match answer with
      | .requestError m =>
          failedResult ("Network error during discovery document request: " ++ m) .networkError
      | .raised m => unexpectedResult m
      | .response r => processHttpResponse i r policy

end Checks

section Accepted

variable {i : Interpreter} {r : HttpResponse} {policy : Option DiscoveryPolicy} {doc : Json}

/-- A document that passed all the checks. -/
structure Checked (i : Interpreter) (r : HttpResponse) (policy : Option DiscoveryPolicy)
    (doc : Json) : Prop where
  contentType : validateContentType i r = .ok ()
  body : parseBody r = .ok doc
  required : validateRequiredParameters doc = .ok ()
  issuer : validateIssuerWithPolicy i (doc.get "issuer") policy = .ok ()
  values : validateParameterValues i doc = .ok ()
  keySet : validateKeySet doc policy = .ok ()
  endpoints : ∀ name ∈ endpointNames,
    validateEndpoint i doc policy (r.url.getD "") name = .ok ()
  aliases : validateAliases i doc policy = .ok ()

theorem validateAndParse_checked (h : validateAndParseDiscoveryResponse i r policy = .ok doc) :
    Checked i r policy doc := by
  obtain ⟨_, hcontent, h⟩ := bind_eq_ok.mp h
  obtain ⟨doc', hbody, h⟩ := bind_eq_ok.mp h
  obtain ⟨_, hrequired, h⟩ := bind_eq_ok.mp h
  obtain ⟨_, hissuer, h⟩ := bind_eq_ok.mp h
  obtain ⟨_, hvalues, h⟩ := bind_eq_ok.mp h
  obtain ⟨_, hkeys, h⟩ := bind_eq_ok.mp h
  obtain ⟨_, hendpoints, h⟩ := bind_eq_ok.mp h
  obtain ⟨_, haliases, h⟩ := bind_eq_ok.mp h
  cases h
  exact ⟨hcontent, hbody, hrequired, hissuer, hvalues, hkeys, forM_eq_ok hendpoints, haliases⟩

/-- An accepted document names an issuer. -/
theorem Checked.issuer_truthy (h : Checked i r policy doc) :
    isTruthy (doc.get "issuer") = true := by
  have hstrict {requireHttps : Bool}
      (hv : validateIssuer i (doc.get "issuer") requireHttps = .ok ()) :
      isTruthy (doc.get "issuer") = true := by
    by_contra hfalse
    rw [Bool.not_eq_true] at hfalse
    simp [validateIssuer, hfalse] at hv
  have hissuer := h.issuer
  cases policy with
  | none => exact hstrict hissuer
  | some p =>
      simp only [validateIssuerWithPolicy] at hissuer
      split at hissuer
      · split at hissuer
        · split at hissuer
          · cases hissuer
          · exact hstrict hissuer
        · exact hstrict hissuer
      · split at hissuer
        · cases hissuer
        · rename_i htruthy
          simpa using htruthy

/-- Every endpoint of it passed the scheme check. -/
theorem Checked.endpoint_url (h : Checked i r policy doc) {name : String}
    (hname : name ∈ endpointNames) :
    validateHttpsUrlWithPolicy i (doc.get name) name policy = .ok () := by
  obtain ⟨_, hurl, _⟩ := bind_eq_ok.mp (h.endpoints name hname)
  exact hurl

/-- The endpoint check is at least as strict as the pre-flight check of a request. -/
theorem validateUrlScheme_of_endpoint {p : DiscoveryPolicy} {url parameterName : String}
    (hvalidate : p.validateEndpoints = true) (hurl : url ≠ "")
    (h : validateHttpsUrlWithPolicy i (.str url) parameterName (some p) = .ok ()) :
    validateUrlScheme i.platform url p = .ok () := by
  have htruthy : isTruthy (.str url) = true := by simpa [isTruthy] using hurl
  simp only [validateHttpsUrlWithPolicy, hvalidate, htruthy, urlparseValue, Bool.not_true,
    Bool.false_eq_true, if_false] at h
  simp only [validateUrlScheme, hurl, if_false]
  cases hparse : urlparse i.platform url with
  | error e => simp [hparse] at h
  | ok parsed =>
      simp only [hparse] at h ⊢
      split at h
      · cases h
      · split at h
        · cases h
        · rename_i hscheme
          have hne : schemeOf parsed ≠ "" := by
            intro hempty
            exact hscheme (by simp [hempty])
          split at h
          · rename_i hsecure
            simp [hne, hscheme, hsecure]
          · cases h

theorem handleDiscoveryError_failed (i : Interpreter) (e : DiscoError) :
    (handleDiscoveryError i e).isSuccessful = false := by
  cases e <;> rfl

/-- A successful result comes from a response that passed the checks. -/
theorem getDiscoveryDocument_checked {address : String} {policy : DiscoveryPolicy} {a : HttpAnswer}
    (h : (getDiscoveryDocument i address policy a).isSuccessful = true) :
    ∃ r doc, a = .response r ∧ validateUrlScheme i.platform address policy = .ok () ∧
      200 ≤ r.statusCode ∧ r.statusCode < 300 ∧
      validateAndParseDiscoveryResponse i r (some policy) = .ok doc ∧
      getDiscoveryDocument i address policy a = buildDiscoveryResponse doc r.cacheControl := by
  unfold getDiscoveryDocument at h ⊢
  cases hscheme : validateUrlScheme i.platform address policy with
  | error e => simp [hscheme, handleDiscoveryError_failed] at h
  | ok u =>
      simp only [hscheme] at h ⊢
      cases a with
      | requestError m => cases h
      | raised m => cases h
      | response r =>
          simp only [processHttpResponse] at h ⊢
          split at h
          · cases h
          · rename_i hstatus
            rw [if_neg hstatus]
            push Not at hstatus
            cases hparse : validateAndParseDiscoveryResponse i r (some policy) with
            | error e => simp [hparse, handleDiscoveryError_failed] at h
            | ok doc => exact ⟨r, doc, rfl, trivial, hstatus.1, hstatus.2, hparse, rfl⟩

end Accepted

end IdentityModel.Py
