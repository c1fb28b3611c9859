import IdentityModel.ClaimsScopes
import IdentityModel.PyExceptions

/-!
# The resource server's entry points

`fastapi_identity_model/middleware.py` for HTTP requests and `ws.py` for WebSocket handshakes. Both
take a bearer token from a request, have it validated, refuse ID tokens, and turn what the
validation raises into a refusal: the one a response, the other a close of the handshake.
-/
namespace IdentityModel.Py.Web

/-- An exception, by the classes that the handlers tell apart: the library's (is it a
`NetworkException`?), PyJWT's `InvalidTokenError`, a `WebSocketException`, another `Exception`, and
what is no `Exception`. -/
inductive Exc
  | library (isNetwork : Bool) (message : String)
  | invalidToken (message : String)
  | webSocket (code : ℕ) (reason : String)
  | other (message : String)
  | base (message : String)
  deriving DecidableEq, Repr

/-- `_ID_TOKEN_ONLY_CLAIMS`. -/
def idTokenOnlyClaims : List String := ["nonce", "at_hash", "c_hash"]

/-- `_DEFAULT_ACCESS_TOKEN_MARKER_CLAIMS`. -/
def defaultAccessTokenMarkerClaims : List String := ["scope", "scp"]

/-- `c in claims`. -/
def isClaim (claims : Claims) (name : String) : Bool := (claims.lookup name).isSome

def idTokenDetail : String := "ID token cannot be used as an access token"

def noMarkerDetail : String :=
  "Access token required; presented token lacks an access-token marker claim"

/-- `evaluate_token_type`; `none` is acceptance. -/
def evaluateTokenType (claims : Claims) (requireAccessTokenMarker : Bool)
    (accessTokenMarkerClaims : List String) : Option String :=
  if idTokenOnlyClaims.any (isClaim claims) then some idTokenDetail
  else if requireAccessTokenMarker && !accessTokenMarkerClaims.any (isClaim claims) then
    some noMarkerDetail
  else none

/-- `Claim`, as far as `to_principal` sets it. -/
structure Claim where
  claimType : String
  value : String
  issuer : String
  deriving DecidableEq, Repr

/-- `ClaimsPrincipal` of one identity. -/
structure ClaimsPrincipal where
  claims : List Claim
  authenticationType : String
  deriving DecidableEq, Repr

/-- `Claim.__init__`: an empty issuer is replaced. -/
def newClaim (claimType value issuer : String) : Claim :=
  ⟨claimType, value, if issuer = "" then "LOCAL AUTHORITY" else issuer⟩

/-- `to_principal`; `str` is Python's. -/
def toPrincipal (str : Json → String) (claims : Claims) : ClaimsPrincipal :=
  let issuer := ((claims.lookup "iss").map str).getD "LOCAL AUTHORITY"
  { claims := claims.entries.reverse.flatMap fun c =>
      match c.2 with
      | .arr values => values.map fun v => newClaim c.1 (str v) issuer
      | v => [newClaim c.1 (str v) issuer]
    authenticationType := "Bearer" }

/-- What the two entry points are set up with, once their constructors accepted it. -/
structure Settings where
  discoveryUrl : String
  audience : String
  customClaimsValidator : Option ClaimsValidator := none
  requireAccessTokenMarker : Bool := false
  accessTokenMarkerClaims : List String := defaultAccessTokenMarkerClaims
  someAudience : audience ≠ ""
  someMarker : requireAccessTokenMarker = true → accessTokenMarkerClaims ≠ []

structure Middleware extends Settings where
  excludedPaths : List String

section Constructors

variable (discoveryUrl : String) (audience : Option String)
  (customClaimsValidator : Option ClaimsValidator) (requireAccessTokenMarker : Bool)
  (accessTokenMarkerClaims : List String)

/-- The checks of both constructors; `noAudience` and `noMarker` are the texts of their
`ValueError`s. -/
def newSettings (noAudience noMarker : String) : Except String Settings :=
  if h : (audience.getD "") = "" then .error noAudience
  else if h' : requireAccessTokenMarker = true ∧ accessTokenMarkerClaims = [] then .error noMarker
  else
    .ok ⟨discoveryUrl, audience.getD "", customClaimsValidator, requireAccessTokenMarker,
      accessTokenMarkerClaims, h, fun hr hm => h' ⟨hr, hm⟩⟩

/-- `TokenValidationMiddleware.__init__`. -/
def newMiddleware (excludedPaths : Option (List String)) : Except String Middleware :=
  (newSettings discoveryUrl audience customClaimsValidator requireAccessTokenMarker
    accessTokenMarkerClaims
    ("TokenValidationMiddleware requires a non-empty 'audience'; a None/empty audience skips aud " ++
      "enforcement for aud-less tokens.")
    ("require_access_token_marker=True needs a non-empty access_token_marker_claims; an empty set " ++
      "rejects every token.")).map fun s =>
    ⟨s, excludedPaths.getD ["/docs", "/docs/oauth2-redirect", "/openapi.json", "/health"]⟩

/-- `build_ws_authenticator`. -/
def buildWsAuthenticator : Except String Settings :=
  newSettings discoveryUrl audience customClaimsValidator requireAccessTokenMarker
    accessTokenMarkerClaims
    ("build_ws_authenticator requires a non-empty 'audience'; a None/empty audience skips aud " ++
      "enforcement for aud-less tokens.")
    ("require_access_token_marker=True needs a non-empty access_token_marker_claims; an empty set " ++
      "rejects every token.")

/-- The constructors accept the same settings. -/
theorem newMiddleware_settings (excludedPaths : Option (List String)) (s : Settings) :
    buildWsAuthenticator discoveryUrl audience customClaimsValidator requireAccessTokenMarker
        accessTokenMarkerClaims = .ok s ↔
      ∃ m, newMiddleware discoveryUrl audience customClaimsValidator requireAccessTokenMarker
        accessTokenMarkerClaims excludedPaths = .ok m ∧ m.toSettings = s := by
  unfold buildWsAuthenticator newMiddleware newSettings
  split
  · constructor
    · intro h
      cases h
    · rintro ⟨m, h, -⟩
      cases h
  · split
    · constructor
      · intro h
        cases h
      · rintro ⟨m, h, -⟩
        cases h
    · constructor
      · intro h
        cases h
        exact ⟨_, rfl, rfl⟩
      · rintro ⟨m, h, rfl⟩
        cases h
        rfl

end Constructors

/-- The settings both entry points validate a token with. -/
def Settings.tokenValidationConfig (s : Settings) : TokenValidationConfig :=
  { performDisco := true, audience := some s.audience, claimsValidator := s.customClaimsValidator }

/-- What `validate_token` does: it returns claims or raises. -/
abbrev ValidateToken := String → TokenValidationConfig → Option String → Except Exc Claims

/-- What an accepted request carries on: `request.state` and `websocket.state`. -/
structure Attached where
  user : ClaimsPrincipal
  claims : Claims
  token : String

structure JsonResponse where
  status : ℕ
  detail : String
  /-- The header `WWW-Authenticate`. -/
  challenge : Option String := none
  deriving DecidableEq, Repr

/-- `_unauthorized`. -/
def unauthorized (detail : String) : JsonResponse := ⟨401, detail, some "Bearer"⟩

/-- `_GENERIC_401_DETAIL`. -/
def generic401Detail : String := "Invalid or unauthorized token"

def unavailable : JsonResponse := ⟨503, "Authentication temporarily unavailable", none⟩

def internalError : JsonResponse := ⟨500, "Internal server error during authentication", none⟩

/-- A header as a bearer token: two words, the first of them `bearer` in any case. No rune outside
ASCII lowers to its letters. -/
def bearerToken (header : String) : Option String :=
  match Words.words Scopes.Py.isSpace header with
  | [scheme, token] =>
      if scheme.toList.map toAsciiLower = "bearer".toList then some token else none
  | _ => none

/-- `_extract_bearer_token`. -/
def extractBearerToken (authorization : Option String) : Except JsonResponse String :=
  match truthy authorization with
  | none => .error (unauthorized "Missing Authorization header")
  | some header =>
      match bearerToken header with
      | none =>
          .error (unauthorized "Invalid Authorization header format. Expected: Bearer <token>")
      | some token => .ok token

/-- The response to an exception of the validation; `none` where it is not caught. -/
def failureResponse : Exc → Option JsonResponse
  | .library isNetwork message =>
      if isNetwork || isUpstreamFetchFailure message then some unavailable
      else some (unauthorized generic401Detail)
  | .invalidToken _ => some (unauthorized generic401Detail)
  | .base _ => none
  | _ => some internalError

/-- How a request leaves the middleware: passed on, with the state of an authenticated one, answered,
or with an exception. -/
inductive Dispatched
  | passed (state : Option Attached)
  | responded (response : JsonResponse)
  | raised (e : Exc)

section Entries

variable (str : Json → String) (validateToken : ValidateToken)

/-- `_authenticate`. -/
def Settings.authenticate (s : Settings) (token : String) : Dispatched :=
  match validateToken token s.tokenValidationConfig (some s.discoveryUrl) with
  | .error e =>
      match failureResponse e with
      | some response => .responded response
      | none => .raised e
  | .ok claims =>
      match evaluateTokenType claims s.requireAccessTokenMarker s.accessTokenMarkerClaims with
      | some wrongType => .responded (unauthorized wrongType)
      | none => .passed (some ⟨toPrincipal str claims, claims, token⟩)

structure HttpRequest where
  method : String
  path : String
  authorization : Option String

/-- `rstrip("/")`. -/
def stripSlashes (path : String) : String :=
  String.ofList (path.toList.reverse.dropWhile (· = '/')).reverse

/-- An entry excludes a path: exactly, or with its subtree where it ends in a star. -/
def excludes (entry path : String) : Bool :=
  if ['*', '/'].isPrefixOf entry.toList.reverse then
    let stem := stripSlashes (String.ofList (entry.toList.take (entry.toList.length - 2)))
    stem ≠ "" && (path = stem || (stem ++ "/").toList.isPrefixOf path.toList)
  else path = entry

/-- `_is_excluded`. -/
def Middleware.isExcluded (m : Middleware) (path : String) : Bool :=
  m.excludedPaths.any fun entry => excludes entry path

/-- The request has to be authenticated: it is no preflight, and its path is not excluded. -/
def Middleware.guards (m : Middleware) (request : HttpRequest) : Bool :=
  !(request.method = "OPTIONS" || m.isExcluded request.path)

/-- `dispatch`. -/
def Middleware.dispatch (m : Middleware) (request : HttpRequest) : Dispatched :=
  if m.guards request then
    match extractBearerToken request.authorization with
    | .error response => .responded response
    | .ok token => m.authenticate str validateToken token
  else .passed none

def wsPolicyViolation : ℕ := 1008
def wsTryAgainLater : ℕ := 1013
def wsInternalError : ℕ := 1011

/-- What a handshake is refused with: a `WebSocketException` of the authenticator, or an exception
that passes through it. -/
inductive Refused
  | close (code : ℕ) (reason : String)
  | passedOn (e : Exc)
  deriving DecidableEq, Repr

/-- `_GENERIC_REJECT_REASON`. -/
def genericRejectReason : String := "Invalid or unauthorized token"

/-- `_extract_ws_token`; `query` is the value of the query parameter. -/
def extractWsToken (header query : Option String) : Option String :=
  match header with
  | some header => bearerToken header
  | none => truthy query

/-- The refusal after an exception of the validation. -/
def failureClose : Exc → Refused
  | .library isNetwork message =>
      if isNetwork || isUpstreamFetchFailure message then
        .close wsTryAgainLater "Authentication temporarily unavailable"
      else .close wsPolicyViolation genericRejectReason
  | .invalidToken _ => .close wsPolicyViolation genericRejectReason
  | .webSocket code reason => .passedOn (.webSocket code reason)
  | .base message => .passedOn (.base message)
  | .other _ => .close wsInternalError "Internal error during authentication"

/-- `authenticate_websocket`. -/
def Settings.authenticateWebsocket (s : Settings) (header query : Option String) :
    Except Refused Attached :=
  match truthy (extractWsToken header query) with
  | none => .error (.close wsPolicyViolation "Missing or malformed bearer token")
  | some token =>
      match validateToken token s.tokenValidationConfig (some s.discoveryUrl) with
      | .error e => .error (failureClose e)
      | .ok claims =>
          match evaluateTokenType claims s.requireAccessTokenMarker s.accessTokenMarkerClaims with
          | some _ => .error (.close wsPolicyViolation genericRejectReason)
          | none => .ok ⟨toPrincipal str claims, claims, token⟩

end Entries

section Agreement

theorem bearerToken_ne_empty {header token : String} (h : bearerToken header = some token) :
    token ≠ "" := by
  unfold bearerToken at h
  split at h
  · rename_i scheme word hwords
    split at h
    · cases h
      have hmem : token ∈ Words.words Scopes.Py.isSpace header := by
        rw [hwords]
        simp
      intro hempty
      exact (Words.mem_words.mp hmem).2 (by simp [hempty])
    · cases h
  · cases h

/-- Both read the same token out of a header, and none out of an absent or an empty one. -/
theorem extractWsToken_eq (authorization : Option String) :
    truthy (extractWsToken authorization none) = (extractBearerToken authorization).toOption := by
  cases authorization with
  | none => rfl
  | some header =>
      by_cases hempty : header = ""
      · subst hempty
        rfl
      · have htruthy : truthy (some header) = some header := by simp [truthy, hempty]
        simp only [extractWsToken, extractBearerToken, htruthy]
        cases htoken : bearerToken header with
        | none => rfl
        | some token => simp [truthy, bearerToken_ne_empty htoken, Except.toOption]

theorem extractBearerToken_error {authorization : Option String} {response : JsonResponse}
    (h : extractBearerToken authorization = .error response) :
    ∃ detail, response = unauthorized detail := by
  unfold extractBearerToken at h
  split at h
  · cases h
    exact ⟨_, rfl⟩
  · split at h
    · cases h
      exact ⟨_, rfl⟩
    · cases h

/-- What a refused handshake is closed with, for each way an HTTP request is turned down. -/
inductive Alike : Dispatched → Except Refused Attached → Prop
  | accepted (state : Attached) : Alike (.passed (some state)) (.ok state)
  | unauthenticated (detail reason : String) :
      Alike (.responded (unauthorized detail)) (.error (.close wsPolicyViolation reason))
  | unavailable : Alike (.responded unavailable)
      (.error (.close wsTryAgainLater "Authentication temporarily unavailable"))
  | failed : Alike (.responded internalError)
      (.error (.close wsInternalError "Internal error during authentication"))
  | passedOn (code : ℕ) (reason : String) :
      Alike (.responded internalError) (.error (.passedOn (.webSocket code reason)))
  | raised (message : String) :
      Alike (.raised (.base message)) (.error (.passedOn (.base message)))

/-- Two ways out that are alike accept the same state and report the same kind of failure. -/
theorem Alike.agree {http : Dispatched} {ws : Except Refused Attached} (h : Alike http ws) :
    (∀ state, http = .passed (some state) ↔ ws = .ok state) ∧ http ≠ .passed none ∧
    (http = .responded Web.unavailable ↔
      ws = .error (.close wsTryAgainLater "Authentication temporarily unavailable")) ∧
    ((∃ detail, http = .responded (unauthorized detail)) ↔
      ∃ reason, ws = .error (.close wsPolicyViolation reason)) := by
  cases h with
  | accepted state => simp
  | unauthenticated detail reason =>
      simp [unauthorized, Web.unavailable, wsPolicyViolation, wsTryAgainLater]
  | unavailable => simp [unauthorized, Web.unavailable, wsPolicyViolation, wsTryAgainLater]
  | failed =>
      simp [unauthorized, Web.unavailable, internalError, wsPolicyViolation, wsTryAgainLater,
        wsInternalError]
  | passedOn code reason => simp [unauthorized, Web.unavailable, internalError]
  | raised message => simp

theorem failure_alike (e : Exc) :
    Alike ((failureResponse e).elim (.raised e) .responded) (.error (failureClose e)) := by
  cases e with
  | library isNetwork message =>
      simp only [failureResponse, failureClose]
      split
      · exact .unavailable
      · exact .unauthenticated _ _
  | invalidToken message => exact .unauthenticated _ _
  | webSocket code reason => exact .passedOn code reason
  | other message => exact .failed
  | base message => exact .raised message

variable {str : Json → String} {validateToken : ValidateToken}

theorem authenticate_alike (s : Settings) (token : String) {header : Option String}
    (htoken : truthy (extractWsToken header none) = some token) :
    Alike (s.authenticate str validateToken token)
      (s.authenticateWebsocket str validateToken header none) := by
  simp only [Settings.authenticate, Settings.authenticateWebsocket, htoken]
  cases validateToken token s.tokenValidationConfig (some s.discoveryUrl) with
  | error e =>
      have halike := failure_alike e
      simp only
      cases hresponse : failureResponse e with
      | none =>
          rw [hresponse] at halike
          exact halike
      | some response =>
          rw [hresponse] at halike
          exact halike
  | ok claims =>
      simp only
      cases evaluateTokenType claims s.requireAccessTokenMarker s.accessTokenMarkerClaims with
      | none => exact .accepted _
      | some wrongType => exact .unauthenticated wrongType _

theorem dispatch_alike (m : Middleware) {request : HttpRequest} (hguards : m.guards request = true) :
    Alike (m.dispatch str validateToken request)
      (m.toSettings.authenticateWebsocket str validateToken request.authorization none) := by
  have hextract := extractWsToken_eq request.authorization
  simp only [Middleware.dispatch, hguards, if_true]
  cases htoken : extractBearerToken request.authorization with
  | ok token =>
      rw [htoken] at hextract
      exact authenticate_alike m.toSettings token hextract
  | error response =>
      rw [htoken] at hextract
      have hnone : truthy (extractWsToken request.authorization none) = none := hextract
      simp only [Settings.authenticateWebsocket, hnone]
      obtain ⟨detail, rfl⟩ := extractBearerToken_error htoken
      exact .unauthenticated detail _

end Agreement

/-- The same header, settings and validation: the handshake is accepted if and only if the request
is passed on, with the same principal, claims and token, and a failure is reported as an outage by
both or by neither, and as a missing authentication by both or by neither. -/
theorem entry_points_agree (m : Middleware) (str : Json → String) (validateToken : ValidateToken)
    (request : HttpRequest) (hguards : m.guards request = true) :
    let http := m.dispatch str validateToken request
    let ws := m.toSettings.authenticateWebsocket str validateToken request.authorization none
    (∀ state, http = .passed (some state) ↔ ws = .ok state) ∧ http ≠ .passed none ∧
    (http = .responded unavailable ↔
      ws = .error (.close wsTryAgainLater "Authentication temporarily unavailable")) ∧
    ((∃ detail, http = .responded (unauthorized detail)) ↔
      ∃ reason, ws = .error (.close wsPolicyViolation reason)) := by
  intro http ws
  exact (dispatch_alike m hguards).agree

/-- A resource server with two excluded paths. -/
def sampleMiddleware : Middleware where
  discoveryUrl := "https://idp"
  audience := "api"
  someAudience := by decide
  someMarker := fun h => by cases h
  excludedPaths := ["/health", "/docs/*"]

theorem entry_points_agree_sample :
    let validateToken : ValidateToken := fun _ _ _ => .ok ∅
    ∃ state, sampleMiddleware.authenticateWebsocket (fun _ => "") validateToken
      (some "bearer  abc") none = .ok state ∧ state.token = "abc" := by
  intro validateToken
  refine ⟨⟨toPrincipal (fun _ => "") ∅, ∅, "abc"⟩, ?_, rfl⟩
  exact ((entry_points_agree sampleMiddleware (fun _ => "") validateToken
    ⟨"GET", "/docsearch", some "bearer  abc"⟩ (by decide)).1 _).mp rfl

/-- Whatever its method, a request on a path that is not excluded is passed on if and only if a
handshake with its header is accepted. -/
def AcceptAlike : Prop :=
  ∀ (m : Middleware) (str : Json → String) (validateToken : ValidateToken) (request : HttpRequest),
    m.isExcluded request.path = false →
    ((∃ state, m.toSettings.authenticateWebsocket str validateToken request.authorization none =
        .ok state) ↔
      ∃ state, m.dispatch str validateToken request = .passed state)

/-- A CORS preflight is passed on without a token. -/
theorem preflight_passed : ¬ AcceptAlike := by
  intro h
  obtain ⟨state, hstate⟩ := (h sampleMiddleware (fun _ => "") (fun _ _ _ => .ok ∅)
    ⟨"OPTIONS", "/api", none⟩ (by decide)).mpr ⟨none, rfl⟩
  cases hstate

end IdentityModel.Py.Web
