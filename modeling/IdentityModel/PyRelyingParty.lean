import IdentityModel.PyAuthorize
import IdentityModel.PyUpstream

/-!
# The relying party's login routes

`fastapi_identity_model/rp.py`: `/login`, `/callback` (GET and POST) and `/logout` over the
session of one browser. What the provider answers comes with a request; so does the result of
`validate_token` for the ID token. A route ends in a redirect, in an `HTTPException`, or in
another exception, which the framework turns into a bare 500; whether the session keeps the
changes of a route that ended so is up to the session's store.
-/
namespace IdentityModel.Py

open Url Forms

/-- The number a literal is decoded to. -/
def pyNumber (n : Number) : Float64 :=
  if n.fraction = [] ∧ n.exponent = none then .finite n.value else Float64.ofRat n.value

mutual

/-- `==` of decoded values: `True` is 1, and a repeated name counts with its last value. -/
def pyEq : Json → Json → Bool
  | .null, .null => true
  | .bool a, .bool b => a = b
  | .bool a, .num n | .num n, .bool a => pyNumber n = .finite (if a then 1 else 0)
  | .num m, .num n => pyNumber m = pyNumber n
  | .str s, .str t => s = t
  | .arr xs, .arr ys => pyEqList xs ys
  | .obj ms, .obj ns => (ns.all fun n => ms.any fun m => m.1 = n.1) && pyEqMembers ms ns
  | _, _ => false

def pyEqList : List Json → List Json → Bool
  | [], [] => true
  | x :: xs, y :: ys => pyEq x y && pyEqList xs ys
  | _, _ => false

def pyEqMembers : List (String × Json) → List (String × Json) → Bool
  | [], _ => true
  | m :: ms, ns =>
      (ms.any (fun m' => m'.1 = m.1) ||
        (match Json.member? m.1 (.obj ns) with
        | some v => pyEq m.2 v
        | none => false)) && pyEqMembers ms ns

end

theorem pyEq_str {s : String} {j : Json} (h : pyEq j (.str s) = true) : j = .str s := by
  cases j <;> simp_all [pyEq]

theorem pyEq_null {j : Json} (h : pyEq .null j = true) : j = .null := by
  cases j <;> simp_all [pyEq]

/-- `isinstance(e, PyIdentityModelException)`. -/
def PyError.isLibrary : PyError → Bool
  | .other _ => false
  | _ => true

/-- A member of a discovery response. -/
def DiscoveryResult.get (r : DiscoveryResult) (name : String) : Json :=
  (r.members.lookup name).getD .null

namespace Rp

/-- `OIDCSettings`, as far as the router reads it. -/
structure OIDCSettings where
  discoveryUrl : String
  clientId : String
  redirectUri : String
  clientSecret : Option String := none
  scope : String := "openid profile email"
  postLoginRedirect : String := "/"
  postLogoutRedirect : String := "/"
  discoveryUrl_ne : discoveryUrl ≠ ""
  clientId_ne : clientId ≠ ""

/-- `build_oidc_router`, which refuses settings without a `redirect_uri`. -/
structure Router where
  settings : OIDCSettings
  sessionKey : String := "oidc"
  storeTokens : Bool := false
  fetchUserinfo : Bool := true
  redirectUri_ne : settings.redirectUri ≠ ""

/-- What the routes run on: the interpreter, Unicode's decimal digits, the S256 challenge of a
verifier, Starlette's `URL.replace(query=...)`, and whether the session's store keeps the changes
of a route that ended in a bare 500. -/
structure Host where
  interpreter : Interpreter
  decimal : Char → Option ℕ
  codeChallenge : String → String
  replaceQuery : String → String → String
  savesOnError : Bool

/-- The session of a browser. -/
abbrev Session := Dict String Json

/-- `_flow_key`. -/
def Router.flowKey (rp : Router) : String := rp.sessionKey ++ ".flow"

/-- `AuthorizationCodeTokenRequest`, with the members the router sets. -/
structure AuthorizationCodeTokenRequest where
  address : Json
  clientId : String
  code : String
  redirectUri : String
  codeVerifier : Json
  clientSecret : Option String

/-- `AuthorizationCodeTokenResponse`. -/
structure TokenResponse where
  isSuccessful : Bool
  token : Json := .null
  error : Option String := none

/-- `UserInfoResponse`; a JWT answer has no claims. -/
structure UserInfoResponse where
  isSuccessful : Bool
  claims : Json := .null
  error : Option String := none

/-- What the provider answers in the course of a request, and what `validate_token` does with the
ID token, or with one that is no string. -/
structure Answers where
  discovery : HttpAnswer
  token : TokenResponse
  validation : Result
  notAString : PyError
  userinfo : UserInfoResponse

/-- What a login draws at random. -/
structure Secrets where
  state : String
  nonce : String
  codeVerifier : String

/-- How a route fails: an `HTTPException`, or another exception. -/
inductive Failure
  | http (status : ℕ) (detail : String)
  | raised (message : String)
  deriving DecidableEq, Repr

/-- What a route asks for. -/
inductive Sent
  | discovery (address : String)
  | exchange (request : AuthorizationCodeTokenRequest)
  | validateToken (jwt : String) (config : TokenValidationConfig) (address : String)
  | userinfo (address token : Json)

/-- A part of a route: its result, and what it asked for on the way. -/
structure Handler (α : Type) where
  result : Except Failure α
  sent : List Sent

namespace Handler

variable {α β : Type}

def ok (a : α) : Handler α := ⟨.ok a, []⟩

def fail (e : Failure) : Handler α := ⟨.error e, []⟩

def andThen (x : Handler α) (f : α → Handler β) : Handler β :=
  match x.result with
  | .ok a => ⟨(f a).result, x.sent ++ (f a).sent⟩
  | .error e => ⟨.error e, x.sent⟩

instance : Monad Handler where
  pure := ok
  bind := andThen

def send (s : Sent) : Handler Unit := ⟨.ok (), [s]⟩

/-- `raise HTTPException` unless the condition holds. -/
def require (c : Bool) (status : ℕ) (detail : String) : Handler Unit :=
  if c then ok () else fail (.http status detail)

end Handler

section Routes

variable (host : Host) (rp : Router)

def rstripSlash (s : List Char) : List Char := (s.reverse.dropWhile fun c => c = '/').reverse

def wellKnownSuffix : List Char := "/.well-known/openid-configuration".toList

/-- `_expected_issuer`. -/
def expectedIssuer (discoveryUrl : String) : List Char :=
  let base := rstripSlash discoveryUrl.toList
  rstripSlash
    (if wellKnownSuffix <:+ base then base.take (base.length - wellKnownSuffix.length) else base)

def noAttribute (j : Json) (name : String) : Failure :=
  .raised ("'" ++ typeName j ++ "' object has no attribute '" ++ name ++ "'")

/-- `(issuer or "").rstrip("/")`. -/
def strippedIssuer (issuer : Json) : Handler (List Char) :=
  if !isTruthy issuer then .ok []
  else
    match issuer with
    | .str s => .ok (rstripSlash s.toList)
    | j => .fail (noAttribute j "rstrip")

/-- `_discover`. -/
def discover (answer : HttpAnswer) : Handler DiscoveryResult := do
  Handler.send (.discovery rp.settings.discoveryUrl)
  let disco := getDiscoveryDocument host.interpreter rp.settings.discoveryUrl {} answer
  Handler.require disco.isSuccessful 502 "Identity provider discovery failed"
  let issuer ← strippedIssuer (disco.get "issuer")
  Handler.require (issuer = expectedIssuer rp.settings.discoveryUrl) 502
    "Identity provider configuration error"
  return disco

/-- `_require_endpoint`. -/
def requireEndpoint (value : Json) (name : String) : Handler Json := do
  Handler.require (isTruthy value) 502 ("Provider discovery is missing '" ++ name ++ "'")
  return value

/-- `dict.get`; nothing else has it. -/
def dictGet (j : Json) (name : String) : Handler Json :=
  match j with
  | .obj _ => .ok (j.get name)
  | _ => .fail (noAttribute j "get")

/-- `_exchange_code`. A successful answer without a token fails where its error is logged. -/
def exchangeCode (disco : DiscoveryResult) (code : String) (codeVerifier : Json)
    (answer : TokenResponse) : Handler Json := do
  let tokenEndpoint ← requireEndpoint (disco.get "token_endpoint") "token_endpoint"
  Handler.send (.exchange ⟨tokenEndpoint, rp.settings.clientId, code, rp.settings.redirectUri,
    codeVerifier, truthy rp.settings.clientSecret⟩)
  if !answer.isSuccessful then Handler.fail (.http 400 "Authorization code exchange failed")
  else if !isTruthy answer.token then
    Handler.fail (.raised ("Cannot access 'error' on a successful response. " ++
      "Check 'is_successful' before accessing error details."))
  else return answer.token

/-- The settings an ID token is validated with. -/
def Router.idTokenConfig (rp : Router) (issuer : Issuer) : TokenValidationConfig :=
  { performDisco := true, audience := some rp.settings.clientId, issuer := some issuer
    options := some [("verify_exp", true), ("require", true)], required := ["sub", "iat", "exp"] }

/-- What an exception of `validate_token` becomes. -/
def rejected (e : PyError) : Failure :=
  if e.isLibrary then .http 401 "ID token validation failed" else .raised e.message

/-- `validate_token` for the ID token; only a string can be one. -/
def validated (idToken : Json) (config : TokenValidationConfig) (answers : Answers) :
    Handler Claims :=
  match idToken with
  | .str jwt => do
      Handler.send (.validateToken jwt config rp.settings.discoveryUrl)
      match answers.validation with
      | .ok claims => return claims
      | .error e => Handler.fail (rejected e)
  | _ => .fail (rejected answers.notAString)

/-- A claim, or `None`. -/
def claimOf (claims : Claims) (name : String) : Json := (claims.lookup name).getD .null

/-- `_validate_id_token`. -/
def validateIdToken (disco : DiscoveryResult) (idToken expectedNonce : Json) (answers : Answers) :
    Handler Claims := do
  let value ← requireEndpoint (disco.get "issuer") "issuer"
  let claims ← validated rp idToken (rp.idTokenConfig (issuerOf value)) answers
  Handler.require (pyEq (claimOf claims "nonce") expectedNonce) 401 "Nonce mismatch"
  return claims

def subMismatch : Failure := .http 401 "UserInfo subject does not match ID token subject"

def isNull : Json → Bool
  | .null => true
  | _ => false

/-- `j or {}`. -/
def orEmpty (j : Json) : Json := if isTruthy j then j else .obj []

/-- `_fetch_userinfo`. -/
def fetchUserinfo (disco : DiscoveryResult) (accessToken expectedSub : Json)
    (answer : UserInfoResponse) : Handler Json :=
  let endpoint := disco.get "userinfo_endpoint"
  if !isTruthy accessToken || !isTruthy endpoint then .ok (.obj [])
  else do
    Handler.send (.userinfo endpoint accessToken)
    if !answer.isSuccessful then return .obj []
    else if isNull expectedSub then return orEmpty answer.claims
    else
      let sub ← dictGet (orEmpty answer.claims) "sub"
      if pyEq sub expectedSub then return orEmpty answer.claims else Handler.fail subMismatch

/-- UserInfo, unless the router does without. -/
def userinfoFor (disco : DiscoveryResult) (accessToken : Json) (claims : Claims)
    (answer : UserInfoResponse) : Handler Json :=
  if rp.fetchUserinfo then fetchUserinfo disco accessToken (claimOf claims "sub") answer
  else .ok (.obj [])

/-- The entries of a flow. -/
def flowMembers : List String := ["state", "nonce", "code_verifier"]

/-- The check of the flow entry; `keys` is asked only of what is not empty. -/
def readFlow (flow : Json) : Handler Unit :=
  if !isTruthy flow then .fail (.http 400 "No active login flow in session")
  else
    match flow with
    | .obj ms =>
        Handler.require (flowMembers.all fun name => ms.any fun m => m.1 = name) 400
          "No active login flow in session"
    | j => .fail (noAttribute j "keys")

/-- The callback as it was parsed. -/
def readCallback (callbackUrl : String) : Handler AuthorizeCallbackResponse :=
  match parseAuthorizeCallbackResponse host.interpreter.platform host.decimal callbackUrl with
  | .ok cb => .ok cb
  | .error (.callback _) => .fail (.http 400 "Malformed authorization response")
  | .error (.value m) => .fail (.raised m)

def checkState (cb : AuthorizeCallbackResponse) (expectedState : Json) : Handler Unit :=
  match validateAuthorizeCallbackState cb expectedState with
  | .error m => .fail (.raised m)
  | .ok r => Handler.require r.isValid 400 "State mismatch (possible CSRF)"

def requireCode (cb : AuthorizeCallbackResponse) : Handler String :=
  match cb.code with
  | none => .fail (.http 400 "Authorization response missing code")
  | some code => .ok code

def claimsObject (claims : Claims) : Json := .obj (claims.entries.map fun e => (e.1, e.2))

/-- What is stored under the session key. -/
def sessionData (claims : Claims) (userinfo token : Json) : Json :=
  .obj ([("sub", claimOf claims "sub"), ("claims", claimsObject claims), ("userinfo", userinfo)] ++
    if rp.storeTokens then
      [("tokens", .obj [("access_token", token.get "access_token"),
        ("refresh_token", token.get "refresh_token"), ("id_token", token.get "id_token")])]
    else [])

/-- `_callback` after the flow entry is popped, up to the data it stores. -/
def callbackData (flow : Json) (callbackUrl : String) (answers : Answers) : Handler Json := do
  readFlow flow
  let cb ← readCallback host callbackUrl
  Handler.require cb.isSuccessful 400 "Authorization request failed"
  checkState cb (flow.get "state")
  let code ← requireCode cb
  let disco ← discover host rp answers.discovery
  let token ← exchangeCode rp disco code (flow.get "code_verifier") answers.token
  let idToken ← dictGet token "id_token"
  let accessToken ← dictGet token "access_token"
  Handler.require (isTruthy idToken) 401 "Provider did not return an ID token"
  let claims ← validateIdToken rp disco idToken (flow.get "nonce") answers
  let userinfo ← userinfoFor rp disco accessToken claims answers.userinfo
  return sessionData rp claims userinfo token

inductive HttpRequest
  | login (secrets : Secrets) (discovery : HttpAnswer)
  | callback (url : String) (answers : Answers)
  | callbackFormPost (url : String) (body : List ℕ) (answers : Answers)
  | logout

structure Redirect where
  location : String
  status : ℕ

/-- What a request leaves behind: the session, what was asked for, and the answer. -/
structure Reply where
  session : Session
  sent : List Sent
  outcome : Except Failure Redirect

/-- The session after a route that changed it. -/
def Host.persisted (before after : Session) : Except Failure Redirect → Session
  | .error (.raised _) => if host.savesOnError then after else before
  | _ => after

/-- The entry a login writes. -/
def Secrets.flow (secrets : Secrets) : Json :=
  .obj [("state", .str secrets.state), ("nonce", .str secrets.nonce),
    ("code_verifier", .str secrets.codeVerifier)]

/-- The redirect of a login. -/
def loginUrl (secrets : Secrets) (endpoint : Json) : Except Failure Redirect :=
  match endpoint with
  | .str s =>
      match buildAuthorizationUrl host.interpreter.platform
        { authorizationEndpoint := s, clientId := rp.settings.clientId
          redirectUri := rp.settings.redirectUri, scope := rp.settings.scope
          state := some secrets.state, nonce := some secrets.nonce
          codeChallenge := some (host.codeChallenge secrets.codeVerifier)
          codeChallengeMethod := some "S256" } with
      | .ok url => .ok ⟨url, 302⟩
      | .error m => .error (.raised m)
  | j => .error (noAttribute j "strip")

/-- `_login`. -/
def login (session : Session) (secrets : Secrets) (answer : HttpAnswer) : Reply :=
  let endpoint : Handler Json := do
    let disco ← discover host rp answer
    requireEndpoint (disco.get "authorization_endpoint") "authorization_endpoint"
  match endpoint.result with
  | .error e => ⟨session, endpoint.sent, .error e⟩
  | .ok value =>
      let outcome := loginUrl host rp secrets value
      ⟨host.persisted session (session.insert rp.flowKey secrets.flow) outcome, endpoint.sent,
        outcome⟩

/-- `_callback`. -/
def callback (session : Session) (callbackUrl : String) (answers : Answers) : Reply :=
  let data := callbackData host rp ((session.lookup rp.flowKey).getD .null) callbackUrl answers
  match data.result with
  | .error e =>
      ⟨host.persisted session (session.erase rp.flowKey) (.error e), data.sent, .error e⟩
  | .ok identity =>
      ⟨(session.erase rp.flowKey).insert rp.sessionKey identity, data.sent,
        .ok ⟨rp.settings.postLoginRedirect, 302⟩⟩

/-- The URL that `callback_form_post` rebuilds from a form. -/
def formPostUrl (url : String) (body : List ℕ) : String :=
  host.replaceQuery url (urlencode (parseQsl (decodeUtf8 body)))

/-- `logout`. -/
def logout (session : Session) : Reply :=
  ⟨(session.erase rp.sessionKey).erase rp.flowKey, [], .ok ⟨rp.settings.postLogoutRedirect, 303⟩⟩

/-- The routes. -/
def serve (session : Session) : HttpRequest → Reply
  | .login secrets answer => login host rp session secrets answer
  | .callback url answers => callback host rp session url answers
  | .callbackFormPost url body answers =>
      callback host rp session (formPostUrl host url body) answers
  | .logout => logout rp session

/-- The session after a sequence of requests. -/
def sessionAfter (session : Session) (requests : List HttpRequest) : Session :=
  requests.foldl (fun s r => (serve host rp s r).session) session

end Routes

namespace Handler

variable {α β : Type} {b : β} {sent : List Sent}

theorem bind_ok {x : Handler α} {f : α → Handler β} :
    (x >>= f) = ⟨.ok b, sent⟩ ↔
      ∃ a s t, x = ⟨.ok a, s⟩ ∧ f a = ⟨.ok b, t⟩ ∧ sent = s ++ t := by
  obtain ⟨result, s⟩ := x
  cases result with
  | error e => simp [Bind.bind, andThen]
  | ok a =>
      constructor
      · intro h
        simp only [Bind.bind, andThen, mk.injEq] at h
        exact ⟨a, s, (f a).sent, rfl, by rw [← h.1], h.2.symm⟩
      · rintro ⟨a', s', t, hx, hf, rfl⟩
        cases hx
        simp [Bind.bind, andThen, hf]

@[simp] theorem pure_eq_ok {a : β} : (pure a : Handler β) = ⟨.ok b, sent⟩ ↔ a = b ∧ sent = [] := by
  simp [Pure.pure, ok, eq_comm]

@[simp] theorem ok_eq_ok {a : β} : (ok a : Handler β) = ⟨.ok b, sent⟩ ↔ a = b ∧ sent = [] := by
  simp [ok, eq_comm]

@[simp] theorem fail_ne_ok {e : Failure} : (fail e : Handler β) ≠ ⟨.ok b, sent⟩ := by
  simp [fail]

@[simp] theorem send_eq_ok {s : Sent} {u : Unit} : send s = ⟨.ok u, sent⟩ ↔ sent = [s] := by
  simp [send, eq_comm]

@[simp] theorem require_eq_ok {c : Bool} {status : ℕ} {detail : String} {u : Unit} :
    require c status detail = ⟨.ok u, sent⟩ ↔ c = true ∧ sent = [] := by
  cases c <;> simp [require]

end Handler

end Rp

end IdentityModel.Py
