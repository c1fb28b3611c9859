import IdentityModel.Forms
import IdentityModel.PyDiscovery

/-!
# Authorization requests and callbacks

`core/authorize_url.py`, `core/authorize_response.py` and the state check of
`core/state_validation.py`: the URL a login redirects to, and what is read from the URL the
provider redirects back to. Unicode's decimal digits are a parameter.
-/
namespace IdentityModel.Py

open Url Forms

/-- Digits, with single underscores between them. -/
def digitRun (decimal : Char → Option ℕ) : List Char → Option (List ℕ)
  | [] => some []
  | '_' :: c :: rest => do
      let d ← decimal c
      let ds ← digitRun decimal rest
      return d :: ds
  | c :: rest => do
      let d ← decimal c
      let ds ← digitRun decimal rest
      return d :: ds

/-- The most digits `int` reads from a string. -/
def maxStrDigits : ℕ := 4300

/-- A run of digits that does not begin with an underscore. -/
def unsignedInt (decimal : Char → Option ℕ) (s : List Char) : Option ℕ :=
  match s with
  | [] => none
  | '_' :: _ => none
  | s => do
      let ds ← digitRun decimal s
      if maxStrDigits < ds.length then none else some (ds.foldl (fun n d => 10 * n + d) 0)

/-- `int` of a string; `none` is a `ValueError`. -/
def pyInt (decimal : Char → Option ℕ) (s : String) : Option ℤ :=
  match pyStrip s.toList with
  | '-' :: rest => (unsignedInt decimal rest).map fun n => -n
  | '+' :: rest => (unsignedInt decimal rest).map fun n => n
  | rest => (unsignedInt decimal rest).map fun n => n

/-- `AuthorizeCallbackResponse`; of several values of one name the first counts. -/
structure AuthorizeCallbackResponse where
  isSuccessful : Bool
  raw : String
  values : List (String × String)
  code : Option String := none
  accessToken : Option String := none
  identityToken : Option String := none
  tokenType : Option String := none
  expiresIn : Option ℤ := none
  scope : Option String := none
  refreshToken : Option String := none
  state : Option String := none
  sessionState : Option String := none
  issuer : Option String := none
  error : Option String := none
  errorDescription : Option String := none

/-- The exceptions of a callback URL: `AuthorizeCallbackException`, and the `ValueError` of
`urlparse`. -/
inductive CallbackError
  | callback (message : String)
  | value (message : String)
  deriving DecidableEq, Repr

/-- `_PARAM_TO_FIELD`. -/
def callbackParams : List String :=
  ["code", "access_token", "id_token", "token_type", "expires_in", "scope", "refresh_token", "state",
    "session_state", "iss", "error", "error_description"]

/-- `_map_params_to_fields` gives the field a value. -/
def isRecognized (decimal : Char → Option ℕ) (values : List (String × String)) (name : String) :
    Bool :=
  match values.lookup name with
  | none => false
  | some v => name ≠ "expires_in" || (pyInt decimal v).isSome

/-- `parse_authorize_callback_response`. -/
def parseAuthorizeCallbackResponse (p : Platform) (decimal : Char → Option ℕ) (redirectUri : String) :
    Except CallbackError AuthorizeCallbackResponse :=
  if pyStrip redirectUri.toList = [] then
    .error (.callback "redirect_uri must be a non-empty string")
  else
    match urlparse p redirectUri with
    | .error e => .error (.value e)
    | .ok parsed =>
        if schemeOf parsed ≠ "" ∧ schemeOf parsed ≠ "https" ∧ schemeOf parsed ≠ "http" then
          .error (.callback ("redirect_uri scheme must be http or https, got '" ++
            schemeOf parsed ++ "'"))
        else
          let values := parseQsl (if parsed.fragment ≠ [] then parsed.fragment else parsed.query)
          if values = [] then
            .error (.callback "redirect_uri contains no callback parameters")
          else if !callbackParams.any (isRecognized decimal values) then
            .error (.callback "redirect_uri contains no recognized OAuth callback parameters")
          else
            .ok {
              isSuccessful := (values.lookup "error").isNone
              raw := redirectUri
              values := values
              code := values.lookup "code"
              accessToken := values.lookup "access_token"
              identityToken := values.lookup "id_token"
              tokenType := values.lookup "token_type"
              expiresIn := (values.lookup "expires_in").bind (pyInt decimal)
              scope := values.lookup "scope"
              refreshToken := values.lookup "refresh_token"
              state := values.lookup "state"
              sessionState := values.lookup "session_state"
              issuer := values.lookup "iss"
              error := values.lookup "error"
              errorDescription := values.lookup "error_description" }

/-- `AuthorizeCallbackValidationResult`, as far as the state is concerned. -/
inductive CallbackValidation
  | success
  | stateMismatch
  | missingState
  | errorResponse
  deriving DecidableEq, Repr

/-- `StateValidationResult`. -/
structure StateValidationResult where
  isValid : Bool
  result : CallbackValidation
  error : Option String := none
  errorDescription : Option String := none
  deriving DecidableEq, Repr

/-- `hmac.compare_digest` of two strings; the error is the text of its `TypeError`. -/
def compareDigest (a b : String) : Except String Bool :=
  if a.toList.all isAscii && b.toList.all isAscii then .ok (a = b)
  else .error "comparing strings with non-ASCII characters is not supported"

/-- `validate_authorize_callback_state`; what is expected may be any value. -/
def validateAuthorizeCallbackState (response : AuthorizeCallbackResponse) (expectedState : Json) :
    Except String StateValidationResult :=
  if !response.isSuccessful then
    .ok { isValid := false, result := .errorResponse, error := response.error
          errorDescription := response.errorDescription }
  else
    match expectedState.str?.filter (fun s => s ≠ "") with
    | none =>
        .ok { isValid := false, result := .missingState, error := some "missing_state"
              errorDescription :=
                some "Expected state is missing or empty (session may have expired)" }
    | some expected =>
        match response.state.filter (fun s => s ≠ "") with
        | none =>
            .ok { isValid := false, result := .missingState, error := some "missing_state"
                  errorDescription := some "State parameter not present in callback" }
        | some state =>
            match compareDigest state expected with
            | .error e => .error e
            | .ok true => .ok { isValid := true, result := .success }
            | .ok false =>
                .ok { isValid := false, result := .stateMismatch, error := some "state_mismatch"
                      errorDescription := some "State parameter does not match expected value" }

theorem compareDigest_true {a b : String} (h : compareDigest a b = .ok true) : a = b := by
  unfold compareDigest at h
  split at h
  · simpa using h
  · cases h

/-- A valid state is the expected one, and not empty. -/
theorem validateAuthorizeCallbackState_valid {response : AuthorizeCallbackResponse}
    {expectedState : Json} {r : StateValidationResult}
    (h : validateAuthorizeCallbackState response expectedState = .ok r) (hv : r.isValid = true) :
    ∃ state, expectedState = .str state ∧ response.state = some state ∧ state ≠ "" := by
  unfold validateAuthorizeCallbackState at h
  split at h
  · cases h
    cases hv
  · split at h
    · cases h
      cases hv
    · rename_i expected hexpected
      obtain ⟨hstr, hne⟩ := Option.filter_eq_some_iff.mp hexpected
      split at h
      · cases h
        cases hv
      · rename_i state hstate
        obtain ⟨hresponse, -⟩ := Option.filter_eq_some_iff.mp hstate
        split at h
        · cases h
        · rename_i hsame
          exact ⟨expected, Json.str?_eq_some hstr, compareDigest_true hsame ▸ hresponse,
            by simpa using hne⟩
        · cases h
          cases hv

/-- The arguments of `build_authorization_url`. -/
structure AuthorizationUrl where
  authorizationEndpoint : String
  clientId : String
  redirectUri : String
  scope : String := "openid"
  responseType : String := "code"
  state : Option String := none
  nonce : Option String := none
  codeChallenge : Option String := none
  codeChallengeMethod : Option String := none
  extraParams : List (String × String) := []

/-- `_RESERVED_PARAMS`, sorted. -/
def reservedParams : List String :=
  ["client_id", "code_challenge", "code_challenge_method", "nonce", "redirect_uri", "response_type",
    "scope", "state"]

/-- The query of an authorization request. -/
def AuthorizationUrl.params (a : AuthorizationUrl) : List (String × String) :=
  let optional (name : String) (value : Option String) := (value.map fun v => (name, v)).toList
  [("client_id", a.clientId), ("redirect_uri", a.redirectUri), ("scope", a.scope),
    ("response_type", a.responseType)] ++ optional "state" a.state ++ optional "nonce" a.nonce ++
    optional "code_challenge" a.codeChallenge ++
    optional "code_challenge_method" a.codeChallengeMethod ++ a.extraParams

/-- `build_authorization_url`; the error is the text of its `ValueError`. -/
def buildAuthorizationUrl (p : Platform) (a : AuthorizationUrl) : Except String String :=
  let collisions := reservedParams.filter fun name => a.extraParams.any fun e => e.1 = name
  if pyStrip a.authorizationEndpoint.toList = [] then
    .error "authorization_endpoint must not be empty"
  else if collisions ≠ [] then
    .error ("extra_params must not override reserved OAuth parameters: " ++
      ", ".intercalate collisions)
  else if a.codeChallenge.isNone ≠ a.codeChallengeMethod.isNone then
    .error ("code_challenge and code_challenge_method must both be provided " ++
      "or both be omitted (RFC 7636 §4.3)")
  else if a.codeChallengeMethod.any fun m => m ≠ "S256" ∧ m ≠ "plain" then
    .error ("code_challenge_method must be 'S256' or 'plain', got '" ++
      a.codeChallengeMethod.getD "" ++ "'")
  else do
    let parsed ← urlparse p a.authorizationEndpoint
    let endpoint :=
      if parsed.fragment ≠ [] then
        String.ofList (a.authorizationEndpoint.toList.takeWhile fun c => c ≠ '#')
      else a.authorizationEndpoint
    let parsed ← urlparse p endpoint
    return endpoint ++ (if parsed.query ≠ [] then "&" else "?") ++ urlencode a.params

end IdentityModel.Py
