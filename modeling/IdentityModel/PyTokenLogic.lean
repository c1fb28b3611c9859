import IdentityModel.Binary64
import IdentityModel.Dict
import IdentityModel.PyDiscovery

/-!
# The Python token validation logic

The pure parts of `core/parsers.py`, `core/jwt_helpers.py`, `core/validators.py`,
`core/response_processors.py` and `core/token_validation_logic.py`: which key and
algorithm a token is checked with, and with what settings. PyJWT is a parameter, with the
text that `str` makes of a decoded number or constant.
Exceptions are values with their message; their detail dictionaries, which only
repeat data, are left out.
-/
namespace IdentityModel.Py

/-- The exceptions a validation can end with; `other` are those the library does
not define. -/
inductive PyError
  | configuration (message : String)
  | tokenValidation (message : String) (tokenPart : Option String := none)
  | signatureVerification (message : String)
  | tokenExpired (message : String)
  | invalidAudience (message : String)
  | invalidIssuer (message : String)
  | other (message : String)
  deriving DecidableEq, Repr

/-- `isinstance(e, TokenValidationException)`. -/
def PyError.isTokenValidation : PyError → Bool
  | .configuration _ => false
  | .other _ => false
  | _ => true

/-- `isinstance(e, SignatureVerificationException)`. -/
def PyError.isSignatureVerification : PyError → Bool
  | .signatureVerification _ => true
  | _ => false

/-- `str(e)`. -/
def PyError.message : PyError → String
  | .configuration m => m
  | .tokenValidation m _ => m
  | .signatureVerification m => m
  | .tokenExpired m => m
  | .invalidAudience m => m
  | .invalidIssuer m => m
  | .other m => m

/-- The `alg` of a token header, which may be any JSON value but null. -/
inductive HeaderAlg
  | str (s : String)
  | other (typeName : String)
  deriving DecidableEq, Repr

/-- The header fields `extract_jwt_header_fields` returns. -/
structure Header where
  kid : Option String
  alg : Option HeaderAlg
  deriving DecidableEq, Repr

/-- `_ALG_TO_KTY`. -/
def algToKty : List (String × String) :=
  [("RS256", "RSA"), ("RS384", "RSA"), ("RS512", "RSA"), ("PS256", "RSA"), ("PS384", "RSA"),
    ("PS512", "RSA"), ("ES256", "EC"), ("ES384", "EC"), ("ES512", "EC"), ("ES256K", "EC"),
    ("EdDSA", "OKP"), ("Ed25519", "OKP"), ("Ed448", "OKP"), ("HS256", "oct"), ("HS384", "oct"),
    ("HS512", "oct")]

/-- `str.lower` compared with `none`; no rune outside ASCII lowers to its letters. -/
def isNone (alg : String) : Bool := alg.toList.map toAsciiLower = "none".toList

def noneNotPermitted : PyError :=
  .tokenValidation "Algorithm 'none' is not permitted for signed-token validation" (some "header")

/-- `_reject_non_string_alg`: the header's algorithm as a string or nothing. -/
def rejectNonStringAlg : Option HeaderAlg → Except PyError (Option String)
  | none => .ok none
  | some (.str s) => .ok (some s)
  | some (.other _) =>
      .error (.tokenValidation "Invalid 'alg' header: expected a string" (some "header"))

/-- The value of an optional string that Python's truth test accepts. -/
def truthy : Option String → Option String
  | some s => if s = "" then none else some s
  | none => none

/-- `_validate_key_alg_consistency`. -/
def validateKeyAlgConsistency (key : JsonWebKey) (jwtAlg : Option HeaderAlg) : Except PyError Unit :=
  match rejectNonStringAlg jwtAlg with
  | .error e => .error e
  | .ok alg =>
      match truthy alg with
      | none => .ok ()
      | some alg =>
          if isNone alg then .error noneNotPermitted
          else
            match algToKty.lookup alg with
            | some kty =>
                if key.kty ≠ kty then
                  .error (.tokenValidation ("Key type '" ++ key.kty ++
                    "' is incompatible with algorithm '" ++ alg ++ "' (expected key type '" ++
                    kty ++ "')") (some "header"))
                else matchDeclaredAlg key alg
            | none => matchDeclaredAlg key alg
where
  /-- A declared algorithm must match the header exactly. -/
  matchDeclaredAlg (key : JsonWebKey) (alg : String) : Except PyError Unit :=
    match truthy key.alg with
    | none => .ok ()
    | some keyAlg =>
        if keyAlg ≠ alg then
          .error (.tokenValidation ("Key algorithm '" ++ keyAlg ++
            "' does not match JWT algorithm '" ++ alg ++ "'") (some "header"))
        else .ok ()

/-- The members of a filtered list, or the list itself when none is left. -/
def filterOrAll (p : JsonWebKey → Bool) (keys : List JsonWebKey) : List JsonWebKey :=
  if keys.filter p = [] then keys else keys.filter p

/-- `_no_kid_candidates`. -/
def noKidCandidates (keys : List JsonWebKey) (jwtAlg : Option HeaderAlg) :
    Except PyError (List JsonWebKey) :=
  match rejectNonStringAlg jwtAlg with
  | .error e => .error e
  | .ok alg =>
      match truthy alg with
      | none => .ok (filterOrAll (fun k => k.use_ = none || k.use_ = some "sig") keys)
      | some alg =>
          if isNone alg then .error noneNotPermitted
          else
            let signing := filterOrAll (fun k => k.use_ = none || k.use_ = some "sig") keys
            if 1 < signing.length then
              let byAlg := filterOrAll (fun k => k.alg = none || k.alg = some alg) signing
              match algToKty.lookup alg with
              | some kty => .ok (filterOrAll (fun k => k.kty = kty) byAlg)
              | none => .ok byAlg
            else .ok signing

/-- The algorithm a selected key is used with. -/
def resolveAlg (key : JsonWebKey) (jwtAlg : Option HeaderAlg) : String :=
  match truthy key.alg with
  | some alg => alg
  | none =>
      match jwtAlg with
      | some (.str s) => if s = "" then "RS256" else s
      | _ => "RS256"

/-- Check a selected key against the header and pick its algorithm. -/
def selectKey (key : JsonWebKey) (jwtAlg : Option HeaderAlg) : Except PyError (JsonWebKey × String) :=
  match validateKeyAlgConsistency key jwtAlg with
  | .error e => .error e
  | .ok () => .ok (key, resolveAlg key jwtAlg)

/-- `find_key_by_kid`. -/
def findKeyByKid (kid : Option String) (keys : List JsonWebKey) (jwtAlg : Option HeaderAlg) :
    Except PyError (JsonWebKey × String) :=
  if keys = [] then .error (.tokenValidation "No keys available in JWKS response")
  else
    match kid with
    | none =>
        match noKidCandidates keys jwtAlg with
        | .error e => .error e
        | .ok [key] => selectKey key jwtAlg
        | .ok _ =>
            .error (.tokenValidation ("JWT has no kid header and JWKS contains multiple signing " ++
              "keys; cannot determine which key to use") (some "header"))
    | some kid =>
        match keys.find? fun k => k.kid = some kid with
        | none => .error (.tokenValidation ("No matching kid found: " ++ kid) (some "header"))
        | some key => selectKey key jwtAlg

abbrev Claims := Dict String Json

/-- What calling a claims validator does: it returns, it raises, or it returns an
awaitable that does one of the two when awaited. -/
inductive CallResult
  | returned
  | raised (e : PyError)
  | awaitable (result : Except PyError Unit)

/-- An injected claims validator: its truth value, whether it is a coroutine
function, and what calling it does. -/
structure ClaimsValidator where
  isTrue : Bool := true
  isCoroutineFunction : Bool := false
  call : Claims → CallResult

/-- A number of seconds: an `int` of any size, a `float`, or a `bool` in place of one. -/
inductive Leeway
  | int (seconds : ℤ)
  | float (seconds : Float64)
  | bool (b : Bool)
  deriving DecidableEq

/-- `TokenValidationConfig`. The decode options are a dictionary of truth values and one list, the
claims that its `require` names: these are `options` and `required`. -/
structure TokenValidationConfig where
  performDisco : Bool
  key : Option JsonWebKey := none
  audience : Option String := none
  algorithms : Option (List String) := none
  issuer : Option Issuer := none
  subject : Option String := none
  options : Option (List (String × Bool)) := none
  claimsValidator : Option ClaimsValidator := none
  requireHttps : Bool := true
  leeway : Option Leeway := none
  allowedIssuers : Option (List String) := none
  discoveryPolicy : Option DiscoveryPolicy := none
  required : List String := []

def emptyIssuerList : PyError :=
  .configuration "issuer must not be an empty list; omit or set to None to skip issuer validation"

def issuerListOfStrings : PyError := .configuration "issuer list must contain only non-empty strings"

/-- The issuer check of `validate_token_config`; a mistyped list is not empty. -/
def checkIssuerSetting : Option Issuer → Option PyError
  | some (.many ss) =>
      if ss = [] then some emptyIssuerList
      else if "" ∈ ss then some issuerListOfStrings
      else none
  | some (.other (.arr _) _) => some issuerListOfStrings
  | _ => none

/-- The leeway check of `validate_token_config`; `math.isinf` makes a float of an `int` first. -/
def checkLeeway : Option Leeway → Option PyError
  | none => none
  | some (.bool _) => some (.configuration "leeway must be a number, not a boolean")
  | some (.int i) =>
      if i < 0 then some (.configuration "leeway must be non-negative")
      else
        match Float64.ofRat i with
        | .finite _ => none
        | _ => some (.other "int too large to convert to float")
  | some (.float (.finite q)) =>
      if q < 0 then some (.configuration "leeway must be non-negative") else none
  | some (.float (.inf negative)) =>
      if negative then some (.configuration "leeway must be non-negative")
      else some (.configuration "leeway must be a finite number")
  | some (.float .nan) => some (.configuration "leeway must be a finite number")

/-- `validate_token_config`; `none` is success. -/
def validateTokenConfig (config : TokenValidationConfig) : Option PyError :=
  (checkIssuerSetting config.issuer).or ((checkLeeway config.leeway).or
    (if config.performDisco then none
    else if config.key.isNone && config.algorithms.getD [] = [] then
      some (.configuration ("TokenValidationConfig.key and TokenValidationConfig.algorithms are " ++
        "required if perform_disco is False"))
    else none))

/-- `validate_config_for_manual_validation`. -/
def validateConfigForManualValidation (config : TokenValidationConfig) : Option PyError :=
  if config.key.isNone then some (.configuration "TokenValidationConfig.key is required")
  else if config.algorithms.getD [] = [] then
    some (.configuration "TokenValidationConfig.algorithms is required")
  else none

/-- `build_resolved_config`. -/
def buildResolvedConfig (config : TokenValidationConfig) (key : JsonWebKey) (alg : String) :
    Except PyError TokenValidationConfig :=
  if config.algorithms.any fun allowed => alg ∉ allowed then
    .error (.tokenValidation ("Algorithm '" ++ alg ++ "' is not in the allowed algorithms")
      (some "header"))
  else .ok { config with key := some key, algorithms := some [alg] }

/-- What `list` makes of an issuer. -/
def Issuer.listed : Issuer → Except PyError (List Json)
  | .one s => .ok [.str s]
  | .many ss => .ok (ss.map .str)
  | .other value _ =>
      if isTruthy value then (iterate value).mapError fun e => .other e.message else .ok []

/-- The issuers a value stands for. -/
def Issuer.candidates : Option Issuer → List String
  | some (.one s) => [s]
  | some (.many ss) => ss
  | some (.other value _) => ((iterate value).toOption.getD []).filterMap Json.str?
  | none => []

/-- The body of the loop of `_enforce_allowed_issuers`: what is no string is in no set of strings,
unless it has no hash. -/
def enforceAllowedIssuer (str : Json → String) (allowed : List String) : Json → Option PyError
  | .str s =>
      if s ∈ allowed then none
      else some (.invalidIssuer ("Issuer '" ++ s ++ "' is not in the configured allowed_issuers"))
  | .arr _ => some (.other "unhashable type: 'list'")
  | .obj _ => some (.other "unhashable type: 'dict'")
  | iss =>
      some (.invalidIssuer ("Issuer '" ++ str iss ++ "' is not in the configured allowed_issuers"))

def unresolvedIssuer : PyError :=
  .invalidIssuer ("allowed_issuers is configured but no issuer was resolved to check " ++
    "against; refusing to validate without a pinned issuer")

/-- `_enforce_allowed_issuers`; `none` is success. -/
def enforceAllowedIssuers (str : Json → String) (effective : Option Issuer)
    (allowed : List String) : Option PyError :=
  match effective with
  | none => some unresolvedIssuer
  | some issuer =>
      match issuer.listed with
      | .error e => some e
      | .ok [] => some unresolvedIssuer
      | .ok candidates => candidates.findSome? (enforceAllowedIssuer str allowed)

/-- The errors PyJWT raises: those the library translates, other invalid tokens,
and what is no `InvalidTokenError`. -/
inductive JwtError
  | expiredSignature (text : String)
  | invalidAudience (text : String)
  | invalidIssuer (text : String)
  | invalidSignature (text : String)
  | invalidToken (text : String)
  | other (text : String)

/-- The arguments of `jwt.decode`. -/
structure DecodeArgs where
  jwt : String
  key : JsonWebKey
  algorithms : List String
  audience : Option String
  issuer : Option Issuer
  options : Option (List (String × Bool))
  leeway : Leeway
  required : List String

/-- PyJWT: `get_unverified_header`, and `decode` at a time; the interpreter's `str`; and the time it
is. Times are those of the caches, from `time.monotonic`: what the wall clock shows then, which
PyJWT holds `exp` and `nbf` against, is up to `decode`. -/
structure PyJwt where
  header : String → Except PyError Header
  decode : ℚ → DecodeArgs → Except JwtError Claims
  str : Json → String
  now : ℚ := 0

/-- The same at another time. -/
def PyJwt.at (pyjwt : PyJwt) (now : ℚ) : PyJwt := { pyjwt with now := now }

/-- `_ENFORCED_VERIFICATION_OPTIONS`; the code walks a set, so with several of them
disabled the text may name another one. -/
def enforcedVerificationOptions : List (String × String) :=
  [("verify_signature", "signature"), ("verify_exp", "exp"), ("verify_nbf", "nbf"),
    ("verify_iat", "iat")]

/-- `_sanitize_options`; `none` is success. -/
def sanitizeOptions (options : Option (List (String × Bool))) : Option PyError :=
  (enforcedVerificationOptions.find? fun o => (options.getD []).lookup o.1 = some false).map
    fun o => .configuration ("Security option '" ++ o.1 ++ "' cannot be disabled. JWT " ++ o.2 ++
      " verification is always enforced.")

/-- No check that is always made is switched off: what PyJWT is ever asked. -/
def DecodeArgs.Enforced (args : DecodeArgs) : Prop := sanitizeOptions args.options = none

/-- How PyJWT's errors are translated. -/
def translateJwtError : JwtError → PyError
  | .expiredSignature _ => .tokenExpired "Token has expired"
  | .invalidAudience _ => .invalidAudience "Invalid audience"
  | .invalidIssuer _ => .invalidIssuer "Invalid issuer"
  | .invalidSignature _ => .signatureVerification "Invalid signature"
  | .invalidToken text => .tokenValidation ("Invalid token: " ++ text)
  | .other text => .other text

def isStr (s : String) : Option Json → Bool
  | some (.str t) => t = s
  | _ => false

/-- `decode_and_validate_jwt`. -/
def decodeAndValidateJwt (pyjwt : PyJwt) (args : DecodeArgs) (subject : Option String) :
    Except PyError Claims :=
  if args.algorithms = [] then .error (.configuration "algorithms must not be empty")
  else if args.issuer = some (.many []) then .error emptyIssuerList
  else
    match sanitizeOptions args.options with
    | some e => .error e
    | none =>
        match pyjwt.decode pyjwt.now args with
        | .error e => .error (translateJwtError e)
        | .ok decoded =>
            if subject.any fun s => !isStr s (decoded.lookup "sub") then
              .error (.tokenValidation "Invalid subject: token sub does not match expected value"
                (some "payload"))
            else .ok decoded

/-- `decode_with_config`. -/
def decodeWithConfig (pyjwt : PyJwt) (jwt : String) (config : TokenValidationConfig)
    (issuer : Option Issuer) : Except PyError Claims :=
  match config.key, config.algorithms.getD [] with
  | some key, alg :: algs =>
      let effective := issuer.or config.issuer
      match config.allowedIssuers.bind (enforceAllowedIssuers pyjwt.str effective) with
      | some e => .error e
      | none =>
          decodeAndValidateJwt pyjwt ⟨jwt, key, alg :: algs, config.audience, effective,
            config.options, config.leeway.getD (.int 0), config.required⟩ config.subject
  | _, _ =>
      .error (.configuration "Token validation configuration must have key and algorithms set")

/-- Resolve the key in a key set and decode with it: the steps shared by the first
attempt and the retry. -/
def resolveAndDecode (pyjwt : PyJwt) (jwt : String) (config : TokenValidationConfig)
    (header : Header) (keys : List JsonWebKey) (issuer : Option Issuer) : Except PyError Claims :=
  match findKeyByKid header.kid keys header.alg with
  | .error e => .error e
  | .ok (key, alg) =>
      match buildResolvedConfig config key alg with
      | .error e => .error e
      | .ok resolved => decodeWithConfig pyjwt jwt resolved issuer

/-- `validate_disco_response`; `none` is success. -/
def validateDiscoResponse (r : DiscoveryDocumentResponse) : Option PyError :=
  if r.isSuccessful then none
  else some (.tokenValidation ((truthy r.error).getD "Discovery document request failed"))

/-- `validate_jwks_uri`. -/
def validateJwksUri (r : DiscoveryDocumentResponse) : Except PyError Json :=
  if isTruthy (r.jwksUri.getD .null) then .ok (r.jwksUri.getD .null)
  else .error (.configuration "Discovery document missing jwks_uri")

/-- `validate_jwks_response`; `none` is success. -/
def validateJwksResponse (r : JwksResponse) : Option PyError :=
  if !r.isSuccessful then some (.tokenValidation ((truthy r.error).getD "JWKS request failed"))
  else if r.keyList = [] then some (.tokenValidation "No keys available in JWKS response")
  else none

/-- A discovery endpoint's answer: none that can be read, with the error the client
makes of it, or a document. `rejected` is the error of the checks after the
issuer (values, key set, endpoints), when they fail. -/
inductive DiscoveryAnswer
  | failed (error : String)
  | document (issuer : Option Issuer) (responseTypes subjectTypes signingAlgs : Bool)
      (jwksUri : Option Json) (cacheControl rejected : Option String)

/-- The required parameters a document lacks. -/
def missingParameters (issuer : Option Issuer) (responseTypes subjectTypes signingAlgs : Bool) :
    List String :=
  (if issuer.isNone then ["issuer"] else []) ++
    (if responseTypes then [] else ["response_types_supported"]) ++
    (if subjectTypes then [] else ["subject_types_supported"]) ++
    (if signingAlgs then [] else ["id_token_signing_alg_values_supported"])

/-- `not issuer`. -/
def isEmptyIssuer : Option Issuer → Bool
  | none => true
  | some (.one s) => s = ""
  | some (.many ss) => ss = []
  | some (.other value _) => !isTruthy value

def failedDiscovery (error : String) : DiscoveryDocumentResponse :=
  { isSuccessful := false, error := some error }

/-- `process_discovery_response` with the error handling around it. -/
def processDiscoveryResponse : DiscoveryAnswer → DiscoveryDocumentResponse
  | .failed error => failedDiscovery error
  | .document issuer responseTypes subjectTypes signingAlgs jwksUri cacheControl rejected =>
      let missing := missingParameters issuer responseTypes subjectTypes signingAlgs
      if missing ≠ [] then
        let text := "Missing required parameters: " ++ ", ".intercalate missing
        failedDiscovery ((if "subject_types_supported" ∈ missing then "Invalid parameter values: "
          else "Missing required parameters: ") ++ text)
      else if isEmptyIssuer issuer then
        failedDiscovery "Invalid issuer: Issuer parameter is required"
      else
        match rejected with
        | some error => failedDiscovery error
        | none =>
            { isSuccessful := true, issuer := issuer, jwksUri := jwksUri
              cacheControl := cacheControl }

/-- A successful discovery names an issuer. -/
theorem processDiscoveryResponse_issuer {answer : DiscoveryAnswer}
    (h : (processDiscoveryResponse answer).isSuccessful = true) :
    ∃ i, (processDiscoveryResponse answer).issuer = some i := by
  cases answer with
  | failed error => cases h
  | document issuer responseTypes subjectTypes signingAlgs jwksUri cacheControl rejected =>
      cases issuer with
      | none => simp [processDiscoveryResponse, missingParameters, failedDiscovery] at h
      | some i =>
          by_cases hm : missingParameters (some i) responseTypes subjectTypes signingAlgs = []
          · by_cases he : isEmptyIssuer (some i) = true
            · simp [processDiscoveryResponse, hm, he, failedDiscovery] at h
            · cases rejected with
              | some error => simp [processDiscoveryResponse, hm, he, failedDiscovery] at h
              | none => exact ⟨i, by simp [processDiscoveryResponse, hm, he]⟩
          · simp [processDiscoveryResponse, hm, failedDiscovery] at h

/-- The two modules of the library. -/
inductive Flavour
  | sync
  | aio
  deriving DecidableEq, Repr

/-- What the outcome of a validator call means to `validate_claims`. -/
def claimsVerdict : Except PyError Unit → Option PyError
  | .ok () => none
  | .error e =>
      if e.isTokenValidation then some e
      else some (.tokenValidation ("Claims validation failed: " ++ e.message) (some "payload"))

/-- `validate_claims` and `validate_async_claims`; `none` is acceptance. An
awaitable is only awaited when the validator is a coroutine function and the
module is the asynchronous one; otherwise it is dropped. -/
def validateClaims (flavour : Flavour) (config : TokenValidationConfig) (decoded : Claims) :
    Option PyError :=
  match config.claimsValidator with
  | none => none
  | some v =>
      if !v.isTrue then none
      else
        match v.call decoded with
        | .returned => none
        | .raised e => claimsVerdict (.error e)
        | .awaitable result =>
            if flavour = .aio ∧ v.isCoroutineFunction = true then claimsVerdict result else none

end IdentityModel.Py
