import IdentityModel.PyNumbers
import IdentityModel.Results

/-!
# Typed configuration in Python

`Config.build` of `core/config.py`: raw strings are resolved from overrides, sources and the
environment, then typed, checked and defaulted in the order of the registry. What is found
wrong is an issue; an exception other than `ConfigError` is one that escapes. A source's
answer is what it returns or that it raised, and of what it returns only strings are told
apart.
-/
namespace IdentityModel.Py.Settings

open Url

/-- What Python and its platform provide: URLs, numbers, and `repr` of a string. -/
structure Platform where
  urls : Url.Platform
  numbers : NumberPlatform
  repr : String → String

inductive Kind
  | str | int | float | url | strlist
  deriving DecidableEq, Repr

/-- A typed value. -/
inductive Value
  | none
  | str (s : String)
  | int (n : ℤ)
  | float (x : Float64)
  | strs (items : List String)
  | secret (s : String)
  deriving DecidableEq, Repr

/-- A bound, as it compares and as it is printed. -/
structure Bound where
  value : ℚ
  text : String
  deriving DecidableEq, Repr

/-- `_KeySpec`; without a default there is no value for an absent key. -/
structure KeySpec where
  logical : String
  attr : String
  env : List String
  kind : Kind
  default : Option Value := .none
  secret : Bool := false
  prefixed : Bool := false
  lo : Option Bound := .none
  hi : Option Bound := .none
  loExclusive : Bool := false
  deriving DecidableEq, Repr

/-- `_REGISTRY`. -/
def registry : List KeySpec :=
  [{ logical := "http.timeout", attr := "http_timeout", env := ["HTTP_TIMEOUT"], kind := .float
     default := some (.float (.finite 30)), lo := some ⟨0, "0.0"⟩, loExclusive := true },
   { logical := "http.retry.max_attempts", attr := "http_retry_max_attempts"
     env := ["HTTP_RETRY_MAX_ATTEMPTS", "HTTP_RETRY_COUNT"], kind := .int
     default := some (.int 3), lo := some ⟨0, "0"⟩ },
   { logical := "http.retry.base_delay", attr := "http_retry_base_delay"
     env := ["HTTP_RETRY_BASE_DELAY"], kind := .float, default := some (.float (.finite 1))
     lo := some ⟨0, "0.0"⟩ },
   { logical := "jwks.max_size", attr := "jwks_max_size", env := ["MAX_JWKS_SIZE"], kind := .int
     default := some (.int 524288), lo := some ⟨1, "1"⟩ },
   { logical := "jwks.max_keys", attr := "jwks_max_keys", env := ["MAX_JWKS_KEYS"], kind := .int
     default := some (.int 100), lo := some ⟨1, "1"⟩ },
   { logical := "jwks.cache.ttl", attr := "jwks_cache_ttl", env := ["JWKS_CACHE_TTL"]
     kind := .float, default := some (.float (.finite 86400)), lo := some ⟨60, "60.0"⟩
     hi := some ⟨86400, "86400.0"⟩ },
   { logical := "discovery.cache.ttl", attr := "discovery_cache_ttl", env := ["DISCO_CACHE_TTL"]
     kind := .float, default := some (.float (.finite 3600)), lo := some ⟨60, "60.0"⟩
     hi := some ⟨86400, "86400.0"⟩ },
   { logical := "jwks.kid_miss_cooldown", attr := "jwks_kid_miss_cooldown"
     env := ["KID_MISS_REFRESH_COOLDOWN"], kind := .float, default := some (.float (.finite 5))
     lo := some ⟨0, "0.0"⟩, hi := some ⟨3600, "3600.0"⟩ },
   { logical := "jwks.cache.max_entries", attr := "jwks_cache_max_entries"
     env := ["JWKS_CACHE_MAX_ENTRIES"], kind := .int, default := some (.int 64)
     lo := some ⟨0, "0"⟩ },
   { logical := "discovery.cache.max_entries", attr := "discovery_cache_max_entries"
     env := ["DISCO_CACHE_MAX_ENTRIES"], kind := .int, default := some (.int 64)
     lo := some ⟨0, "0"⟩ },
   { logical := "client.discovery_url", attr := "client_discovery_url", env := ["DISCOVERY_URL"]
     kind := .url, prefixed := true },
   { logical := "client.id", attr := "client_id", env := ["CLIENT_ID"], kind := .str
     prefixed := true },
   { logical := "client.secret", attr := "client_secret", env := ["CLIENT_SECRET"], kind := .str
     default := some .none, secret := true, prefixed := true },
   { logical := "client.scope", attr := "client_scope", env := ["SCOPE"], kind := .str
     default := some (.str "openid profile email"), prefixed := true },
   { logical := "client.audience", attr := "client_audience", env := ["AUDIENCE"], kind := .str
     default := some .none, prefixed := true },
   { logical := "client.redirect_uri", attr := "client_redirect_uri", env := ["REDIRECT_URI"]
     kind := .url, default := some (.str ""), prefixed := true },
   { logical := "client.post_login_redirect", attr := "client_post_login_redirect"
     env := ["POST_LOGIN_REDIRECT"], kind := .str, default := some (.str "/"), prefixed := true },
   { logical := "client.post_logout_redirect", attr := "client_post_logout_redirect"
     env := ["POST_LOGOUT_REDIRECT"], kind := .str, default := some (.str "/"), prefixed := true },
   { logical := "client.excluded_paths", attr := "client_excluded_paths", env := ["EXCLUDED_PATHS"]
     kind := .strlist, default := some (.strs ["/docs", "/openapi.json", "/health"])
     prefixed := true }]

def logicalKeys : List String := registry.map KeySpec.logical

/-- `_BY_LOGICAL.get`. -/
def byLogical (key : String) : Option KeySpec := registry.find? fun spec => spec.logical = key

/-- `_CLIENT_REQUIRED`. -/
def clientRequired : List String := ["client.discovery_url", "client.id"]

inductive ClientAuthMethod
  | none | clientSecretBasic | clientSecretPost
  deriving DecidableEq, Repr

def ClientAuthMethod.value : ClientAuthMethod → String
  | none => "none"
  | clientSecretBasic => "client_secret_basic"
  | clientSecretPost => "client_secret_post"

def ClientAuthMethod.requiresSecret (m : ClientAuthMethod) : Bool := m ≠ none

/-- What a source has under a key. -/
inductive Supplied
  | str (s : String)
  /-- A value that is no string. -/
  | other
  deriving DecidableEq, Repr

/-- What a source answers: it raises, or it returns a mapping. -/
inductive Resolution
  | raised
  | mapping (values : String → Option Supplied)

/-- A `ConfigSource`, with the name it goes by. -/
structure Source where
  name : String
  resolve : List String → Resolution

/-- `MappingSource`, over the items of its mapping. -/
def mappingSource (values : String → Option String) (name : String) : Source where
  name := name
  resolve keys := .mapping fun key => if key ∈ keys then (values key).map .str else none

/-- The names of a key's variables, aliases last. -/
def envNames (pre : String) (spec : KeySpec) : List String :=
  if spec.prefixed then spec.env.map fun name => pre ++ name else spec.env

/-- The value of a key in an environment. -/
def envLookup (environ : String → Option String) (pre key : String) : Option String :=
  (byLogical key).bind fun spec => (envNames pre spec).findSome? environ

/-- `EnvSource`. -/
def envSource (environ : String → Option String) (pre name : String) : Source where
  name := name
  resolve keys := .mapping fun key =>
    if key ∈ keys then (envLookup environ pre key).map .str else none

structure ConfigIssue where
  code : String
  keys : List String
  message : String
  deriving DecidableEq, Repr

/-- A source that raised. -/
def failedToResolve (p : Platform) (name : String) : ConfigIssue :=
  ⟨"CFG-004", ["source:" ++ name], "source " ++ p.repr name ++ " failed to resolve"⟩

/-- A source that returned something else than a string. -/
def nonString (p : Platform) (name logical : String) : ConfigIssue :=
  ⟨"CFG-004", ["source:" ++ name, logical],
    "source " ++ p.repr name ++ " returned a non-string value for " ++ p.repr logical⟩

/-- A value that is not accepted. -/
def invalid (spec : KeySpec) (message : String) : ConfigIssue := ⟨"CFG-003", [spec.logical], message⟩

def missing (p : Platform) (key : String) : ConfigIssue :=
  ⟨"CFG-001", [key], "required key " ++ p.repr key ++ " is missing"⟩

def secretRequired (p : Platform) (m : ClientAuthMethod) : ConfigIssue :=
  ⟨"CFG-002", ["client", "client.secret"],
    "client auth method " ++ p.repr m.value ++ " requires client.secret"⟩

def strayClientKey : ConfigIssue :=
  ⟨"CFG-002", ["client", "client.discovery_url"],
    "client-group key present without client.discovery_url"⟩

/-- The locals of `_resolve_raw`; raw values in the order in which they were found. -/
structure Resolving where
  raw : List (String × String)
  remaining : List String
  issues : List ConfigIssue

/-- The body of the inner loop of `_resolve_raw`. -/
def takeKey (p : Platform) (name : String) (values : String → Option Supplied) (st : Resolving)
    (logical : String) : Resolving :=
  match values logical with
  | none => st
  | some .other =>
      { st with
        remaining := st.remaining.erase logical
        issues := st.issues ++ [nonString p name logical] }
  | some (.str value) =>
      { st with raw := st.raw ++ [(logical, value)], remaining := st.remaining.erase logical }

/-- The body of the outer loop; once nothing remains the loop has ended. -/
def consult (p : Platform) (st : Resolving) (source : Source) : Resolving :=
  if st.remaining = [] then st
  else
    match source.resolve st.remaining with
    | .raised => { st with issues := st.issues ++ [failedToResolve p source.name] }
    | .mapping values => st.remaining.foldl (takeKey p source.name values) st

/-- Where `_resolve_raw` starts from: the overrides. -/
def overridden (overrides : String → Option String) : Resolving where
  raw := logicalKeys.filterMap fun key => (overrides key).map fun value => (key, value)
  remaining := logicalKeys.filter fun key => overrides key = none
  issues := []

def resolveRaw (p : Platform) (chain : List Source) (overrides : String → Option String) :
    Resolving :=
  chain.foldl (consult p) (overridden overrides)

/-- What is wrong with a number, if anything. -/
def outOfBounds (spec : KeySpec) (q : ℚ) : Option String :=
  match spec.lo with
  | some lo =>
      if spec.loExclusive ∧ q ≤ lo.value then some ("value must be greater than " ++ lo.text)
      else if ¬ spec.loExclusive ∧ q < lo.value then some ("value is below the minimum " ++ lo.text)
      else aboveMaximum q
  | none => aboveMaximum q
where
  aboveMaximum (q : ℚ) : Option String :=
    match spec.hi with
    | some hi => if hi.value < q then some ("value is above the maximum " ++ hi.text) else none
    | none => none

/-- The bounds of a key over a number that was read. -/
def checkBounds (spec : KeySpec) (q : ℚ) (value : Value) : Except ConfigIssue Value :=
  match outOfBounds spec q with
  | some message => .error (invalid spec message)
  | none => .ok value

def parseNumber (p : Platform) (spec : KeySpec) (text : List Char) : Except ConfigIssue Value :=
  if spec.kind = .int then
    match int? p.numbers text with
    | none => .error (invalid spec "value is not a valid number")
    | some n => checkBounds spec n (.int n)
  else
    match float? p.numbers text with
    | none => .error (invalid spec "value is not a valid number")
    | some (.finite q) => checkBounds spec q (.float (.finite q))
    | some _ => .error (invalid spec "value is not a finite number")

/-- The error that escapes is the `ValueError` of `urlparse`. -/
def parseUrl (p : Platform) (spec : KeySpec) (text : List Char) :
    Except String (Except ConfigIssue Value) :=
  match urlparse p.urls (String.ofList text) with
  | .error e => .error e
  | .ok parsed =>
      if parsed.scheme = [] ∨ parsed.netloc = [] then
        .ok (.error (invalid spec "value is not an absolute URL"))
      else .ok (.ok (.str (String.ofList text)))

def stringItems (raw : String) : List String :=
  ((splitAll ',' raw.toList).filterMap fun item =>
    if pyStrip item = [] then none else some (String.ofList (pyStrip item)))

/-- `_parse`: a value or an issue, unless an error escapes. -/
def parse (p : Platform) (spec : KeySpec) (raw : String) : Except String (Except ConfigIssue Value) :=
  let text := pyStrip raw.toList
  match spec.kind with
  | .strlist => .ok (.ok (.strs (stringItems raw)))
  | kind =>
      if text = [] then .ok (.error (invalid spec "value is empty or whitespace-only"))
      else
        match kind with
        | .str | .strlist => .ok (.ok (.str raw))
        | .url => parseUrl p spec text
        | .int | .float => .ok (parseNumber p spec text)

/-- The locals of `build` after resolution. -/
structure Building where
  values : List (String × Value)
  issues : List ConfigIssue

/-- The body of the loop that types, validates and defaults. -/
def parseKey (p : Platform) (raw : List (String × String)) (st : Building) (spec : KeySpec) :
    Except String Building :=
  match raw.lookup spec.logical with
  | some text =>
      match parse p spec text with
      | .error e => .error e
      | .ok (.ok value) => .ok { st with values := st.values ++ [(spec.attr, value)] }
      | .ok (.error issue) => .ok { st with issues := st.issues ++ [issue] }
  | none =>
      match spec.default with
      | some value => .ok { st with values := st.values ++ [(spec.attr, value)] }
      | none => .ok st

/-- A client secret that is a string is wrapped. -/
def wrapClientSecret (values : List (String × Value)) : List (String × Value) :=
  values.map fun v =>
    match v with
    | (attr, .str s) => if attr = "client_secret" then (attr, .secret s) else (attr, .str s)
    | v => v

/-- `values.get(attr) is None`. -/
def isUnset (values : List (String × Value)) (attr : String) : Bool :=
  (values.lookup attr).all fun v => v = .none

def groupIssues (p : Platform) (group : Option String) (m : ClientAuthMethod)
    (raw : List (String × String)) (values : List (String × Value)) : List ConfigIssue :=
  if group = some "client" then
    ((clientRequired.filter fun key =>
      (values.lookup key).isNone && (raw.lookup key).isNone).map (missing p)) ++
      (if m.requiresSecret && isUnset values "client_secret" then [secretRequired p m] else [])
  else if (logicalKeys.any fun key =>
        "client.".toList.isPrefixOf key.toList && (raw.lookup key).isSome) &&
      (raw.lookup "client.discovery_url").isNone then [strayClientKey]
  else []

/-- The fields still unset are filled, and an audience that is not set is the client id. -/
def complete (values : List (String × Value)) : List (String × Value) :=
  let filled := registry.foldl (fun values spec =>
    if (values.lookup spec.attr).isSome then values
    else values ++ [(spec.attr, spec.default.getD .none)]) values
  if isUnset filled "client_audience" then
    filled.map fun v =>
      if v.1 = "client_audience" then (v.1, (filled.lookup "client_id").getD .none) else v
  else filled

/-- A `Config`: the values of its fields. -/
structure Config where
  values : List (String × Value)
  deriving DecidableEq, Repr

def Config.field (config : Config) (attr : String) : Option Value := config.values.lookup attr

/-- The arguments of `build` besides what resolves keys. -/
structure Request where
  group : Option String := none
  clientAuthMethod : ClientAuthMethod := .none
  deriving DecidableEq, Repr

/-- `build` over a chain of sources: an error that escapes, the issues of a `ConfigError`, or
a `Config`. -/
def buildChain (p : Platform) (chain : List Source) (overrides : String → Option String)
    (request : Request) : Except String (Except (List ConfigIssue) Config) := do
  let resolved := resolveRaw p chain overrides
  let st ← registry.foldlM (parseKey p resolved.raw) ⟨[], resolved.issues⟩
  let issues := st.issues ++
    groupIssues p request.group request.clientAuthMethod resolved.raw st.values
  if issues = [] then return .ok ⟨complete (wrapClientSecret st.values)⟩
  else return .error issues

/-- `Config.build`; `env` appends the environment as the last source. -/
def build (p : Platform) (environ : String → Option String) (sources : List Source)
    (overrides : String → Option String) (env : Bool) (request : Request) :
    Except String (Except (List ConfigIssue) Config) :=
  buildChain p (sources ++ if env then [envSource environ "OIDC_" "env"] else []) overrides request

/-- `Config.from_env`. -/
def fromEnv (p : Platform) (environ : String → Option String) (pre : String) (request : Request) :
    Except String (Except (List ConfigIssue) Config) :=
  build p environ [envSource environ pre "env"] (fun _ => none) false request

/-- A platform that knows ASCII only. -/
def asciiSettings : Platform where
  urls := Url.asciiPlatform
  numbers := asciiNumbers
  repr s := "'" ++ s ++ "'"

example : ((build asciiSettings (fun name => if name = "HTTP_RETRY_COUNT" then some " 5 " else none)
    [] (fun _ => none) true {}).toOption.bind fun result => result.toOption.bind fun config =>
      config.field "http_retry_max_attempts") = some (.int 5) := by
  decide +kernel

end IdentityModel.Py.Settings
