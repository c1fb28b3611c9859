import IdentityModel.GoJwks

/-!
# The Go discovery package

`go/pkg/discovery` (cache.go, discovery.go, options.go) as a pool of goroutines over
the package-level cache. A caller runs `FetchConfiguration`; a flight runs the
function handed to `singleflight.Group.DoChan`, with the configuration of the caller
that created it. `ClearCache` may run between any two operations.

An answer to a request is what `http.Client.Do` and `json.Unmarshal` make of it.
Unmodelled metadata (`Extra`) is read by nothing here.
-/
namespace IdentityModel.GoDiscovery

open Runs Tasks TtlCache
open GoJwks (Library trimSpace)

/-- `ProviderConfiguration`. -/
structure ProviderConfiguration where
  issuer : String := ""
  authorizationEndpoint : String := ""
  tokenEndpoint : String := ""
  userInfoEndpoint : String := ""
  jwksURI : String := ""
  registrationEndpoint : String := ""
  introspectionEndpoint : String := ""
  revocationEndpoint : String := ""
  endSessionEndpoint : String := ""
  responseTypesSupported : List String := []
  responseModesSupported : List String := []
  subjectTypesSupported : List String := []
  idTokenSigningAlgValuesSupported : List String := []
  scopesSupported : List String := []
  claimsSupported : List String := []
  grantTypesSupported : List String := []
  tokenEndpointAuthMethodsSupported : List String := []
  codeChallengeMethodsSupported : List String := []
  deriving DecidableEq, Repr

/-- The errors of a fetch. -/
inductive DiscoveryError
  | parse (err : String)
  | http (statusCode : ℕ) (url : String)
  | httpsRequired (issuer : String)
  | missingFields (fields : List String)
  | issuerMismatch (requested returned : String)
  | transport (err : String)
  | context (err : String)
  deriving DecidableEq, Repr

/-- `config`, with the defaults of `newConfig`; negative values never get here. -/
structure Config where
  cacheTTL : ℕ := 24 * 60 * 60 * 1000000000
  allowHTTP : Bool := false
  maxEntries : ℕ := 64
  deriving DecidableEq, Repr

def wellKnownPath : String := "/.well-known/openid-configuration"

def maxBodyBytes : ℕ := 1048576

/-- `strings.TrimRight(s, "/")`. -/
def trimRightSlash (s : String) : String :=
  String.ofList ((s.toList.reverse.dropWhile (· = '/')).reverse)

/-- The issuer `fetchAndValidate` works with. -/
def requestedIssuer (issuerURL : String) : String := trimRightSlash (trimSpace issuerURL)

/-- The checks `fetchAndValidate` makes before its request. -/
def issuerError (lib : Library) (cfg : Config) (issuerURL : String) :
    Option DiscoveryError :=
  if requestedIssuer issuerURL = "" then some (.parse "issuer URL is empty")
  else
    match lib.urlScheme (requestedIssuer issuerURL) with
    | .error err => some (.parse ("invalid issuer URL " ++ lib.quote issuerURL ++ ": " ++ err))
    | .ok scheme =>
        if scheme ≠ "https" ∧ ¬ (cfg.allowHTTP ∧ scheme = "http") then
          some (.httpsRequired issuerURL)
        else none

/-- `requiredFields`. -/
def requiredFields : List (String × (ProviderConfiguration → Bool)) :=
  [("issuer", fun c => c.issuer ≠ ""),
   ("authorization_endpoint", fun c => c.authorizationEndpoint ≠ ""),
   ("token_endpoint", fun c => c.tokenEndpoint ≠ ""),
   ("jwks_uri", fun c => c.jwksURI ≠ ""),
   ("response_types_supported", fun c => c.responseTypesSupported ≠ []),
   ("subject_types_supported", fun c => c.subjectTypesSupported ≠ []),
   ("id_token_signing_alg_values_supported", fun c => c.idTokenSigningAlgValuesSupported ≠ [])]

def ProviderConfiguration.missingRequiredFields (c : ProviderConfiguration) : List String :=
  (requiredFields.filter fun f => !f.2 c).map Prod.fst

/-- What comes back for a request: an error of building it, of the client, or of reading
the body, or a status, the number of bytes read, and the document `json.Unmarshal` finds. -/
inductive Answer
  | unbuilt (err : String)
  | failed (err : String)
  | unreadable (err : String)
  | reply (statusCode : ℕ) (bytes : ℕ) (body : Except String ProviderConfiguration)

/-- The rest of `fetchAndValidate`. -/
def validate (issuerURL : String) : Answer → Except DiscoveryError ProviderConfiguration
  | .unbuilt err => .error (.transport ("discovery: build request: " ++ err))
  | .failed err =>
      .error (.transport ("discovery: fetch " ++ requestedIssuer issuerURL ++ wellKnownPath ++
        ": " ++ err))
  | .unreadable err => .error (.transport ("discovery: read body: " ++ err))
  | .reply statusCode bytes body =>
      if statusCode < 200 ∨ 300 ≤ statusCode then
        .error (.http statusCode (requestedIssuer issuerURL ++ wellKnownPath))
      else if maxBodyBytes < bytes then
        .error (.parse ("discovery document exceeds " ++ toString maxBodyBytes ++ " bytes"))
      else
        match body with
        | .error err => .error (.parse err)
        | .ok doc =>
            if doc.missingRequiredFields ≠ [] then
              .error (.missingFields doc.missingRequiredFields)
            else if trimRightSlash doc.issuer ≠ requestedIssuer issuerURL then
              .error (.issuerMismatch (requestedIssuer issuerURL) doc.issuer)
            else .ok doc

abbrev Cache := TtlCache.Cache String ProviderConfiguration

/-- `cache.store`. -/
abbrev Cache.store (cfg : Config) (c : Cache) (key : String) (doc : ProviderConfiguration)
    (now : ℕ) : Cache :=
  TtlCache.Cache.put cfg.maxEntries c key doc (some (now + cfg.cacheTTL))

/-- `cache.clear`. -/
def Cache.clear (c : Cache) : Cache := { c with entries := ∅ }

abbrev Result := Except DiscoveryError ProviderConfiguration

/-- The next operation of a caller. -/
inductive CallerPc
  | lookup
  | doChan
  | wait (flight : ℕ)
  | done (r : Result)
  deriving DecidableEq

/-- The next operation of a flight. -/
inductive FlightPc
  | recheck
  | request
  | store (doc : ProviderConfiguration)
  | finish (r : Result)
  | ended
  deriving DecidableEq

/-- A goroutine: a call of `FetchConfiguration`, or a flight with its number, its
issuer, and the configuration of the caller that created it. -/
inductive Proc
  | caller (issuerURL : String) (cfg : Config) (pc : CallerPc)
  | flight (id : ℕ) (issuerURL : String) (cfg : Config) (pc : FlightPc)
  deriving DecidableEq

structure Shared where
  cache : Cache
  /-- The flights that may be joined, by issuer. -/
  group : Dict String ℕ
  nextFlight : ℕ
  /-- The results delivered. -/
  results : Dict ℕ Result
  now : ℕ

/-- A goroutine runs, a request is answered, or the context of a waiting caller is
done. -/
inductive Act
  | run
  | response (answer : Answer)
  | ctxDone (err : String)

structure Event where
  now : ℕ
  act : Act

/-- `FetchConfiguration` with the options of its caller. -/
structure Call where
  issuerURL : String
  cfg : Config

abbrev State := Pool Shared Proc

abbrev Label := Tasks.Label Call Event

/-- `cache.fetch` up to the flight. -/
def lookupStep (w : Shared) (issuerURL : String) : Shared × CallerPc :=
  match w.cache.get issuerURL w.now with
  | (cache, some doc) => ({ w with cache := cache }, .done (.ok doc))
  | (cache, none) => ({ w with cache := cache }, .doChan)

/-- `DoChan`: join the flight of the issuer, or register a new one. -/
def joinStep (w : Shared) (issuerURL : String) : Shared × CallerPc :=
  match w.group.lookup issuerURL with
  | some flight => (w, .wait flight)
  | none =>
      ({ w with group := w.group.insert issuerURL w.nextFlight, nextFlight := w.nextFlight + 1 },
        .wait w.nextFlight)

/-- One operation of a caller. -/
def advanceCaller (w : Shared) (issuerURL : String) : CallerPc → Act → Option (Shared × CallerPc)
  | .lookup, .run => some (lookupStep w issuerURL)
  | .doChan, .run => some (joinStep w issuerURL)
  | .wait flight, .run => (w.results.lookup flight).map fun r => (w, .done r)
  | .wait _, .ctxDone err => some (w, .done (.error (.context err)))
  | _, _ => none

/-- The second lookup, in the flight; on a miss the request goes out, unless the issuer
is refused. -/
def recheckStep (lib : Library) (w : Shared) (issuerURL : String)
    (cfg : Config) : Shared × FlightPc :=
  match w.cache.get issuerURL w.now with
  | (cache, some doc) => ({ w with cache := cache }, .finish (.ok doc))
  | (cache, none) =>
      match issuerError lib cfg issuerURL with
      | some err => ({ w with cache := cache }, .finish (.error err))
      | none => ({ w with cache := cache }, .request)

/-- One operation of a flight. -/
def advanceFlight (lib : Library) (w : Shared) (id : ℕ)
    (issuerURL : String) (cfg : Config) : FlightPc → Act → Option (Shared × FlightPc)
  | .recheck, .run => some (recheckStep lib w issuerURL cfg)
  | .request, .response answer =>
      match validate issuerURL answer with
      | .ok doc => some (w, .store doc)
      | .error e => some (w, .finish (.error e))
  | .store doc, .run =>
      some ({ w with cache := Cache.store cfg w.cache issuerURL doc w.now }, .finish (.ok doc))
  | .finish r, .run =>
      some ({ w with
        group := if w.group.lookup issuerURL = some id then w.group.erase issuerURL else w.group
        results := w.results.insert id r }, .ended)
  | _, _ => none

def advance (lib : Library) (w : Shared) (x : Proc) (act : Act) :
    Option (Shared × Proc) :=
  match x with
  | .caller issuerURL cfg pc =>
      (advanceCaller w issuerURL pc act).map fun r => (r.1, .caller issuerURL cfg r.2)
  | .flight id issuerURL cfg pc =>
      (advanceFlight lib w id issuerURL cfg pc act).map fun r =>
        (r.1, .flight id issuerURL cfg r.2)

/-- The flight a caller creates when no flight of its issuer can be joined. -/
def forkFlight (w : Shared) : Proc → Act → Option Proc
  | .caller issuerURL cfg .doChan, .run =>
      match w.group.lookup issuerURL with
      | some _ => none
      | none => some (.flight w.nextFlight issuerURL cfg .recheck)
  | _, _ => none

/-- The package: calls start at any time, and time never goes back. -/
def client (lib : Library) : Machine Shared Proc Call Event where
  spawn w call := some (w, .caller call.issuerURL call.cfg .lookup)
  move w x e :=
    if w.now ≤ e.now then advance lib { w with now := e.now } x e.act else none
  fork w x e := forkFlight w x e.act

def initial : State := ⟨⟨TtlCache.Cache.new, ∅, 0, ∅, 0⟩, []⟩

/-- A step of the package, or a call of `ClearCache`. -/
inductive ClearLabel
  | client (l : Label)
  | clearCache

def clearStep (s : State) : State :=
  ⟨{ s.shared with cache := Cache.clear s.shared.cache }, s.tasks⟩

def step (lib : Library) (s : State) : ClearLabel → Option State
  | .client l => (client lib).step s l
  | .clearCache => some (clearStep s)

abbrev run (lib : Library) : State → List ClearLabel → Option State :=
  exec (step lib)

/-- The operations of a caller as a relation, one rule per outcome. -/
inductive CallerStep (w : Shared) (issuerURL : String) : CallerPc → Act → Shared → CallerPc → Prop
  | hit (doc : ProviderConfiguration) (hget : (w.cache.get issuerURL w.now).2 = some doc) :
      CallerStep w issuerURL .lookup .run { w with cache := (w.cache.get issuerURL w.now).1 }
        (.done (.ok doc))
  | miss (hget : (w.cache.get issuerURL w.now).2 = none) :
      CallerStep w issuerURL .lookup .run { w with cache := (w.cache.get issuerURL w.now).1 } .doChan
  | joined (flight : ℕ) (hg : w.group.lookup issuerURL = some flight) :
      CallerStep w issuerURL .doChan .run w (.wait flight)
  | created (hg : w.group.lookup issuerURL = none) :
      CallerStep w issuerURL .doChan .run
        { w with group := w.group.insert issuerURL w.nextFlight, nextFlight := w.nextFlight + 1 }
        (.wait w.nextFlight)
  | got (flight : ℕ) (r : Result) (hr : w.results.lookup flight = some r) :
      CallerStep w issuerURL (.wait flight) .run w (.done r)
  | ctxDone (flight : ℕ) (err : String) :
      CallerStep w issuerURL (.wait flight) (.ctxDone err) w (.done (.error (.context err)))

/-- The operations of a flight as a relation. -/
inductive FlightStep (lib : Library) (w : Shared) (id : ℕ)
    (issuerURL : String) (cfg : Config) : FlightPc → Act → Shared → FlightPc → Prop
  | hit (doc : ProviderConfiguration) (hget : (w.cache.get issuerURL w.now).2 = some doc) :
      FlightStep lib w id issuerURL cfg .recheck .run
        { w with cache := (w.cache.get issuerURL w.now).1 } (.finish (.ok doc))
  | refused (e : DiscoveryError) (he : issuerError lib cfg issuerURL = some e) :
      FlightStep lib w id issuerURL cfg .recheck .run
        { w with cache := (w.cache.get issuerURL w.now).1 } (.finish (.error e))
  | send (he : issuerError lib cfg issuerURL = none) :
      FlightStep lib w id issuerURL cfg .recheck .run
        { w with cache := (w.cache.get issuerURL w.now).1 } .request
  | accepted (answer : Answer) (doc : ProviderConfiguration)
      (hv : validate issuerURL answer = .ok doc) :
      FlightStep lib w id issuerURL cfg .request (.response answer) w (.store doc)
  | rejected (answer : Answer) (e : DiscoveryError) (hv : validate issuerURL answer = .error e) :
      FlightStep lib w id issuerURL cfg .request (.response answer) w (.finish (.error e))
  | store (doc : ProviderConfiguration) :
      FlightStep lib w id issuerURL cfg (.store doc) .run
        { w with cache := Cache.store cfg w.cache issuerURL doc w.now } (.finish (.ok doc))
  | finish (r : Result) :
      FlightStep lib w id issuerURL cfg (.finish r) .run
        { w with
          group := if w.group.lookup issuerURL = some id then w.group.erase issuerURL else w.group
          results := w.results.insert id r } .ended

theorem lookupStep_step (w : Shared) (issuerURL : String) :
    CallerStep w issuerURL .lookup .run (lookupStep w issuerURL).1 (lookupStep w issuerURL).2 := by
  unfold lookupStep
  cases hget : w.cache.get issuerURL w.now with
  | mk cache found =>
      have h1 : cache = (w.cache.get issuerURL w.now).1 := by rw [hget]
      have h2 : found = (w.cache.get issuerURL w.now).2 := by rw [hget]
      cases found with
      | none => exact h1 ▸ .miss h2.symm
      | some doc => exact h1 ▸ .hit doc h2.symm

theorem joinStep_step (w : Shared) (issuerURL : String) :
    CallerStep w issuerURL .doChan .run (joinStep w issuerURL).1 (joinStep w issuerURL).2 := by
  unfold joinStep
  cases hg : w.group.lookup issuerURL with
  | none => exact .created hg
  | some flight => exact .joined flight hg

theorem advanceCaller_cases {w w' : Shared} {issuerURL : String} {pc pc' : CallerPc} {act : Act}
    (h : advanceCaller w issuerURL pc act = some (w', pc')) :
    CallerStep w issuerURL pc act w' pc' := by
  cases act with
  | response answer => cases pc <;> cases h
  | ctxDone err =>
      cases pc <;> cases h
      exact .ctxDone _ err
  | run =>
      cases pc with
      | lookup =>
          have hr : lookupStep w issuerURL = (w', pc') := Option.some.inj h
          have hs := lookupStep_step w issuerURL
          rwa [hr] at hs
      | doChan =>
          have hr : joinStep w issuerURL = (w', pc') := Option.some.inj h
          have hs := joinStep_step w issuerURL
          rwa [hr] at hs
      | wait flight =>
          obtain ⟨r, hr, heq⟩ := Option.map_eq_some_iff.mp h
          cases heq
          exact .got flight r hr
      | done r => cases h

theorem recheckStep_step (lib : Library) (w : Shared) (id : ℕ)
    (issuerURL : String) (cfg : Config) :
    FlightStep lib w id issuerURL cfg .recheck .run
      (recheckStep lib w issuerURL cfg).1 (recheckStep lib w issuerURL cfg).2 := by
  unfold recheckStep
  cases hget : w.cache.get issuerURL w.now with
  | mk cache found =>
      have h1 : cache = (w.cache.get issuerURL w.now).1 := by rw [hget]
      have h2 : found = (w.cache.get issuerURL w.now).2 := by rw [hget]
      cases found with
      | some doc => exact h1 ▸ .hit doc h2.symm
      | none =>
          cases he : issuerError lib cfg issuerURL with
          | some e => exact h1 ▸ .refused e he
          | none => exact h1 ▸ .send he

theorem advanceFlight_cases {lib : Library} {w w' : Shared} {id : ℕ}
    {issuerURL : String} {cfg : Config} {pc pc' : FlightPc} {act : Act}
    (h : advanceFlight lib w id issuerURL cfg pc act = some (w', pc')) :
    FlightStep lib w id issuerURL cfg pc act w' pc' := by
  cases act with
  | ctxDone err => cases pc <;> cases h
  | response answer =>
      cases pc with
      | request =>
          simp only [advanceFlight] at h
          cases hv : validate issuerURL answer with
          | ok doc =>
              simp only [hv] at h
              cases h
              exact .accepted answer doc hv
          | error e =>
              simp only [hv] at h
              cases h
              exact .rejected answer e hv
      | _ => cases h
  | run =>
      cases pc with
      | recheck =>
          have hr : recheckStep lib w issuerURL cfg = (w', pc') := Option.some.inj h
          have hs := recheckStep_step lib w id issuerURL cfg
          rwa [hr] at hs
      | request => cases h
      | store doc =>
          cases h
          exact .store doc
      | finish r =>
          cases h
          exact .finish r
      | ended => cases h

/-- Every operation of a goroutine is one of the rules. -/
inductive Advance (lib : Library) (w : Shared) :
    Proc → Act → Shared → Proc → Prop
  | caller {issuerURL : String} {cfg : Config} {pc pc' : CallerPc} {act : Act} {w' : Shared}
      (h : CallerStep w issuerURL pc act w' pc') :
      Advance lib w (.caller issuerURL cfg pc) act w' (.caller issuerURL cfg pc')
  | flight {id : ℕ} {issuerURL : String} {cfg : Config} {pc pc' : FlightPc} {act : Act}
      {w' : Shared} (h : FlightStep lib w id issuerURL cfg pc act w' pc') :
      Advance lib w (.flight id issuerURL cfg pc) act w' (.flight id issuerURL cfg pc')

theorem client_move {lib : Library} {w w' : Shared} {x x' : Proc}
    {e : Event} (h : (client lib).move w x e = some (w', x')) :
    w.now ≤ e.now ∧ Advance lib { w with now := e.now } x e.act w' x' := by
  simp only [client] at h
  split at h
  · rename_i hle
    refine ⟨hle, ?_⟩
    cases x with
    | caller issuerURL cfg pc =>
        obtain ⟨⟨v, pc'⟩, hadv, hr⟩ := Option.map_eq_some_iff.mp h
        cases hr
        exact .caller (advanceCaller_cases hadv)
    | flight id issuerURL cfg pc =>
        obtain ⟨⟨v, pc'⟩, hadv, hr⟩ := Option.map_eq_some_iff.mp h
        cases hr
        exact .flight (advanceFlight_cases hadv)
  · cases h

end IdentityModel.GoDiscovery
