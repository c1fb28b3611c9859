import IdentityModel.TtlCache
import IdentityModel.Tasks

/-!
# The Go JWKS package

`go/pkg/jwks` (cache.go, jwks.go, options.go) as a pool of goroutines over the
package-level cache. A caller runs `FetchKeySet`, `ForceRefresh` or
`ResolveKeyWithRefresh`; a flight runs the function handed to
`singleflight.Group.DoChan`. A caller that misses the cache joins the flight of
its URI or creates one, and every caller that joined receives the flight's
result. Removing a flight from the group and delivering its result is one step,
as it happens under the group's mutex.

Instants and durations are nanosecond counts. `clock` numbers the steps; key sets
carry the step their request was sent at, which the code does not read.
-/
namespace IdentityModel.GoJwks

open Runs Tasks TtlCache

/-- `JSONWebKey`; the parameters kept in `Extra` are read by nothing here. -/
structure JSONWebKey where
  kty : String := ""
  kid : String := ""
  use_ : String := ""
  alg : String := ""
  n : String := ""
  e : String := ""
  crv : String := ""
  x : String := ""
  y : String := ""
  deriving DecidableEq, Repr

/-- The errors of a fetch or a resolution. -/
inductive JwksError
  | parse (err : String)
  | http (statusCode : ℕ) (url : String)
  | httpsRequired (uri : String)
  | emptyKeySet (uri : String)
  | keyNotFound (kid : String)
  | invalidKey (kid reason : String)
  | transport (err : String)
  | context (err : String)
  deriving DecidableEq, Repr

/-- `config`, with the defaults of `newConfig`; negative values never get here. -/
structure Config where
  cacheTTL : ℕ := 24 * 60 * 60 * 1000000000
  allowHTTP : Bool := false
  refreshCooldown : ℕ := 5 * 1000000000
  maxEntries : ℕ := 64
  deriving DecidableEq, Repr

/-- Parsed keys with the step at which their request was sent (ghost). -/
structure Obtained where
  keys : List JSONWebKey
  requestedAt : ℕ
  deriving DecidableEq, Repr

abbrev Cache := TtlCache.Cache String Obtained

/-- `cache.store`. -/
abbrev Cache.store (cfg : Config) (c : Cache) (key : String) (keys : Obtained) (now : ℕ) : Cache :=
  TtlCache.Cache.put cfg.maxEntries c key keys (some (now + cfg.cacheTTL))

/-- `JSONWebKeySet`: a handle on a key set that can be refreshed. -/
structure JSONWebKeySet where
  keys : Obtained
  uri : String
  cfg : Config
  deriving DecidableEq, Repr

/-- `JSONWebKeySet.ResolveKey`. -/
def JSONWebKeySet.resolveKey (s : JSONWebKeySet) (kid : String) : Option JSONWebKey :=
  s.keys.keys.find? fun k => k.kid = kid

/-- `unicode.IsSpace`, as `strings.TrimSpace` uses it. -/
def isSpace (c : Char) : Bool :=
  let n := c.toNat
  (9 ≤ n && n ≤ 13) || n == 0x20 || n == 0x85 || n == 0xA0 || n == 0x1680 ||
    (0x2000 ≤ n && n ≤ 0x200A) || n == 0x2028 || n == 0x2029 || n == 0x202F ||
    n == 0x205F || n == 0x3000

def trimSpace (s : String) : String :=
  String.ofList (((s.toList.dropWhile isSpace).reverse.dropWhile isSpace).reverse)

/-- What is taken from Go's libraries: the scheme that `url.Parse` finds, or its error text, and what
`%q` makes of a string. -/
structure Library where
  urlScheme : String → Except String String
  quote : String → String

/-- The checks `fetchAndParse` makes before its request. -/
def uriError (lib : Library) (cfg : Config) (jwksURI : String) :
    Option JwksError :=
  let uri := trimSpace jwksURI
  if uri = "" then some (.parse "jwks URI is empty")
  else
    match lib.urlScheme uri with
    | .error err => some (.parse ("invalid jwks URI " ++ lib.quote jwksURI ++ ": " ++ err))
    | .ok scheme =>
        if scheme ≠ "https" ∧ ¬ (cfg.allowHTTP ∧ scheme = "http") then some (.httpsRequired jwksURI)
        else none

/-- The calls of the package; a refresh names the handle it is made on. -/
inductive Call
  | fetchKeySet (jwksURI : String) (cfg : Config)
  | forceRefresh (handle : ℕ)
  | resolveKeyWithRefresh (handle : ℕ) (kid : String)
  deriving DecidableEq

/-- Why a fetch runs: for a new handle, or inside a `ForceRefresh` of a handle
that began at some step, on behalf of a `kid` miss or not. -/
inductive Why
  | fetch
  | refresh (handle : ℕ) (kid : Option String) (began : ℕ)
  deriving DecidableEq

def Why.kidMiss : Why → Bool
  | .refresh _ (some _) _ => true
  | _ => false

def Why.began : Why → Option ℕ
  | .fetch => none
  | .refresh _ _ began => some began

inductive Outcome
  | handle (h : ℕ)
  | refreshed
  | key (k : JSONWebKey)
  | error (e : JwksError)
  deriving DecidableEq

/-- The next operation of a caller. -/
inductive CallerPc
  | resolve (handle : ℕ) (kid : String)
  | throttle (handle : ℕ) (kid : String)
  | invalidate (handle : ℕ) (kid : Option String) (began : ℕ)
  | lookup (why : Why)
  | doChan (why : Why)
  | wait (why : Why) (flight : ℕ)
  | mark (handle : ℕ) (kid : Option String) (began : ℕ) (keys : Obtained)
  | assign (handle : ℕ) (kid : Option String) (began : ℕ) (keys : Obtained)
  | retry (handle : ℕ) (kid : String)
  | done (out : Outcome)
  deriving DecidableEq

abbrev Result := Except JwksError Obtained

/-- The next operation of a flight. -/
inductive FlightPc
  | recheck
  | request (started : ℕ)
  | store (keys : Obtained)
  | finish (r : Result)
  | ended
  deriving DecidableEq

/-- A goroutine: a caller on `uri` with its configuration, or a flight with its
number, its URI, and the configuration of the caller that created it. -/
inductive Proc
  | caller (uri : String) (cfg : Config) (pc : CallerPc)
  | flight (id : ℕ) (uri : String) (cfg : Config) (kidMiss : Bool) (pc : FlightPc)
  deriving DecidableEq

structure Request where
  uri : String
  at_ : ℕ
  kidMiss : Bool
  deriving DecidableEq

/-- A `ForceRefresh` that returned: when it began, when the request behind its
keys was sent, and the same for the keys the cache holds at that moment. -/
structure Refreshed where
  uri : String
  began : ℕ
  got : ℕ
  cached : Option ℕ
  deriving DecidableEq

structure Shared where
  cache : Cache
  /-- The flights that may be joined, by URI. -/
  group : Dict String ℕ
  nextFlight : ℕ
  /-- The results delivered. -/
  results : Dict ℕ Result
  handles : List JSONWebKeySet
  now : ℕ
  clock : ℕ
  /-- Requests sent, newest first. -/
  requests : List Request
  /-- Forced refreshes that returned, newest first. -/
  refreshed : List Refreshed

/-- A goroutine runs, a request is answered, or the context of a waiting caller
is done. -/
inductive Act
  | run
  | response (answer : Except JwksError (List JSONWebKey))
  | ctxDone (err : String)

structure Event where
  now : ℕ
  act : Act

abbrev State := Pool Shared Proc

abbrev Label := Tasks.Label Call Event

/-- What a caller does with keys its fetch returned: a new handle for
`FetchKeySet`, the record for `ForceRefresh`. -/
def afterFetch (w : Shared) (uri : String) (cfg : Config) (why : Why) (keys : Obtained) :
    Shared × CallerPc :=
  match why with
  | .fetch => ({ w with handles := w.handles ++ [⟨keys, uri, cfg⟩] }, .done (.handle w.handles.length))
  | .refresh h kid began => (w, .mark h kid began keys)

/-- `cache.fetch` up to the flight. -/
def lookupStep (w : Shared) (uri : String) (cfg : Config) (why : Why) : Shared × CallerPc :=
  match w.cache.get uri w.now with
  | (cache, some keys) => afterFetch { w with cache := cache } uri cfg why keys
  | (cache, none) => ({ w with cache := cache }, .doChan why)

/-- `DoChan`: join the flight of `uri`, or register a new one. -/
def joinStep (w : Shared) (uri : String) (why : Why) : Shared × CallerPc :=
  match w.group.lookup uri with
  | some flight => (w, .wait why flight)
  | none =>
      ({ w with group := w.group.insert uri w.nextFlight, nextFlight := w.nextFlight + 1 },
        .wait why w.nextFlight)

/-- `s.Keys = keys`, after which `ForceRefresh` returns. -/
def assignStep (w : Shared) (uri : String) (h : ℕ) (kid : Option String) (began : ℕ)
    (keys : Obtained) : Shared × CallerPc :=
  ({ w with
      handles := w.handles.modify h fun s => { s with keys := keys }
      refreshed := ⟨uri, began, keys.requestedAt,
        (w.cache.stored uri).map fun held => held.1.requestedAt⟩ :: w.refreshed },
    match kid with
    | none => .done .refreshed
    | some kid => .retry h kid)

/-- `ResolveKey` on a handle: found, or on to `miss`. -/
def resolveStep (w : Shared) (h : ℕ) (kid : String) (miss : CallerPc) : CallerPc :=
  match (w.handles[h]?).bind fun s => s.resolveKey kid with
  | some k => .done (.key k)
  | none => miss

/-- One operation of a caller. -/
def advanceCaller (w : Shared) (uri : String) (cfg : Config) :
    CallerPc → Act → Option (Shared × CallerPc)
  | .resolve h kid, .run => some (w, resolveStep w h kid (.throttle h kid))
  | .throttle h kid, .run =>
      if w.cache.refreshThrottled cfg.refreshCooldown uri w.now then
        some (w, .done (.error (.keyNotFound kid)))
      else some (w, .invalidate h (some kid) w.clock)
  | .invalidate h kid began, .run =>
      some ({ w with cache := w.cache.invalidate uri }, .lookup (.refresh h kid began))
  | .lookup why, .run => some (lookupStep w uri cfg why)
  | .doChan why, .run => some (joinStep w uri why)
  | .wait why flight, .run =>
      match w.results.lookup flight with
      | none => none
      | some (.ok keys) => some (afterFetch w uri cfg why keys)
      | some (.error e) => some (w, .done (.error e))
  | .wait _ _, .ctxDone err => some (w, .done (.error (.context err)))
  | .mark h kid began keys, .run =>
      some ({ w with cache := w.cache.markRefresh cfg.maxEntries uri w.now },
        .assign h kid began keys)
  | .assign h kid began keys, .run => some (assignStep w uri h kid began keys)
  | .retry h kid, .run => some (w, resolveStep w h kid (.done (.error (.keyNotFound kid))))
  | _, _ => none

/-- The second lookup, in the flight; on a miss the request goes out, unless the
URI is refused. -/
def recheckStep (lib : Library) (w : Shared) (uri : String)
    (cfg : Config) (kidMiss : Bool) : Shared × FlightPc :=
  match w.cache.get uri w.now with
  | (cache, some keys) => ({ w with cache := cache }, .finish (.ok keys))
  | (cache, none) =>
      match uriError lib cfg uri with
      | some err => ({ w with cache := cache }, .finish (.error err))
      | none =>
          ({ w with cache := cache, requests := ⟨uri, w.now, kidMiss⟩ :: w.requests },
            .request w.clock)

/-- One operation of a flight. -/
def advanceFlight (lib : Library) (w : Shared) (id : ℕ) (uri : String)
    (cfg : Config) (kidMiss : Bool) : FlightPc → Act → Option (Shared × FlightPc)
  | .recheck, .run => some (recheckStep lib w uri cfg kidMiss)
  | .request started, .response (.ok keys) => some (w, .store ⟨keys, started⟩)
  | .request _, .response (.error e) => some (w, .finish (.error e))
  | .store keys, .run =>
      some ({ w with cache := Cache.store cfg w.cache uri keys w.now }, .finish (.ok keys))
  | .finish r, .run =>
      some ({ w with
        group := if w.group.lookup uri = some id then w.group.erase uri else w.group
        results := w.results.insert id r }, .ended)
  | _, _ => none

def advance (lib : Library) (w : Shared) (x : Proc) (act : Act) :
    Option (Shared × Proc) :=
  match x with
  | .caller uri cfg pc =>
      (advanceCaller w uri cfg pc act).map fun r => (r.1, .caller uri cfg r.2)
  | .flight id uri cfg kidMiss pc =>
      (advanceFlight lib w id uri cfg kidMiss pc act).map fun r =>
        (r.1, .flight id uri cfg kidMiss r.2)

/-- The flight a caller creates when no flight of its URI can be joined. -/
def forkFlight (w : Shared) : Proc → Act → Option Proc
  | .caller uri cfg (.doChan why), .run =>
      match w.group.lookup uri with
      | some _ => none
      | none => some (.flight w.nextFlight uri cfg why.kidMiss .recheck)
  | _, _ => none

/-- The first operation of a call; a handle keeps its URI and configuration. -/
def Call.start (w : Shared) : Call → Option Proc
  | .fetchKeySet jwksURI cfg => some (.caller jwksURI cfg (.lookup .fetch))
  | .forceRefresh h =>
      (w.handles[h]?).map fun s => .caller s.uri s.cfg (.invalidate h none w.clock)
  | .resolveKeyWithRefresh h kid =>
      (w.handles[h]?).map fun s => .caller s.uri s.cfg (.resolve h kid)

/-- The package: calls start at any time, and time never goes back. -/
def client (lib : Library) : Machine Shared Proc Call Event where
  spawn w call := (call.start w).map fun x => ({ w with clock := w.clock + 1 }, x)
  move w x e :=
    if w.now ≤ e.now then
      (advance lib { w with now := e.now } x e.act).map fun r =>
        ({ r.1 with clock := r.1.clock + 1 }, r.2)
    else none
  fork w x e := forkFlight w x e.act

def initial : State :=
  ⟨⟨TtlCache.Cache.new, ∅, 0, ∅, [], 0, 0, [], []⟩, []⟩

abbrev run (lib : Library) : State → List Label → Option State :=
  exec (client lib).step

/-- The operations of a caller as a relation, one rule per outcome. -/
inductive CallerStep (w : Shared) (uri : String) (cfg : Config) :
    CallerPc → Act → Shared → CallerPc → Prop
  | resolved (h : ℕ) (kid : String) (k : JSONWebKey) :
      CallerStep w uri cfg (.resolve h kid) .run w (.done (.key k))
  | missed (h : ℕ) (kid : String) :
      CallerStep w uri cfg (.resolve h kid) .run w (.throttle h kid)
  | throttled (h : ℕ) (kid : String)
      (ht : w.cache.refreshThrottled cfg.refreshCooldown uri w.now = true) :
      CallerStep w uri cfg (.throttle h kid) .run w (.done (.error (.keyNotFound kid)))
  | passed (h : ℕ) (kid : String)
      (ht : w.cache.refreshThrottled cfg.refreshCooldown uri w.now = false) :
      CallerStep w uri cfg (.throttle h kid) .run w (.invalidate h (some kid) w.clock)
  | invalidate (h : ℕ) (kid : Option String) (began : ℕ) :
      CallerStep w uri cfg (.invalidate h kid began) .run
        { w with cache := w.cache.invalidate uri } (.lookup (.refresh h kid began))
  | hitFetch (keys : Obtained) (hget : (w.cache.get uri w.now).2 = some keys) :
      CallerStep w uri cfg (.lookup .fetch) .run
        { w with
          cache := (w.cache.get uri w.now).1
          handles := w.handles ++ [⟨keys, uri, cfg⟩] } (.done (.handle w.handles.length))
  | hitRefresh (h : ℕ) (kid : Option String) (began : ℕ) (keys : Obtained)
      (hget : (w.cache.get uri w.now).2 = some keys) :
      CallerStep w uri cfg (.lookup (.refresh h kid began)) .run
        { w with cache := (w.cache.get uri w.now).1 } (.mark h kid began keys)
  | miss (why : Why) (hget : (w.cache.get uri w.now).2 = none) :
      CallerStep w uri cfg (.lookup why) .run
        { w with cache := (w.cache.get uri w.now).1 } (.doChan why)
  | joined (why : Why) (flight : ℕ) (hg : w.group.lookup uri = some flight) :
      CallerStep w uri cfg (.doChan why) .run w (.wait why flight)
  | created (why : Why) (hg : w.group.lookup uri = none) :
      CallerStep w uri cfg (.doChan why) .run
        { w with group := w.group.insert uri w.nextFlight, nextFlight := w.nextFlight + 1 }
        (.wait why w.nextFlight)
  | gotFetch (flight : ℕ) (keys : Obtained) (hr : w.results.lookup flight = some (.ok keys)) :
      CallerStep w uri cfg (.wait .fetch flight) .run
        { w with handles := w.handles ++ [⟨keys, uri, cfg⟩] } (.done (.handle w.handles.length))
  | gotRefresh (h : ℕ) (kid : Option String) (began flight : ℕ) (keys : Obtained)
      (hr : w.results.lookup flight = some (.ok keys)) :
      CallerStep w uri cfg (.wait (.refresh h kid began) flight) .run w (.mark h kid began keys)
  | gotError (why : Why) (flight : ℕ) (e : JwksError)
      (hr : w.results.lookup flight = some (.error e)) :
      CallerStep w uri cfg (.wait why flight) .run w (.done (.error e))
  | ctxDone (why : Why) (flight : ℕ) (err : String) :
      CallerStep w uri cfg (.wait why flight) (.ctxDone err) w (.done (.error (.context err)))
  | mark (h : ℕ) (kid : Option String) (began : ℕ) (keys : Obtained) :
      CallerStep w uri cfg (.mark h kid began keys) .run
        { w with cache := w.cache.markRefresh cfg.maxEntries uri w.now } (.assign h kid began keys)
  | assign (h : ℕ) (kid : Option String) (began : ℕ) (keys : Obtained) :
      CallerStep w uri cfg (.assign h kid began keys) .run (assignStep w uri h kid began keys).1
        (assignStep w uri h kid began keys).2
  | retried (h : ℕ) (kid : String) (out : Outcome)
      (hout : (∃ k, out = .key k) ∨ out = .error (.keyNotFound kid)) :
      CallerStep w uri cfg (.retry h kid) .run w (.done out)

/-- The operations of a flight as a relation. -/
inductive FlightStep (lib : Library) (w : Shared) (id : ℕ)
    (uri : String) (cfg : Config) (kidMiss : Bool) :
    FlightPc → Act → Shared → FlightPc → Prop
  | hit (keys : Obtained) (hget : (w.cache.get uri w.now).2 = some keys) :
      FlightStep lib w id uri cfg kidMiss .recheck .run
        { w with cache := (w.cache.get uri w.now).1 } (.finish (.ok keys))
  | refused (e : JwksError) (he : uriError lib cfg uri = some e) :
      FlightStep lib w id uri cfg kidMiss .recheck .run
        { w with cache := (w.cache.get uri w.now).1 } (.finish (.error e))
  | send (he : uriError lib cfg uri = none) :
      FlightStep lib w id uri cfg kidMiss .recheck .run
        { w with
          cache := (w.cache.get uri w.now).1
          requests := ⟨uri, w.now, kidMiss⟩ :: w.requests } (.request w.clock)
  | answered (started : ℕ) (keys : List JSONWebKey) :
      FlightStep lib w id uri cfg kidMiss (.request started) (.response (.ok keys)) w
        (.store ⟨keys, started⟩)
  | failed (started : ℕ) (e : JwksError) :
      FlightStep lib w id uri cfg kidMiss (.request started) (.response (.error e)) w
        (.finish (.error e))
  | store (keys : Obtained) :
      FlightStep lib w id uri cfg kidMiss (.store keys) .run
        { w with cache := Cache.store cfg w.cache uri keys w.now } (.finish (.ok keys))
  | finish (r : Result) :
      FlightStep lib w id uri cfg kidMiss (.finish r) .run
        { w with
          group := if w.group.lookup uri = some id then w.group.erase uri else w.group
          results := w.results.insert id r } .ended

theorem resolveStep_cases (w : Shared) (h : ℕ) (kid : String) (miss : CallerPc) :
    (∃ k, resolveStep w h kid miss = .done (.key k)) ∨ resolveStep w h kid miss = miss := by
  unfold resolveStep
  split
  · exact .inl ⟨_, rfl⟩
  · exact .inr rfl

theorem lookupStep_step (w : Shared) (uri : String) (cfg : Config) (why : Why) :
    CallerStep w uri cfg (.lookup why) .run (lookupStep w uri cfg why).1
      (lookupStep w uri cfg why).2 := by
  unfold lookupStep
  cases hget : w.cache.get uri w.now with
  | mk cache found =>
      have h1 : cache = (w.cache.get uri w.now).1 := by rw [hget]
      have h2 : found = (w.cache.get uri w.now).2 := by rw [hget]
      cases found with
      | none => exact h1 ▸ .miss why h2.symm
      | some keys =>
          cases why with
          | fetch => exact h1 ▸ .hitFetch keys h2.symm
          | refresh h kid began => exact h1 ▸ .hitRefresh h kid began keys h2.symm

theorem joinStep_step (w : Shared) (uri : String) (cfg : Config) (why : Why) :
    CallerStep w uri cfg (.doChan why) .run (joinStep w uri why).1 (joinStep w uri why).2 := by
  unfold joinStep
  cases hg : w.group.lookup uri with
  | none => exact .created why hg
  | some flight => exact .joined why flight hg

theorem advanceCaller_cases {w w' : Shared} {uri : String} {cfg : Config} {pc pc' : CallerPc}
    {act : Act} (h : advanceCaller w uri cfg pc act = some (w', pc')) :
    CallerStep w uri cfg pc act w' pc' := by
  cases act with
  | response answer => cases pc <;> cases h
  | ctxDone err =>
      cases pc <;> cases h
      exact .ctxDone _ _ err
  | run =>
      cases pc with
      | resolve hd kid =>
          cases h
          obtain ⟨k, hk⟩ | hk := resolveStep_cases w hd kid (.throttle hd kid)
          · rw [hk]
            exact .resolved hd kid k
          · rw [hk]
            exact .missed hd kid
      | throttle hd kid =>
          simp only [advanceCaller] at h
          split at h
          · rename_i ht
            cases h
            exact .throttled hd kid ht
          · rename_i ht
            cases h
            exact .passed hd kid (Bool.eq_false_iff.mpr ht)
      | invalidate hd kid began =>
          cases h
          exact .invalidate hd kid began
      | lookup why =>
          have hr : lookupStep w uri cfg why = (w', pc') := Option.some.inj h
          have hs := lookupStep_step w uri cfg why
          rwa [hr] at hs
      | doChan why =>
          have hr : joinStep w uri why = (w', pc') := Option.some.inj h
          have hs := joinStep_step w uri cfg why
          rwa [hr] at hs
      | wait why flight =>
          simp only [advanceCaller] at h
          split at h
          · cases h
          · rename_i keys hres
            cases why with
            | fetch =>
                cases h
                exact .gotFetch flight keys hres
            | refresh hd kid began =>
                cases h
                exact .gotRefresh hd kid began flight keys hres
          · rename_i e hres
            cases h
            exact .gotError why flight e hres
      | mark hd kid began keys =>
          cases h
          exact .mark hd kid began keys
      | assign hd kid began keys =>
          cases h
          exact .assign hd kid began keys
      | retry hd kid =>
          cases h
          obtain ⟨k, hk⟩ | hk := resolveStep_cases w hd kid (.done (.error (.keyNotFound kid)))
          · rw [hk]
            exact .retried hd kid _ (.inl ⟨k, rfl⟩)
          · rw [hk]
            exact .retried hd kid _ (.inr rfl)
      | done out => cases h

theorem recheckStep_step (lib : Library) (w : Shared) (id : ℕ)
    (uri : String) (cfg : Config) (kidMiss : Bool) :
    FlightStep lib w id uri cfg kidMiss .recheck .run
      (recheckStep lib w uri cfg kidMiss).1 (recheckStep lib w uri cfg kidMiss).2 := by
  unfold recheckStep
  cases hget : w.cache.get uri w.now with
  | mk cache found =>
      have h1 : cache = (w.cache.get uri w.now).1 := by rw [hget]
      have h2 : found = (w.cache.get uri w.now).2 := by rw [hget]
      cases found with
      | some keys => exact h1 ▸ .hit keys h2.symm
      | none =>
          cases he : uriError lib cfg uri with
          | some e => exact h1 ▸ .refused e he
          | none => exact h1 ▸ .send he

theorem advanceFlight_cases {lib : Library} {w w' : Shared} {id : ℕ}
    {uri : String} {cfg : Config} {kidMiss : Bool} {pc pc' : FlightPc} {act : Act}
    (h : advanceFlight lib w id uri cfg kidMiss pc act = some (w', pc')) :
    FlightStep lib w id uri cfg kidMiss pc act w' pc' := by
  cases act with
  | ctxDone err => cases pc <;> cases h
  | response answer =>
      cases pc <;> cases answer <;> cases h
      · exact .failed _ _
      · exact .answered _ _
  | run =>
      cases pc with
      | recheck =>
          have hr : recheckStep lib w uri cfg kidMiss = (w', pc') := Option.some.inj h
          have hs := recheckStep_step lib w id uri cfg kidMiss
          rwa [hr] at hs
      | request started => cases h
      | store keys =>
          cases h
          exact .store keys
      | finish r =>
          cases h
          exact .finish r
      | ended => cases h

/-- Every operation of a goroutine is one of the rules. -/
inductive Advance (lib : Library) (w : Shared) :
    Proc → Act → Shared → Proc → Prop
  | caller {uri : String} {cfg : Config} {pc pc' : CallerPc} {act : Act} {w' : Shared}
      (h : CallerStep w uri cfg pc act w' pc') :
      Advance lib w (.caller uri cfg pc) act w' (.caller uri cfg pc')
  | flight {id : ℕ} {uri : String} {cfg : Config} {kidMiss : Bool} {pc pc' : FlightPc} {act : Act}
      {w' : Shared} (h : FlightStep lib w id uri cfg kidMiss pc act w' pc') :
      Advance lib w (.flight id uri cfg kidMiss pc) act w' (.flight id uri cfg kidMiss pc')

theorem advance_cases {lib : Library} {w w' : Shared} {x x' : Proc}
    {act : Act} (h : advance lib w x act = some (w', x')) :
    Advance lib w x act w' x' := by
  cases x with
  | caller uri cfg pc =>
      obtain ⟨⟨v, pc'⟩, hadv, hr⟩ := Option.map_eq_some_iff.mp h
      cases hr
      exact .caller (advanceCaller_cases hadv)
  | flight id uri cfg kidMiss pc =>
      obtain ⟨⟨v, pc'⟩, hadv, hr⟩ := Option.map_eq_some_iff.mp h
      cases hr
      exact .flight (advanceFlight_cases hadv)

theorem client_move {lib : Library} {w w' : Shared} {x x' : Proc}
    {e : Event} (h : (client lib).move w x e = some (w', x')) :
    w.now ≤ e.now ∧ ∃ v, Advance lib { w with now := e.now } x e.act v x' ∧
      w' = { v with clock := v.clock + 1 } := by
  simp only [client] at h
  split at h
  · rename_i hle
    obtain ⟨⟨v, y⟩, hadv, hr⟩ := Option.map_eq_some_iff.mp h
    cases hr
    exact ⟨hle, v, advance_cases hadv, rfl⟩
  · cases h

theorem client_spawn {lib : Library} {w w' : Shared} {call : Call}
    {x : Proc} (h : (client lib).spawn w call = some (w', x)) :
    call.start w = some x ∧ w' = { w with clock := w.clock + 1 } := by
  obtain ⟨y, hy, hr⟩ := Option.map_eq_some_iff.mp h
  cases hr
  exact ⟨hy, rfl⟩

/-- A fork is the flight of a caller that found none to join. -/
theorem client_fork {lib : Library} {w : Shared} {x z : Proc}
    {e : Event} (h : (client lib).fork w x e = some z) :
    ∃ uri cfg why, x = .caller uri cfg (.doChan why) ∧ w.group.lookup uri = none ∧
      z = .flight w.nextFlight uri cfg why.kidMiss .recheck := by
  simp only [client, forkFlight] at h
  split at h
  · split at h
    · cases h
    · rename_i hg
      cases h
      exact ⟨_, _, _, rfl, hg, rfl⟩
  · cases h

end IdentityModel.GoJwks
