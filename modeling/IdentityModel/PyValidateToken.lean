import IdentityModel.PyJwksCache
import IdentityModel.PyPolicy
import IdentityModel.PyTokenLogic
import IdentityModel.Tasks

/-!
# The cached token validation in Python

`sync/token_validation.py` and `aio/token_validation.py` as a pool of calls over
the module-level caches. The two modules take the same steps, except that the
asynchronous one looks at an address again once its answer is there
(`Runtime.countingError`); a thread may be interrupted between any two steps, a
coroutine only where it awaits a lock or an answer (`Pc.suspended`). A program
counter names the next operation on shared state; a critical section under a
write lock is one operation, and a fetch lock is released with the last operation
made under it. Fetch locks are striped by hash. What PyJWT decodes, it decodes at
the time of the operation.

The log is a ghost: it records the answers of the providers as they reach the
caches, the forced refreshes and those that end in an exception, the retries that
succeed, evictions and clears.
-/
namespace IdentityModel.Py

open Runs Tasks

/-- What a process is given: its environment, PyJWT, the module in use, the
hashes of cache keys and the platform. -/
structure Runtime where
  env : Env
  pyjwt : PyJwt
  flavour : Flavour
  hashUri : String → ℕ
  hashKey : DiscoKey → ℕ
  platform : Url.Platform := Url.asciiPlatform

/-- The process when the clock reads this. -/
def Runtime.at (rt : Runtime) (now : ℚ) : Runtime := { rt with pyjwt := rt.pyjwt.at now }

/-- The exception the asynchronous module lets through when it counts a fetch. -/
def Runtime.countingError (rt : Runtime) (address : String) (policy : DiscoveryPolicy) :
    Option PyError :=
  match rt.flavour with
  | .sync => none
  | .aio =>
      match upstreamFetchAttempted rt.platform address policy with
      | .ok _ => none
      | .error e => some (.other e)

def lockStripes : ℕ := 32

/-- `_get_jwks_fetch_lock`. -/
def Runtime.jwksLock (rt : Runtime) (jwksUri : String) : ℕ := rt.hashUri jwksUri % lockStripes

/-- `_get_disco_fetch_lock`. -/
def Runtime.discoLock (rt : Runtime) (cacheKey : DiscoKey) : ℕ := rt.hashKey cacheKey % lockStripes

inductive Call
  | validateToken (jwt : String) (config : TokenValidationConfig) (discoDocAddress : Option String)
  | clearJwksCache
  | clearDiscoveryCache

/-- A validation in discovery mode: its arguments and the resolved policy. -/
structure Request where
  jwt : String
  config : TokenValidationConfig
  address : String
  policy : DiscoveryPolicy

def Request.discoKey (req : Request) : DiscoKey := (req.address, req.policy.cacheKey)

/-- A discovery response that passed its checks, with its `jwks_uri`. -/
structure Disco where
  doc : DiscoveryDocumentResponse
  uri : String

/-- Why keys are refreshed: the `kid` is not in the cached set, or the signature
did not verify. -/
inductive Why
  | kidMiss (kid : String) (header : Header) (cached : JwksResponse)
  | retry

abbrev Result := Except PyError Claims

/-- The next operation of a validation. -/
inductive Pc
  | discoRead
  | discoTouch (response : DiscoveryDocumentResponse) (locked : Bool)
  | discoWait
  | discoRecheck
  | discoFetch
  | discoWrite (response : DiscoveryDocumentResponse)
  | jwksRead (d : Disco)
  | jwksTouch (d : Disco) (response : JwksResponse) (locked : Bool)
  | jwksWait (d : Disco)
  | jwksRecheck (d : Disco)
  | jwksFetch (d : Disco)
  | jwksWrite (d : Disco) (response : JwksResponse)
  | gate (d : Disco) (why : Why)
  | gateCheck (d : Disco) (why : Why) (now : ℚ)
  | refreshWait (d : Disco) (why : Why)
  | refreshCheck (d : Disco) (why : Why)
  | refreshFetch (d : Disco) (why : Why)
  | refreshWrite (d : Disco) (why : Why) (response : JwksResponse)
  | settle (d : Disco) (stamp : Bool) (next : Pc)
  | done (result : Result)

/-- A call in progress. -/
inductive Task
  | token (req : Request) (pc : Pc)
  | clearJwks (done : Bool)
  | clearDisco (done : Bool)

/-- What a key set was asked for. -/
inductive Purpose
  | fetch
  | kidMiss (kid : String)
  | retry
  deriving DecidableEq, Repr

def Why.purpose : Why → Purpose
  | .kidMiss kid _ _ => .kidMiss kid
  | .retry => .retry

/-- Ghost events. -/
inductive LogEvent
  | discovery (cacheKey : DiscoKey) (response : DiscoveryDocumentResponse)
  | keys (jwksUri : String) (purpose : Purpose) (response : JwksResponse)
  | refreshStart (jwksUri : String) (at_ : ℚ)
  | retryDecoded (jwksUri : String)
  | evicted (jwksUri : String)
  | cleared
  deriving DecidableEq

structure Shared where
  disco : DiscoCache
  jwks : JwksCache
  /-- `_kid_miss_last_attempt`. -/
  lastAttempt : Dict String ℚ
  /-- The stripes whose fetch lock is held. -/
  discoHeld : List ℕ
  jwksHeld : List ℕ
  now : ℚ
  /-- Newest first. -/
  log : List LogEvent

/-- A call runs on, or the answer it waits for arrives. -/
inductive Act
  | run
  | discovery (answer : DiscoveryAnswer)
  | keys (response : JwksResponse)

structure Event where
  now : ℚ
  act : Act

abbrev State := Pool Shared Task

abbrev Label := Tasks.Label Call Event

section Pure

variable (rt : Runtime) (req : Request)

/-- The end of `validate_token`: the claims validator has the last word. -/
def finish : Result → Pc
  | .error e => .done (.error e)
  | .ok decoded =>
      match validateClaims rt.flavour req.config decoded with
      | some e => .done (.error e)
      | none => .done (.ok decoded)

/-- The first attempt: only a failed signature leads to the retry. -/
def attempt (d : Disco) (header : Header) (keys : List JsonWebKey) : Pc :=
  match resolveAndDecode rt.pyjwt req.jwt req.config header keys d.doc.issuer with
  | .ok decoded => finish rt req (.ok decoded)
  | .error e => if e.isSignatureVerification then .gate d .retry else .done (.error e)

/-- The second attempt, with refreshed keys. -/
def retryDecode (d : Disco) (keys : List JsonWebKey) : Result :=
  match rt.pyjwt.header req.jwt with
  | .error e => .error e
  | .ok header => resolveAndDecode rt.pyjwt req.jwt req.config header keys d.doc.issuer

/-- What a call with a `jwks_uri` that is no string ends with, without a trace in the caches. It
is no key of a cache, or it has no hash and cannot be looked up. In the first case `get_jwks` fails
to parse it; the asynchronous module then does so again to count the fetch. -/
def mistypedJwksUri : Json → PyError
  | .arr _ => .other "unhashable type: 'list'"
  | .obj _ => .other "unhashable type: 'dict'"
  | uri =>
      let text := "'" ++ typeName uri ++ "' object has no attribute 'decode'"
      match rt.flavour with
      | .sync => .tokenValidation ("Unhandled exception during JWKS request: " ++ text)
      | .aio => .other text

def afterDisco (response : DiscoveryDocumentResponse) : Pc :=
  match validateDiscoResponse response with
  | some e => .done (.error e)
  | none =>
      match validateJwksUri response with
      | .error e => .done (.error e)
      | .ok (.str uri) => .jwksRead ⟨response, uri⟩
      | .ok uri => .done (.error (mistypedJwksUri rt uri))

/-- `any(k.kid == kid for k in keys)`. -/
def hasKid (keys : List JsonWebKey) (kid : String) : Bool := keys.any fun k => k.kid = some kid

def afterJwks (d : Disco) (response : JwksResponse) : Pc :=
  match validateJwksResponse response with
  | some e => .done (.error e)
  | none =>
      match rt.pyjwt.header req.jwt with
      | .error e => .done (.error e)
      | .ok header =>
          match header.kid with
          | none => attempt rt req d header response.keyList
          | some kid =>
              if hasKid response.keyList kid then attempt rt req d header response.keyList
              else .gate d (.kidMiss kid header response)

/-- What the caller of `_refresh_jwks` does with its result. -/
def afterRefresh (d : Disco) (why : Why) (response : JwksResponse) (retained : Bool) : Pc :=
  match why with
  | .kidMiss kid header _ =>
      match validateJwksResponse response with
      | none =>
          let next := attempt rt req d header response.keyList
          if retained then next else .settle d (!hasKid response.keyList kid) next
      | some e =>
          if response.isSuccessful && !retained then .settle d true (.done (.error e))
          else .done (.error e)
  | .retry =>
      match validateJwksResponse response with
      | some e => .done (.error e)
      | none =>
          let r := retryDecode rt req d response.keyList
          if retained then finish rt req r else .settle d (!r.isOk) (finish rt req r)

/-- A gate that stays closed. -/
def afterBlocked (d : Disco) (why : Why) : Pc :=
  match why with
  | .kidMiss _ header cached => attempt rt req d header cached.keyList
  | .retry =>
      .done (.error (.signatureVerification
        "Signature verification failed; refresh cooldown active"))

/-- `has_cached_keys` of the gate. -/
def Why.hasCachedKeys : Why → Bool
  | .kidMiss _ _ cached => cached.keyList ≠ []
  | .retry => true

end Pure

/-- A call that has tried its keys returns, or comes to its gate for a retry. -/
inductive Tried (d : Disco) : Pc → Prop
  | done (result : Result) : Tried d (.done result)
  | retry : Tried d (.gate d .retry)

/-- A call with its keys at hand returns or comes to its gate. -/
inductive Landing (d : Disco) : Pc → Prop
  | done (result : Result) : Landing d (.done result)
  | gate (why : Why) : Landing d (.gate d why)

section Landing

variable (rt : Runtime) (req : Request) (d : Disco)

theorem finish_done (r : Result) : ∃ result, finish rt req r = .done result := by
  unfold finish
  split
  · exact ⟨_, rfl⟩
  · split <;> exact ⟨_, rfl⟩

theorem finish_tried (r : Result) : Tried d (finish rt req r) := by
  obtain ⟨result, hr⟩ := finish_done rt req r
  rw [hr]
  exact .done result

theorem attempt_tried (header : Header) (keys : List JsonWebKey) :
    Tried d (attempt rt req d header keys) := by
  unfold attempt
  split
  · exact finish_tried rt req d _
  · split
    · exact .retry
    · exact .done _

theorem afterBlocked_tried (why : Why) : Tried d (afterBlocked rt req d why) := by
  cases why with
  | kidMiss kid header cached => exact attempt_tried rt req d _ _
  | retry => exact .done _

/-- A refresh leads on at once, or by way of its settlement. -/
theorem afterRefresh_tried (why : Why) (response : JwksResponse) (retained : Bool) :
    Tried d (afterRefresh rt req d why response retained) ∨
      ∃ stamp next, afterRefresh rt req d why response retained = .settle d stamp next ∧
        Tried d next := by
  cases why with
  | kidMiss kid header cached =>
      simp only [afterRefresh]
      split
      · split
        · exact .inl (attempt_tried rt req d _ _)
        · exact .inr ⟨_, _, rfl, attempt_tried rt req d _ _⟩
      · split
        · exact .inr ⟨_, _, rfl, .done _⟩
        · exact .inl (.done _)
  | retry =>
      simp only [afterRefresh]
      split
      · exact .inl (.done _)
      · split
        · exact .inl (finish_tried rt req d _)
        · exact .inr ⟨_, _, rfl, finish_tried rt req d _⟩

theorem Tried.landing {d : Disco} {pc : Pc} (h : Tried d pc) : Landing d pc := by
  cases h with
  | done result => exact .done result
  | retry => exact .gate .retry

/-- After discovery the call has failed, or goes on with the `jwks_uri` of the document. -/
theorem afterDisco_cases (response : DiscoveryDocumentResponse) :
    (∃ e, afterDisco rt response = .done (.error e)) ∨
      ∃ uri, afterDisco rt response = .jwksRead ⟨response, uri⟩ ∧ response.isSuccessful = true ∧
        response.jwksUri = some (.str uri) ∧ uri ≠ "" := by
  unfold afterDisco
  cases hdisco : validateDiscoResponse response with
  | some e => exact .inl ⟨e, rfl⟩
  | none =>
      have hsuccess : response.isSuccessful = true := by
        unfold validateDiscoResponse at hdisco
        split at hdisco
        · assumption
        · cases hdisco
      unfold validateJwksUri
      by_cases htruthy : isTruthy (response.jwksUri.getD .null) = true
      · rw [if_pos htruthy]
        cases huri : response.jwksUri with
        | none =>
            rw [huri] at htruthy
            cases htruthy
        | some j =>
            rw [huri] at htruthy
            cases j with
            | str uri => exact .inr ⟨uri, rfl, hsuccess, rfl, by simpa [isTruthy] using htruthy⟩
            | _ => exact .inl ⟨_, rfl⟩
      · rw [if_neg htruthy]
        exact .inl ⟨_, rfl⟩

theorem afterDisco_landing (response : DiscoveryDocumentResponse) :
    (∃ result, afterDisco rt response = .done result) ∨ ∃ d, afterDisco rt response = .jwksRead d := by
  obtain ⟨e, he⟩ | ⟨uri, huri, -⟩ := afterDisco_cases rt response
  · exact .inl ⟨_, he⟩
  · exact .inr ⟨_, huri⟩

theorem afterJwks_landing (response : JwksResponse) : Landing d (afterJwks rt req d response) := by
  unfold afterJwks
  split
  · exact .done _
  · split
    · exact .done _
    · split
      · exact (attempt_tried rt req d _ _).landing
      · split
        · exact (attempt_tried rt req d _ _).landing
        · exact .gate _

theorem afterBlocked_landing (why : Why) : Landing d (afterBlocked rt req d why) :=
  (afterBlocked_tried rt req d why).landing

theorem afterRefresh_landing (why : Why) (response : JwksResponse) (retained : Bool) :
    Landing d (afterRefresh rt req d why response retained) ∨
      ∃ stamp next, afterRefresh rt req d why response retained = .settle d stamp next ∧
        Landing d next := by
  obtain h | ⟨stamp, next, heq, h⟩ := afterRefresh_tried rt req d why response retained
  · exact .inl h.landing
  · exact .inr ⟨stamp, next, heq, h.landing⟩

end Landing

section Operations

variable (rt : Runtime) (w : Shared) (req : Request)

/-- The response of a fresh entry. -/
def freshResponse {ρ : Type*} (entry : Option (CacheEntry ρ)) (now : ℚ) : Option ρ :=
  match entry with
  | some e => if e.isExpired now then none else some e.response
  | none => none

def release (lock : ℕ) (held : List ℕ) : List ℕ := held.filter fun l => l ≠ lock

/-- A cache write for a JWKS answer; the answer and the evictions are logged. -/
def writeJwks (jwksUri : String) (purpose : Purpose) (response : JwksResponse) : Shared :=
  let r := applyJwksCacheOutcome rt.env w.jwks w.lastAttempt jwksUri response w.now
  { w with
    jwks := r.1
    lastAttempt := r.2.1
    log := r.2.2.map LogEvent.evicted ++ .keys jwksUri purpose response :: w.log }

/-- What `_refresh_jwks` returns for its answer: on a successful empty one, the
retained entry. -/
def surfaced (w : Shared) (jwksUri : String) (response : JwksResponse) : JwksResponse × Bool :=
  if response.isSuccessful && response.keyList = [] then
    match w.jwks.lookup jwksUri with
    | some entry =>
        if entry.response.keyList ≠ [] then (entry.response, true) else (response, false)
    | none => (response, false)
  else (response, false)

/-- The ghost event of a retry whose decode succeeds. -/
def retryEvents (d : Disco) (why : Why) (response : JwksResponse) : List LogEvent :=
  match why with
  | .kidMiss .. => []
  | .retry =>
      if validateJwksResponse response = none ∧ (retryDecode rt req d response.keyList).isOk = true
      then [.retryDecoded d.uri] else []

def refreshWriteStep (d : Disco) (why : Why) (response : JwksResponse) : Shared × Pc :=
  let w' := writeJwks rt w d.uri why.purpose response
  let s := surfaced w' d.uri response
  ({ w' with
      jwksHeld := release (rt.jwksLock d.uri) w'.jwksHeld
      log := retryEvents rt req d why s.1 ++ w'.log },
    afterRefresh rt req d why s.1 s.2)

/-- What `get_jwks` answers for an exception it does not know. -/
def unhandledJwks (e : PyError) : JwksResponse :=
  { isSuccessful := false, error := some ("Unhandled exception during JWKS request: " ++ e.message) }

/-- `_refresh_jwks` under the fetch lock, up to its request. -/
def refreshCheckStep (d : Disco) (why : Why) : Shared × Pc :=
  let send : Shared × Pc :=
    ({ w with log := .refreshStart d.uri w.now :: w.log }, .refreshFetch d why)
  match w.jwks.lookup d.uri with
  | some entry =>
      if w.now ≤ entry.cachedAt then
        ({ w with jwksHeld := release (rt.jwksLock d.uri) w.jwksHeld },
          afterRefresh rt req d why entry.response false)
      else send
  | none => send

/-- One operation of a validation. -/
def advance : Pc → Act → Option (Shared × Pc)
  | .discoRead, .run =>
      match freshResponse (w.disco.lookup req.discoKey) w.now with
      | some response => some (w, .discoTouch response false)
      | none => some (w, .discoWait)
  | .discoTouch response locked, .run =>
      some ({ w with
        disco := touchCacheEntry w.disco req.discoKey
        discoHeld := if locked then release (rt.discoLock req.discoKey) w.discoHeld
          else w.discoHeld }, afterDisco rt response)
  | .discoWait, .run =>
      if rt.discoLock req.discoKey ∈ w.discoHeld then none
      else some ({ w with discoHeld := rt.discoLock req.discoKey :: w.discoHeld }, .discoRecheck)
  | .discoRecheck, .run =>
      match freshResponse (w.disco.lookup req.discoKey) w.now with
      | some response => some (w, .discoTouch response true)
      | none => some (w, .discoFetch)
  | .discoFetch, .discovery answer =>
      match rt.countingError req.address req.policy with
      | none => some (w, .discoWrite (processDiscoveryResponse answer))
      | some e =>
          some ({ w with discoHeld := release (rt.discoLock req.discoKey) w.discoHeld },
            .done (.error e))
  | .discoWrite response, .run =>
      some ({ w with
        disco := applyDiscoCacheOutcome rt.env w.disco req.discoKey response w.now
        discoHeld := release (rt.discoLock req.discoKey) w.discoHeld
        log := .discovery req.discoKey response :: w.log }, afterDisco rt response)
  | .jwksRead d, .run =>
      match freshResponse (w.jwks.lookup d.uri) w.now with
      | some response => some (w, .jwksTouch d response false)
      | none => some (w, .jwksWait d)
  | .jwksTouch d response locked, .run =>
      some ({ w with
        jwks := touchCacheEntry w.jwks d.uri
        jwksHeld := if locked then release (rt.jwksLock d.uri) w.jwksHeld else w.jwksHeld },
        afterJwks rt req d response)
  | .jwksWait d, .run =>
      if rt.jwksLock d.uri ∈ w.jwksHeld then none
      else some ({ w with jwksHeld := rt.jwksLock d.uri :: w.jwksHeld }, .jwksRecheck d)
  | .jwksRecheck d, .run =>
      match freshResponse (w.jwks.lookup d.uri) w.now with
      | some response => some (w, .jwksTouch d response true)
      | none => some (w, .jwksFetch d)
  | .jwksFetch d, .keys response =>
      match rt.countingError d.uri req.policy with
      | none => some (w, .jwksWrite d response)
      | some e =>
          some ({ w with jwksHeld := release (rt.jwksLock d.uri) w.jwksHeld }, .done (.error e))
  | .jwksWrite d response, .run =>
      let w' := writeJwks rt w d.uri .fetch response
      some ({ w' with jwksHeld := release (rt.jwksLock d.uri) w'.jwksHeld },
        afterJwks rt req d response)
  | .gate d why, .run => some (w, .gateCheck d why w.now)
  | .gateCheck d why now, .run =>
      if shouldAttemptKidMissRefresh rt.env w.lastAttempt d.uri why.hasCachedKeys now then
        some (w, .refreshWait d why)
      else some (w, afterBlocked rt req d why)
  | .refreshWait d why, .run =>
      if rt.jwksLock d.uri ∈ w.jwksHeld then none
      else some ({ w with jwksHeld := rt.jwksLock d.uri :: w.jwksHeld }, .refreshCheck d why)
  | .refreshCheck d why, .run => some (refreshCheckStep rt w req d why)
  | .refreshFetch d why, .keys response =>
      match rt.countingError d.uri req.policy with
      | none => some (w, .refreshWrite d why response)
      | some e =>
          some ({ w with
            jwksHeld := release (rt.jwksLock d.uri) w.jwksHeld
            log := .keys d.uri why.purpose (unhandledJwks e) :: w.log }, .done (.error e))
  | .refreshWrite d why response, .run => some (refreshWriteStep rt w req d why response)
  | .settle d stamp next, .run =>
      some ({ w with
        lastAttempt := if stamp then w.lastAttempt.insert d.uri w.now
          else w.lastAttempt.erase d.uri }, next)
  | _, _ => none

end Operations

/-- `clear_jwks_cache`. -/
def clearJwksStep (w : Shared) : Shared :=
  { w with jwks := clearCacheLocked w.jwks, lastAttempt := ∅, log := .cleared :: w.log }

/-- `clear_discovery_cache`. -/
def clearDiscoStep (w : Shared) : Shared := { w with disco := clearCacheLocked w.disco }

def moveTask (rt : Runtime) (w : Shared) : Task → Act → Option (Shared × Task)
  | .token req pc, act => (advance rt w req pc act).map fun r => (r.1, .token req r.2)
  | .clearJwks false, .run => some (clearJwksStep w, .clearJwks true)
  | .clearDisco false, .run => some (clearDiscoStep w, .clearDisco true)
  | _, _ => none

/-- `validate_token` without discovery. -/
def manualResult (rt : Runtime) (jwt : String) (config : TokenValidationConfig) : Result :=
  match validateConfigForManualValidation config with
  | some e => .error e
  | none => decodeWithConfig rt.pyjwt jwt config none

/-- The start of `validate_token`, up to its first look at a cache. -/
def startToken (rt : Runtime) (jwt : String) (config : TokenValidationConfig)
    (discoDocAddress : Option String) : Task :=
  let policy := resolveDiscoveryPolicy config.discoveryPolicy config.requireHttps
  let req : Request := ⟨jwt, config, discoDocAddress.getD "", policy⟩
  match validateTokenConfig config with
  | some e => .token req (.done (.error e))
  | none =>
      if config.performDisco then
        match discoDocAddress with
        | none =>
            .token req (.done (.error (.configuration
              "disco_doc_address is required when perform_disco is True")))
        | some _ => .token req .discoRead
      else .token req (finish rt req (manualResult rt jwt config))

theorem startToken_eq (rt : Runtime) (jwt : String) (config : TokenValidationConfig)
    (address : Option String) :
    ∃ pc, startToken rt jwt config address = .token ⟨jwt, config, address.getD "",
        resolveDiscoveryPolicy config.discoveryPolicy config.requireHttps⟩ pc ∧
      (pc = .discoRead ∨ ∃ result, pc = .done result) := by
  simp only [startToken]
  split
  · exact ⟨_, rfl, .inr ⟨_, rfl⟩⟩
  · split
    · split
      · exact ⟨_, rfl, .inr ⟨_, rfl⟩⟩
      · exact ⟨_, rfl, .inl rfl⟩
    · exact ⟨_, rfl, .inr (finish_done rt _ _)⟩

def Call.start (rt : Runtime) : Call → Task
  | .validateToken jwt config address => startToken rt jwt config address
  | .clearJwksCache => .clearJwks false
  | .clearDiscoveryCache => .clearDisco false

/-- The module: calls start at any time, and the clock never goes back. -/
def validator (rt : Runtime) : Machine Shared Task Call Event where
  spawn w call := some (w, call.start (rt.at w.now))
  move w x e :=
    if w.now ≤ e.now then moveTask (rt.at e.now) { w with now := e.now } x e.act else none

theorem validator_fork (rt : Runtime) (w : Shared) (x : Task) (e : Event) :
    (validator rt).fork w x e = none := rfl

/-- A fresh process. -/
def initial : State := ⟨⟨∅, ∅, ∅, [], [], 0, []⟩, []⟩

abbrev run (rt : Runtime) : State → List Label → Option State := exec (validator rt).step

/-- Where a coroutine gives up control: before its first step, at a lock, and while
an answer is awaited. -/
def Pc.suspended : Pc → Bool
  | .discoRead | .discoWait | .discoFetch | .jwksWait _ | .jwksFetch _ | .refreshWait .. |
    .refreshFetch .. | .done _ => true
  | _ => false

/-- The call has returned. -/
def Task.finished : Task → Bool
  | .token _ (.done _) => true
  | .clearJwks done => done
  | .clearDisco done => done
  | _ => false

def Task.suspended : Task → Bool
  | .token _ pc => pc.suspended
  | _ => true

/-- One event loop: a coroutine moves only while all others are suspended. -/
def cooperative (s : State) : Label → Bool
  | .spawn _ => true
  | .move t _ => s.tasks.zipIdx.all fun x => x.2 = t || x.1.suspended

/-- The operations of a validation as a relation, one rule per outcome. -/
inductive Advance (rt : Runtime) (w : Shared) (req : Request) : Pc → Act → Shared → Pc → Prop
  | discoReadHit (response : DiscoveryDocumentResponse)
      (h : freshResponse (w.disco.lookup req.discoKey) w.now = some response) :
      Advance rt w req .discoRead .run w (.discoTouch response false)
  | discoReadMiss (h : freshResponse (w.disco.lookup req.discoKey) w.now = none) :
      Advance rt w req .discoRead .run w .discoWait
  | discoTouch (response : DiscoveryDocumentResponse) (locked : Bool) (held : List ℕ)
      (h : held = if locked then release (rt.discoLock req.discoKey) w.discoHeld
        else w.discoHeld) :
      Advance rt w req (.discoTouch response locked) .run
        { w with disco := w.disco.touch req.discoKey, discoHeld := held } (afterDisco rt response)
  | discoLock (h : rt.discoLock req.discoKey ∉ w.discoHeld) :
      Advance rt w req .discoWait .run
        { w with discoHeld := rt.discoLock req.discoKey :: w.discoHeld } .discoRecheck
  | discoRecheckHit (response : DiscoveryDocumentResponse)
      (h : freshResponse (w.disco.lookup req.discoKey) w.now = some response) :
      Advance rt w req .discoRecheck .run w (.discoTouch response true)
  | discoRecheckMiss (h : freshResponse (w.disco.lookup req.discoKey) w.now = none) :
      Advance rt w req .discoRecheck .run w .discoFetch
  | discoAnswer (answer : DiscoveryAnswer)
      (h : rt.countingError req.address req.policy = none) :
      Advance rt w req .discoFetch (.discovery answer) w
        (.discoWrite (processDiscoveryResponse answer))
  | discoRaised (answer : DiscoveryAnswer) (e : PyError) (held : List ℕ)
      (h : rt.countingError req.address req.policy = some e)
      (hheld : held = release (rt.discoLock req.discoKey) w.discoHeld) :
      Advance rt w req .discoFetch (.discovery answer) { w with discoHeld := held }
        (.done (.error e))
  | discoWrite (response : DiscoveryDocumentResponse) (held : List ℕ)
      (h : held = release (rt.discoLock req.discoKey) w.discoHeld) :
      Advance rt w req (.discoWrite response) .run
        { w with
          disco := applyDiscoCacheOutcome rt.env w.disco req.discoKey response w.now
          discoHeld := held
          log := .discovery req.discoKey response :: w.log } (afterDisco rt response)
  | jwksReadHit (d : Disco) (response : JwksResponse)
      (h : freshResponse (w.jwks.lookup d.uri) w.now = some response) :
      Advance rt w req (.jwksRead d) .run w (.jwksTouch d response false)
  | jwksReadMiss (d : Disco) (h : freshResponse (w.jwks.lookup d.uri) w.now = none) :
      Advance rt w req (.jwksRead d) .run w (.jwksWait d)
  | jwksTouch (d : Disco) (response : JwksResponse) (locked : Bool) (held : List ℕ)
      (h : held = if locked then release (rt.jwksLock d.uri) w.jwksHeld else w.jwksHeld) :
      Advance rt w req (.jwksTouch d response locked) .run
        { w with jwks := w.jwks.touch d.uri, jwksHeld := held } (afterJwks rt req d response)
  | jwksLock (d : Disco) (h : rt.jwksLock d.uri ∉ w.jwksHeld) :
      Advance rt w req (.jwksWait d) .run
        { w with jwksHeld := rt.jwksLock d.uri :: w.jwksHeld } (.jwksRecheck d)
  | jwksRecheckHit (d : Disco) (response : JwksResponse)
      (h : freshResponse (w.jwks.lookup d.uri) w.now = some response) :
      Advance rt w req (.jwksRecheck d) .run w (.jwksTouch d response true)
  | jwksRecheckMiss (d : Disco) (h : freshResponse (w.jwks.lookup d.uri) w.now = none) :
      Advance rt w req (.jwksRecheck d) .run w (.jwksFetch d)
  | jwksAnswer (d : Disco) (response : JwksResponse)
      (h : rt.countingError d.uri req.policy = none) :
      Advance rt w req (.jwksFetch d) (.keys response) w (.jwksWrite d response)
  | jwksRaised (d : Disco) (response : JwksResponse) (e : PyError) (held : List ℕ)
      (h : rt.countingError d.uri req.policy = some e)
      (hheld : held = release (rt.jwksLock d.uri) w.jwksHeld) :
      Advance rt w req (.jwksFetch d) (.keys response) { w with jwksHeld := held }
        (.done (.error e))
  | jwksWrite (d : Disco) (response : JwksResponse) (held : List ℕ)
      (h : held = release (rt.jwksLock d.uri) w.jwksHeld) :
      Advance rt w req (.jwksWrite d response) .run
        { writeJwks rt w d.uri .fetch response with jwksHeld := held } (afterJwks rt req d response)
  | gate (d : Disco) (why : Why) : Advance rt w req (.gate d why) .run w (.gateCheck d why w.now)
  | gatePassed (d : Disco) (why : Why) (now : ℚ)
      (h : shouldAttemptKidMissRefresh rt.env w.lastAttempt d.uri why.hasCachedKeys now = true) :
      Advance rt w req (.gateCheck d why now) .run w (.refreshWait d why)
  | gateBlocked (d : Disco) (why : Why) (now : ℚ)
      (h : shouldAttemptKidMissRefresh rt.env w.lastAttempt d.uri why.hasCachedKeys now = false) :
      Advance rt w req (.gateCheck d why now) .run w (afterBlocked rt req d why)
  | refreshLock (d : Disco) (why : Why) (h : rt.jwksLock d.uri ∉ w.jwksHeld) :
      Advance rt w req (.refreshWait d why) .run
        { w with jwksHeld := rt.jwksLock d.uri :: w.jwksHeld } (.refreshCheck d why)
  | coalesced (d : Disco) (why : Why) (entry : CacheEntry JwksResponse) (held : List ℕ)
      (h : w.jwks.lookup d.uri = some entry) (hnow : w.now ≤ entry.cachedAt)
      (hheld : held = release (rt.jwksLock d.uri) w.jwksHeld) :
      Advance rt w req (.refreshCheck d why) .run { w with jwksHeld := held }
        (afterRefresh rt req d why entry.response false)
  | refreshSend (d : Disco) (why : Why)
      (h : ∀ entry, w.jwks.lookup d.uri = some entry → entry.cachedAt < w.now) :
      Advance rt w req (.refreshCheck d why) .run
        { w with log := .refreshStart d.uri w.now :: w.log } (.refreshFetch d why)
  | refreshAnswer (d : Disco) (why : Why) (response : JwksResponse)
      (h : rt.countingError d.uri req.policy = none) :
      Advance rt w req (.refreshFetch d why) (.keys response) w (.refreshWrite d why response)
  | refreshRaised (d : Disco) (why : Why) (response : JwksResponse) (e : PyError) (held : List ℕ)
      (h : rt.countingError d.uri req.policy = some e)
      (hheld : held = release (rt.jwksLock d.uri) w.jwksHeld) :
      Advance rt w req (.refreshFetch d why) (.keys response)
        { w with
          jwksHeld := held
          log := .keys d.uri why.purpose (unhandledJwks e) :: w.log } (.done (.error e))
  | refreshWrite (d : Disco) (why : Why) (response : JwksResponse) :
      Advance rt w req (.refreshWrite d why response) .run
        (refreshWriteStep rt w req d why response).1 (refreshWriteStep rt w req d why response).2
  | settle (d : Disco) (stamp : Bool) (next : Pc) :
      Advance rt w req (.settle d stamp next) .run
        { w with
          lastAttempt := if stamp then w.lastAttempt.insert d.uri w.now
            else w.lastAttempt.erase d.uri } next

section Inversion

variable {rt : Runtime} {w w' : Shared} {req : Request} {pc pc' : Pc} {act : Act}

theorem refreshCheckStep_advance (d : Disco) (why : Why) :
    Advance rt w req (.refreshCheck d why) .run (refreshCheckStep rt w req d why).1
      (refreshCheckStep rt w req d why).2 := by
  unfold refreshCheckStep
  cases hl : w.jwks.lookup d.uri with
  | none => exact .refreshSend d why (by simp [hl])
  | some entry =>
      by_cases hnow : w.now ≤ entry.cachedAt
      · simp only [hnow, if_true]
        exact .coalesced d why entry _ hl hnow rfl
      · simp only [hnow, if_false]
        refine .refreshSend d why fun entry' hentry => ?_
        rw [hl] at hentry
        cases hentry
        exact not_le.mp hnow

/-- What the next operation waits for: an answer, or nothing. -/
def Pc.takes : Pc → Act → Prop
  | .discoFetch, act => ∃ answer, act = .discovery answer
  | .jwksFetch _, act | .refreshFetch _ _, act => ∃ response, act = .keys response
  | .done _, _ => False
  | _, act => act = .run

theorem advance_takes (h : advance rt w req pc act = some (w', pc')) : pc.takes act := by
  cases pc with
  | discoFetch =>
      cases act with
      | discovery answer => exact ⟨answer, rfl⟩
      | _ => cases h
  | jwksFetch d | refreshFetch d why =>
      cases act with
      | keys response => exact ⟨response, rfl⟩
      | _ => cases h
  | done result => cases h
  | _ =>
      cases act with
      | run => rfl
      | _ => cases h

theorem advance_sound (h : advance rt w req pc act = some (w', pc')) :
    Advance rt w req pc act w' pc' := by
  cases pc with
  | discoRead =>
      obtain rfl : act = .run := advance_takes h
      simp only [advance] at h
      split at h
      · rename_i response hr
        cases h
        exact .discoReadHit response hr
      · cases h
        exact .discoReadMiss (by assumption)
  | discoTouch response locked =>
      obtain rfl : act = .run := advance_takes h
      cases h
      exact .discoTouch response locked _ rfl
  | discoWait =>
      obtain rfl : act = .run := advance_takes h
      simp only [advance] at h
      split at h
      · cases h
      · cases h
        exact .discoLock (by assumption)
  | discoRecheck =>
      obtain rfl : act = .run := advance_takes h
      simp only [advance] at h
      split at h
      · rename_i response hr
        cases h
        exact .discoRecheckHit response hr
      · cases h
        exact .discoRecheckMiss (by assumption)
  | discoFetch =>
      obtain ⟨answer, rfl⟩ := advance_takes h
      simp only [advance] at h
      split at h
      · cases h
        exact .discoAnswer answer (by assumption)
      · cases h
        exact .discoRaised answer _ _ (by assumption) rfl
  | discoWrite response =>
      obtain rfl : act = .run := advance_takes h
      cases h
      exact .discoWrite response _ rfl
  | jwksRead d =>
      obtain rfl : act = .run := advance_takes h
      simp only [advance] at h
      split at h
      · rename_i response hr
        cases h
        exact .jwksReadHit d response hr
      · cases h
        exact .jwksReadMiss d (by assumption)
  | jwksTouch d response locked =>
      obtain rfl : act = .run := advance_takes h
      cases h
      exact .jwksTouch d response locked _ rfl
  | jwksWait d =>
      obtain rfl : act = .run := advance_takes h
      simp only [advance] at h
      split at h
      · cases h
      · cases h
        exact .jwksLock d (by assumption)
  | jwksRecheck d =>
      obtain rfl : act = .run := advance_takes h
      simp only [advance] at h
      split at h
      · rename_i response hr
        cases h
        exact .jwksRecheckHit d response hr
      · cases h
        exact .jwksRecheckMiss d (by assumption)
  | jwksFetch d =>
      obtain ⟨response, rfl⟩ := advance_takes h
      simp only [advance] at h
      split at h
      · cases h
        exact .jwksAnswer d response (by assumption)
      · cases h
        exact .jwksRaised d response _ _ (by assumption) rfl
  | jwksWrite d response =>
      obtain rfl : act = .run := advance_takes h
      cases h
      exact .jwksWrite d response _ rfl
  | gate d why =>
      obtain rfl : act = .run := advance_takes h
      cases h
      exact .gate d why
  | gateCheck d why now =>
      obtain rfl : act = .run := advance_takes h
      simp only [advance] at h
      split at h
      · rename_i hpass
        cases h
        exact .gatePassed d why now hpass
      · rename_i hblocked
        cases h
        exact .gateBlocked d why now (by simpa using hblocked)
  | refreshWait d why =>
      obtain rfl : act = .run := advance_takes h
      simp only [advance] at h
      split at h
      · cases h
      · cases h
        exact .refreshLock d why (by assumption)
  | refreshCheck d why =>
      obtain rfl : act = .run := advance_takes h
      have hstep := Option.some.inj h
      rw [show w' = (refreshCheckStep rt w req d why).1 by rw [hstep],
        show pc' = (refreshCheckStep rt w req d why).2 by rw [hstep]]
      exact refreshCheckStep_advance d why
  | refreshFetch d why =>
      obtain ⟨response, rfl⟩ := advance_takes h
      simp only [advance] at h
      split at h
      · cases h
        exact .refreshAnswer d why response (by assumption)
      · cases h
        exact .refreshRaised d why response _ _ (by assumption) rfl
  | refreshWrite d why response =>
      obtain rfl : act = .run := advance_takes h
      cases h
      exact .refreshWrite d why response
  | settle d stamp next =>
      obtain rfl : act = .run := advance_takes h
      cases h
      exact .settle d stamp _
  | done result => cases h

/-- What a move is: an operation of a validation, or a clear. -/
inductive Moved (rt : Runtime) (w : Shared) (act : Act) : Task → Shared → Task → Prop
  | token (req : Request) (pc : Pc) (w' : Shared) (pc' : Pc) (h : Advance rt w req pc act w' pc') :
      Moved rt w act (.token req pc) w' (.token req pc')
  | clearJwks : Moved rt w act (.clearJwks false) (clearJwksStep w) (.clearJwks true)
  | clearDisco : Moved rt w act (.clearDisco false) (clearDiscoStep w) (.clearDisco true)

theorem validator_move {x x' : Task} {e : Event} (h : (validator rt).move w x e = some (w', x')) :
    w.now ≤ e.now ∧ Moved (rt.at e.now) { w with now := e.now } e.act x w' x' := by
  simp only [validator] at h
  split at h
  · rename_i hle
    refine ⟨hle, ?_⟩
    cases x with
    | token req pc =>
        obtain ⟨⟨v, pc'⟩, hadv, hr⟩ := Option.map_eq_some_iff.mp h
        cases hr
        exact .token req pc _ _ (advance_sound hadv)
    | clearJwks finished =>
        obtain ⟨now, act⟩ := e
        cases finished <;> cases act <;> cases h
        exact .clearJwks
    | clearDisco finished =>
        obtain ⟨now, act⟩ := e
        cases finished <;> cases act <;> cases h
        exact .clearDisco
  · cases h

theorem validator_spawn {x : Task} {call : Call} (h : (validator rt).spawn w call = some (w', x)) :
    w' = w ∧ x = call.start (rt.at w.now) := by
  cases h
  exact ⟨rfl, rfl⟩

theorem validator_step_spawn {s s' : State} {call : Call}
    (h : (validator rt).step s (.spawn call) = some s') :
    s' = ⟨s.shared, s.tasks ++ [call.start (rt.at s.shared.now)]⟩ := by
  obtain ⟨w, x, hspawn, rfl⟩ := Machine.step_spawn h
  obtain ⟨rfl, rfl⟩ := validator_spawn hspawn
  rfl

theorem validator_step_move {s s' : State} {t : ℕ} {e : Event}
    (h : (validator rt).step s (.move t e) = some s') :
    ∃ x w x', s.tasks[t]? = some x ∧ s.shared.now ≤ e.now ∧
      Moved (rt.at e.now) { s.shared with now := e.now } e.act x w x' ∧ s' = ⟨w, s.tasks.set t x'⟩ := by
  obtain ⟨x, w, x', hx, hmove, rfl⟩ := Machine.step_move (validator_fork rt) h
  obtain ⟨hnow, hmoved⟩ := validator_move hmove
  exact ⟨x, w, x', hx, hnow, hmoved, rfl⟩

/-- The step rule for a property of the shared state and one of every call by itself. -/
theorem validator_holds {G : Shared → Prop} {L : Task → Prop} (ok : Label → Prop)
    (hspawn : ∀ now call, ok (.spawn call) → L (call.start (rt.at now)))
    (hmove : ∀ t e w x w' x', ok (.move t e) → G w → L x →
      Moved (rt.at e.now) { w with now := e.now } e.act x w' x' → G w' ∧ L x') :
    ∀ s l s', Holds G (fun _ => L) (fun _ _ => True) s → ok l →
      (validator rt).step s l = some s' → Holds G (fun _ => L) (fun _ _ => True) s' := by
  refine Machine.holds_step (validator_fork rt) (fun _ => ok) (fun _ _ _ => trivial) ?_ ?_
  · intro s call w x h hok hspawned
    obtain ⟨rfl, rfl⟩ := validator_spawn hspawned
    exact ⟨h.shared, hspawn _ call hok, fun j y hy => ⟨h.each j y hy, trivial⟩⟩
  · intro s t e x w x' h hok hx hmoved
    obtain ⟨-, hmoved⟩ := validator_move hmoved
    obtain ⟨hshared, hself⟩ := hmove t e _ x w x' hok h.shared (h.each t x hx) hmoved
    exact ⟨hshared, hself, fun j y _ hy => ⟨h.each j y hy, trivial⟩⟩

end Inversion

/-- A process with default settings whose tokens have the `kid` `x`, and whose
decodes all fail. -/
def sampleRuntime (flavour : Flavour) : Runtime where
  env := ⟨fun _ => none, fun _ => none, fun _ => none, fun _ => none, fun _ => false⟩
  pyjwt :=
    { header := fun _ => .ok ⟨some "x", some (.str "RS256")⟩
      decode := fun _ _ => .error (.invalidSignature "")
      str := fun _ => "" }
  flavour := flavour
  hashUri _ := 0
  hashKey _ := 0

/-- `n` operations of call `t`, all at one time. -/
def runsAt (t : ℕ) (now : ℚ) (n : ℕ) : List Label := List.replicate n (.move t ⟨now, .run⟩)

def sampleAnswer : DiscoveryAnswer :=
  .document (some (.one "https://idp")) true true true (some (.str "https://idp/jwks")) none none

def oneKeyAnswer (t : ℕ) (now : ℚ) (kid : String) : Label :=
  .move t ⟨now, .keys { isSuccessful := true, keys := some [{ kty := "RSA", kid := some kid }] }⟩

/-- Call `t` on empty caches, up to the lock of its forced refresh. -/
def missStart (t : ℕ) (now : ℚ) (kid : String) : List Label :=
  [.spawn (.validateToken "token" { performDisco := true } (some "https://idp"))] ++
    runsAt t now 3 ++ [.move t ⟨now, .discovery sampleAnswer⟩] ++ runsAt t now 4 ++
    [oneKeyAnswer t now kid] ++ runsAt t now 4

/-- A whole call whose `kid` is not in the key set. -/
def missRun (kid : String) : List Label :=
  missStart 0 0 kid ++ runsAt 0 1 1 ++ [oneKeyAnswer 0 2 kid] ++ runsAt 0 2 2

end IdentityModel.Py
