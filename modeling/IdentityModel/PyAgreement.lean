import IdentityModel.Orbits
import IdentityModel.PyKnownGood
import IdentityModel.PyLocks
import IdentityModel.PyPolicyGuard
import IdentityModel.PyRefreshGate
import IdentityModel.PyUpstream

/-!
# The synchronous and the asynchronous module

One call of `validate_token` that runs alone, in either module: from the same caches and
cooldown stamps, by the same clock and against the same answers. The modules take the same
operations until a request goes to an address `urlparse` refuses. There the synchronous call
turns the `ValueError` into a failed response and ends in a `TokenValidationException`; the
asynchronous one parses the address once more for its counters and lets the `ValueError` out.
A document whose `jwks_uri` is a number or `true` sets them apart in the same way.
-/
namespace IdentityModel.Py

open Runs Tasks Orbits

/-- The caches and the cooldown stamps. -/
structure Stores where
  disco : DiscoCache
  jwks : JwksCache
  lastAttempt : Dict String ℚ

def Shared.stores (w : Shared) : Stores := ⟨w.disco, w.jwks, w.lastAttempt⟩

/-- The clock at each operation of a call, and what a request that the operation ends is
answered. -/
structure Surroundings where
  clock : ℕ → ℚ
  monotone : Monotone clock
  discovery : ℕ → HttpAnswer
  keys : ℕ → JwksResponse

/-- What the call meets at its operation `n`. -/
def Surroundings.event (env : Surroundings) (n : ℕ) : Task → HttpEvent
  | .token _ .discoFetch => ⟨env.clock n, .discovery (env.discovery n)⟩
  | .token _ (.jwksFetch _) | .token _ (.refreshFetch _ _) => ⟨env.clock n, .keys (env.keys n)⟩
  | _ => ⟨env.clock n, .run⟩

/-- A call of `validate_token` with all it depends on but the module. -/
structure Solo where
  runtime : Runtime
  interpreter : Interpreter
  env : Surroundings
  stores : Stores
  jwt : String
  config : TokenValidationConfig
  address : Option String

def Runtime.using (rt : Runtime) (flavour : Flavour) : Runtime := { rt with flavour := flavour }

section Course

variable (c : Solo) (flavour : Flavour)

def Solo.module : Runtime := (c.runtime.using flavour).on c.interpreter

/-- The module at the time of operation `n`. -/
def Solo.moduleAt (n : ℕ) : Runtime := (c.module flavour).at (c.env.clock n)

/-- One operation; a call that has returned stays where it is. -/
def Solo.operation (n : ℕ) (s : Shared × Task) : Option (Shared × Task) :=
  if s.2.finished then some s
  else (upstream (c.runtime.using flavour) c.interpreter).move s.1 s.2 (c.env.event n s.2)

/-- No other call holds a lock. -/
def Solo.start : Shared × Task :=
  (⟨c.stores.disco, c.stores.jwks, c.stores.lastAttempt, [], [], c.env.clock 0, []⟩,
    startToken (c.moduleAt flavour 0) c.jwt c.config c.address)

/-- The state after `n` operations. -/
def Solo.course : ℕ → Option (Shared × Task) := orbit (c.operation flavour) (c.start flavour)

def Task.result : Task → Option Result
  | .token _ (.done result) => some result
  | _ => none

/-- No call takes more operations. -/
def callLength : ℕ := 24

/-- What the call returns or raises, and what it leaves behind. -/
def Solo.ending : Option (Result × Stores) :=
  (c.course flavour callLength).bind fun s => s.2.result.map fun result => (result, s.1.stores)

end Course

/-- The class of an exception; those the library does not define count as one. -/
def PyError.className : PyError → String
  | .configuration _ => "ConfigurationException"
  | .tokenValidation _ _ => "TokenValidationException"
  | .signatureVerification _ => "SignatureVerificationException"
  | .tokenExpired _ => "TokenExpiredException"
  | .invalidAudience _ => "InvalidAudienceException"
  | .invalidIssuer _ => "InvalidIssuerException"
  | .other _ => "Exception"

/-- Equal claims, or exceptions of one class. -/
def SameOutcome : Result → Result → Prop
  | .ok claims, .ok claims' => claims = claims'
  | .error e, .error e' => e.className = e'.className
  | _, _ => False

structure Agree (x y : Result × Stores) : Prop where
  outcome : SameOutcome x.1 y.1
  stores : x.2 = y.2

/-- The call ends in both modules, with the same outcome and the same stores. -/
def Solo.Agrees (c : Solo) : Prop :=
  ∃ s a, c.ending .sync = some s ∧ c.ending .aio = some a ∧ Agree s a

/-- The address of the request that is out. -/
def Task.asks : Task → Option String
  | .token req .discoFetch => some req.address
  | .token _ (.jwksFetch d) | .token _ (.refreshFetch d _) => some d.uri
  | _ => none

/-- `urlparse` takes the address of the request that is out, if one is. -/
def Task.wellAddressed (p : Url.Platform) (x : Task) : Bool :=
  x.asks.all fun address => (Url.urlparse p address).isOk

/-- A number or `true`: no address, and yet a key that a cache takes. -/
def isStrayUri : Json → Bool
  | .num n => isTruthy (.num n)
  | .bool b => b
  | _ => false

/-- The document is accepted, and its `jwks_uri` is no address. -/
def DiscoveryDocumentResponse.strays (r : DiscoveryDocumentResponse) : Bool :=
  r.isSuccessful && isStrayUri (r.jwksUri.getD .null)

/-- The document, cached or fetched, that the call goes on with. -/
def Task.document : Task → Option DiscoveryDocumentResponse
  | .token _ (.discoTouch response _) | .token _ (.discoWrite response) => some response
  | _ => none

/-- Nothing is at hand that the modules treat differently. -/
def Task.steady (p : Url.Platform) (x : Task) : Bool :=
  x.wellAddressed p && x.document.all fun response => !response.strays

/-- The claims validator is no coroutine function. -/
def TokenValidationConfig.synchronous (config : TokenValidationConfig) : Bool :=
  config.claimsValidator.all fun v => !v.isCoroutineFunction

section Congruence

variable (rt : Runtime) (req : Request) (d : Disco) (f g : Flavour)

theorem validateClaims_synchronous {config : TokenValidationConfig}
    (h : config.synchronous = true) (decoded : Claims) :
    validateClaims f config decoded = validateClaims g config decoded := by
  unfold validateClaims
  cases hv : config.claimsValidator with
  | none => rfl
  | some v =>
      have hplain : v.isCoroutineFunction = false := by
        simpa [TokenValidationConfig.synchronous, hv] using h
      simp [hplain]

variable (h : req.config.synchronous = true)
include h

theorem finish_using (r : Result) : finish (rt.using f) req r = finish (rt.using g) req r := by
  cases r with
  | error e => rfl
  | ok decoded =>
      have hclaims := validateClaims_synchronous f g h decoded
      simp only [finish, Runtime.using, hclaims]

theorem attempt_using (header : Header) (keys : List JsonWebKey) :
    attempt (rt.using f) req d header keys = attempt (rt.using g) req d header keys := by
  unfold attempt
  simp only [finish_using rt req f g h]
  rfl

theorem afterJwks_using (response : JwksResponse) :
    afterJwks (rt.using f) req d response = afterJwks (rt.using g) req d response := by
  unfold afterJwks
  simp only [attempt_using rt req d f g h]
  rfl

theorem afterBlocked_using (why : Why) :
    afterBlocked (rt.using f) req d why = afterBlocked (rt.using g) req d why := by
  cases why with
  | kidMiss kid header cached => exact attempt_using rt req d f g h header _
  | retry => rfl

theorem afterRefresh_using (why : Why) (response : JwksResponse) (retained : Bool) :
    afterRefresh (rt.using f) req d why response retained =
      afterRefresh (rt.using g) req d why response retained := by
  cases why with
  | kidMiss kid header cached => simp only [afterRefresh, attempt_using rt req d f g h]
  | retry =>
      simp only [afterRefresh, finish_using rt req f g h]
      rfl

end Congruence

theorem isTruthy_of_isStrayUri {uri : Json} (h : isStrayUri uri = true) : isTruthy uri = true := by
  cases uri with
  | num n => exact h
  | bool b => exact h
  | _ => cases h

section Document

variable (rt : Runtime) {response : DiscoveryDocumentResponse}

theorem afterDisco_using (f g : Flavour) (h : response.strays = false) :
    afterDisco (rt.using f) response = afterDisco (rt.using g) response := by
  unfold afterDisco
  cases hdisco : validateDiscoResponse response with
  | some e => rfl
  | none =>
      cases huri : validateJwksUri response with
      | error e => rfl
      | ok uri =>
          have hsuccess : response.isSuccessful = true := by
            by_contra hfailed
            simp [validateDiscoResponse, hfailed] at hdisco
          have hvalue : isTruthy uri = true ∧ response.jwksUri.getD .null = uri := by
            unfold validateJwksUri at huri
            split at huri
            · rename_i htruthy
              cases huri
              exact ⟨htruthy, rfl⟩
            · cases huri
          have hstray : isStrayUri uri = false := by
            simpa [DiscoveryDocumentResponse.strays, hsuccess, hvalue.2] using h
          cases uri with
          | num n => exact absurd hvalue.1 (by simpa [isStrayUri] using hstray)
          | bool b => exact absurd hvalue.1 (by simpa [isStrayUri, isTruthy] using hstray)
          | null => cases hvalue.1
          | _ => rfl

/-- A number or `true` for a `jwks_uri` ends the call. -/
theorem afterDisco_strays (h : response.strays = true) :
    ∃ uri, isStrayUri uri = true ∧
      afterDisco rt response = .done (.error (mistypedJwksUri rt uri)) := by
  rw [DiscoveryDocumentResponse.strays, Bool.and_eq_true] at h
  obtain ⟨hsuccess, hstray⟩ := h
  refine ⟨_, hstray, ?_⟩
  have htruthy := isTruthy_of_isStrayUri hstray
  simp only [afterDisco, validateDiscoResponse, hsuccess, if_true, validateJwksUri, htruthy]
  cases huri : response.jwksUri.getD .null with
  | str s =>
      rw [huri] at hstray
      cases hstray
  | _ => rfl

theorem mistypedJwksUri_sync {uri : Json} (h : isStrayUri uri = true) :
    ∃ m, mistypedJwksUri (rt.using .sync) uri = .tokenValidation m := by
  cases uri with
  | num n => exact ⟨_, rfl⟩
  | bool b => exact ⟨_, rfl⟩
  | _ => cases h

theorem mistypedJwksUri_aio {uri : Json} (h : isStrayUri uri = true) :
    ∃ e, mistypedJwksUri (rt.using .aio) uri = .other e := by
  cases uri with
  | num n => exact ⟨_, rfl⟩
  | bool b => exact ⟨_, rfl⟩
  | _ => cases h

end Document

theorem urlparse_empty (p : Url.Platform) : Url.urlparse p "" = .ok ⟨[], [], [], [], []⟩ := rfl

theorem validateUrlScheme_of_urlparse {p : Url.Platform} {address : String} {e : String}
    (policy : DiscoveryPolicy) (h : Url.urlparse p address = .error e) :
    validateUrlScheme p address policy = .error (.value e) := by
  have hne : address ≠ "" := by
    rintro rfl
    rw [urlparse_empty] at h
    cases h
  simp [validateUrlScheme, hne, h]

/-- Only the asynchronous module raises, and only where `urlparse` does. -/
theorem countingError_none {rt : Runtime} {address : String} (policy : DiscoveryPolicy)
    (h : (Url.urlparse rt.platform address).isOk = true) : rt.countingError address policy = none := by
  unfold Runtime.countingError
  cases rt.flavour with
  | sync => rfl
  | aio =>
      simp only [upstreamFetchAttempted]
      cases hv : validateUrlScheme rt.platform address policy with
      | ok u => rfl
      | error e =>
          cases e with
          | value e =>
              rw [validateUrlScheme_value hv] at h
              cases h
          | _ => rfl

theorem countingError_raised (rt : Runtime) {address : String} {e : String}
    (policy : DiscoveryPolicy) (h : Url.urlparse rt.platform address = .error e) :
    (rt.using .aio).countingError address policy = some (.other e) := by
  have hv : validateUrlScheme rt.platform address policy = .error (.value e) :=
    validateUrlScheme_of_urlparse policy h
  simp [Runtime.countingError, Runtime.using, upstreamFetchAttempted, hv]

theorem refreshCheckStep_using (rt : Runtime) (w : Shared) (req : Request) (d : Disco) (why : Why)
    (f g : Flavour) (h : req.config.synchronous = true) :
    refreshCheckStep (rt.using f) w req d why = refreshCheckStep (rt.using g) w req d why := by
  unfold refreshCheckStep
  simp only [afterRefresh_using rt req d f g h]
  rfl

theorem refreshWriteStep_using (rt : Runtime) (w : Shared) (req : Request) (d : Disco) (why : Why)
    (response : JwksResponse) (f g : Flavour) (h : req.config.synchronous = true) :
    refreshWriteStep (rt.using f) w req d why response =
      refreshWriteStep (rt.using g) w req d why response := by
  unfold refreshWriteStep
  simp only [afterRefresh_using rt req d f g h]
  rfl

/-- Where nothing goes astray, the modules do the same. -/
theorem advance_using (rt : Runtime) (w : Shared) (req : Request) (pc : Pc) (act : Act)
    (f g : Flavour) (h : req.config.synchronous = true)
    (hpc : (Task.token req pc).steady rt.platform = true) :
    advance (rt.using f) w req pc act = advance (rt.using g) w req pc act := by
  obtain ⟨haddress, hdocument⟩ := (Bool.and_eq_true _ _).mp hpc
  cases act with
  | run =>
      cases pc with
      | discoTouch response locked =>
          have hstray : response.strays = false := by simpa [Task.document] using hdocument
          simp only [advance, afterDisco_using rt f g hstray]
          rfl
      | discoWrite response =>
          have hstray : response.strays = false := by simpa [Task.document] using hdocument
          simp only [advance, afterDisco_using rt f g hstray]
          rfl
      | jwksTouch d response locked =>
          simp only [advance, afterJwks_using rt req d f g h]
          rfl
      | jwksWrite d response =>
          simp only [advance, afterJwks_using rt req d f g h]
          rfl
      | gateCheck d why now =>
          simp only [advance, afterBlocked_using rt req d f g h]
          rfl
      | refreshCheck d why => exact congrArg some (refreshCheckStep_using rt w req d why f g h)
      | refreshWrite d why response =>
          exact congrArg some (refreshWriteStep_using rt w req d why response f g h)
      | _ => rfl
  | discovery answer =>
      cases pc with
      | discoFetch =>
          simp only [Task.wellAddressed, Task.asks, Option.all_some] at haddress
          have hf : (rt.using f).countingError req.address req.policy = none :=
            countingError_none _ haddress
          have hg : (rt.using g).countingError req.address req.policy = none :=
            countingError_none _ haddress
          simp only [advance, hf, hg]
      | _ => rfl
  | keys response =>
      cases pc with
      | jwksFetch d =>
          simp only [Task.wellAddressed, Task.asks, Option.all_some] at haddress
          have hf : (rt.using f).countingError d.uri req.policy = none :=
            countingError_none _ haddress
          have hg : (rt.using g).countingError d.uri req.policy = none :=
            countingError_none _ haddress
          simp only [advance, hf, hg]
      | refreshFetch d why =>
          simp only [Task.wellAddressed, Task.asks, Option.all_some] at haddress
          have hf : (rt.using f).countingError d.uri req.policy = none :=
            countingError_none _ haddress
          have hg : (rt.using g).countingError d.uri req.policy = none :=
            countingError_none _ haddress
          simp only [advance, hf, hg]
      | _ => rfl

/-- How many operations are left once refreshed keys are there, at most. -/
def Why.ahead : Why → ℕ
  | .kidMiss _ _ _ => 9
  | .retry => 2

/-- How many operations a call has before it, at most. -/
def Pc.ahead : Pc → ℕ
  | .discoRead => 24
  | .discoWait => 23
  | .discoRecheck => 22
  | .discoFetch => 21
  | .discoTouch _ _ | .discoWrite _ => 20
  | .jwksRead _ => 19
  | .jwksWait _ => 18
  | .jwksRecheck _ => 17
  | .jwksFetch _ => 16
  | .jwksTouch _ _ _ | .jwksWrite _ _ => 15
  | .gate _ why => why.ahead + 5
  | .gateCheck _ why _ => why.ahead + 4
  | .refreshWait _ why => why.ahead + 3
  | .refreshCheck _ why => why.ahead + 2
  | .refreshFetch _ why => why.ahead + 1
  | .refreshWrite _ why _ => why.ahead
  | .settle _ _ next => next.ahead + 1
  | .done _ => 0

section Ahead

attribute [local simp] Pc.ahead Why.ahead

variable (rt : Runtime) (req : Request) (d : Disco)

theorem finish_ahead (r : Result) : (finish rt req r).ahead = 0 := by
  obtain ⟨result, hr⟩ := finish_done rt req r
  rw [hr]
  rfl

theorem Tried.ahead {d : Disco} {pc : Pc} (h : Tried d pc) : pc.ahead ≤ 7 := by
  cases h <;> simp [Pc.ahead, Why.ahead]

theorem afterDisco_ahead (rt : Runtime) (response : DiscoveryDocumentResponse) :
    (afterDisco rt response).ahead ≤ 19 := by
  obtain ⟨result, h⟩ | ⟨d, h⟩ := afterDisco_landing rt response <;> simp [h, Pc.ahead]

theorem afterJwks_ahead (response : JwksResponse) : (afterJwks rt req d response).ahead ≤ 14 := by
  unfold afterJwks
  split
  · simp [Pc.ahead]
  · split
    · simp [Pc.ahead]
    · rename_i header _
      have hattempt := (attempt_tried rt req d header response.keyList).ahead
      split
      · omega
      · split
        · omega
        · simp [Pc.ahead, Why.ahead]

theorem afterBlocked_ahead (why : Why) : (afterBlocked rt req d why).ahead < why.ahead + 4 := by
  cases why with
  | kidMiss kid header cached =>
      have hattempt := (attempt_tried rt req d header cached.keyList).ahead
      simp only [afterBlocked, Why.ahead]
      omega
  | retry => simp [afterBlocked, Pc.ahead]

theorem afterRefresh_ahead (why : Why) (response : JwksResponse) (retained : Bool) :
    (afterRefresh rt req d why response retained).ahead < why.ahead := by
  cases why with
  | kidMiss kid header cached =>
      have hattempt := (attempt_tried rt req d header response.keyList).ahead
      simp only [afterRefresh, Why.ahead]
      split
      · split
        · omega
        · simp only [Pc.ahead]
          omega
      · split <;> simp [Pc.ahead]
  | retry =>
      simp only [afterRefresh, Why.ahead]
      split
      · simp [Pc.ahead]
      · split <;> simp [Pc.ahead, finish_ahead]

end Ahead

/-- Every operation brings a call closer to its end. -/
theorem Advance.ahead_lt {rt : Runtime} {w w' : Shared} {req : Request} {pc pc' : Pc} {act : Act}
    (h : Advance rt w req pc act w' pc') : pc'.ahead < pc.ahead := by
  cases h with
  | discoTouch response locked held => exact Nat.lt_succ_of_le (afterDisco_ahead rt response)
  | discoWrite response held => exact Nat.lt_succ_of_le (afterDisco_ahead rt response)
  | jwksTouch d response locked held => exact Nat.lt_succ_of_le (afterJwks_ahead rt req d response)
  | jwksWrite d response held => exact Nat.lt_succ_of_le (afterJwks_ahead rt req d response)
  | gateBlocked d why now => exact afterBlocked_ahead rt req d why
  | coalesced d why entry held =>
      have hrefresh := afterRefresh_ahead rt req d why entry.response false
      simp only [Pc.ahead]
      omega
  | refreshWrite d why response => exact afterRefresh_ahead rt req d why _ _
  | _ => simp [Pc.ahead]

/-- Without a lock in the way the next operation is possible. -/
theorem advance_possible (rt : Runtime) (w : Shared) (req : Request) {pc : Pc} {act : Act}
    (htakes : pc.takes act) (hdisco : pc = .discoWait → w.discoHeld = [])
    (hjwks : pc.holds rt = none → w.jwksHeld = []) :
    ∃ w' pc', advance rt w req pc act = some (w', pc') := by
  cases pc with
  | discoFetch =>
      obtain ⟨answer, rfl⟩ := htakes
      simp only [advance]
      split <;> exact ⟨_, _, rfl⟩
  | jwksFetch d | refreshFetch d why =>
      obtain ⟨response, rfl⟩ := htakes
      simp only [advance]
      split <;> exact ⟨_, _, rfl⟩
  | done result => cases htakes
  | discoWait =>
      obtain rfl : act = .run := htakes
      simp [advance, hdisco rfl]
  | jwksWait d | refreshWait d why =>
      obtain rfl : act = .run := htakes
      simp [advance, hjwks rfl]
  | discoRead | discoRecheck | jwksRead d | jwksRecheck d | gateCheck d why now =>
      obtain rfl : act = .run := htakes
      simp only [advance]
      split <;> exact ⟨_, _, rfl⟩
  | _ =>
      obtain rfl : act = .run := htakes
      exact ⟨_, _, rfl⟩

@[simp] theorem Surroundings.event_now (env : Surroundings) (n : ℕ) (x : Task) :
    (env.event n x).now = env.clock n := by
  unfold Surroundings.event
  split <;> rfl

/-- A call in progress is given what it waits for. -/
theorem Surroundings.event_takes (env : Surroundings) (i : Interpreter) (n : ℕ) (req : Request)
    {pc : Pc} (hpc : (Task.token req pc).finished = false) :
    ∃ act, (Task.token req pc).receive i (env.event n (.token req pc)).act = some act ∧
      pc.takes act := by
  cases pc with
  | discoFetch => exact ⟨_, rfl, _, rfl⟩
  | jwksFetch d => exact ⟨_, rfl, _, rfl⟩
  | refreshFetch d why => exact ⟨_, rfl, _, rfl⟩
  | done result => cases hpc
  | _ => exact ⟨.run, rfl, rfl⟩

/-- The call has not looked at the discovery cache for the second time. -/
def Pc.early : Pc → Bool
  | .discoRead | .discoWait => true
  | _ => false

/-- Before operation `n` of a call that runs alone: no lock is in its way, and it is not too far
from its end. -/
structure Unhindered (c : Solo) (rt : Runtime) (n : ℕ) (w : Shared) (req : Request) (pc : Pc) :
    Prop where
  config : req.config = c.config
  now : w.now ≤ c.env.clock n
  tidy : pc.Tidy
  ahead : pc.ahead ≤ callLength - n
  free : pc.early = true → w.discoHeld = []
  held : w.jwksHeld = (pc.holds rt).toList

section Alone

variable {c : Solo} {rt : Runtime} {w w' : Shared} {req : Request} {pc pc' : Pc} {act : Act} {n : ℕ}

theorem Landing.not_early {d : Disco} (h : Landing d pc) : pc.early = false := by
  cases h <;> rfl

theorem afterDisco_not_early (rt : Runtime) (response : DiscoveryDocumentResponse) :
    (afterDisco rt response).early = false := by
  obtain ⟨result, h⟩ | ⟨d, h⟩ := afterDisco_landing rt response <;> rw [h] <;> rfl

theorem afterRefresh_not_early (d : Disco) (why : Why) (response : JwksResponse) (retained : Bool) :
    (afterRefresh rt req d why response retained).early = false := by
  obtain h | ⟨stamp, next, h, -⟩ := afterRefresh_landing rt req d why response retained
  · exact h.not_early
  · rw [h]
    rfl

/-- The first operation does not take a lock. -/
theorem Advance.free (h : Advance rt w req pc act w' pc') (hpc : pc.Tidy)
    (hfree : pc.early = true → w.discoHeld = []) : pc'.early = true → w'.discoHeld = [] := by
  intro hearly
  cases h with
  | discoReadMiss hf => exact hfree rfl
  | discoTouch response locked held => simp [afterDisco_not_early] at hearly
  | discoWrite response held => simp [afterDisco_not_early] at hearly
  | jwksTouch d response locked held => simp [(afterJwks_landing rt req d _).not_early] at hearly
  | jwksWrite d response held => simp [(afterJwks_landing rt req d _).not_early] at hearly
  | gateBlocked d why now => simp [(afterBlocked_landing rt req d why).not_early] at hearly
  | coalesced d why entry held => simp [afterRefresh_not_early] at hearly
  | refreshWrite d why response =>
      simp [refreshWriteStep, afterRefresh_not_early] at hearly
  | settle d stamp _ => simp [Landing.not_early hpc] at hearly
  | _ => cases hearly

theorem LockEffect.held {before after : Option ℕ} (h : LockEffect w w' before after)
    (hheld : w.jwksHeld = before.toList) : w'.jwksHeld = after.toList := by
  cases h with
  | keeps hholds hsame => rw [hsame, hheld, hholds]
  | takes stripe _ hbefore hafter hnew =>
      rw [hnew, hheld, hbefore, hafter]
      rfl
  | releases stripe hbefore hafter hnew =>
      rw [hnew, hheld, hbefore, hafter]
      simp [release]

/-- What one operation keeps. -/
theorem Unhindered.advance (h : Unhindered c rt n w req pc)
    (hadv : Advance (rt.at (c.env.clock n)) { w with now := c.env.clock n } req pc act w' pc') :
    Unhindered c rt (n + 1) w' req pc' where
  config := h.config
  now := by
    rw [hadv.now]
    exact c.env.monotone (Nat.le_succ n)
  tidy := hadv.tidy h.tidy
  ahead := by
    have hlt := hadv.ahead_lt
    have hahead := h.ahead
    omega
  free := hadv.free h.tidy h.free
  held := (hadv.lockEffect h.tidy).held h.held

/-- A call that has returned stays. -/
theorem Unhindered.rest {result : Result} (h : Unhindered c rt n w req (.done result)) :
    Unhindered c rt (n + 1) w req (.done result) where
  config := h.config
  now := h.now.trans (c.env.monotone (Nat.le_succ n))
  tidy := trivial
  ahead := Nat.zero_le _
  free := h.free
  held := h.held

end Alone

theorem startToken_config {rt : Runtime} {jwt : String} {config : TokenValidationConfig}
    {address : Option String} {req : Request} {pc : Pc}
    (h : startToken rt jwt config address = .token req pc) : req.config = config := by
  simp only [startToken] at h
  split at h
  · cases h
    rfl
  · split at h
    · split at h <;> cases h <;> rfl
    · cases h
      rfl

theorem startToken_using (rt : Runtime) (jwt : String) {config : TokenValidationConfig}
    (address : Option String) (f g : Flavour) (h : config.synchronous = true) :
    startToken (rt.using f) jwt config address = startToken (rt.using g) jwt config address := by
  simp only [startToken, finish_using rt ⟨jwt, config, _, _⟩ f g h]
  rfl

theorem Pc.done_of_ahead {pc : Pc} (h : pc.ahead = 0) : ∃ result, pc = .done result := by
  cases pc with
  | done result => exact ⟨result, rfl⟩
  | refreshWrite d why response => cases why <;> cases h
  | _ => cases h

section Course

variable {c : Solo} {f : Flavour} {n : ℕ} {w w' : Shared} {req : Request} {pc pc' : Pc} {act : Act}

/-- An operation in progress is one of the module. -/
theorem Solo.operation_eq (hnow : w.now ≤ c.env.clock n)
    (hpc : (Task.token req pc).finished = false)
    (hact : (Task.token req pc).receive c.interpreter (c.env.event n (.token req pc)).act =
      some act) :
    c.operation f n (w, .token req pc) =
      (advance (c.moduleAt f n) { w with now := c.env.clock n } req pc act).map fun r =>
        (r.1, .token req r.2) := by
  simp [Solo.operation, upstream, validator, hpc, hact, hnow, moveTask, Solo.moduleAt, Solo.module]

theorem Solo.operation_rest (c : Solo) (f : Flavour) (w : Shared) (req : Request) (result : Result)
    (n : ℕ) : c.operation f n (w, .token req (.done result)) =
      some (w, .token req (.done result)) := rfl

/-- The state belongs to a call that runs alone. -/
def Solo.Along (c : Solo) (f : Flavour) (n : ℕ) (s : Shared × Task) : Prop :=
  ∃ req pc, s.2 = .token req pc ∧ Unhindered c (c.module f) n s.1 req pc

theorem Solo.along_start (c : Solo) (f : Flavour) : c.Along f 0 (c.start f) := by
  obtain ⟨pc, hstart, hpc⟩ := startToken_eq (c.moduleAt f 0) c.jwt c.config c.address
  refine ⟨_, pc, hstart, startToken_config hstart, le_rfl, ?_, ?_, fun _ => rfl, ?_⟩
  · obtain rfl | ⟨result, rfl⟩ := hpc <;> trivial
  · obtain rfl | ⟨result, rfl⟩ := hpc <;> simp [Pc.ahead, callLength]
  · obtain rfl | ⟨result, rfl⟩ := hpc <;> rfl

/-- The next operation of a call in progress. -/
theorem Solo.operation_possible (h : Unhindered c (c.module f) n w req pc)
    (hpc : (Task.token req pc).finished = false) :
    ∃ act w' pc', (Task.token req pc).receive c.interpreter
        (c.env.event n (.token req pc)).act = some act ∧ pc.takes act ∧
      advance (c.moduleAt f n) { w with now := c.env.clock n } req pc act = some (w', pc') ∧
      c.operation f n (w, .token req pc) = some (w', .token req pc') := by
  obtain ⟨act, hact, htakes⟩ := c.env.event_takes c.interpreter n req hpc
  have hdisco : pc = .discoWait → w.discoHeld = [] := by
    rintro rfl
    exact h.free rfl
  have hjwks : pc.holds (c.moduleAt f n) = none → w.jwksHeld = [] := by
    intro hholds
    have hnone : pc.holds (c.module f) = none := hholds
    rw [h.held, hnone]
    rfl
  obtain ⟨w', pc', hadv⟩ :=
    advance_possible (c.moduleAt f n) { w with now := c.env.clock n } req htakes hdisco hjwks
  refine ⟨act, w', pc', hact, htakes, hadv, ?_⟩
  rw [Solo.operation_eq h.now hpc hact, hadv]
  rfl

theorem Solo.operation_along {s : Shared × Task} (h : c.Along f n s) :
    ∃ s', c.operation f n s = some s' ∧ c.Along f (n + 1) s' := by
  obtain ⟨w, x⟩ := s
  obtain ⟨req, pc, rfl, hpc⟩ := h
  by_cases hdone : (Task.token req pc).finished = true
  · cases pc with
    | done result => exact ⟨_, c.operation_rest f w req result n, req, _, rfl, hpc.rest⟩
    | _ => cases hdone
  · rw [Bool.not_eq_true] at hdone
    obtain ⟨act, w', pc', -, -, hadv, hop⟩ := Solo.operation_possible hpc hdone
    exact ⟨_, hop, req, pc', rfl, hpc.advance (advance_sound hadv)⟩

theorem Solo.course_along (c : Solo) (f : Flavour) (n : ℕ) :
    ∃ s, c.course f n = some s ∧ c.Along f n s :=
  orbit_total (fun _ _ h => Solo.operation_along h) (c.along_start f) n

/-- A call alone returns. -/
theorem Solo.course_ends (c : Solo) (f : Flavour) :
    ∃ w req result, c.course f callLength = some (w, .token req (.done result)) := by
  obtain ⟨⟨w, x⟩, hcourse, req, pc, rfl, hpc⟩ := c.course_along f callLength
  have hahead : pc.ahead = 0 := by
    have hle := hpc.ahead
    omega
  obtain ⟨result, rfl⟩ := Pc.done_of_ahead hahead
  exact ⟨w, req, result, hcourse⟩

/-- A call that has returned has come to its ending. -/
theorem Solo.ending_of_course {result : Result}
    (h : c.course f n = some (w, .token req (.done result))) :
    c.ending f = some (result, w.stores) := by
  obtain ⟨w', req', result', hend⟩ := c.course_ends f
  have hsame : (w', Task.token req' (.done result')) = (w, .token req (.done result)) :=
    orbit_rest_unique (c.operation_rest f w' req' result') (c.operation_rest f w req result) hend h
  rw [hsame] at hend
  simp [Solo.ending, hend, Task.result]

/-- Until something goes astray the modules take the same course. -/
theorem Solo.operation_using {s : Shared × Task} (h : c.Along f n s) (g : Flavour)
    (hsync : c.config.synchronous = true)
    (hok : s.2.steady c.interpreter.platform = true) :
    c.operation f n s = c.operation g n s := by
  obtain ⟨w, x⟩ := s
  obtain ⟨req, pc, rfl, hpc⟩ := h
  by_cases hdone : (Task.token req pc).finished = true
  · simp [Solo.operation, hdone]
  · rw [Bool.not_eq_true] at hdone
    obtain ⟨act, hact, -⟩ := c.env.event_takes c.interpreter n req hdone
    have hreq : req.config.synchronous = true := by rw [hpc.config, hsync]
    have hadv := advance_using ((c.runtime.on c.interpreter).at (c.env.clock n))
      { w with now := c.env.clock n } req pc act f g hreq hok
    have hf := Solo.operation_eq (f := f) hpc.now hdone hact
    have hg := Solo.operation_eq (f := g) hpc.now hdone hact
    rw [hf, hg]
    exact congrArg _ hadv

theorem Solo.course_using (f g : Flavour) (hsync : c.config.synchronous = true)
    (hok : ∀ k < n, ∀ s, c.course f k = some s → s.2.steady c.interpreter.platform = true) :
    c.course f n = c.course g n := by
  have hstart : c.start f = c.start g :=
    congrArg (Prod.mk _)
      (startToken_using ((c.runtime.on c.interpreter).at (c.env.clock 0)) c.jwt c.address f g hsync)
  have hsame : c.course f n = orbit (c.operation g) (c.start f) n := by
    refine orbit_congr fun k hk s hs => ?_
    obtain ⟨s', hs', halong⟩ := c.course_along f k
    have heq : s' = s := Option.some.inj (hs'.symm.trans hs)
    subst heq
    exact Solo.operation_using halong g hsync (hok k hk s' hs)
  rw [hsame, hstart]
  rfl

end Course

/-- The answer about to be written is an error. -/
def Pc.failed : Pc → Bool
  | .discoWrite response => !response.isSuccessful
  | .jwksWrite _ response | .refreshWrite _ _ response => !response.isSuccessful
  | _ => false

section Astray

variable {i : Interpreter} {policy : DiscoveryPolicy} {address e : String}

theorem getDiscoveryDocument_astray (a : HttpAnswer)
    (h : Url.urlparse i.platform address = .error e) :
    (getDiscoveryDocument i address policy a).toResponse.isSuccessful = false := by
  have hv : validateUrlScheme i.platform address policy = .error (.value e) :=
    validateUrlScheme_of_urlparse policy h
  simp only [getDiscoveryDocument, hv, UrlError.toDiscoError, handleDiscoveryError,
    unexpectedResult, failedResult, DiscoveryResult.toResponse]
  rfl

theorem getJwks_astray (answer : JwksResponse) (h : Url.urlparse i.platform address = .error e) :
    (getJwks i address policy answer).isSuccessful = false := by
  have hv : validateUrlScheme i.platform address policy = .error (.value e) :=
    validateUrlScheme_of_urlparse policy h
  simp [getJwks, hv, handleJwksError]

end Astray

section Failed

variable (rt : Runtime) (req : Request) (d : Disco) {response : JwksResponse}

theorem afterDisco_refused (rt : Runtime) {response : DiscoveryDocumentResponse}
    (h : response.isSuccessful = false) :
    ∃ m, afterDisco rt response = .done (.error (.tokenValidation m)) := by
  simp [afterDisco, validateDiscoResponse, h]

theorem afterJwks_refused (h : response.isSuccessful = false) :
    ∃ m, afterJwks rt req d response = .done (.error (.tokenValidation m)) := by
  simp [afterJwks, validateJwksResponse, h]

theorem afterRefresh_refused (why : Why) (retained : Bool) (h : response.isSuccessful = false) :
    ∃ m, afterRefresh rt req d why response retained = .done (.error (.tokenValidation m)) := by
  cases why with
  | kidMiss kid header cached => simp [afterRefresh, validateJwksResponse, h]
  | retry => simp [afterRefresh, validateJwksResponse, h]

/-- Writing an error ends the call. -/
theorem advance_failed (w : Shared) {pc : Pc} (h : pc.failed = true) :
    ∃ w' m, advance rt w req pc .run = some (w', .done (.error (.tokenValidation m))) := by
  cases pc with
  | discoWrite response =>
      obtain ⟨m, hm⟩ := afterDisco_refused rt (by simpa [Pc.failed] using h)
      simp [advance, hm]
  | jwksWrite d response =>
      obtain ⟨m, hm⟩ := afterJwks_refused rt req d (by simpa [Pc.failed] using h)
      simp [advance, hm]
  | refreshWrite d why response =>
      have hr : response.isSuccessful = false := by simpa [Pc.failed] using h
      obtain ⟨m, hm⟩ := afterRefresh_refused rt req d why false hr
      simp [advance, refreshWriteStep, surfaced, hr, hm]
  | _ => cases h

end Failed

section Apart

variable {c : Solo} {n : ℕ} {w : Shared} {req : Request} {pc : Pc} {address e : String}

theorem Task.not_finished_of_asks (h : (Task.token req pc).asks = some address) :
    (Task.token req pc).finished = false := by
  cases pc with
  | done result => cases h
  | _ => rfl

/-- The asynchronous call lets the exception out. -/
theorem Solo.astray_aio (h : Unhindered c (c.module .aio) n w req pc)
    (hasks : (Task.token req pc).asks = some address)
    (he : Url.urlparse c.interpreter.platform address = .error e) :
    ∃ w', c.operation .aio n (w, .token req pc) =
      some (w', .token req (.done (.error (.other e)))) := by
  obtain ⟨act, w', pc', -, htakes, hadv, hop⟩ :=
    Solo.operation_possible h (Task.not_finished_of_asks hasks)
  have hraised : (c.moduleAt .aio n).countingError address req.policy = some (.other e) :=
    countingError_raised ((c.runtime.on c.interpreter).at (c.env.clock n)) req.policy he
  refine ⟨w', hop.trans ?_⟩
  cases pc with
  | discoFetch =>
      obtain ⟨answer, rfl⟩ := htakes
      cases hasks
      simp only [advance, hraised] at hadv
      cases hadv
      rfl
  | jwksFetch d =>
      obtain ⟨response, rfl⟩ := htakes
      cases hasks
      simp only [advance, hraised] at hadv
      cases hadv
      rfl
  | refreshFetch d why =>
      obtain ⟨response, rfl⟩ := htakes
      cases hasks
      simp only [advance, hraised] at hadv
      cases hadv
      rfl
  | _ => cases hasks

/-- The synchronous call is given a failed response. -/
theorem Solo.astray_sync (h : Unhindered c (c.module .sync) n w req pc)
    (hasks : (Task.token req pc).asks = some address)
    (he : Url.urlparse c.interpreter.platform address = .error e) :
    ∃ w' pc', c.operation .sync n (w, .token req pc) = some (w', .token req pc') ∧
      pc'.failed = true := by
  obtain ⟨act, w', pc', hact, htakes, hadv, hop⟩ :=
    Solo.operation_possible h (Task.not_finished_of_asks hasks)
  refine ⟨w', pc', hop, ?_⟩
  cases pc with
  | discoFetch =>
      obtain ⟨answer, rfl⟩ := htakes
      obtain ⟨req', a, hx, rfl⟩ := Task.receive_discovery hact
      cases hx
      cases hasks
      cases hadv
      rw [processDiscoveryResponse_answer]
      simp [Pc.failed, getDiscoveryDocument_astray a he]
  | jwksFetch d =>
      obtain ⟨response, rfl⟩ := htakes
      obtain ⟨req', d', answer, hx | ⟨why, hx⟩, rfl⟩ := Task.receive_keys hact
      · cases hx
        cases hasks
        cases hadv
        simp [Pc.failed, getJwks_astray answer he]
      · cases hx
  | refreshFetch d why =>
      obtain ⟨response, rfl⟩ := htakes
      obtain ⟨req', d', answer, hx | ⟨why, hx⟩, rfl⟩ := Task.receive_keys hact
      · cases hx
      · cases hx
        cases hasks
        cases hadv
        simp [Pc.failed, getJwks_astray answer he]
  | _ => cases hasks

theorem Solo.failed_ends {f : Flavour} (h : Unhindered c (c.module f) n w req pc)
    (hpc : pc.failed = true) :
    ∃ w' m, c.operation f n (w, .token req pc) =
      some (w', .token req (.done (.error (.tokenValidation m)))) := by
  have hprogress : (Task.token req pc).finished = false := by
    cases pc with
    | done result => cases hpc
    | _ => rfl
  have hrun : (Task.token req pc).receive c.interpreter (c.env.event n (.token req pc)).act =
      some .run := by
    cases pc with
    | discoWrite response => rfl
    | jwksWrite d response => rfl
    | refreshWrite d why response => rfl
    | _ => cases hpc
  obtain ⟨w', m, hadv⟩ :=
    advance_failed (c.moduleAt f n) req { w with now := c.env.clock n } hpc
  refine ⟨w', m, ?_⟩
  rw [Solo.operation_eq h.now hprogress hrun, hadv]
  rfl

end Apart

theorem Task.not_wellAddressed {p : Url.Platform} {x : Task} (h : ¬ x.wellAddressed p = true) :
    ∃ address e, x.asks = some address ∧ Url.urlparse p address = .error e := by
  unfold Task.wellAddressed at h
  cases hasks : x.asks with
  | none => simp [hasks] at h
  | some address =>
      cases hparse : Url.urlparse p address with
      | ok parsed => simp [hasks, hparse, Except.isOk, Except.toBool] at h
      | error e => exact ⟨address, e, rfl, hparse⟩

theorem Task.wellAddressed_iff {p : Url.Platform} {x : Task} :
    x.wellAddressed p = true ↔
      ∀ address, x.asks = some address → ∃ parsed, Url.urlparse p address = .ok parsed := by
  constructor
  · intro h address hasks
    simp only [Task.wellAddressed, hasks, Option.all_some] at h
    cases hparse : Url.urlparse p address with
    | ok parsed => exact ⟨parsed, rfl⟩
    | error e => simp [hparse, Except.isOk, Except.toBool] at h
  · intro h
    by_contra hno
    obtain ⟨address, e, hasks, he⟩ := Task.not_wellAddressed hno
    obtain ⟨parsed, hok⟩ := h address hasks
    rw [he] at hok
    cases hok

theorem Task.steady_iff {p : Url.Platform} {x : Task} :
    x.steady p = true ↔
      (∀ address, x.asks = some address → ∃ parsed, Url.urlparse p address = .ok parsed) ∧
        ∀ response, x.document = some response → response.strays = false := by
  rw [Task.steady, Bool.and_eq_true, Task.wellAddressed_iff]
  refine and_congr_right fun _ => ?_
  cases x.document with
  | none => exact iff_of_true rfl (fun response h => nomatch h)
  | some response => simp

/-- The operation that goes on with a stray `jwks_uri`. -/
theorem Solo.operation_strays {c : Solo} {f : Flavour} {n : ℕ} {w : Shared} {req : Request} {pc : Pc}
    {response : DiscoveryDocumentResponse} (h : Unhindered c (c.module f) n w req pc)
    (hdocument : (Task.token req pc).document = some response) (hstray : response.strays = true) :
    ∃ w' uri, isStrayUri uri = true ∧ c.operation f n (w, .token req pc) =
      some (w', .token req (.done (.error (mistypedJwksUri (c.module f) uri)))) := by
  obtain ⟨uri, huri, hends⟩ := afterDisco_strays (c.moduleAt f n) hstray
  have hprogress : (Task.token req pc).finished = false := by
    cases pc with
    | done result => cases hdocument
    | _ => rfl
  obtain ⟨act, w', pc', -, htakes, hadv, hop⟩ := Solo.operation_possible h hprogress
  refine ⟨w', uri, huri, hop.trans ?_⟩
  cases pc with
  | discoTouch response' locked =>
      obtain rfl : act = .run := htakes
      cases hdocument
      simp only [advance, hends] at hadv
      cases hadv
      rfl
  | discoWrite response' =>
      obtain rfl : act = .run := htakes
      cases hdocument
      simp only [advance, hends] at hadv
      cases hadv
      rfl
  | _ => cases hdocument

theorem SameOutcome.refl (r : Result) : SameOutcome r r := by
  cases r <;> rfl

section Endings

variable {c : Solo} {n : ℕ} {w : Shared} {req : Request} {pc : Pc}

/-- The endings of the two calls, once they go apart. -/
def Solo.Apart (c : Solo) : Prop :=
  ∃ m e stores stores', c.ending .sync = some (.error (.tokenValidation m), stores) ∧
    c.ending .aio = some (.error (.other e), stores')

theorem Solo.apart_astray (hsync : c.course .sync n = some (w, .token req pc))
    (haio : c.course .aio n = some (w, .token req pc))
    (hpc : Unhindered c (c.module .sync) n w req pc)
    (hpc' : Unhindered c (c.module .aio) n w req pc)
    (hbad : ¬ (Task.token req pc).wellAddressed c.interpreter.platform = true) : c.Apart := by
  obtain ⟨address, e, hasks, he⟩ := Task.not_wellAddressed hbad
  obtain ⟨w₁, hraised⟩ := Solo.astray_aio hpc' hasks he
  obtain ⟨w₂, pc₂, hop, hfailed⟩ := Solo.astray_sync hpc hasks he
  have hnext : c.course .sync (n + 1) = some (w₂, .token req pc₂) := (orbit_succ hsync).trans hop
  obtain ⟨_, hs₂, req₂, pc₂', hx₂, hpc₂⟩ := c.course_along .sync (n + 1)
  cases hnext.symm.trans hs₂
  cases hx₂
  obtain ⟨w₃, m, hend⟩ := Solo.failed_ends hpc₂ hfailed
  have hlast : c.course .sync (n + 2) = some (w₃, .token req (.done (.error (.tokenValidation m)))) :=
    (orbit_succ hnext).trans hend
  have hout : c.course .aio (n + 1) = some (w₁, .token req (.done (.error (.other e)))) :=
    (orbit_succ haio).trans hraised
  exact ⟨m, e, _, _, Solo.ending_of_course hlast, Solo.ending_of_course hout⟩

theorem Solo.apart_strays {response : DiscoveryDocumentResponse}
    (hsync : c.course .sync n = some (w, .token req pc))
    (haio : c.course .aio n = some (w, .token req pc))
    (hpc : Unhindered c (c.module .sync) n w req pc)
    (hpc' : Unhindered c (c.module .aio) n w req pc)
    (hdocument : (Task.token req pc).document = some response) (hstray : response.strays = true) :
    c.Apart := by
  obtain ⟨w₁, uri, huri, hop⟩ := Solo.operation_strays hpc hdocument hstray
  obtain ⟨w₂, uri', huri', hop'⟩ := Solo.operation_strays hpc' hdocument hstray
  obtain ⟨m, hm⟩ := mistypedJwksUri_sync (c.runtime.on c.interpreter) huri
  obtain ⟨e, he⟩ := mistypedJwksUri_aio (c.runtime.on c.interpreter) huri'
  have hlast : c.course .sync (n + 1) = some (w₁, .token req (.done (.error (.tokenValidation m)))) := by
    rw [← hm]
    exact (orbit_succ hsync).trans hop
  have hout : c.course .aio (n + 1) = some (w₂, .token req (.done (.error (.other e)))) := by
    rw [← he]
    exact (orbit_succ haio).trans hop'
  exact ⟨m, e, _, _, Solo.ending_of_course hlast, Solo.ending_of_course hout⟩

end Endings

/-- Once something goes astray in the synchronous call, the two end differently. -/
theorem Solo.endings_apart {c : Solo} {n : ℕ} {s : Shared × Task}
    (hsync : c.course .sync n = some s) (haio : c.course .aio n = some s)
    (hbad : ¬ s.2.steady c.interpreter.platform = true) : c.Apart := by
  obtain ⟨w, x⟩ := s
  obtain ⟨_, hs, req, pc, hx, hpc⟩ := c.course_along .sync n
  cases hsync.symm.trans hs
  cases hx
  obtain ⟨_, ha, req', pc', hx', hpc'⟩ := c.course_along .aio n
  cases haio.symm.trans ha
  cases hx'
  by_cases haddress : (Task.token req pc).wellAddressed c.interpreter.platform = true
  · cases hdocument : (Task.token req pc).document with
    | none => simp [Task.steady, haddress, hdocument] at hbad
    | some response =>
        have hstray : response.strays = true := by
          simpa [Task.steady, haddress, hdocument] using hbad
        exact Solo.apart_strays hsync haio hpc hpc' hdocument hstray
  · exact Solo.apart_astray hsync haio hpc hpc' haddress

/-- The modules agree on a call with a synchronous claims validator exactly if `urlparse` takes
the address of every request the synchronous call makes, and no document that the call goes on
with has a number or `true` for its `jwks_uri`. -/
theorem modules_agree (c : Solo) (hsync : c.config.synchronous = true) :
    c.Agrees ↔ ∀ n w x, c.course .sync n = some (w, x) →
      (∀ address, x.asks = some address →
        ∃ parsed, Url.urlparse c.interpreter.platform address = .ok parsed) ∧
      ∀ response, x.document = some response → response.strays = false := by
  obtain hall | ⟨n, s, hs, hbad, hfirst⟩ := orbit_first (c.operation .sync) (c.start .sync)
    fun s => s.2.steady c.interpreter.platform = true
  · obtain ⟨w, req, result, hend⟩ := c.course_ends .sync
    have hsame : c.course .sync callLength = c.course .aio callLength :=
      Solo.course_using .sync .aio hsync fun k _ => hall k
    refine iff_of_true ⟨_, _, Solo.ending_of_course hend, Solo.ending_of_course (hsame ▸ hend),
      SameOutcome.refl result, rfl⟩ ?_
    intro n w x hcourse
    exact Task.steady_iff.mp (hall n (w, x) hcourse)
  · have hsame : c.course .sync n = c.course .aio n := Solo.course_using .sync .aio hsync hfirst
    obtain ⟨m, e, stores, stores', hsyncEnd, haioEnd⟩ :=
      Solo.endings_apart hs (hsame.symm.trans hs) hbad
    refine iff_of_false ?_ ?_
    · rintro ⟨x, y, hx, hy, hagree⟩
      rw [hsyncEnd] at hx
      rw [haioEnd] at hy
      cases hx
      cases hy
      exact absurd hagree.outcome (by simp [SameOutcome, PyError.className])
    · intro hok
      exact hbad (Task.steady_iff.mpr (hok n s.1 s.2 hs))

/-- A provider with one key, which no token names. -/
def sampleSurroundings : Surroundings where
  clock n := n
  monotone := Nat.mono_cast
  discovery _ := .response (Discovery.sampleResponse "https://idp/jwks")
  keys _ := { isSuccessful := true, keys := some [{ kty := "RSA", kid := some "k" }] }

/-- A first call for the address. -/
def sampleSolo (address : String) : Solo where
  runtime := sampleRuntime .sync
  interpreter := sampleInterpreter
  env := sampleSurroundings
  stores := ⟨∅, ∅, ∅⟩
  jwt := "token"
  config := { performDisco := true }
  address := some address

/-- What a call meets, it meets in its first operations. -/
theorem Solo.course_steady {c : Solo} {f : Flavour}
    (h : ∀ n ≤ callLength, (c.course f n).all (fun s =>
      s.2.steady c.interpreter.platform) = true) {n : ℕ} {s : Shared × Task}
    (hs : c.course f n = some s) : s.2.steady c.interpreter.platform = true := by
  by_cases hn : n ≤ callLength
  · have hfirst := h n hn
    rw [hs] at hfirst
    exact hfirst
  · obtain ⟨w, req, result, hend⟩ := c.course_ends f
    have hrest : c.course f n = some (w, .token req (.done result)) :=
      orbit_rest (c.operation_rest f w req result) hend (by omega)
    cases hs.symm.trans hrest
    rfl

theorem modules_agree_sample : (sampleSolo "https://idp").Agrees := by
  refine (modules_agree (sampleSolo "https://idp") rfl).mpr ?_
  intro n w x hcourse
  exact Task.steady_iff.mp (Solo.course_steady (by decide +kernel) hcourse)

/-- The class of the exception a call ended with. -/
def raisedClass : Result → Option String
  | .ok _ => none
  | .error e => some e.className

theorem SameOutcome.raisedClass_eq {r r' : Result} (h : SameOutcome r r') :
    raisedClass r = raisedClass r' := by
  cases r <;> cases r' <;> simp_all [SameOutcome, raisedClass]

theorem malformed_address_disagrees :
    (sampleSolo "https://[bad").config.synchronous = true ∧
      ¬ (sampleSolo "https://[bad").Agrees := by
  refine ⟨rfl, ?_⟩
  rintro ⟨s, a, hs, ha, hagree⟩
  have hsync : ((sampleSolo "https://[bad").ending .sync).map (fun x => raisedClass x.1) =
      some (some "TokenValidationException") := by decide +kernel
  have haio : ((sampleSolo "https://[bad").ending .aio).map (fun x => raisedClass x.1) =
      some (some "Exception") := by decide +kernel
  have hsame := hagree.outcome.raisedClass_eq
  simp only [hs, ha, Option.map_some, Option.some.injEq] at hsync haio
  rw [hsync, haio] at hsame
  exact absurd hsame (by decide)

end IdentityModel.Py
