import IdentityModel.PyNumbers
import IdentityModel.Retries

/-!
# Retries in Python

`core/http_utils.py` and the wrappers of `retry_with_backoff` and `retry_with_backoff_async`, around a
function whose calls come to given outcomes: how often it is called, what is waited for and what is
returned or raised. Logging is left out. Both wrappers are one loop over a function that sleeps.
-/
namespace IdentityModel.Py.Retry

open Float64

/-- What is read of a response. -/
structure Response where
  statusCode : ℤ
  url : String
  location : Option String
  retryAfter : Option String
  deriving DecidableEq, Repr

/-- What a call of the decorated function comes to. -/
inductive Outcome
  | response (r : Response)
  | requestError (message : String)
  | raised (message : String)
  deriving DecidableEq, Repr

/-- What a wrapper raises; `noResponse` is the `RuntimeError` behind the loop. -/
inductive Raised
  | networkException (message url : String) (statusCode : ℤ)
  | requestError (message : String)
  | other (message : String)
  | overflow (message : String)
  | value (message : String)
  | noResponse
  deriving DecidableEq, Repr

/-- Of the interpreter: its numbers, `str.isdigit` of a character, and the time stamp of what
`parsedate_to_datetime` reads, where it reads something. -/
structure Interpreter where
  numbers : NumberPlatform
  isDigit : Char → Bool
  parsedate : String → Option (Except String Float64)

/-- A call of a wrapper: its retries and base delay, what the calls come to, and what the clock shows
after each of them. -/
structure Call where
  interpreter : Interpreter
  retries : ℤ
  delayBase : Float64
  outcomes : ℕ → Outcome
  clock : ℕ → Float64

/-- `MAX_RETRY_DELAY_SECONDS`. -/
def maxRetryDelaySeconds : ℚ := 120

/-- `should_retry_response`. -/
def shouldRetryResponse (r : Response) (attempt : ℕ) (retries : ℤ) : Bool :=
  (r.statusCode = 429 || 500 ≤ r.statusCode) && (attempt : ℤ) < retries

/-- `calculate_delay`: the power of two is an integer, which must become a float. -/
def calculateDelay (baseDelay : Float64) (attempt : ℕ) : Except Raised Float64 :=
  if attempt < 1024 then .ok (mul baseDelay (.finite (2 ^ attempt)))
  else .error (.overflow "int too large to convert to float")

/-- `parse_retry_after`. -/
def parseRetryAfter (p : Interpreter) (value : Option String) (now : Float64) :
    Except Raised (Option Float64) :=
  match value with
  | none => .ok none
  | some value =>
      let text := pyStrip value.toList
      if text = [] then .ok none
      else if text.all p.isDigit then
        match float? p.numbers text with
        | some seconds => .ok (some seconds)
        | none => .error (.value ("could not convert string to float: '" ++ String.ofList text ++ "'"))
      else
        match p.parsedate (String.ofList text) with
        | none => .ok none
        | some (.error message) => .error (.other message)
        | some (.ok timestamp) => .ok (some (pyMax (.finite 0) (sub timestamp now)))

/-- `resolve_retry_delay`. -/
def resolveRetryDelay (p : Interpreter) (r : Response) (baseDelay : Float64) (attempt : ℕ)
    (now : Float64) : Except Raised Float64 := do
  let backoff ← calculateDelay baseDelay attempt
  match ← parseRetryAfter p r.retryAfter now with
  | none => return backoff
  | some retryAfter => return pyMin (pyMax backoff retryAfter) (.finite maxRetryDelaySeconds)

/-- `check_no_redirect`. -/
def checkNoRedirect (r : Response) : Except Raised Unit :=
  if 300 ≤ r.statusCode ∧ r.statusCode ≤ 399 then
    .error (.networkException ("HTTP " ++ toString r.statusCode ++ " redirect blocked — target: '" ++
      r.location.getD "<not provided>" ++
      "'. Redirect following is disabled to prevent SSRF attacks.") r.url r.statusCode)
  else .ok ()

/-- What a call of `sleep` does. -/
inductive Pause
  | slept
  | raised (e : Raised)
  | endless
  deriving DecidableEq, Repr

/-- `time.sleep`: nanoseconds, rounded away from zero, in 64 bits. -/
def timeSleep (delay : Float64) : Pause :=
  match mul delay (.finite (10 ^ 9)) with
  | .nan => .raised (.value "Invalid value NaN (not a number)")
  | .inf _ => .raised (.overflow "timestamp too large to convert to C PyTime_t")
  | .finite q =>
      let nanoseconds := if 0 ≤ q then ⌈q⌉ else ⌊q⌋
      if nanoseconds < -2 ^ 63 ∨ 2 ^ 63 ≤ nanoseconds then
        .raised (.overflow "timestamp too large to convert to C PyTime_t")
      else if nanoseconds < 0 then .raised (.value "sleep length must be non-negative")
      else .slept

/-- `asyncio.sleep`. -/
def asyncioSleep : Float64 → Pause
  | .nan => .raised (.value "Invalid delay: NaN (not a number)")
  | .inf false => .endless
  | _ => .slept

/-- How a call of a wrapper ends, if it does. -/
inductive Ending
  | returned (r : Response)
  | raised (e : Raised)
  | waiting
  deriving DecidableEq, Repr

/-- What has happened: the calls of the function, the waits, and the end. -/
structure Run where
  calls : ℕ
  waits : List Float64
  ending : Ending
  deriving DecidableEq, Repr

/-- Sleep for a delay, then go on with one wait more. -/
def waitThen (sleep : Float64 → Pause) (delay : Except Raised Float64) (calls : ℕ)
    (waits : List Float64) (next : List Float64 → Run) : Run :=
  match delay with
  | .error e => ⟨calls, waits, .raised e⟩
  | .ok delay =>
      match sleep delay with
      | .slept => next (waits ++ [delay])
      | .raised e => ⟨calls, waits, .raised e⟩
      | .endless => ⟨calls, waits ++ [delay], .waiting⟩

/-- The loop over `range(retries + 1)`, with so many attempts left. -/
def retryLoop (sleep : Float64 → Pause) (c : Call) : ℕ → ℕ → Option Raised → List Float64 → Run
  | 0, attempt, lastException, waits => ⟨attempt, waits, .raised (lastException.getD .noResponse)⟩
  | left + 1, attempt, lastException, waits =>
      match c.outcomes attempt with
      | .response r =>
          if shouldRetryResponse r attempt c.retries then
            waitThen sleep
              (resolveRetryDelay c.interpreter r c.delayBase attempt (c.clock attempt))
              (attempt + 1) waits (retryLoop sleep c left (attempt + 1) lastException)
          else
            match checkNoRedirect r with
            | .error e => ⟨attempt + 1, waits, .raised e⟩
            | .ok () => ⟨attempt + 1, waits, .returned r⟩
      | .requestError message =>
          if (attempt : ℤ) < c.retries then
            waitThen sleep (calculateDelay c.delayBase attempt) (attempt + 1) waits
              (retryLoop sleep c left (attempt + 1) (some (.requestError message)))
          else ⟨attempt + 1, waits, .raised (.requestError message)⟩
      | .raised message => ⟨attempt + 1, waits, .raised (.other message)⟩

/-- `retry_with_backoff`. -/
def retryWithBackoff (c : Call) : Run := retryLoop timeSleep c (c.retries + 1).toNat 0 none []

/-- `retry_with_backoff_async`. -/
def retryWithBackoffAsync (c : Call) : Run := retryLoop asyncioSleep c (c.retries + 1).toNat 0 none []

/-- 429, 5xx and request errors. -/
def Outcome.isTransient : Outcome → Bool
  | .response r => r.statusCode = 429 || 500 ≤ r.statusCode
  | .requestError _ => true
  | .raised _ => false

/-- What the wrapper makes of the outcome of its last call. -/
def Outcome.conclusion : Outcome → Ending
  | .response r =>
      match checkNoRedirect r with
      | .error e => .raised e
      | .ok () => .returned r
  | .requestError message => .raised (.requestError message)
  | .raised message => .raised (.other message)

/-- The first attempt with another outcome, or else the last one permitted. -/
def Call.lastAttempt (c : Call) : ℕ :=
  Retries.lastAttempt Outcome.isTransient c.outcomes c.retries.toNat 0

/-- Up to it all outcomes are transient, and its own is not, unless no retry is left. -/
theorem Call.lastAttempt_spec (c : Call) : (∀ i < c.lastAttempt, (c.outcomes i).isTransient = true) ∧
    c.lastAttempt ≤ c.retries.toNat ∧
      (c.lastAttempt < c.retries.toNat → (c.outcomes c.lastAttempt).isTransient = false) := by
  have hle := Retries.lastAttempt_le Outcome.isTransient c.outcomes c.retries.toNat 0
  rw [Nat.zero_add] at hle
  refine ⟨fun i hi => Retries.again_of_lt (Nat.zero_le i) hi, hle, fun hlt => ?_⟩
  refine Retries.not_again_of_lt ?_
  rwa [Nat.zero_add]

/-- The delay behind a transient outcome. -/
def Call.delay (c : Call) (attempt : ℕ) : Except Raised Float64 :=
  match c.outcomes attempt with
  | .response r => resolveRetryDelay c.interpreter r c.delayBase attempt (c.clock attempt)
  | _ => calculateDelay c.delayBase attempt

section Steps

variable {sleep : Float64 → Pause} {c : Call} {left attempt : ℕ} {last : Option Raised}
  {waits : List Float64}

/-- A transient outcome is waited for while attempts are left. -/
theorem retryLoop_again (sleep : Float64 → Pause) (left : ℕ) (last : Option Raised)
    (waits : List Float64) (htransient : (c.outcomes attempt).isTransient = true)
    (hleft : (attempt : ℤ) < c.retries) :
    ∃ last', retryLoop sleep c (left + 1) attempt last waits =
      waitThen sleep (c.delay attempt) (attempt + 1) waits
        (retryLoop sleep c left (attempt + 1) last') := by
  rw [retryLoop, Call.delay]
  cases houtcome : c.outcomes attempt with
  | response r =>
      have hretry : shouldRetryResponse r attempt c.retries = true := by
        rw [houtcome] at htransient
        rw [shouldRetryResponse, Bool.and_eq_true]
        exact ⟨htransient, decide_eq_true hleft⟩
      dsimp only
      rw [if_pos hretry]
      exact ⟨last, rfl⟩
  | requestError message =>
      dsimp only
      rw [if_pos hleft]
      exact ⟨_, rfl⟩
  | raised message =>
      rw [houtcome] at htransient
      cases htransient

/-- Any other outcome is concluded, and so is that of the last permitted attempt. -/
theorem retryLoop_last
    (hlast : (c.outcomes attempt).isTransient = false ∨ c.retries ≤ (attempt : ℤ)) :
    retryLoop sleep c (left + 1) attempt last waits =
      ⟨attempt + 1, waits, (c.outcomes attempt).conclusion⟩ := by
  rw [retryLoop]
  cases houtcome : c.outcomes attempt with
  | response r =>
      have hretry : shouldRetryResponse r attempt c.retries = false := by
        rw [houtcome] at hlast
        rw [shouldRetryResponse, Bool.and_eq_false_iff]
        obtain hstop | hout := hlast
        · exact .inl hstop
        · exact .inr (decide_eq_false (by omega))
      dsimp only [Outcome.conclusion]
      rw [hretry, if_neg Bool.false_ne_true]
      cases checkNoRedirect r <;> rfl
  | requestError message =>
      have hout : c.retries ≤ (attempt : ℤ) := by
        rw [houtcome] at hlast
        obtain hstop | hout := hlast
        · cases hstop
        · exact hout
      dsimp only [Outcome.conclusion]
      rw [if_neg (by omega)]
  | raised message => rfl

section Waiting

variable {d : Float64} {e : Raised} {calls : ℕ} {next : List Float64 → Run}

theorem waitThen_slept (h : sleep d = .slept) :
    waitThen sleep (.ok d) calls waits next = next (waits ++ [d]) := by
  simp only [waitThen, h]

theorem waitThen_raised (h : sleep d = .raised e) :
    waitThen sleep (.ok d) calls waits next = ⟨calls, waits, .raised e⟩ := by
  simp only [waitThen, h]

theorem waitThen_endless (h : sleep d = .endless) :
    waitThen sleep (.ok d) calls waits next = ⟨calls, waits ++ [d], .waiting⟩ := by
  simp only [waitThen, h]

/-- Without sleep there is no further call. -/
theorem waitThen_calls {delay : Except Raised Float64}
    (hbad : ¬ ∃ d, delay = .ok d ∧ sleep d = .slept) :
    (waitThen sleep delay calls waits next).calls = calls := by
  cases delay with
  | error e => rfl
  | ok d =>
      cases hsleep : sleep d with
      | slept => exact absurd ⟨d, rfl, hsleep⟩ hbad
      | raised e => rw [waitThen_raised hsleep]
      | endless => rw [waitThen_endless hsleep]

end Waiting

end Steps

section Runs

variable {sleep : Float64 → Pause} {c : Call} {left attempt : ℕ} {last : Option Raised}
  {waits : List Float64}

/-- The delays of these attempts. -/
def Call.delays (c : Call) (attempts : List ℕ) : List Float64 :=
  attempts.filterMap fun attempt => (c.delay attempt).toOption

/-- The loop ends with an outcome, or waits and goes on with the next attempt. -/
theorem retryLoop_induction {P : ℕ → ℕ → List Float64 → Run → Prop}
    (hlast : ∀ left attempt waits,
      Retries.lastAttempt Outcome.isTransient c.outcomes left attempt = attempt →
        P left attempt waits ⟨attempt + 1, waits, (c.outcomes attempt).conclusion⟩)
    (hagain : ∀ left attempt waits next,
      Retries.lastAttempt Outcome.isTransient c.outcomes (left + 1) attempt =
        Retries.lastAttempt Outcome.isTransient c.outcomes left (attempt + 1) →
      (∀ waits', P left (attempt + 1) waits' (next waits')) →
        P (left + 1) attempt waits (waitThen sleep (c.delay attempt) (attempt + 1) waits next))
    (last : Option Raised) (waits : List Float64) (hretries : c.retries = attempt + left) :
    P left attempt waits (retryLoop sleep c (left + 1) attempt last waits) := by
  induction left generalizing attempt last waits with
  | zero =>
      rw [retryLoop_last (.inr (by omega))]
      exact hlast 0 attempt waits rfl
  | succ left ih =>
      cases hrepeat : (c.outcomes attempt).isTransient with
      | false =>
          rw [retryLoop_last (.inl hrepeat)]
          exact hlast (left + 1) attempt waits (Retries.lastAttempt_stop hrepeat)
      | true =>
          obtain ⟨last', hstep⟩ := retryLoop_again sleep (left + 1) last waits hrepeat (by omega)
          rw [hstep]
          exact hagain left attempt waits _ (Retries.lastAttempt_again hrepeat)
            fun waits' => ih last' waits' (by push_cast at hretries ⊢; omega)

/-- Where every delay is slept through, the run comes to the last attempt's outcome. -/
theorem retryLoop_slept (last : Option Raised) (waits : List Float64)
    (hretries : c.retries = attempt + left)
    (hslept : ∀ i, attempt ≤ i → i < Retries.lastAttempt Outcome.isTransient c.outcomes left attempt →
      ∃ d, c.delay i = .ok d ∧ sleep d = .slept) :
    retryLoop sleep c (left + 1) attempt last waits =
      let final := Retries.lastAttempt Outcome.isTransient c.outcomes left attempt
      ⟨final + 1, waits ++ c.delays (List.range' attempt (final - attempt)),
        (c.outcomes final).conclusion⟩ := by
  refine retryLoop_induction (P := fun left attempt waits run =>
    (∀ i, attempt ≤ i → i < Retries.lastAttempt Outcome.isTransient c.outcomes left attempt →
      ∃ d, c.delay i = .ok d ∧ sleep d = .slept) →
    run = ⟨Retries.lastAttempt Outcome.isTransient c.outcomes left attempt + 1,
      waits ++ c.delays (List.range' attempt
        (Retries.lastAttempt Outcome.isTransient c.outcomes left attempt - attempt)),
      (c.outcomes (Retries.lastAttempt Outcome.isTransient c.outcomes left attempt)).conclusion⟩)
    ?_ ?_ last waits hretries hslept
  · intro left attempt waits hfinal _
    simp [hfinal, Call.delays]
  · intro left attempt waits next hnext ih hslept
    rw [hnext] at hslept ⊢
    have hlow := Retries.le_lastAttempt Outcome.isTransient c.outcomes left (attempt + 1)
    obtain ⟨d, hdelay, hsleep⟩ := hslept attempt le_rfl (by omega)
    rw [hdelay, waitThen_slept hsleep, ih _ fun i hi hlt => hslept i (by omega) hlt]
    obtain ⟨n, hn⟩ := Nat.exists_eq_add_of_le hlow
    have hcount : attempt + 1 + n - attempt = n + 1 := by omega
    have hrest : attempt + 1 + n - (attempt + 1) = n := by omega
    simp only [hn, hcount, hrest, List.range'_succ, Call.delays, List.filterMap_cons, hdelay,
      Except.toOption, List.append_assoc, List.singleton_append]

/-- A run that makes all calls has slept through every delay. -/
theorem slept_of_calls (hretries : c.retries = attempt + left)
    (hcalls : (retryLoop sleep c (left + 1) attempt last waits).calls =
      Retries.lastAttempt Outcome.isTransient c.outcomes left attempt + 1) {i : ℕ}
    (hle : attempt ≤ i) (hlt : i < Retries.lastAttempt Outcome.isTransient c.outcomes left attempt) :
    ∃ d, c.delay i = .ok d ∧ sleep d = .slept := by
  refine retryLoop_induction (P := fun left attempt _ run =>
    run.calls = Retries.lastAttempt Outcome.isTransient c.outcomes left attempt + 1 → attempt ≤ i →
      i < Retries.lastAttempt Outcome.isTransient c.outcomes left attempt →
        ∃ d, c.delay i = .ok d ∧ sleep d = .slept) ?_ ?_ last waits hretries hcalls hle hlt
  · intro left attempt waits hfinal _ hle hlt
    omega
  · intro left attempt waits next hnext ih hcalls hle hlt
    rw [hnext] at hcalls hlt
    have hlow := Retries.le_lastAttempt Outcome.isTransient c.outcomes left (attempt + 1)
    by_cases hslept : ∃ d, c.delay attempt = .ok d ∧ sleep d = .slept
    · obtain rfl | hne := eq_or_ne attempt i
      · exact hslept
      · obtain ⟨d, hdelay, hsleep⟩ := hslept
        rw [hdelay, waitThen_slept hsleep] at hcalls
        exact ih _ hcalls (by omega) hlt
    · rw [waitThen_calls hslept] at hcalls
      omega

theorem conclusion_safe (o : Outcome) : o.conclusion ≠ .raised .noResponse ∧
    ∀ r, o.conclusion = .returned r → ¬(300 ≤ r.statusCode ∧ r.statusCode ≤ 399) := by
  cases o with
  | response r =>
      unfold Outcome.conclusion checkNoRedirect
      by_cases hredirect : 300 ≤ r.statusCode ∧ r.statusCode ≤ 399
      · simp [hredirect]
      · simp only [if_neg hredirect]
        refine ⟨Ending.noConfusion, fun r' h => ?_⟩
        obtain rfl := Ending.returned.inj h
        exact hredirect
  | requestError message => simp [Outcome.conclusion]
  | raised message => simp [Outcome.conclusion]

/-- The `RuntimeError` behind the loop is out of reach unless a sleep or a delay raises it, and no
redirect is returned. -/
theorem retryLoop_safe (last : Option Raised) (waits : List Float64)
    (hsleep : ∀ d, sleep d ≠ .raised .noResponse)
    (hdelay : ∀ i, c.delay i ≠ .error .noResponse) (hretries : c.retries = attempt + left) :
    (retryLoop sleep c (left + 1) attempt last waits).ending ≠ .raised .noResponse ∧
      ∀ r, (retryLoop sleep c (left + 1) attempt last waits).ending = .returned r →
        ¬(300 ≤ r.statusCode ∧ r.statusCode ≤ 399) := by
  refine retryLoop_induction (P := fun _ _ _ run => run.ending ≠ .raised .noResponse ∧
    ∀ r, run.ending = .returned r → ¬(300 ≤ r.statusCode ∧ r.statusCode ≤ 399)) ?_ ?_ last waits hretries
  · intro left attempt waits _
    exact conclusion_safe _
  · intro left attempt waits next _ ih
    cases hthis : c.delay attempt with
    | error e =>
        refine ⟨fun h => hdelay attempt ?_, fun r h => by cases h⟩
        rw [hthis, Ending.raised.inj h]
    | ok d =>
        cases hpause : sleep d with
        | slept =>
            rw [waitThen_slept hpause]
            exact ih _
        | raised e =>
            rw [waitThen_raised hpause]
            refine ⟨fun h => hsleep d ?_, fun r h => by cases h⟩
            rw [hpause, Ending.raised.inj h]
        | endless =>
            rw [waitThen_endless hpause]
            exact ⟨Ending.noConfusion, fun r h => by cases h⟩

end Runs

theorem timeSleep_raises (d : Float64) : timeSleep d ≠ .raised .noResponse := by
  unfold timeSleep
  split
  · simp
  · simp
  · dsimp only
    split_ifs <;> simp

theorem calculateDelay_raises (base : Float64) (attempt : ℕ) :
    calculateDelay base attempt ≠ .error .noResponse := by
  unfold calculateDelay
  split_ifs <;> simp

theorem parseRetryAfter_raises (p : Interpreter) (value : Option String) (now : Float64) :
    parseRetryAfter p value now ≠ .error .noResponse := by
  unfold parseRetryAfter
  cases value with
  | none => simp
  | some value =>
      dsimp only
      split_ifs
      · simp
      · cases float? p.numbers (pyStrip value.toList) <;> simp
      · cases p.parsedate (String.ofList (pyStrip value.toList)) with
        | none => simp
        | some stamp => cases stamp <;> simp

theorem delay_raises (c : Call) (i : ℕ) : c.delay i ≠ .error .noResponse := by
  unfold Call.delay
  split
  · rename_i r houtcome
    unfold resolveRetryDelay
    cases hbackoff : calculateDelay c.delayBase i with
    | error e =>
        intro h
        apply calculateDelay_raises c.delayBase i
        rw [hbackoff, ← Except.error.inj h]
    | ok backoff =>
        cases hparsed : parseRetryAfter c.interpreter r.retryAfter (c.clock i) with
        | error e =>
            intro h
            apply parseRetryAfter_raises c.interpreter r.retryAfter (c.clock i)
            rw [hparsed, ← Except.error.inj h]
        | ok parsed => cases parsed <;> exact fun h => by cases h
  · exact calculateDelay_raises _ _

/-- What `time.sleep` sleeps through, `asyncio.sleep` does as well. -/
theorem asyncioSleep_of_timeSleep {d : Float64} (h : timeSleep d = .slept) : asyncioSleep d = .slept := by
  cases d with
  | nan => cases h
  | inf negative =>
      unfold timeSleep at h
      simp [mul] at h
  | finite q => rfl

/-- Both wrappers make the same calls and waits and come to the same end: that of the first outcome
which is not transient, or else of the last permitted call. -/
structure KeepsToOutcomes (c : Call) : Prop where
  calls : (retryWithBackoff c).calls = c.lastAttempt + 1
  bound : ((retryWithBackoff c).calls : ℤ) ≤ c.retries + 1
  ending : (retryWithBackoff c).ending = (c.outcomes c.lastAttempt).conclusion
  redirect : ∀ r, (retryWithBackoff c).ending = .returned r →
    ¬(300 ≤ r.statusCode ∧ r.statusCode ≤ 399)
  response : (retryWithBackoff c).ending ≠ .raised .noResponse
  same : retryWithBackoffAsync c = retryWithBackoff c

/-- They do if and only if each delay before the last call can be computed and `time.sleep` takes
it. -/
theorem keeps_to_outcomes_iff (c : Call) (hretries : 0 ≤ c.retries) :
    KeepsToOutcomes c ↔ ∀ i < c.lastAttempt, ∃ d, c.delay i = .ok d ∧ timeSleep d = .slept := by
  have hattempts : (c.retries + 1).toNat = c.retries.toNat + 1 := by omega
  have hcount : c.retries = ((0 : ℕ) : ℤ) + (c.retries.toNat : ℤ) := by omega
  have hlast : c.lastAttempt ≤ 0 + c.retries.toNat := Retries.lastAttempt_le _ _ _ _
  constructor
  · intro h i hi
    have hcalls := h.calls
    rw [retryWithBackoff, hattempts] at hcalls
    exact slept_of_calls hcount hcalls (Nat.zero_le i) hi
  · intro h
    have hsync := retryLoop_slept none [] hcount fun i _ hi => h i hi
    have hasync := retryLoop_slept none [] hcount fun i _ hi =>
      (h i hi).imp fun d hd => ⟨hd.1, asyncioSleep_of_timeSleep hd.2⟩
    obtain ⟨hresponse, hredirect⟩ := retryLoop_safe none [] timeSleep_raises (delay_raises c) hcount
    rw [← hattempts] at hsync hasync hresponse hredirect
    refine ⟨congrArg Run.calls hsync, ?_, congrArg Run.ending hsync, hredirect, hresponse,
      hasync.trans hsync.symm⟩
    have hcalls : (retryWithBackoff c).calls = c.lastAttempt + 1 := congrArg Run.calls hsync
    omega

/-- An interpreter that reads no dates. -/
def plainInterpreter : Interpreter where
  numbers := asciiNumbers
  isDigit c := Url.isDigit c
  parsedate _ := none

/-- A call whose outcomes are responses with these status codes, then with 200. -/
def codes (delayBase : Float64) (retries : ℤ) (statusCodes : List ℤ) : Call where
  interpreter := plainInterpreter
  retries := retries
  delayBase := delayBase
  outcomes i := .response ⟨statusCodes.getD i 200, "https://idp/", none, none⟩
  clock _ := .finite 0

theorem keeps_to_outcomes_iff_sample : KeepsToOutcomes (codes (.finite 1) 2 [503, 429]) := by
  apply (keeps_to_outcomes_iff (codes (.finite 1) 2 [503, 429]) (by decide)).mpr
  have hlast : (codes (.finite 1) 2 [503, 429]).lastAttempt = 2 := by decide
  rw [hlast]
  intro i hi
  interval_cases i
  · exact ⟨.finite 1, by decide +kernel, by decide +kernel⟩
  · exact ⟨.finite 2, by decide +kernel, by decide +kernel⟩

/-- `time.sleep` raises where `asyncio.sleep` waits. -/
theorem sleep_overflows :
    retryWithBackoff (codes (.finite (10 ^ 10)) 1 [503]) =
        ⟨1, [], .raised (.overflow "timestamp too large to convert to C PyTime_t")⟩ ∧
      retryWithBackoffAsync (codes (.finite (10 ^ 10)) 1 [503]) =
        ⟨2, [.finite (10 ^ 10)], .returned ⟨200, "https://idp/", none, none⟩⟩ ∧
      ¬ KeepsToOutcomes (codes (.finite (10 ^ 10)) 1 [503]) := by
  refine ⟨by decide +kernel, by decide +kernel, fun h => ?_⟩
  have hsame := congrArg Run.calls h.same
  revert hsame
  decide +kernel

/-- At most so many seconds. -/
def AtMost (bound : ℚ) : Float64 → Prop
  | .finite q => q ≤ bound
  | .inf negative => negative = true
  | .nan => False

/-- A base delay: a float that is not negative. -/
def IsBase : Float64 → Prop
  | .finite q => IsValue q ∧ 0 ≤ q
  | .inf negative => negative = false
  | .nan => False

/-- `parse_retry_after` reads the header of a response without raising. -/
def Call.HeaderRead (c : Call) (attempt : ℕ) : Prop :=
  ∀ r, c.outcomes attempt = .response r →
    ∃ seconds, parseRetryAfter c.interpreter r.retryAfter (c.clock attempt) = .ok seconds

/-- The outcome is a response whose `Retry-After` says how long to wait. -/
def Call.HasRetryAfter (c : Call) (attempt : ℕ) : Prop :=
  ∃ r seconds, c.outcomes attempt = .response r ∧
    parseRetryAfter c.interpreter r.retryAfter (c.clock attempt) = .ok (some seconds)

/-- The backoff of an attempt, the base doubled each time, is within the maximum. -/
def Call.BackoffWithin (c : Call) (attempt : ℕ) : Prop :=
  ∃ q, c.delayBase = .finite q ∧ q * 2 ^ attempt ≤ maxRetryDelaySeconds

theorem atMost_pyMin {x : Float64} (bound : ℚ) (hx : x ≠ .nan) :
    AtMost bound (pyMin x (.finite bound)) := by
  unfold pyMin
  cases x with
  | nan => exact absurd rfl hx
  | inf negative => cases negative <;> simp [lt, AtMost]
  | finite q =>
      by_cases hlt : bound < q
      · simp [lt, hlt, AtMost]
      · rw [lt, decide_eq_false hlt, if_neg Bool.false_ne_true]
        exact not_lt.mp hlt

theorem pyMax_ne_nan {x y : Float64} (hx : x ≠ .nan) : pyMax x y ≠ .nan := by
  unfold pyMax
  split
  · rintro rfl
    rename_i hlt
    cases x <;> cases hlt
  · exact hx

section Delays

variable {c : Call} {i : ℕ}

/-- What `calculate_delay` gives is the base doubled, or infinite. -/
theorem backoff_spec (hbase : IsBase c.delayBase) (hi : i < 1024) :
    ∃ d, calculateDelay c.delayBase i = .ok d ∧ d ≠ .nan ∧
      (AtMost maxRetryDelaySeconds d ↔ c.BackoffWithin i) := by
  rw [calculateDelay, if_pos hi, Call.BackoffWithin]
  refine ⟨_, rfl, ?_⟩
  cases hdelay : c.delayBase with
  | nan => simp [IsBase, hdelay] at hbase
  | inf negative =>
      have hpos : (2 : ℚ) ^ i ≠ 0 := by positivity
      have hneg : ¬ (2 : ℚ) ^ i < 0 := not_lt.mpr (by positivity)
      have hsign : negative = false := by simpa [IsBase, hdelay] using hbase
      simp [mul, hpos, hneg, hsign, AtMost]
  | finite q =>
      obtain ⟨hvalue, hq⟩ : IsValue q ∧ 0 ≤ q := by simpa [IsBase, hdelay] using hbase
      have hnonneg : 0 ≤ q * 2 ^ i := by positivity
      obtain hlarge | hsmall := le_or_gt ((2 : ℚ) ^ 1024) (q * 2 ^ i)
      · have hmax : ¬ q * 2 ^ i ≤ maxRetryDelaySeconds := by
          have hpower : maxRetryDelaySeconds < 2 ^ 7 := by norm_num [maxRetryDelaySeconds]
          have hgrow : (2 : ℚ) ^ 7 ≤ 2 ^ 1024 := pow_le_pow_right₀ (by norm_num) (by norm_num)
          exact not_le.mpr (hpower.trans_le (hgrow.trans hlarge))
        simp [mul, ofRat_of_large hlarge, AtMost, hmax]
      · have hexact := hvalue.mul_two_pow (k := i) (by rwa [abs_of_nonneg hnonneg])
        simp [mul, hexact, AtMost]

/-- A delay is within the maximum if the server says how long it is, or the backoff is. -/
theorem delay_spec (hbase : IsBase c.delayBase) (hi : i < 1024) (hread : c.HeaderRead i) :
    ∃ d, c.delay i = .ok d ∧ d ≠ .nan ∧
      (AtMost maxRetryDelaySeconds d ↔ c.HasRetryAfter i ∨ c.BackoffWithin i) := by
  obtain ⟨backoff, hbackoff, hnan, hwithin⟩ := backoff_spec hbase hi
  unfold Call.delay Call.HasRetryAfter
  cases houtcome : c.outcomes i with
  | response r =>
      obtain ⟨seconds, hseconds⟩ := hread r houtcome
      dsimp only [resolveRetryDelay]
      rw [hbackoff, hseconds]
      cases seconds with
      | none =>
          refine ⟨backoff, rfl, hnan, hwithin.trans (or_iff_right ?_).symm⟩
          rintro ⟨r', seconds, hresponse, hparsed⟩
          obtain rfl := Outcome.response.inj hresponse
          rw [hseconds] at hparsed
          cases hparsed
      | some seconds =>
          have hmax := pyMax_ne_nan (y := seconds) hnan
          have hmin := atMost_pyMin maxRetryDelaySeconds hmax
          refine ⟨_, rfl, ?_, iff_of_true hmin (.inl ⟨r, seconds, rfl, hseconds⟩)⟩
          intro h
          rw [h] at hmin
          exact hmin
  | requestError message =>
      refine ⟨backoff, hbackoff, hnan, hwithin.trans (or_iff_right ?_).symm⟩
      rintro ⟨r, seconds, hresponse, -⟩
      cases hresponse
  | raised message =>
      refine ⟨backoff, hbackoff, hnan, hwithin.trans (or_iff_right ?_).symm⟩
      rintro ⟨r, seconds, hresponse, -⟩
      cases hresponse

/-- A delay that can be computed is that of an early attempt whose header can be read. -/
theorem read_of_delay {d : Float64} (h : c.delay i = .ok d) : i < 1024 ∧ c.HeaderRead i := by
  have hearly {d : Float64} (h : calculateDelay c.delayBase i = .ok d) : i < 1024 := by
    unfold calculateDelay at h
    by_contra hi
    rw [if_neg hi] at h
    cases h
  unfold Call.delay at h
  split at h
  · rename_i r houtcome
    unfold resolveRetryDelay at h
    cases hbackoff : calculateDelay c.delayBase i with
    | error e =>
        rw [hbackoff] at h
        cases h
    | ok backoff =>
        refine ⟨hearly hbackoff, fun r' hr' => ?_⟩
        rw [houtcome] at hr'
        obtain rfl := Outcome.response.inj hr'
        cases hparsed : parseRetryAfter c.interpreter r.retryAfter (c.clock i) with
        | error e =>
            rw [hbackoff, hparsed] at h
            cases h
        | ok seconds => exact ⟨seconds, rfl⟩
  · rename_i hresponse
    exact ⟨hearly h, fun r hr => absurd hr (hresponse r)⟩

end Delays

section Waits

variable {sleep : Float64 → Pause} {c : Call} {left attempt i : ℕ} {last : Option Raised}
  {waits : List Float64} {d : Float64}

theorem waits_subset (hretries : c.retries = attempt + left) (hd : d ∈ waits) :
    d ∈ (retryLoop sleep c (left + 1) attempt last waits).waits := by
  refine retryLoop_induction (P := fun _ _ waits run => d ∈ waits → d ∈ run.waits) ?_ ?_ last waits hretries hd
  · intro left attempt waits _ hd
    exact hd
  · intro left attempt waits next _ ih hd
    cases c.delay attempt with
    | error e => exact hd
    | ok delay =>
        cases hpause : sleep delay with
        | slept =>
            rw [waitThen_slept hpause]
            exact ih _ (List.mem_append_left _ hd)
        | raised e =>
            rw [waitThen_raised hpause]
            exact hd
        | endless =>
            rw [waitThen_endless hpause]
            exact List.mem_append_left _ hd

/-- A wait is the delay of an attempt that is repeated, reached through delays that could be
computed. -/
theorem wait_spec (hretries : c.retries = attempt + left)
    (hd : d ∈ (retryLoop sleep c (left + 1) attempt last waits).waits) :
    d ∈ waits ∨ ∃ i, attempt ≤ i ∧
      i < Retries.lastAttempt Outcome.isTransient c.outcomes left attempt ∧ c.delay i = .ok d ∧
        ∀ j, attempt ≤ j → j ≤ i → ∃ e, c.delay j = .ok e := by
  refine retryLoop_induction (P := fun left attempt waits run => d ∈ run.waits → d ∈ waits ∨
    ∃ i, attempt ≤ i ∧ i < Retries.lastAttempt Outcome.isTransient c.outcomes left attempt ∧
      c.delay i = .ok d ∧ ∀ j, attempt ≤ j → j ≤ i → ∃ e, c.delay j = .ok e) ?_ ?_ last waits hretries hd
  · intro left attempt waits _ hd
    exact .inl hd
  · intro left attempt waits next hnext ih hd
    rw [hnext]
    have hlow := Retries.le_lastAttempt Outcome.isTransient c.outcomes left (attempt + 1)
    cases hdelay : c.delay attempt with
    | error e =>
        rw [hdelay] at hd
        exact .inl hd
    | ok delay =>
        have hnew (hmem : d ∈ waits ++ [delay]) : d ∈ waits ∨ ∃ i, attempt ≤ i ∧
            i < Retries.lastAttempt Outcome.isTransient c.outcomes left (attempt + 1) ∧
              c.delay i = .ok d ∧ ∀ j, attempt ≤ j → j ≤ i → ∃ e, c.delay j = .ok e := by
          obtain hold | hlast := List.mem_append.mp hmem
          · exact .inl hold
          · obtain rfl := List.mem_singleton.mp hlast
            refine .inr ⟨attempt, le_rfl, by omega, hdelay, fun j hj hj' => ?_⟩
            obtain rfl : j = attempt := by omega
            exact ⟨d, hdelay⟩
        rw [hdelay] at hd
        cases hpause : sleep delay with
        | slept =>
            rw [waitThen_slept hpause] at hd
            obtain hmem | ⟨i, hi, hlt, hthis, hbefore⟩ := ih _ hd
            · exact hnew hmem
            · refine .inr ⟨i, by omega, hlt, hthis, fun j hj hj' => ?_⟩
              obtain rfl | hne := eq_or_ne j attempt
              · exact ⟨delay, hdelay⟩
              · exact hbefore j (by omega) hj'
        | raised e =>
            rw [waitThen_raised hpause] at hd
            exact .inl hd
        | endless =>
            rw [waitThen_endless hpause] at hd
            exact hnew hd

/-- Through finite delays the asynchronous loop comes to wait for each attempt it repeats. -/
theorem async_waits (hretries : c.retries = attempt + left) (hle : attempt ≤ i)
    (hlt : i < Retries.lastAttempt Outcome.isTransient c.outcomes left attempt)
    (hbefore : ∀ j, attempt ≤ j → j < i → ∃ e, c.delay j = .ok e ∧ asyncioSleep e = .slept)
    (hdelay : c.delay i = .ok d) (hnan : d ≠ .nan) :
    d ∈ (retryLoop asyncioSleep c (left + 1) attempt last waits).waits := by
  induction left generalizing attempt last waits with
  | zero =>
      rw [Retries.lastAttempt] at hlt
      omega
  | succ left ih =>
      cases hagain : (c.outcomes attempt).isTransient with
      | false =>
          rw [Retries.lastAttempt_stop hagain] at hlt
          omega
      | true =>
          rw [Retries.lastAttempt_again hagain] at hlt
          obtain ⟨last', hstep⟩ := retryLoop_again asyncioSleep (left + 1) last waits hagain
            (by omega)
          rw [hstep]
          have hrest : c.retries = ((attempt + 1 : ℕ) : ℤ) + (left : ℤ) := by
            push_cast at hretries ⊢
            omega
          obtain rfl | hne := eq_or_ne attempt i
          · rw [hdelay]
            have hmem : d ∈ waits ++ [d] := by simp
            cases hpause : asyncioSleep d with
            | slept =>
                rw [waitThen_slept hpause]
                exact waits_subset hrest hmem
            | endless =>
                rw [waitThen_endless hpause]
                exact hmem
            | raised e =>
                unfold asyncioSleep at hpause
                split at hpause
                · exact absurd rfl hnan
                · cases hpause
                · cases hpause
          · obtain ⟨e, he, hslept⟩ := hbefore attempt le_rfl (by omega)
            rw [he, waitThen_slept hslept]
            exact ih hrest (by omega) hlt fun j hj hj' => hbefore j (by omega) hj'

end Waits

theorem asyncioSleep_of_atMost {d : Float64} {bound : ℚ} (h : AtMost bound d) :
    asyncioSleep d = .slept := by
  cases d with
  | nan => cases h
  | inf negative =>
      obtain rfl : negative = true := h
      rfl
  | finite q => rfl

/-- The waits of both wrappers are at most two minutes long if and only if every attempt they repeat
and come to a delay for has a `Retry-After` of its own, or a backoff within the maximum. -/
theorem waits_bounded_iff (c : Call) (hbase : IsBase c.delayBase) :
    (∀ d ∈ (retryWithBackoff c).waits ++ (retryWithBackoffAsync c).waits,
        AtMost maxRetryDelaySeconds d) ↔
      ∀ i < c.lastAttempt, i < 1024 → (∀ j ≤ i, c.HeaderRead j) →
        c.HasRetryAfter i ∨ c.BackoffWithin i := by
  obtain hnegative | hretries := lt_or_ge c.retries 0
  · have hattempts : (c.retries + 1).toNat = 0 := by omega
    have hlast : c.lastAttempt = 0 := by
      rw [Call.lastAttempt, show c.retries.toNat = 0 by omega]
      rfl
    rw [retryWithBackoff, retryWithBackoffAsync, hattempts, hlast]
    simp [retryLoop]
  have hattempts : (c.retries + 1).toNat = c.retries.toNat + 1 := by omega
  have hcount : c.retries = ((0 : ℕ) : ℤ) + (c.retries.toNat : ℤ) := by omega
  constructor
  · intro h i
    induction i using Nat.strong_induction_on with
    | _ i ih =>
        intro hi hearly hread
        obtain ⟨d, hdelay, hnan, hspec⟩ := delay_spec hbase hearly (hread i le_rfl)
        apply hspec.mp
        apply h
        apply List.mem_append_right
        rw [retryWithBackoffAsync, hattempts]
        refine async_waits hcount (Nat.zero_le i) hi (fun j _ hj => ?_) hdelay hnan
        obtain ⟨e, he, -, hbefore⟩ := delay_spec hbase (hj.trans hearly) (hread j hj.le)
        have hwithin := hbefore.mpr (ih j hj (hj.trans hi) (hj.trans hearly)
          fun k hk => hread k (hk.trans hj.le))
        exact ⟨e, he, asyncioSleep_of_atMost hwithin⟩
  · intro h d hd
    have hfrom (sleep : Float64 → Pause)
        (hd : d ∈ (retryLoop sleep c (c.retries.toNat + 1) 0 none []).waits) :
        AtMost maxRetryDelaySeconds d := by
      obtain hnone | ⟨i, -, hi, hdelay, hbefore⟩ := wait_spec hcount hd
      · cases hnone
      · obtain ⟨hearly, hread⟩ := read_of_delay hdelay
        obtain ⟨d', hdelay', -, hspec⟩ := delay_spec hbase hearly hread
        rw [hdelay] at hdelay'
        obtain rfl := Except.ok.inj hdelay'
        refine hspec.mpr (h i hi hearly fun j hj => ?_)
        obtain ⟨e, he⟩ := hbefore j (Nat.zero_le j) hj
        exact (read_of_delay he).2
    rw [retryWithBackoff, retryWithBackoffAsync, hattempts] at hd
    obtain hsync | hasync := List.mem_append.mp hd
    · exact hfrom timeSleep hsync
    · exact hfrom asyncioSleep hasync

theorem waits_bounded_iff_sample :
    ((retryWithBackoff (codes (.finite 1) 2 [503, 429])).waits ++
      (retryWithBackoffAsync (codes (.finite 1) 2 [503, 429])).waits).Forall
        (AtMost maxRetryDelaySeconds) := by
  have hvalue : IsValue 1 := by
    unfold IsValue
    decide +kernel
  apply List.forall_iff_forall_mem.mpr
  apply (waits_bounded_iff (codes (.finite 1) 2 [503, 429]) ⟨hvalue, zero_le_one⟩).mpr
  intro i hi _ _
  have hlast : (codes (.finite 1) 2 [503, 429]).lastAttempt = 2 := by decide
  rw [hlast] at hi
  refine .inr ⟨1, rfl, ?_⟩
  interval_cases i <;> norm_num [maxRetryDelaySeconds]

/-- The eighth wait of the default backoff is longer. -/
theorem backoff_uncapped :
    .finite 128 ∈ (retryWithBackoff (codes (.finite 1) 8 (List.replicate 8 503))).waits ∧
      ¬ AtMost maxRetryDelaySeconds (.finite 128) := by
  refine ⟨by decide +kernel, ?_⟩
  norm_num [AtMost, maxRetryDelaySeconds]

end IdentityModel.Py.Retry
