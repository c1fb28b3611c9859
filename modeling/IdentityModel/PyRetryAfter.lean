import IdentityModel.PyEmailDates
import IdentityModel.PyRetry

/-!
# The `Retry-After` header in Python

`parse_retry_after` over `parsedate_to_datetime`, of which it catches a `ValueError`: the headers it
answers for, and those that make it raise, the digits `float` does not take and dates with numbers
that are too large.
-/
namespace IdentityModel.Py.RetryAfter

open EmailDates Float64 Retry

/-- The interpreter of the retries. -/
def interpreter (u : Unicode) : Retry.Interpreter where
  numbers := u.numbers
  isDigit := u.isDigit
  parsedate data :=
    match parsedateToDatetime u data with
    | .ok t => some (.ok (timestamp t))
    | .error .value => none
    | .error (.overflow message) => some (.error message)

/-- What Unicode says of digits: in ASCII they are those of `isDigit`, and a decimal one has a value
below ten. -/
structure Sound (u : Unicode) : Prop where
  ascii : ∀ c, Url.isAscii c = true → u.isDigit c = Url.isDigit c
  decimal : ∀ c d, u.numbers.decimal c = some d → d < 10

/-- Zero or more seconds. -/
def NonNegative : Float64 → Prop
  | .finite q => 0 ≤ q
  | .inf negative => negative = false
  | .nan => False

/-- A header is answered, with no delay or one that is not negative, and no retry ends at it whose
backoff can be slept through. -/
structure Answers (u : Unicode) (value : Option String) (now : Float64) : Prop where
  parsed : ∃ delay, parseRetryAfter (interpreter u) value now = .ok delay ∧
    ∀ seconds ∈ delay, NonNegative seconds
  resolved : ∀ r baseDelay attempt backoff, r.retryAfter = value →
    calculateDelay baseDelay attempt = .ok backoff →
      ∃ delay, resolveRetryDelay (interpreter u) r baseDelay attempt now = .ok delay ∧
        (timeSleep backoff = .slept → timeSleep delay = .slept) ∧
          (asyncioSleep backoff = .slept → asyncioSleep delay = .slept)

/-- `str.isdecimal` of a character. -/
def isDecimal (u : Unicode) (c : Char) : Bool :=
  if Url.isAscii c then Url.isDigit c else (u.numbers.decimal c).isSome

/-- Some number of a date is too large: its offset for a `timedelta`, or another one for a C `int`,
which an offset of a day or more forestalls. -/
def Overflows (f : Fields) : Prop :=
  (∃ seconds ∈ f.offset, 999999999 < |seconds / 86400|) ∨
    (∀ seconds ∈ f.offset, |seconds| < 86400) ∧ ∃ n ∈ f.numbers, n < -2 ^ 31 ∨ 2 ^ 31 ≤ n

instance (f : Fields) : Decidable (Overflows f) := inferInstanceAs (Decidable (_ ∨ _))

/-- Digits are decimal, and the numbers of a date are not too large. -/
def Readable (u : Unicode) (value : Option String) : Prop :=
  ∀ header ∈ value,
    let text := pyStrip header.toList
    if text.all u.isDigit then ∀ c ∈ text, isDecimal u c = true
    else ∀ f ∈ parsedateTz u (String.ofList text), ¬ Overflows f

instance (u : Unicode) (value : Option String) : Decidable (Readable u value) :=
  inferInstanceAs (Decidable (∀ header ∈ value, ite _ _ _))

section Digits

variable {u : Unicode} {text : List Char}

theorem isDigit_ofNat {d : ℕ} (hd : d < 10) : Url.isDigit (Char.ofNat (48 + d)) = true := by
  interval_cases d <;> decide

/-- A character that is a digit has an ASCII form if it is decimal, and is kept otherwise. -/
theorem asciiForm_cases (hu : Sound u) {c : Char} (hc : u.isDigit c = true) :
    (isDecimal u c = true ∧ ∃ d, Url.isDigit d = true ∧ asciiDigits u.numbers [c] = [d]) ∨
      isDecimal u c = false ∧ Url.isAscii c = false ∧ asciiDigits u.numbers [c] = [c] := by
  unfold isDecimal asciiDigits
  rw [List.map_singleton]
  cases hascii : Url.isAscii c with
  | true =>
      left
      rw [hu.ascii c hascii] at hc
      exact ⟨hc, c, hc, rfl⟩
  | false =>
      cases hdecimal : u.numbers.decimal c with
      | none => exact .inr ⟨rfl, rfl, rfl⟩
      | some d => exact .inl ⟨rfl, _, isDigit_ofNat (hu.decimal c d hdecimal), rfl⟩

theorem asciiDigits_cons (c : Char) (s : List Char) :
    asciiDigits u.numbers (c :: s) = asciiDigits u.numbers [c] ++ asciiDigits u.numbers s := rfl

/-- Digits come to digits of ASCII, as far as they are decimal. -/
theorem asciiDigits_spec (hu : Sound u) (htext : ∀ c ∈ text, u.isDigit c = true) :
    Wordless (asciiDigits u.numbers text) ∧
      (asciiDigits u.numbers text).all Url.isDigit = text.all (isDecimal u) := by
  induction text with
  | nil => exact ⟨fun c hc => absurd hc List.not_mem_nil, rfl⟩
  | cons c s ih =>
      obtain ⟨hwordless, hall⟩ := ih fun x hx => htext x (List.mem_cons_of_mem c hx)
      rw [asciiDigits_cons, List.all_append, List.all_cons, hall]
      obtain ⟨hdecimal, d, hd, hform⟩ | ⟨hdecimal, hascii, hform⟩ :=
        asciiForm_cases hu (htext c List.mem_cons_self)
      · rw [hform, hdecimal]
        refine ⟨List.forall_mem_cons.mpr ⟨fun _ => hd, hwordless⟩, ?_⟩
        rw [List.all_cons, hd, List.all_nil]
        rfl
      · rw [hform, hdecimal]
        refine ⟨List.forall_mem_cons.mpr ⟨fun h => ?_, hwordless⟩, ?_⟩
        · rw [hascii] at h
          cases h
        · have hbad : Url.isDigit c = false := by
            cases hdigit : Url.isDigit c with
            | false => rfl
            | true => rw [isAscii_of_isDigit hdigit] at hascii; cases hascii
          rw [List.all_cons, hbad, Bool.false_and, Bool.false_and]

theorem nonNegative_ofRat {q : ℚ} (hq : 0 ≤ q) : NonNegative (ofRat q) := by
  unfold ofRat
  split
  · exact le_rfl
  · dsimp only
    split
    · exact decide_eq_false (not_lt.mpr hq)
    · exact round_nonneg hq

/-- `float` takes the digits that are decimal. -/
theorem float?_digits (hu : Sound u) (hstrip : pyStrip text = text) (hne : text ≠ [])
    (htext : text.all u.isDigit = true) :
    (∀ c ∈ text, isDecimal u c = true) ∧
        (∃ seconds, float? u.numbers text = some seconds ∧ NonNegative seconds) ∨
      (¬ ∀ c ∈ text, isDecimal u c = true) ∧ float? u.numbers text = none := by
  obtain ⟨hwordless, hall⟩ := asciiDigits_spec hu (List.all_eq_true.mp htext)
  rw [float?_wordless hstrip hne hwordless, hall]
  cases hdecimal : text.all (isDecimal u) with
  | true =>
      exact .inl ⟨List.all_eq_true.mp hdecimal, _, rfl, nonNegative_ofRat (Nat.cast_nonneg _)⟩
  | false =>
      refine .inr ⟨fun h => ?_, rfl⟩
      rw [List.all_eq_true.mpr h] at hdecimal
      cases hdecimal

end Digits

section Dates

variable {u : Unicode}

theorem timezone_cases (seconds : ℤ) :
    (999999999 < |seconds / 86400| ∧ ∃ message, timezone seconds = .error (.overflow message)) ∨
      (¬ 999999999 < |seconds / 86400| ∧ ¬ |seconds| < 86400 ∧ timezone seconds = .error .value) ∨
      ¬ 999999999 < |seconds / 86400| ∧ |seconds| < 86400 ∧ timezone seconds = .ok () := by
  unfold timezone
  dsimp only
  split_ifs with hint hdays hday
  · left
    refine ⟨?_, _, rfl⟩
    rw [lt_abs]
    omega
  · exact .inl ⟨hdays, _, rfl⟩
  · exact .inr (.inl ⟨hdays, not_lt.mpr hday, rfl⟩)
  · exact .inr (.inr ⟨hdays, not_le.mp hday, rfl⟩)

theorem cIntError_eq_none (n : ℤ) : cIntError n = none ↔ ¬ (n < -2 ^ 31 ∨ 2 ^ 31 ≤ n) := by
  unfold cIntError
  split_ifs <;> simp <;> omega

/-- Only numbers that fit are checked. -/
theorem datetime_cases (f : Fields) :
    ((∃ n ∈ f.numbers, n < -2 ^ 31 ∨ 2 ^ 31 ≤ n) ∧
        ∃ message, datetime f = .error (.overflow message)) ∨
      (¬ ∃ n ∈ f.numbers, n < -2 ^ 31 ∨ 2 ^ 31 ≤ n) ∧
        (datetime f = .error .value ∨ ∃ t, datetime f = .ok t) := by
  unfold datetime
  cases hlarge : f.numbers.findSome? cIntError with
  | some message =>
      obtain ⟨n, hn, herror⟩ := List.exists_of_findSome?_eq_some hlarge
      refine .inl ⟨⟨n, hn, ?_⟩, message, rfl⟩
      by_contra hfits
      rw [(cIntError_eq_none n).mpr hfits] at herror
      cases herror
  | none =>
      right
      constructor
      · rintro ⟨n, hn, hbeyond⟩
        exact (cIntError_eq_none n).mp (List.findSome?_eq_none_iff.mp hlarge n hn) hbeyond
      · dsimp only
        split
        · exact .inr ⟨_, rfl⟩
        · exact .inl rfl

/-- A date raises something else than a `ValueError` exactly when it overflows. -/
theorem parsedate_cases (u : Unicode) (data : String) :
    ((∃ f ∈ parsedateTz u data, Overflows f) ∧
        ∃ message, parsedateToDatetime u data = .error (.overflow message)) ∨
      (∀ f ∈ parsedateTz u data, ¬ Overflows f) ∧
        (parsedateToDatetime u data = .error .value ∨ ∃ t, parsedateToDatetime u data = .ok t) := by
  unfold parsedateToDatetime
  cases hread : parsedateTz u data with
  | none => exact .inr ⟨fun f hf => (by cases hf), .inl rfl⟩
  | some f =>
      simp only [Option.mem_def, Option.some.injEq, exists_eq_left', forall_eq']
      cases hoffset : f.offset with
      | none =>
          have hiff : Overflows f ↔ ∃ n ∈ f.numbers, n < -2 ^ 31 ∨ 2 ^ 31 ≤ n := by
            simp [Overflows, hoffset]
          rw [hiff]
          exact datetime_cases f
      | some seconds =>
          have hiff : Overflows f ↔ 999999999 < |seconds / 86400| ∨
              |seconds| < 86400 ∧ ∃ n ∈ f.numbers, n < -2 ^ 31 ∨ 2 ^ 31 ≤ n := by
            simp [Overflows, hoffset]
          rw [hiff, Option.map_some]
          obtain ⟨hdays, message, hzone⟩ | ⟨hdays, hday, hzone⟩ | ⟨hdays, hday, hzone⟩ :=
            timezone_cases seconds
          · rw [hzone]
            exact .inl ⟨.inl hdays, message, rfl⟩
          · rw [hzone]
            exact .inr ⟨fun h => h.elim hdays fun h => hday h.1, .inl rfl⟩
          · rw [hzone]
            obtain ⟨hbeyond, hdate⟩ | ⟨hfits, hdate⟩ := datetime_cases f
            · exact .inl ⟨.inr ⟨hday, hbeyond⟩, hdate⟩
            · exact .inr ⟨fun h => h.elim hdays fun h => hfits h.2, hdate⟩

theorem nonNegative_pyMax (x : Float64) : NonNegative (pyMax (.finite 0) x) := by
  unfold pyMax
  split
  · rename_i hlt
    cases x with
    | nan => cases hlt
    | inf negative => cases negative <;> first | rfl | cases hlt
    | finite q => exact (of_decide_eq_true hlt).le
  · exact le_rfl

end Dates

/-- A header that can be read is answered, and any other one raises. -/
theorem parseRetryAfter_cases {u : Unicode} (hu : Sound u) (value : Option String) (now : Float64) :
    (Readable u value ∧ ∃ delay, parseRetryAfter (interpreter u) value now = .ok delay ∧
        ∀ seconds ∈ delay, NonNegative seconds) ∨
      ¬ Readable u value ∧ ∃ e, parseRetryAfter (interpreter u) value now = .error e := by
  unfold Readable parseRetryAfter
  cases value with
  | none => exact .inl ⟨fun header h => (by cases h), none, rfl, fun seconds h => by cases h⟩
  | some header =>
      simp only [Option.mem_def, Option.some.injEq, forall_eq']
      obtain ⟨text, htext⟩ : ∃ text, pyStrip header.toList = text := ⟨_, rfl⟩
      have hstrip : pyStrip text = text := by rw [← htext, pyStrip_pyStrip]
      rw [htext]
      by_cases hempty : text = []
      · subst hempty
        exact .inl ⟨fun c hc => absurd hc List.not_mem_nil, none, rfl, fun seconds h => by cases h⟩
      rw [if_neg hempty]
      by_cases hdigits : text.all u.isDigit = true
      · rw [if_pos hdigits, if_pos (show text.all (interpreter u).isDigit = true from hdigits)]
        obtain ⟨hdecimal, seconds, hfloat, hseconds⟩ | ⟨hbad, hfloat⟩ :=
          float?_digits hu hstrip hempty hdigits
        · rw [show float? (interpreter u).numbers text = some seconds from hfloat]
          refine .inl ⟨hdecimal, some seconds, rfl, ?_⟩
          rintro x ⟨⟩
          exact hseconds
        · rw [show float? (interpreter u).numbers text = none from hfloat]
          exact .inr ⟨hbad, _, rfl⟩
      · rw [if_neg hdigits, if_neg (show ¬ text.all (interpreter u).isDigit = true from hdigits)]
        obtain ⟨⟨f, hf, hover⟩, message, hdate⟩ | ⟨hfits, hdate | ⟨t, hdate⟩⟩ :=
          parsedate_cases u (String.ofList text)
        · simp only [interpreter, hdate]
          exact .inr ⟨fun h => h f hf hover, _, rfl⟩
        · simp only [interpreter, hdate]
          exact .inl ⟨hfits, none, rfl, fun seconds h => by cases h⟩
        · simp only [interpreter, hdate]
          refine .inl ⟨hfits, _, rfl, ?_⟩
          rintro x ⟨⟩
          exact nonNegative_pyMax _

theorem timeSleep_of_within {delay : Float64} (hlow : NonNegative delay)
    (hhigh : AtMost maxRetryDelaySeconds delay) : timeSleep delay = .slept := by
  cases delay with
  | nan => exact hlow.elim
  | inf negative =>
      rw [show negative = false from hlow] at hhigh
      cases hhigh
  | finite q =>
      have hq : 0 ≤ q := hlow
      have hmax : q ≤ 120 := hhigh
      have hbound : 2 * (q * 10 ^ 9) + 1 ≤ 2 ^ 62 := by linarith
      obtain ⟨x, hx, hnonneg, hle⟩ := ofRat_of_nonneg (q := q * 10 ^ 9) (by positivity)
        (hbound.trans_lt (pow_lt_pow_right₀ (by norm_num) (by norm_num)))
      have hceil : ⌈x⌉ ≤ 2 ^ 62 := Int.ceil_le.mpr (by exact_mod_cast hle.trans hbound)
      have hpos : 0 ≤ ⌈x⌉ := Int.ceil_nonneg hnonneg
      simp only [timeSleep, mul, hx, if_pos hnonneg]
      rw [if_neg (by omega), if_neg (by omega)]

/-- The delay that a header brings about is the backoff, or within bounds. -/
theorem capped_cases (backoff : Float64) {seconds : Float64} (h : NonNegative seconds) :
    pyMin (pyMax backoff seconds) (.finite maxRetryDelaySeconds) = backoff ∨
      NonNegative (pyMin (pyMax backoff seconds) (.finite maxRetryDelaySeconds)) ∧
        AtMost maxRetryDelaySeconds (pyMin (pyMax backoff seconds) (.finite maxRetryDelaySeconds)) := by
  have hmax : NonNegative (.finite maxRetryDelaySeconds) := by norm_num [NonNegative, maxRetryDelaySeconds]
  unfold pyMax
  split
  · have hnan : seconds ≠ .nan := by
      rintro rfl
      exact h
    refine .inr ⟨?_, atMost_pyMin _ hnan⟩
    unfold pyMin
    split
    · exact hmax
    · exact h
  · unfold pyMin
    split
    · exact .inr ⟨hmax, le_rfl⟩
    · exact .inl rfl

/-- A header that is parsed leaves a delay that can be slept through, if the backoff can. -/
theorem resolveRetryDelay_spec {u : Unicode} {r : Retry.Response} {baseDelay backoff now : Float64}
    {attempt : ℕ} {parsed : Option Float64}
    (hparsed : parseRetryAfter (interpreter u) r.retryAfter now = .ok parsed)
    (hseconds : ∀ seconds ∈ parsed, NonNegative seconds)
    (hbackoff : calculateDelay baseDelay attempt = .ok backoff) :
    ∃ delay, resolveRetryDelay (interpreter u) r baseDelay attempt now = .ok delay ∧
      (timeSleep backoff = .slept → timeSleep delay = .slept) ∧
        (asyncioSleep backoff = .slept → asyncioSleep delay = .slept) := by
  simp only [resolveRetryDelay, hbackoff, hparsed, bind, Except.bind]
  cases parsed with
  | none => exact ⟨backoff, rfl, id, id⟩
  | some seconds =>
      refine ⟨_, rfl, ?_⟩
      obtain hkept | ⟨hlow, hhigh⟩ := capped_cases backoff (hseconds seconds rfl)
      · rw [hkept]
        exact ⟨id, id⟩
      · have hslept := timeSleep_of_within hlow hhigh
        exact ⟨fun _ => hslept, fun _ => asyncioSleep_of_timeSleep hslept⟩

/-- Headers that can be read end no run: it comes to its last attempt's outcome, as it would without
them. -/
theorem retryWithBackoff_readable {u : Unicode} (hu : Sound u) {c : Retry.Call}
    (hinterpreter : c.interpreter = interpreter u) (hretries : 0 ≤ c.retries)
    (hread : ∀ i r, c.outcomes i = .response r → Readable u r.retryAfter)
    (hbackoff : ∀ i < c.lastAttempt,
      ∃ backoff, calculateDelay c.delayBase i = .ok backoff ∧ timeSleep backoff = .slept) :
    (retryWithBackoff c).calls = c.lastAttempt + 1 ∧
      (retryWithBackoff c).ending = (c.outcomes c.lastAttempt).conclusion := by
  have hdelay : ∀ i < c.lastAttempt, ∃ d, c.delay i = .ok d ∧ timeSleep d = .slept := by
    intro i hi
    obtain ⟨backoff, hcompute, hslept⟩ := hbackoff i hi
    unfold Call.delay
    split
    · rename_i r houtcome
      obtain ⟨-, parsed, hparsed, hseconds⟩ | ⟨hbad, -⟩ :=
        parseRetryAfter_cases hu r.retryAfter (c.clock i)
      · rw [hinterpreter]
        obtain ⟨d, hd, hsleep, -⟩ := resolveRetryDelay_spec hparsed hseconds hcompute
        exact ⟨d, hd, hsleep hslept⟩
      · exact absurd (hread i r houtcome) hbad
    · exact ⟨backoff, hcompute, hslept⟩
  have hattempts : (c.retries + 1).toNat = c.retries.toNat + 1 := by omega
  have hrun := retryLoop_slept none [] (show c.retries = ((0 : ℕ) : ℤ) + c.retries.toNat by omega)
    fun i _ hi => hdelay i hi
  rw [← hattempts] at hrun
  exact ⟨congrArg Run.calls hrun, congrArg Run.ending hrun⟩

/-- `parse_retry_after` answers exactly the headers that can be read. -/
theorem retry_after_answered_iff (u : Unicode) (hu : Sound u) (value : Option String) (now : Float64) :
    Answers u value now ↔ Readable u value := by
  constructor
  · intro h
    obtain ⟨delay, hdelay, -⟩ := h.parsed
    obtain ⟨hread, -⟩ | ⟨-, e, herror⟩ := parseRetryAfter_cases hu value now
    · exact hread
    · rw [hdelay] at herror
      cases herror
  · intro hread
    obtain ⟨-, delay, hdelay, hseconds⟩ | ⟨hbad, -⟩ := parseRetryAfter_cases hu value now
    · refine ⟨⟨delay, hdelay, hseconds⟩, fun r baseDelay attempt backoff hr hbackoff => ?_⟩
      subst hr
      exact resolveRetryDelay_spec hdelay hseconds hbackoff
    · exact absurd hread hbad

theorem not_answers {u : Unicode} {value : Option String} {now : Float64} {e : Raised}
    (h : parseRetryAfter (interpreter u) value now = .error e) : ¬ Answers u value now := by
  intro hanswers
  obtain ⟨delay, hdelay, -⟩ := hanswers.parsed
  rw [h] at hdelay
  cases hdelay

/-- ASCII and, of Latin-1, the superscripts, which are digits but not decimal. -/
def latinUnicode : Unicode where
  numbers := asciiNumbers
  isDigit c := Url.isDigit c || c = '²' || c = '³' || c = '¹'
  lower := List.map Char.toLower
  upper := List.map Char.toUpper

theorem sound_latinUnicode : Sound latinUnicode where
  ascii c hc := by
    have hne : ∀ d, Url.isAscii d = false → decide (c = d) = false := by
      intro d hd
      refine decide_eq_false fun h => ?_
      rw [h, hd] at hc
      cases hc
    show (((Url.isDigit c || decide (c = '²')) || decide (c = '³')) || decide (c = '¹')) =
      Url.isDigit c
    rw [hne '²' (by decide), hne '³' (by decide), hne '¹' (by decide), Bool.or_false, Bool.or_false,
      Bool.or_false]
  decimal c d h := by cases h

/-- A superscript is no number for `float`, an offset can be too large for a `timedelta` and a year
for a C `int`. -/
theorem retry_after_raises : Sound latinUnicode ∧ ¬ Answers latinUnicode (some "²") (.finite 0) ∧
    ¬ Answers latinUnicode (some "1 Jan 2024 00:00:00 +99999999999999") (.finite 0) ∧
    ¬ Answers latinUnicode (some "1 Jan 3000000000 00:00:00 GMT") (.finite 0) := by
  have hsuperscript : parseRetryAfter (interpreter latinUnicode) (some "²") (.finite 0) =
      .error (.value "could not convert string to float: '²'") := by decide +kernel
  have hoffset : parseRetryAfter (interpreter latinUnicode)
      (some "1 Jan 2024 00:00:00 +99999999999999") (.finite 0) =
      .error (.other "Python int too large to convert to C int") := by decide +kernel
  have hyear : parseRetryAfter (interpreter latinUnicode) (some "1 Jan 3000000000 00:00:00 GMT")
      (.finite 0) = .error (.other "signed integer is greater than maximum") := by decide +kernel
  exact ⟨sound_latinUnicode, not_answers hsuperscript, not_answers hoffset, not_answers hyear⟩

theorem retry_after_answered_iff_sample :
    Answers latinUnicode (some "Thu, 01 Jan 1970 00:02:00 GMT") (.finite 0) :=
  (retry_after_answered_iff latinUnicode sound_latinUnicode _ _).mpr (by decide +kernel)

end IdentityModel.Py.RetryAfter
