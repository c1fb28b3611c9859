import IdentityModel.FormsRoundTrip
import IdentityModel.PyConfigBuild

/-!
# Integers of the configuration

The contract's integers are decimal: an optional sign and digits of ASCII. `_parse` reads them with
`int`, which takes underscores between digits and the digits of other scripts as well, and has a limit
on how many it reads.
-/
namespace IdentityModel.Py.Settings

open Url

/-- A sign and a run of decimal digits, as a number. -/
def signedDecimal (s : Bool × List Char) : Option ℤ :=
  if s.2 = [] ∨ !s.2.all isDigit then none
  else some (if s.1 then -(decimalValue s.2 : ℤ) else decimalValue s.2)

/-- The contract's reading of an integer. -/
def decimal? (text : List Char) : Option ℤ := signedDecimal (splitSign text)

/-- The sign and the digits `int` comes to: those of other scripts in their ASCII form, without the
underscores between them. -/
def plainForm (p : NumberPlatform) (text : List Char) : Option (Bool × List Char) :=
  (removeUnderscores (splitSign (asciiDigits p text)).2).map fun digits =>
    ((splitSign (asciiDigits p text)).1, digits)

/-- So many digits are read. -/
def WithinLimit (p : NumberPlatform) (digits : List Char) : Prop :=
  p.intMaxStrDigits = 0 ∨ digits.length ≤ p.intMaxStrDigits

instance (p : NumberPlatform) (digits : List Char) : Decidable (WithinLimit p digits) :=
  inferInstanceAs (Decidable (p.intMaxStrDigits = 0 ∨ digits.length ≤ p.intMaxStrDigits))

section Reading

variable {p : NumberPlatform} {text : List Char}

/-- `int` reads the plain form where its digits are not too many. -/
theorem int?_eq (text : List Char) : int? p (pyStrip text) =
    (plainForm p (pyStrip text)).bind fun plain =>
      if WithinLimit p plain.2 then signedDecimal plain else none := by
  rw [int?, pyStrip_pyStrip, plainForm]
  cases hdigits : removeUnderscores (splitSign (asciiDigits p (pyStrip text))).2 with
  | none => simp
  | some digits =>
      simp only [Option.map_some, Option.bind_some, signedDecimal]
      by_cases hbad : digits = [] ∨ !digits.all isDigit
      · rw [if_pos hbad, if_pos hbad, ite_self]
      · rw [if_neg hbad, if_neg hbad]
        by_cases hlimit : WithinLimit p digits
        · have hshort : ¬(p.intMaxStrDigits ≠ 0 ∧ p.intMaxStrDigits < digits.length) := by
            unfold WithinLimit at hlimit
            omega
          rw [if_neg hshort, if_pos hlimit]
        · have hlong : p.intMaxStrDigits ≠ 0 ∧ p.intMaxStrDigits < digits.length := by
            unfold WithinLimit at hlimit
            omega
          rw [if_pos hlong, if_neg hlimit]

theorem signedDecimal_eq_some {s : Bool × List Char} {n : ℤ} (h : signedDecimal s = some n) :
    s.2 ≠ [] ∧ ∀ c ∈ s.2, isDigit c = true := by
  unfold signedDecimal at h
  by_cases hbad : s.2 = [] ∨ !s.2.all isDigit
  · rw [if_pos hbad] at h
    cases h
  · simpa using hbad

/-- A text is its sign and the rest. -/
theorem splitSign_text (text : List Char) :
    ∃ sign, (sign = [] ∨ sign = ['+'] ∨ sign = ['-']) ∧ text = sign ++ (splitSign text).2 := by
  unfold splitSign
  split
  · exact ⟨['-'], .inr (.inr rfl), rfl⟩
  · exact ⟨['+'], .inr (.inl rfl), rfl⟩
  · exact ⟨[], .inl rfl, rfl⟩

/-- A decimal integer is its own plain form. -/
theorem plainForm_of_decimal {n : ℤ} (h : decimal? text = some n) :
    plainForm p text = some (splitSign text) := by
  obtain ⟨-, hdigits⟩ := signedDecimal_eq_some h
  have hascii : ∀ c ∈ text, isAscii c = true := by
    obtain ⟨sign, hsign, htext⟩ := splitSign_text text
    intro c hc
    rw [htext, List.mem_append] at hc
    obtain hc | hc := hc
    · obtain rfl | rfl | rfl := hsign
      · cases hc
      · rw [List.mem_singleton.mp hc]
        rfl
      · rw [List.mem_singleton.mp hc]
        rfl
    · exact isAscii_of_isDigit (hdigits c hc)
  rw [plainForm, asciiDigits_of_ascii hascii, removeUnderscores_digits hdigits]
  rfl

end Reading

/-- What the contract says of an integer key's value: it is accepted, as what it reads, where it is a
decimal integer within the bounds, and is one issue of the key otherwise. -/
structure ParsesDecimal (p : Platform) (spec : KeySpec) (raw : String) : Prop where
  accepted : ∀ value, parse p spec raw = .ok (.ok value) ↔
    ∃ n : ℤ, decimal? (pyStrip raw.toList) = some n ∧ InBounds spec n ∧ value = .int n
  rejected : (¬ ∃ n : ℤ, decimal? (pyStrip raw.toList) = some n ∧ InBounds spec n) →
    ∃ message, parse p spec raw = .ok (.error (invalid spec message))

section Parsing

variable {p : Platform} {spec : KeySpec} {raw : String}

/-- An integer key's value is what `int` reads of it within the bounds. -/
theorem parse_int (p : Platform) (raw : String) (hkind : spec.kind = .int) :
    (∃ n : ℤ, int? p.numbers (pyStrip raw.toList) = some n ∧ InBounds spec n ∧
        parse p spec raw = .ok (.ok (.int n))) ∨
      ((¬ ∃ n : ℤ, int? p.numbers (pyStrip raw.toList) = some n ∧ InBounds spec n) ∧
        ∃ message, parse p spec raw = .ok (.error (invalid spec message))) := by
  by_cases htext : pyStrip raw.toList = []
  · refine .inr ⟨?_, _, parse_empty (by rw [hkind]; exact Kind.noConfusion) htext⟩
    rw [htext]
    rintro ⟨n, hn, -⟩
    cases hn
  · rw [parse_number (.inl hkind) htext, parseNumber, if_pos hkind]
    cases hn : int? p.numbers (pyStrip raw.toList) with
    | none => exact .inr ⟨by simp, _, rfl⟩
    | some n =>
        dsimp only [checkBounds]
        cases hbounds : outOfBounds spec n with
        | none => exact .inl ⟨n, rfl, outOfBounds_eq_none.mp hbounds, rfl⟩
        | some message =>
            refine .inr ⟨?_, message, rfl⟩
            rintro ⟨m, hm, hin⟩
            obtain rfl := Option.some.inj hm
            rw [outOfBounds_eq_none.mpr hin] at hbounds
            cases hbounds

/-- So the contract holds where `int` and the contract read the same numbers within the bounds. -/
theorem parsesDecimal_iff_same (hkind : spec.kind = .int) :
    ParsesDecimal p spec raw ↔ ∀ n : ℤ, InBounds spec n →
      (int? p.numbers (pyStrip raw.toList) = some n ↔ decimal? (pyStrip raw.toList) = some n) := by
  obtain ⟨n, hread, hin, hparse⟩ | ⟨hnone, message, hparse⟩ := parse_int p raw hkind
  · constructor
    · intro h m hm
      obtain ⟨n', hdecimal, -, hn'⟩ := (h.accepted (.int n)).mp hparse
      obtain rfl := Value.int.inj hn'
      rw [hread, hdecimal]
    · intro h
      have hdecimal := (h n hin).mp hread
      refine ⟨fun value => ?_, fun hnot => absurd ⟨n, hdecimal, hin⟩ hnot⟩
      rw [hparse, hdecimal]
      constructor
      · intro hvalue
        exact ⟨n, rfl, hin, (Except.ok.inj (Except.ok.inj hvalue)).symm⟩
      · rintro ⟨m, hm, -, rfl⟩
        rw [Option.some.inj hm]
  · constructor
    · intro h m hm
      refine ⟨fun hread => absurd ⟨m, hread, hm⟩ hnone, fun hdecimal => ?_⟩
      have haccepted := (h.accepted (.int m)).mpr ⟨m, hdecimal, hm, rfl⟩
      rw [hparse] at haccepted
      cases haccepted
    · intro h
      refine ⟨fun value => ?_, fun _ => ⟨message, hparse⟩⟩
      rw [hparse]
      constructor
      · intro hvalue
        cases hvalue
      · rintro ⟨m, hdecimal, hm, -⟩
        exact absurd ⟨m, (h m hm).mpr hdecimal, hm⟩ hnone

end Parsing

/-- An integer key's value is parsed by the contract if and only if a decimal integer within the bounds
has no more digits than are read, and any other text whose plain form is one has more. -/
theorem parses_decimal_iff (p : Platform) (spec : KeySpec) (raw : String) (hkind : spec.kind = .int) :
    ParsesDecimal p spec raw ↔
      (∀ n : ℤ, decimal? (pyStrip raw.toList) = some n → InBounds spec n →
        WithinLimit p.numbers (splitSign (pyStrip raw.toList)).2) ∧
      (decimal? (pyStrip raw.toList) = none → ∀ plain n,
        plainForm p.numbers (pyStrip raw.toList) = some plain → signedDecimal plain = some n →
          InBounds spec n → ¬ WithinLimit p.numbers plain.2) := by
  rw [parsesDecimal_iff_same hkind]
  simp only [int?_eq]
  cases hdecimal : decimal? (pyStrip raw.toList) with
  | some m =>
      rw [plainForm_of_decimal hdecimal, Option.bind_some]
      have hsigned : signedDecimal (splitSign (pyStrip raw.toList)) = some m := hdecimal
      by_cases hlimit : WithinLimit p.numbers (splitSign (pyStrip raw.toList)).2
      · simp [hlimit, hsigned]
      · rw [if_neg hlimit]
        simp only [hlimit, reduceCtorEq, false_iff, Option.some.injEq, false_implies, and_true,
          imp_false]
        constructor
        · rintro h n rfl hin
          exact h m hin rfl
        · rintro h n hin rfl
          exact h m rfl hin
  | none =>
      simp only [reduceCtorEq, iff_false, false_implies, implies_true, true_and, forall_const]
      constructor
      · intro h plain n hplain hsigned hin hlimit
        apply h n hin
        rw [hplain, Option.bind_some, if_pos hlimit, hsigned]
      · intro h n hin hread
        obtain ⟨plain, hplain, hread⟩ := Option.bind_eq_some_iff.mp hread
        split_ifs at hread with hlimit
        exact h plain n hplain hread hin hlimit

/-- The registry's entry for the retries. -/
def maxAttemptsSpec : KeySpec where
  logical := "http.retry.max_attempts"
  attr := "http_retry_max_attempts"
  env := ["HTTP_RETRY_MAX_ATTEMPTS", "HTTP_RETRY_COUNT"]
  kind := .int
  default := some (.int 3)
  lo := some ⟨0, "0"⟩

theorem parses_decimal_iff_sample : ParsesDecimal asciiSettings maxAttemptsSpec " +5 " := by
  apply (parses_decimal_iff asciiSettings maxAttemptsSpec " +5 " rfl).mpr
  constructor
  · intro n _ _
    decide
  · intro hnone
    have hfive : decimal? (pyStrip " +5 ".toList) = some 5 := by decide
    rw [hfive] at hnone
    cases hnone

/-- Underscores are read, by a key of the registry that says decimal only. -/
theorem underscore_accepted :
    maxAttemptsSpec ∈ registry ∧ decimal? (pyStrip "1_000".toList) = none ∧
      parse asciiSettings maxAttemptsSpec "1_000" = .ok (.ok (.int 1000)) ∧
      ¬ ParsesDecimal asciiSettings maxAttemptsSpec "1_000" := by
  have hnone : decimal? (pyStrip "1_000".toList) = none := by decide
  have hparse : parse asciiSettings maxAttemptsSpec "1_000" = .ok (.ok (.int 1000)) := by decide +kernel
  refine ⟨by decide +kernel, hnone, hparse, fun h => ?_⟩
  obtain ⟨n, hdecimal, -⟩ := (h.accepted _).mp hparse
  rw [hnone] at hdecimal
  cases hdecimal

end IdentityModel.Py.Settings
