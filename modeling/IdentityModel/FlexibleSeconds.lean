import IdentityModel.GoDpopProof
import IdentityModel.PyNumbers
import IdentityModel.RustJwksClient
import IdentityModel.RustTimes

/-!
# Seconds that come as a number, as a text or not at all

`flexibleInt64` of `go/pkg/token/response.go` and `parseUpdatedAt` of `go/pkg/userinfo/response.go`, and
`deserialize_flexible_expires_in` and `deserialize_flexible_updated_at` of the responses in Rust: an
integer of 64 bits as it is, any other number cut off to whole seconds, and the same of a text. Then
`strconv.ParseInt`, `strconv.ParseFloat` and the `from_str` of `i64` and `f64`, which they go by: Go
takes hexadecimal floats and underscores between digits, and Rust does not.
-/
namespace IdentityModel.FlexibleSeconds

open Url (isDigit hexDigit)
open Py (decimalValue splitSign unsignedFloat?)
open RustClaims (FloatReader SerdeNumber)

/-- `strconv.ParseInt` of base 10 and 64 bits, and `i64::from_str`. -/
def parseI64 (s : List Char) : Option Int64 :=
  let r := splitSign s
  if r.2 ≠ [] ∧ r.2.all isDigit then
    let value : ℤ := if r.1 then -(decimalValue r.2 : ℤ) else decimalValue r.2
    if -2 ^ 63 ≤ value ∧ value < 2 ^ 63 then some (Int64.ofInt value) else none
  else none

/-- `f64::from_str`. -/
def parseF64 (s : List Char) : Option Float64 :=
  let r := splitSign s
  (unsignedFloat? r.2).map fun x => if r.1 then x.neg else x

/-- The loop of `underscoreOK`; `i` tells what came before: a digit, an underscore or something else. -/
def underscoreLoop (hex : Bool) (i : Char) : List Char → Bool
  | [] => i != '_'
  | c :: s =>
      if isDigit c || (hex && (hexDigit c).isSome) then underscoreLoop hex '0' s
      else if c = '_' then i == '0' && underscoreLoop hex '_' s
      else i != '_' && underscoreLoop hex '!' s

/-- `0` and the letter of a base in front, and more besides. -/
def hasHexPrefix : List Char → Bool
  | '0' :: c :: _ :: _ => c = 'x' || c = 'X'
  | _ => false

/-- `underscoreOK`, of a text without its sign. -/
def underscoreOK (s : List Char) : Bool :=
  if hasHexPrefix s then underscoreLoop true '0' (s.drop 2) else underscoreLoop false '^' s

/-- The exponent of a hexadecimal float, which it has to have. -/
def hexExponent? : List Char → Option ℤ
  | [] => none
  | p :: s =>
      let r := splitSign s
      if (p = 'p' ∨ p = 'P') ∧ r.2 ≠ [] ∧ r.2.all isDigit then
        some (if r.1 then -(decimalValue r.2 : ℤ) else decimalValue r.2)
      else none

/-- A hexadecimal float, behind its prefix. -/
def hexFloat? (s : List Char) : Option Float64 :=
  let whole := s.span fun c => (hexDigit c).isSome
  let fraction := match whole.2 with
    | '.' :: rest => rest.span fun c => (hexDigit c).isSome
    | rest => ([], rest)
  let digits := whole.1 ++ fraction.1
  if digits = [] then none
  else
    (hexExponent? fraction.2).map fun e =>
      .ofRat ((digits.foldl (fun n c => 16 * n + (hexDigit c).getD 0) 0 : ℕ) *
        2 ^ (e - 4 * (fraction.1.length : ℤ)))

/-- `strconv.ParseFloat` of 64 bits; a text beyond the range is an error. -/
def parseFloat (s : List Char) : Option Float64 :=
  let r := splitSign s
  let word := r.2.map Url.asciiLower
  if word = "inf".toList ∨ word = "infinity".toList then some (.inf r.1)
  else if s.map Url.asciiLower = "nan".toList then some .nan
  else if '_' ∈ s ∧ underscoreOK r.2 = false then none
  else
    let t := r.2.filter fun c => c ≠ '_'
    match if hasHexPrefix r.2 then hexFloat? (t.drop 2) else unsignedFloat? t with
    | some (.finite f) => some (.finite (if r.1 then -f else f))
    | _ => none

/-- What only Go takes for a float. -/
def GoSpelling (s : List Char) : Prop := '_' ∈ s ∨ hasHexPrefix (splitSign s).2 = true

instance (s : List Char) : Decidable (GoSpelling s) := inferInstanceAs (Decidable (_ ∨ _))

/-- `isValidNumber` of `encoding/json`: the grammar of a JSON number. -/
def isValidNumber (s : List Char) : Bool := validDigits (if s.head? = some '-' then s.tail else s)
where
  /-- The digits before the point, and what follows. -/
  validDigits : List Char → Bool
    | [] => false
    | d :: rest => isDigit d && validFraction (if d = '0' then rest else rest.dropWhile isDigit)
  /-- The point with digits, if they are there, and what follows. -/
  validFraction : List Char → Bool
    | '.' :: d :: rest => isDigit d && validExponent (rest.dropWhile isDigit)
    | rest => validExponent rest
  /-- The exponent, if it is there, and the end. -/
  validExponent : List Char → Bool
    | [] => true
    | e :: rest =>
        let digits := if rest.head? = some '+' ∨ rest.head? = some '-' then rest.tail else rest
        (e = 'e' || e = 'E') && !digits.isEmpty && digits.all isDigit

/-- The seconds of a float: what is before its point, if that has 64 bits. -/
def wholeSeconds : Float64 → Option Int64
  | .finite f =>
      if f < 2 ^ 63 ∧ -2 ^ 63 ≤ f then some (Int64.ofInt (Float64.truncate f)) else none
  | _ => none

namespace Go

/-- What `fmt` makes of a text under `%q` and of a float under `%v`, and the text of a document. -/
structure Fmt where
  quote : String → String
  float : Float64 → String
  raw : Json → String

/-- `floatToSeconds`, and the end of `numericToSeconds`. -/
def floatToSeconds (fmt : Fmt) (name : String) (f : Float64) : Except String Int64 :=
  match wholeSeconds f with
  | some i => .ok i
  | none => .error (name ++ " out of range: " ++ fmt.float f)

/-- The integer if the text is one, or else the whole seconds of its float. -/
def toSeconds (fmt : Fmt) (name refused : String) (int : Option Int64) (float : Option Float64) :
    Except String Int64 :=
  match int, float with
  | some i, _ => .ok i
  | none, some f => floatToSeconds fmt name f
  | none, none => .error refused

/-- `Number.Float64`: a literal beyond the range is an error. -/
def floatOf (n : Number) : Option Float64 :=
  match Float64.ofRat n.value with
  | .finite f => some (.finite f)
  | _ => none

/-- The error of a text that is no number. -/
def notSeconds (fmt : Fmt) (s : String) : String := "expected integer seconds, got " ++ fmt.quote s

/-- The seconds of a literal, and of a text that has the form of one. -/
def literalSeconds (fmt : Fmt) (name : String) (n : Number) : Except String Int64 :=
  toSeconds fmt name (notSeconds fmt n.text) (GoDpop.parseInt n) (floatOf n)

def textSeconds (fmt : Fmt) (name refused s : String) : Except String Int64 :=
  toSeconds fmt name refused (parseI64 s.toList) (parseFloat s.toList)

/-- `flexibleInt64`. -/
def flexibleInt64 (fmt : Fmt) : Json → Except String Int64
  | .null => .ok 0
  | .num n => literalSeconds fmt "expires_in" n
  | .str s =>
      if isValidNumber s.toList then textSeconds fmt "expires_in" (notSeconds fmt s) s
      else
        let s := GoJwks.trimSpace s
        if s = "" then .ok 0
        else textSeconds fmt "expires_in" ("expected numeric string, got " ++ fmt.quote s) s
  | _ => .error "expected number or numeric string"

/-- `parseUpdatedAt`, of a member that may be absent. -/
def parseUpdatedAt (fmt : Fmt) : Option Json → Except String Int64
  | none => .ok 0
  | some .null => .ok 0
  | some (.num n) => literalSeconds fmt "updated_at" n
  | some (.str s) =>
      if isValidNumber s.toList then textSeconds fmt "updated_at" (notSeconds fmt s) s
      else
        let s := GoJwks.trimSpace s
        if s = "" then .ok 0 else textSeconds fmt "updated_at" (notSeconds fmt s) s
  | some j => .error ("expected number, got " ++ fmt.raw j)

end Go

namespace Rust

/-- How Rust shows a text under `{:?}`, a float, a number and a value. -/
structure Fmt where
  debug : String → String
  float : Float64 → String
  number : SerdeNumber → String
  value : Json → String

/-- `float_to_seconds`. -/
def floatToSeconds (fmt : Fmt) (name : String) (f : Float64) : Except String Int64 :=
  match wholeSeconds f with
  | some i => .ok i
  | none => .error (name ++ " out of range: " ++ fmt.float f)

/-- `number_to_seconds`. -/
def numberToSeconds (fmt : Fmt) (name : String) (n : SerdeNumber) : Except String Int64 :=
  match n.asI64 with
  | some i => .ok (Int64.ofInt i)
  | none =>
      match n.asF64 with
      | some f => floatToSeconds fmt name (.finite f)
      | none => .error (name ++ ": expected integer seconds, got " ++ fmt.number n)

/-- The two deserializers, for the member of that name. -/
def deserializeFlexible (fmt : Fmt) (float : Number → ℚ) (name : String) :
    Json → Except String (Option Int64)
  | .null => .ok none
  | .num n => (numberToSeconds fmt name (.ofLiteral float n)).map some
  | .str s =>
      let s := RustJwks.trim s
      if s = "" then .ok none
      else
        match parseI64 s.toList with
        | some i => .ok (some i)
        | none =>
            match parseF64 s.toList with
            | some f => (floatToSeconds fmt name f).map some
            | none => .error (name ++ ": expected numeric string, got " ++ fmt.debug s)
  | j => .error (name ++ ": expected number, numeric string, or null, got " ++ fmt.value j)

/-- `deserialize_flexible_expires_in`: what is not there is zero. -/
def deserializeFlexibleExpiresIn (fmt : Fmt) (float : Number → ℚ) (j : Json) : Except String Int64 :=
  (deserializeFlexible fmt float "expires_in" j).map fun seconds => seconds.getD 0

/-- `deserialize_flexible_updated_at`. -/
def deserializeFlexibleUpdatedAt (fmt : Fmt) (float : Number → ℚ) :
    Json → Except String (Option Int64) := deserializeFlexible fmt float "updated_at"

/-- The field `updated_at` of a `UserInfoResponse`, which has a default. -/
def updatedAt (fmt : Fmt) (float : Number → ℚ) : Option Json → Except String (Option Int64)
  | none => .ok none
  | some j => deserializeFlexibleUpdatedAt fmt float j

end Rust

section Reading

variable {fmt : Go.Fmt} {name refused : String} {int : Option Int64} {float : Option Float64} {i : Int64}

/-- The integer, or else the whole seconds of the float. -/
def secondsOf (int : Option Int64) (float : Option Float64) : Option Int64 :=
  int.or (float.bind wholeSeconds)

/-- The seconds that Go reads in a document. -/
def Go.seconds : Json → Option Int64
  | .null => some 0
  | .num n => secondsOf (GoDpop.parseInt n) (some (Float64.ofRat n.value))
  | .str s =>
      let s := GoJwks.trimSpace s
      if s = "" then some 0 else secondsOf (parseI64 s.toList) (parseFloat s.toList)
  | _ => none

/-- The seconds that Rust reads in a document. -/
def Rust.seconds (float : Number → ℚ) : Json → Option Int64
  | .null => some 0
  | .num n =>
      let m := SerdeNumber.ofLiteral float n
      secondsOf (m.asI64.map Int64.ofInt) (m.asF64.map Float64.finite)
  | .str s =>
      let s := RustJwks.trim s
      if s = "" then some 0 else secondsOf (parseI64 s.toList) (parseF64 s.toList)
  | _ => none

theorem Go.toSeconds_eq_ok : Go.toSeconds fmt name refused int float = .ok i ↔ secondsOf int float = some i := by
  cases int with
  | some k => simp [Go.toSeconds, secondsOf]
  | none =>
      cases float with
      | none => simp [Go.toSeconds, secondsOf]
      | some f => cases h : wholeSeconds f <;> simp [Go.toSeconds, Go.floatToSeconds, secondsOf, h]

theorem Go.floatOf_wholeSeconds (n : Number) :
    (Go.floatOf n).bind wholeSeconds = wholeSeconds (Float64.ofRat n.value) := by
  unfold Go.floatOf
  cases Float64.ofRat n.value <;> rfl

theorem Go.literalSeconds_eq_ok {n : Number} :
    Go.literalSeconds fmt name n = .ok i ↔ Go.seconds (.num n) = some i := by
  rw [Go.literalSeconds, Go.toSeconds_eq_ok, secondsOf, Go.floatOf_wholeSeconds]
  rfl

/-- A character of a JSON number. -/
def IsNumeric (c : Char) : Prop := isDigit c = true ∨ c ∈ ['+', '-', '.', 'e', 'E']

theorem IsNumeric.not_space {c : Char} (h : IsNumeric c) : GoJwks.isSpace c = false := by
  obtain hdigit | hother := h
  · simp only [isDigit, Bool.and_eq_true, decide_eq_true_eq] at hdigit
    have hlow : 48 ≤ c.toNat := hdigit.1
    have hhigh : c.toNat ≤ 57 := hdigit.2
    simp only [GoJwks.isSpace, Bool.or_eq_false_iff, Bool.and_eq_false_iff, decide_eq_false_iff_not,
      beq_eq_false_iff_ne]
    omega
  · simp only [List.mem_cons, List.not_mem_nil, or_false] at hother
    obtain rfl | rfl | rfl | rfl | rfl := hother <;> decide

theorem numeric_of_dropWhile {s : List Char} (h : ∀ c ∈ s.dropWhile isDigit, IsNumeric c) :
    ∀ c ∈ s, IsNumeric c := by
  intro c hc
  rw [← List.takeWhile_append_dropWhile (p := isDigit) (l := s)] at hc
  obtain hfront | hback := List.mem_append.mp hc
  · exact .inl (List.mem_takeWhile_imp hfront)
  · exact h c hback

theorem validExponent_numeric {s : List Char} (h : isValidNumber.validExponent s = true) :
    ∀ c ∈ s, IsNumeric c := by
  cases s with
  | nil => simp
  | cons e rest =>
      simp only [isValidNumber.validExponent, Bool.and_eq_true, Bool.or_eq_true, decide_eq_true_eq] at h
      obtain ⟨⟨he, -⟩, hdigits⟩ := h
      have hletter : IsNumeric e := .inr (by obtain rfl | rfl := he <;> decide)
      refine List.forall_mem_cons.mpr ⟨hletter, ?_⟩
      split at hdigits
      · rename_i hsign
        cases rest with
        | nil => simp
        | cons c rest =>
            have hc : IsNumeric c := .inr (by
              simp only [List.head?_cons, Option.some.injEq] at hsign
              obtain rfl | rfl := hsign <;> decide)
            exact List.forall_mem_cons.mpr ⟨hc, fun d hd => .inl (List.all_eq_true.mp hdigits d hd)⟩
      · exact fun d hd => .inl (List.all_eq_true.mp hdigits d hd)

theorem validFraction_numeric {s : List Char} (h : isValidNumber.validFraction s = true) :
    ∀ c ∈ s, IsNumeric c := by
  unfold isValidNumber.validFraction at h
  split at h
  · rename_i d rest
    rw [Bool.and_eq_true] at h
    have hrest := numeric_of_dropWhile (validExponent_numeric h.2)
    exact List.forall_mem_cons.mpr ⟨.inr (by decide), List.forall_mem_cons.mpr ⟨.inl h.1, hrest⟩⟩
  · exact validExponent_numeric h

theorem validDigits_numeric {s : List Char} (h : isValidNumber.validDigits s = true) :
    s ≠ [] ∧ ∀ c ∈ s, IsNumeric c := by
  cases s with
  | nil => cases h
  | cons d rest =>
      rw [isValidNumber.validDigits, Bool.and_eq_true] at h
      refine ⟨List.cons_ne_nil _ _, List.forall_mem_cons.mpr ⟨.inl h.1, ?_⟩⟩
      have hrest := validFraction_numeric h.2
      split at hrest
      · exact hrest
      · exact numeric_of_dropWhile hrest

theorem isValidNumber_numeric {s : List Char} (h : isValidNumber s = true) :
    s ≠ [] ∧ ∀ c ∈ s, IsNumeric c := by
  have hdigits := validDigits_numeric h
  cases s with
  | nil => exact absurd rfl hdigits.1
  | cons c s =>
      split at hdigits
      · rename_i hminus
        obtain rfl : c = '-' := Option.some.inj hminus
        exact ⟨List.cons_ne_nil _ _, List.forall_mem_cons.mpr ⟨.inr (by decide), hdigits.2⟩⟩
      · exact hdigits

theorem trimSpace_of_numeric {s : String} (h : ∀ c ∈ s.toList, IsNumeric c) : GoJwks.trimSpace s = s := by
  have hdrop (l : List Char) (hl : ∀ c ∈ l, IsNumeric c) : l.dropWhile GoJwks.isSpace = l := by
    cases l with
    | nil => rfl
    | cons c l => rw [List.dropWhile_cons_of_neg (by rw [(hl c List.mem_cons_self).not_space]; decide)]
  rw [GoJwks.trimSpace, hdrop _ h, hdrop _ fun c hc => h c (List.mem_reverse.mp hc), List.reverse_reverse,
    String.ofList_toList]

/-- A text in the form of a number is read like any other. -/
theorem Go.textSeconds_eq_ok {s : String} (h : isValidNumber s.toList = true) :
    Go.textSeconds fmt name refused s = .ok i ↔ Go.seconds (.str s) = some i := by
  obtain ⟨hne, hnumeric⟩ := isValidNumber_numeric h
  have hs : s ≠ "" := by
    rintro rfl
    exact hne rfl
  rw [Go.textSeconds, Go.toSeconds_eq_ok, Go.seconds]
  simp only [trimSpace_of_numeric hnumeric, if_neg hs]

theorem Go.flexibleInt64_eq_ok {j : Json} : Go.flexibleInt64 fmt j = .ok i ↔ Go.seconds j = some i := by
  cases j with
  | num n => exact Go.literalSeconds_eq_ok
  | str s =>
      simp only [Go.flexibleInt64]
      split
      · rename_i hvalid
        exact Go.textSeconds_eq_ok hvalid
      · rw [Go.seconds]
        split
        · simp
        · exact Go.toSeconds_eq_ok
  | _ => simp [Go.flexibleInt64, Go.seconds]

theorem Go.parseUpdatedAt_eq_ok {raw : Option Json} :
    Go.parseUpdatedAt fmt raw = .ok i ↔ raw.elim (some 0) Go.seconds = some i := by
  cases raw with
  | none => simp [Go.parseUpdatedAt]
  | some j =>
      cases j with
      | num n => exact Go.literalSeconds_eq_ok
      | str s =>
          rw [Option.elim_some]
          simp only [Go.parseUpdatedAt]
          split
          · rename_i hvalid
            exact Go.textSeconds_eq_ok hvalid
          · rw [Go.seconds]
            split
            · simp
            · exact Go.toSeconds_eq_ok
      | _ => simp [Go.parseUpdatedAt, Go.seconds]

end Reading

section Reading

variable {fmt : Rust.Fmt} {float : Number → ℚ} {name : String} {i : Int64} {j : Json}

theorem Rust.floatToSeconds_eq_ok {f : Float64} :
    Rust.floatToSeconds fmt name f = .ok i ↔ wholeSeconds f = some i := by
  cases h : wholeSeconds f <;> simp [Rust.floatToSeconds, h]

theorem Rust.numberToSeconds_eq_ok {n : SerdeNumber} :
    Rust.numberToSeconds fmt name n = .ok i ↔
      secondsOf (n.asI64.map Int64.ofInt) (n.asF64.map Float64.finite) = some i := by
  unfold Rust.numberToSeconds secondsOf
  cases n.asI64 with
  | some k => simp
  | none => cases n.asF64 <;> simp [Rust.floatToSeconds_eq_ok]

/-- What is not there reads as zero. -/
theorem Rust.deserializeFlexible_eq_ok :
    (∃ v, Rust.deserializeFlexible fmt float name j = .ok v ∧ v.getD 0 = i) ↔
      Rust.seconds float j = some i := by
  cases j with
  | num n =>
      have hnumber : Rust.seconds float (.num n) = some i ↔
          Rust.numberToSeconds fmt name (.ofLiteral float n) = .ok i := Rust.numberToSeconds_eq_ok.symm
      rw [hnumber]
      simp [Rust.deserializeFlexible, Results.map_eq_ok]
  | str s =>
      simp only [Rust.deserializeFlexible, Rust.seconds]
      split
      · simp
      · cases parseI64 (RustJwks.trim s).toList with
        | some k => simp [secondsOf]
        | none =>
            cases parseF64 (RustJwks.trim s).toList <;>
              simp [secondsOf, Results.map_eq_ok, Rust.floatToSeconds_eq_ok]
  | _ => simp [Rust.deserializeFlexible, Rust.seconds]

theorem Rust.deserializeFlexibleExpiresIn_eq_ok :
    Rust.deserializeFlexibleExpiresIn fmt float j = .ok i ↔ Rust.seconds float j = some i := by
  rw [Rust.deserializeFlexibleExpiresIn, Results.map_eq_ok, ← Rust.deserializeFlexible_eq_ok]

end Reading

section Agreement

variable {s : List Char}

theorem mem_splitSign {c : Char} (hminus : c ≠ '-') (hplus : c ≠ '+') : c ∈ (splitSign s).2 ↔ c ∈ s := by
  unfold splitSign
  split
  · rw [List.mem_cons, or_iff_right hminus]
  · rw [List.mem_cons, or_iff_right hplus]
  · exact Iff.rfl

theorem splitSign_numeric (h : ∀ c ∈ (splitSign s).2, isDigit c = true) : ∀ c ∈ s, IsNumeric c := by
  intro c hc
  by_cases hminus : c = '-'
  · exact .inr (by simp [hminus])
  · by_cases hplus : c = '+'
    · exact .inr (by simp [hplus])
    · exact .inl (h c ((mem_splitSign hminus hplus).mpr hc))

theorem exponent?_numeric {e : ℤ} (h : Py.exponent? s = some e) : ∀ c ∈ s, IsNumeric c := by
  cases s with
  | nil => simp
  | cons x s =>
      rw [Py.exponent?] at h
      split at h
      · rename_i hexp
        have hletter : IsNumeric x := .inr (by obtain rfl | rfl := hexp.1 <;> decide)
        exact List.forall_mem_cons.mpr
          ⟨hletter, splitSign_numeric fun c hc => List.all_eq_true.mp hexp.2.2 c hc⟩
      · cases h

/-- A float without a sign is a word, or it is written in the characters of JSON numbers. -/
theorem unsignedFloat?_numeric {f : Float64} (h : unsignedFloat? s = some f) :
    s.map Url.asciiLower ∈ ["inf".toList, "infinity".toList, "nan".toList] ∨ ∀ c ∈ s, IsNumeric c := by
  unfold unsignedFloat? at h
  dsimp only at h
  split at h
  · rename_i hword
    exact .inl (by obtain hw | hw := hword <;> simp [hw])
  · split at h
    · rename_i hword
      exact .inl (by simp [hword])
    · right
      refine numeric_of_dropWhile ?_
      rw [List.span_eq_takeWhile_dropWhile] at h
      dsimp only at h
      generalize s.dropWhile isDigit = rest at h ⊢
      split at h
      · rw [List.span_eq_takeWhile_dropWhile] at h
        split at h
        · cases h
        · obtain ⟨e, he, -⟩ := Option.map_eq_some_iff.mp h
          exact List.forall_mem_cons.mpr ⟨.inr (by decide), numeric_of_dropWhile (exponent?_numeric he)⟩
      · split at h
        · cases h
        · obtain ⟨e, he, -⟩ := Option.map_eq_some_iff.mp h
          exact exponent?_numeric he

/-- Rust takes no float for one that only Go does. -/
theorem unsignedFloat?_plain {f : Float64} (h : unsignedFloat? s = some f) :
    '_' ∉ s ∧ hasHexPrefix s = false := by
  obtain hword | hnumeric := unsignedFloat?_numeric h
  · constructor
    · intro hmem
      have hlower : '_' ∈ s.map Url.asciiLower := List.mem_map.mpr ⟨'_', hmem, by decide⟩
      simp only [List.mem_cons, List.not_mem_nil, or_false] at hword
      obtain hw | hw | hw := hword <;> rw [hw] at hlower <;> revert hlower <;> decide
    · by_contra hprefix
      unfold hasHexPrefix at hprefix
      split at hprefix
      · simp only [List.map_cons, List.mem_cons, List.not_mem_nil, or_false] at hword
        obtain hw | hw | hw := hword <;> exact absurd (List.cons.inj hw).1 (by decide)
      · exact hprefix rfl
  · constructor
    · intro hmem
      exact absurd (hnumeric _ hmem) (by simp [IsNumeric, isDigit])
    · by_contra hprefix
      unfold hasHexPrefix at hprefix
      split at hprefix
      · rename_i c d rest
        have hc := hnumeric c (by simp)
        rw [Bool.not_eq_false, Bool.or_eq_true, decide_eq_true_eq, decide_eq_true_eq] at hprefix
        obtain rfl | rfl := hprefix <;> exact absurd hc (by simp [IsNumeric, isDigit])
      · exact hprefix rfl

/-- A text that only Go takes for a float has no seconds in Rust. -/
theorem secondsOf_goSpelling (h : GoSpelling s) : secondsOf (parseI64 s) (parseF64 s) = none := by
  have hrefused : ∀ f, unsignedFloat? (splitSign s).2 ≠ some f := by
    intro f hf
    obtain ⟨hunderscore, hprefix⟩ := unsignedFloat?_plain hf
    obtain hmem | hhex := h
    · exact hunderscore ((mem_splitSign (by decide) (by decide)).mpr hmem)
    · rw [hhex] at hprefix
      cases hprefix
  have hfloat : parseF64 s = none := by
    rw [parseF64, Option.map_eq_none_iff]
    exact Option.eq_none_iff_forall_ne_some.mpr hrefused
  have hdigits : ¬ (splitSign s).2.all isDigit = true := by
    intro hall
    obtain hmem | hhex := h
    · have hdigit := List.all_eq_true.mp hall '_' ((mem_splitSign (by decide) (by decide)).mpr hmem)
      exact absurd hdigit (by decide)
    · unfold hasHexPrefix at hhex
      split at hhex
      · rename_i c d rest hs
        have hdigit := List.all_eq_true.mp hall c (by simp [hs])
        rw [Bool.or_eq_true, decide_eq_true_eq, decide_eq_true_eq] at hhex
        obtain rfl | rfl := hhex <;> exact absurd hdigit (by decide)
      · cases hhex
  have hint : parseI64 s = none := if_neg fun hc => hdigits hc.2
  rw [hint, hfloat]
  rfl

/-- Every other text has the same seconds in both languages. -/
theorem secondsOf_plain (h : ¬ GoSpelling s) :
    secondsOf (parseI64 s) (parseFloat s) = secondsOf (parseI64 s) (parseF64 s) := by
  rw [GoSpelling, not_or, Bool.not_eq_true] at h
  have hfilter : (splitSign s).2.filter (fun c => c ≠ '_') = (splitSign s).2 := by
    rw [List.filter_eq_self]
    intro c hc
    rw [decide_eq_true_eq]
    rintro rfl
    exact h.1 ((mem_splitSign (by decide) (by decide)).mp hc)
  have hfloat : (parseFloat s).bind wholeSeconds = (parseF64 s).bind wholeSeconds := by
    unfold parseFloat parseF64
    dsimp only
    split
    · rename_i hword
      rw [unsignedFloat?]
      dsimp only
      rw [if_pos hword]
      cases (splitSign s).1 <;> rfl
    · rename_i hword
      split
      · rename_i hnan
        have hsign : splitSign s = (false, s) := by
          unfold splitSign
          split
          · exact absurd (List.cons.inj hnan).1 (by decide)
          · exact absurd (List.cons.inj hnan).1 (by decide)
          · rfl
        rw [hsign, unsignedFloat?]
        dsimp only
        rw [hsign] at hword
        rw [if_neg hword, if_pos hnan]
        rfl
      · rw [if_neg fun hc => h.1 hc.1, h.2, if_neg (by decide), hfilter]
        cases unsignedFloat? (splitSign s).2 with
        | none => rfl
        | some f => cases f <;> cases (splitSign s).1 <;> rfl
  rw [secondsOf, secondsOf, hfloat]

/-- The literal `-0`. -/
def NegativeZero (n : Number) : Prop :=
  n.negative = true ∧ digitsValue n.whole = 0 ∧ n.fraction = [] ∧ n.exponent = none

/-- `serde_json` reads the integers of 64 bits that Go reads, but for the negative zero. -/
theorem asI64_ofLiteral (float : Number → ℚ) {n : Number} (hzero : ¬ NegativeZero n) :
    (SerdeNumber.ofLiteral float n).asI64 = (GoDpop.parseInt n).map Int64.toInt := by
  by_cases hinteger : n.fraction = [] ∧ n.exponent = none
  · simp only [SerdeNumber.ofLiteral, GoDpop.parseInt, if_pos hinteger]
    by_cases hneg : n.negative = true
    · have hpos : 0 < digitsValue n.whole := Nat.pos_of_ne_zero fun h => hzero ⟨hneg, h, hinteger⟩
      simp only [if_pos hneg]
      by_cases hsize : digitsValue n.whole ≤ 2 ^ 63
      · have hlow : -2 ^ 63 ≤ -(digitsValue n.whole : ℤ) := by omega
        have hhigh : -(digitsValue n.whole : ℤ) < 2 ^ 63 := by omega
        rw [if_pos ⟨hpos, hsize⟩, if_pos ⟨hlow, hhigh⟩, Option.map_some,
          Int64.toInt_ofInt_of_le hlow hhigh, SerdeNumber.asI64]
        congr 1
        omega
      · rw [if_neg (fun h => hsize h.2), if_neg (by omega)]
        rfl
    · simp only [if_neg hneg]
      by_cases hsize : digitsValue n.whole < 2 ^ 63
      · have hlow : -2 ^ 63 ≤ (digitsValue n.whole : ℤ) := by omega
        have hhigh : (digitsValue n.whole : ℤ) < 2 ^ 63 := by omega
        rw [if_pos (by omega), if_pos ⟨hlow, hhigh⟩, Option.map_some,
          Int64.toInt_ofInt_of_le hlow hhigh, SerdeNumber.asI64, if_pos hsize]
      · rw [if_neg (by omega : ¬(-2 ^ 63 ≤ (digitsValue n.whole : ℤ) ∧ (digitsValue n.whole : ℤ) < 2 ^ 63))]
        split
        · rw [SerdeNumber.asI64, if_neg hsize]
          rfl
        · rfl
  · simp only [SerdeNumber.ofLiteral, GoDpop.parseInt, if_neg hinteger]
    rfl

theorem asI64_negativeZero (float : Number → ℚ) {n : Number} (h : NegativeZero n) :
    (SerdeNumber.ofLiteral float n).asI64 = none := by
  obtain ⟨hneg, hvalue, hinteger⟩ := h
  simp [SerdeNumber.ofLiteral, hinteger, hneg, hvalue, SerdeNumber.asI64]

/-- `serde_json` reads a literal that is no integer of 64 bits to the nearest float, unless it refuses it. -/
def Nearest (reader : FloatReader) (n : Number) : Prop :=
  reader.refuses n = false → Float64.ofRat n.value = .finite (reader.float n)

/-- A literal that is no integer of 64 bits with a sign has the float that is nearest to it. -/
theorem asF64_ofLiteral {float : Number → ℚ} {n : Number} (hround : Float64.ofRat n.value = .finite (float n))
    (hint : (SerdeNumber.ofLiteral float n).asI64 = none) :
    ((SerdeNumber.ofLiteral float n).asF64.map Float64.finite).bind wholeSeconds =
      wholeSeconds (Float64.ofRat n.value) := by
  have hliteral : (∃ k : ℕ, SerdeNumber.ofLiteral float n = .posInt k ∧ n.value = (k : ℤ)) ∨
      SerdeNumber.ofLiteral float n = .float (float n) := by
    by_cases hinteger : n.fraction = [] ∧ n.exponent = none
    · cases hneg : n.negative with
      | true =>
          by_cases hsize : 0 < digitsValue n.whole ∧ digitsValue n.whole ≤ 2 ^ 63
          · rw [SerdeNumber.ofLiteral, if_pos hinteger, if_pos hneg, if_pos hsize] at hint
            cases hint
          · exact .inr (by simp only [SerdeNumber.ofLiteral, if_pos hinteger, hneg, if_true, if_neg hsize])
      | false =>
          by_cases hsize : digitsValue n.whole < 2 ^ 64
          · refine .inl ⟨digitsValue n.whole, ?_, ?_⟩
            · simp only [SerdeNumber.ofLiteral, if_pos hinteger, hneg, Bool.false_eq_true, if_false,
                if_pos hsize]
            · rw [RustClaims.value_integer hinteger, RustClaims.integer, hneg, if_neg (by decide)]
          · exact .inr (by
              simp only [SerdeNumber.ofLiteral, if_pos hinteger, hneg, Bool.false_eq_true, if_false,
                if_neg hsize])
    · exact .inr (by simp only [SerdeNumber.ofLiteral, if_neg hinteger])
  obtain ⟨k, hk, hvalue⟩ | hfloat := hliteral
  · rw [hk, SerdeNumber.asF64, SerdeNumber.rounded, hvalue]
    cases Float64.ofRat ((k : ℤ) : ℚ) <;> rfl
  · rw [hfloat, hround]
    rfl

/-- A literal read to the nearest float has the same seconds in both languages. -/
theorem seconds_literal {reader : FloatReader} {n : Number} (hnearest : Nearest reader n)
    (hread : reader.refuses n = false) :
    Rust.seconds reader.float (.num n) = Go.seconds (.num n) := by
  have hround := hnearest hread
  simp only [Rust.seconds, Go.seconds]
  by_cases hzero : NegativeZero n
  · obtain ⟨hneg, hsize, hinteger⟩ := hzero
    have hvalue : n.value = 0 := by
      rw [RustClaims.value_integer hinteger, RustClaims.integer, hsize]
      simp
    have hparse : GoDpop.parseInt n = some 0 := by
      rw [GoDpop.parseInt, if_pos hinteger, if_pos hneg, hsize]
      rfl
    have hint := asI64_negativeZero reader.float ⟨hneg, hsize, hinteger⟩
    have hzero : wholeSeconds (Float64.ofRat 0) = some 0 := rfl
    rw [secondsOf, hint, asF64_ofLiteral hround hint, hvalue, hzero, hparse]
    rfl
  · have hint : (SerdeNumber.ofLiteral reader.float n).asI64.map Int64.ofInt = GoDpop.parseInt n := by
      rw [asI64_ofLiteral _ hzero, Option.map_map]
      cases GoDpop.parseInt n with
      | none => rfl
      | some i => rw [Option.map_some, Function.comp_apply, Int64.ofInt_toInt]
    rw [hint]
    cases hparse : GoDpop.parseInt n with
    | some i => rfl
    | none =>
        rw [hparse, Option.map_eq_none_iff] at hint
        rw [secondsOf, secondsOf, asF64_ofLiteral hround hint]
        rfl

/-- A text that Rust, unlike Go, does not take for a number. -/
def GoText (j : Json) : Prop := ∃ s, j = .str s ∧ GoSpelling (GoJwks.trimSpace s).toList

theorem seconds_goText {float : Number → ℚ} {j : Json} (h : GoText j) : Rust.seconds float j = none := by
  obtain ⟨s, rfl, hspelling⟩ := h
  have htrim : RustJwks.trim s = GoJwks.trimSpace s := rfl
  have hne : GoJwks.trimSpace s ≠ "" := by
    intro hempty
    rw [hempty] at hspelling
    exact absurd hspelling (by decide)
  simp only [Rust.seconds, htrim, if_neg hne]
  exact secondsOf_goSpelling hspelling

/-- All else has the same seconds, if the literal that it may be is read to the nearest float. -/
theorem seconds_agree {reader : FloatReader} {j : Json} (hnearest : ∀ n, j = .num n → Nearest reader n)
    (hread : reader.refusesIn j = false) (htext : ¬ GoText j) :
    Rust.seconds reader.float j = Go.seconds j := by
  cases j with
  | num n => exact seconds_literal (hnearest n rfl) hread
  | str s =>
      have htrim : RustJwks.trim s = GoJwks.trimSpace s := rfl
      simp only [Rust.seconds, Go.seconds, htrim]
      split
      · rfl
      · exact (secondsOf_plain fun hspelling => htext ⟨s, rfl, hspelling⟩).symm
  | _ => rfl

/-- Of `updated_at` Rust takes what Go takes, but for a text that only Go takes for a number; and Go takes
what Rust takes, at the same second, a missing time being zero in Go. -/
theorem updated_at_agrees (go : Go.Fmt) (rust : Rust.Fmt) (reader : FloatReader) (raw : Option Json)
    (hnearest : ∀ n, raw = some (.num n) → Nearest reader n)
    (hread : ∀ j, raw = some j → reader.refusesIn j = false) :
    (∀ i, Go.parseUpdatedAt go raw = .ok i →
      ((∃ v, Rust.updatedAt rust reader.float raw = .ok v) ↔ ∀ j, raw = some j → ¬ GoText j)) ∧
    ∀ v, Rust.updatedAt rust reader.float raw = .ok v → Go.parseUpdatedAt go raw = .ok (v.getD 0) := by
  cases raw with
  | none =>
      refine ⟨fun i _ => iff_of_true ⟨none, rfl⟩ (fun j hj => by cases hj), fun v hv => ?_⟩
      obtain rfl := Except.ok.inj hv
      rfl
  | some j =>
      have hseconds (v : Option Int64) (hv : Rust.updatedAt rust reader.float (some j) = .ok v) :
          Rust.seconds reader.float j = some (v.getD 0) :=
        Rust.deserializeFlexible_eq_ok.mp ⟨v, hv, rfl⟩
      have hplain (v : Option Int64) (hv : Rust.updatedAt rust reader.float (some j) = .ok v) : ¬ GoText j := by
        intro htext
        have hnone := (hseconds v hv).symm.trans (seconds_goText htext)
        cases hnone
      have hagree (htext : ¬ GoText j) : Rust.seconds reader.float j = Go.seconds j :=
        seconds_agree (fun n hn => hnearest n (congrArg some hn)) (hread j rfl) htext
      constructor
      · intro i hi
        constructor
        · rintro ⟨v, hv⟩ k hk
          rw [← Option.some.inj hk]
          exact hplain v hv
        · intro htext
          have hgo : Go.seconds j = some i := Go.parseUpdatedAt_eq_ok.mp hi
          have hrust : Rust.seconds reader.float j = some i := (hagree (htext j rfl)).trans hgo
          obtain ⟨v, hv, -⟩ := (@Rust.deserializeFlexible_eq_ok rust reader.float "updated_at" i j).mpr hrust
          exact ⟨v, hv⟩
      · intro v hv
        exact Go.parseUpdatedAt_eq_ok.mpr ((hagree (hplain v hv)).symm.trans (hseconds v hv))

/-- Texts are shown between quotes, and nothing else is shown. -/
def sampleGoFmt : Go.Fmt where
  quote s := "\"" ++ s ++ "\""
  float _ := ""
  raw _ := ""

def sampleRustFmt : Rust.Fmt where
  debug s := "\"" ++ s ++ "\""
  float _ := ""
  number _ := ""
  value _ := ""

/-- A time in a text, with space around it and a fraction. -/
theorem updated_at_agrees_sample :
    Rust.updatedAt sampleRustFmt RustClaims.sampleReader.float (some (.str " 1700000000.5 ")) =
        .ok (some 1700000000) ∧
      Go.parseUpdatedAt sampleGoFmt (some (.str " 1700000000.5 ")) = .ok 1700000000 := by
  have hrust : Rust.updatedAt sampleRustFmt RustClaims.sampleReader.float (some (.str " 1700000000.5 ")) =
      .ok (some 1700000000) := by decide +kernel
  obtain ⟨-, hgo⟩ := updated_at_agrees sampleGoFmt sampleRustFmt RustClaims.sampleReader
    (some (.str " 1700000000.5 ")) (fun n hn => by cases hn) (fun j hj => Option.some.inj hj ▸ rfl)
  exact ⟨hrust, hgo _ hrust⟩

end Agreement

example : Go.seconds (.str " 0x_1.8p1 ") = some 3 ∧ Rust.seconds Number.value (.str " 0x_1.8p1 ") = none := by
  decide +kernel

example : Rust.seconds Number.value (.str "-3600.9") = some (-3600) := by decide +kernel

end IdentityModel.FlexibleSeconds
