import IdentityModel.Binary64
import IdentityModel.PyDiscovery
import IdentityModel.UrlParts
import Mathlib.Data.List.DropRight

/-!
# Numbers as Python reads them

`int` and `float` of a string in Python 3.13. The decimal digits of Unicode besides those of
ASCII belong to the platform, as does the limit on the digits of an integer.
-/
namespace IdentityModel.Py

open Url (isDigit splitAll)

/-- The value of a decimal digit that is not of ASCII, and `sys.get_int_max_str_digits`, where
zero means no limit. -/
structure NumberPlatform where
  decimal : Char → Option ℕ
  intMaxStrDigits : ℕ

/-- Decimal digits in their ASCII form. -/
def asciiDigits (p : NumberPlatform) (s : List Char) : List Char :=
  s.map fun c => if Url.isAscii c then c else ((p.decimal c).map fun d => Char.ofNat (48 + d)).getD c

/-- An explicit sign: whether it is a minus, and the rest. -/
def splitSign : List Char → Bool × List Char
  | '-' :: s => (true, s)
  | '+' :: s => (false, s)
  | s => (false, s)

/-- Underscores stand between digits only. -/
def removeUnderscores (s : List Char) : Option (List Char) :=
  let parts := splitAll '_' s
  let inner := parts.dropLast.all fun part => part.getLast?.any isDigit
  let next := parts.tail.all fun part => part.head?.any isDigit
  if inner && next then some parts.flatten else none

def decimalValue (digits : List Char) : ℕ := digits.foldl (fun n c => 10 * n + (c.toNat - 48)) 0

/-- `int`; what it raises is a `ValueError`. -/
def int? (p : NumberPlatform) (text : List Char) : Option ℤ :=
  let s := splitSign (asciiDigits p (pyStrip text))
  match removeUnderscores s.2 with
  | none => none
  | some digits =>
      if digits = [] ∨ !digits.all isDigit then none
      else if p.intMaxStrDigits ≠ 0 ∧ p.intMaxStrDigits < digits.length then none
      else some (if s.1 then -(decimalValue digits : ℤ) else decimalValue digits)

/-- The exponent of a float, if what follows its digits is one. -/
def exponent? : List Char → Option ℤ
  | [] => some 0
  | e :: s =>
      let r := splitSign s
      if (e = 'e' ∨ e = 'E') ∧ r.2 ≠ [] ∧ r.2.all isDigit then
        some (if r.1 then -(decimalValue r.2 : ℤ) else decimalValue r.2)
      else none

/-- A float without a sign. -/
def unsignedFloat? (s : List Char) : Option Float64 :=
  let name := s.map Url.asciiLower
  if name = "inf".toList ∨ name = "infinity".toList then some (.inf false)
  else if name = "nan".toList then some .nan
  else
    let whole := s.span isDigit
    let fraction := match whole.2 with
      | '.' :: rest => rest.span isDigit
      | rest => ([], rest)
    let digits := whole.1 ++ fraction.1
    if digits = [] then none
    else
      (exponent? fraction.2).map fun e =>
        .ofRat (decimalValue digits * 10 ^ (e - (fraction.1.length : ℤ)))

/-- `float`; what it raises is a `ValueError`. -/
def float? (p : NumberPlatform) (text : List Char) : Option Float64 :=
  match removeUnderscores (asciiDigits p (pyStrip text)) with
  | none => none
  | some s =>
      let r := splitSign s
      (unsignedFloat? r.2).map fun x => if r.1 then x.neg else x

section Digits

variable {p : NumberPlatform}

theorem pyStrip_pyStrip (s : List Char) : pyStrip (pyStrip s) = pyStrip s := by
  have hstrip (s : List Char) : pyStrip s = (s.dropWhile isPySpace).rdropWhile isPySpace := rfl
  have hfront : (pyStrip s).dropWhile isPySpace = pyStrip s := by
    rw [List.dropWhile_eq_self_iff]
    intro hlength
    have hinitial : pyStrip s <+: s.dropWhile isPySpace := by
      rw [hstrip]
      exact List.rdropWhile_prefix _ _
    rw [hinitial.getElem hlength]
    exact List.dropWhile_get_zero_not _ _ (hlength.trans_le hinitial.length_le)
  rw [hstrip (pyStrip s), hfront, hstrip, List.rdropWhile_idempotent]

theorem isAscii_of_isDigit {c : Char} (h : isDigit c = true) : Url.isAscii c = true := by
  simp only [isDigit, Bool.and_eq_true, decide_eq_true_eq] at h
  simp only [Url.isAscii, decide_eq_true_eq]
  have hupper : c.toNat ≤ '9'.toNat := h.2
  have hnine : '9'.toNat = 57 := rfl
  omega

theorem asciiDigits_of_ascii {s : List Char} (h : ∀ c ∈ s, Url.isAscii c = true) :
    asciiDigits p s = s := by
  induction s with
  | nil => rfl
  | cons c s ih =>
      rw [asciiDigits, List.map_cons, h c List.mem_cons_self, if_pos rfl]
      exact congrArg (c :: ·) (ih fun x hx => h x (List.mem_cons_of_mem c hx))

theorem removeUnderscores_of_not_mem {s : List Char} (h : '_' ∉ s) : removeUnderscores s = some s := by
  rw [removeUnderscores, Url.splitAll_of_not_mem h]
  simp

theorem removeUnderscores_digits {s : List Char} (h : ∀ c ∈ s, isDigit c = true) :
    removeUnderscores s = some s :=
  removeUnderscores_of_not_mem fun hmem => absurd (h _ hmem) (by decide)

/-- Without letters and signs: of ASCII there are only digits. -/
def Wordless (s : List Char) : Prop := ∀ c ∈ s, Url.isAscii c = true → isDigit c = true

theorem Wordless.not_mem {s : List Char} (h : Wordless s) {c : Char} (hascii : Url.isAscii c = true)
    (hdigit : isDigit c = false) : c ∉ s := by
  intro hc
  rw [h c hc hascii] at hdigit
  cases hdigit

theorem Wordless.map_asciiLower {s : List Char} (h : Wordless s) : s.map Url.asciiLower = s := by
  refine (List.map_congr_left fun c hc => ?_).trans (List.map_id s)
  refine if_neg fun hletter => ?_
  have hupper : 'A'.toNat ≤ c.toNat := hletter.1
  have hlower : c.toNat ≤ 'Z'.toNat := hletter.2
  have hascii : Url.isAscii c = true := decide_eq_true (lt_of_le_of_lt hlower (by decide))
  have hdigit := h c hc hascii
  simp only [isDigit, Bool.and_eq_true, decide_eq_true_eq] at hdigit
  have hnine : c.toNat ≤ '9'.toNat := hdigit.2
  exact absurd (hupper.trans hnine) (by decide)

/-- Digits alone are an integer, and nothing else without letters is a float. -/
theorem unsignedFloat?_wordless {s : List Char} (hs : s ≠ []) (h : Wordless s) :
    unsignedFloat? s = if s.all isDigit then some (.ofRat (decimalValue s)) else none := by
  have hword {name : String} (hi : 'n' ∈ name.toList) : s ≠ name.toList := by
    rintro rfl
    exact h.not_mem (by decide) (by decide) hi
  unfold unsignedFloat?
  rw [h.map_asciiLower, List.span_eq_takeWhile_dropWhile]
  dsimp only
  rw [if_neg (not_or_intro (hword (by decide)) (hword (by decide))), if_neg (hword (by decide))]
  by_cases hall : ∀ c ∈ s, isDigit c = true
  · rw [List.takeWhile_eq_self_iff.mpr hall, List.dropWhile_eq_nil_iff.mpr hall,
      if_pos (List.all_eq_true.mpr hall)]
    simp [hs, exponent?]
  · rw [if_neg fun h => hall (List.all_eq_true.mp h)]
    cases hrest : s.dropWhile isDigit with
    | nil => exact absurd (List.dropWhile_eq_nil_iff.mp hrest) hall
    | cons c rest =>
        have hstop : isDigit c = false := by
          have := List.head_dropWhile_not isDigit (l := s) (by rw [hrest]; exact List.cons_ne_nil c rest)
          simpa [hrest] using this
        have hmem : c ∈ s := (List.dropWhile_suffix isDigit).subset (by rw [hrest]; exact List.mem_cons_self)
        have hnone (x : Char) (hascii : Url.isAscii x = true) (hdigit : isDigit x = false) : c ≠ x := by
          rintro rfl
          exact h.not_mem hascii hdigit hmem
        have hpoint := hnone '.' (by decide) (by decide)
        have he := hnone 'e' (by decide) (by decide)
        have hE := hnone 'E' (by decide) (by decide)
        have hexponent : exponent? (c :: rest) = none := by
          rw [exponent?]
          exact if_neg fun hexp => hexp.1.elim he hE
        split
        · rfl
        · split
          · rename_i hcons
            exact absurd (List.cons.inj hcons).1 hpoint
          · rw [hexponent]
            rfl
/-- The digits of Unicode are digits of ASCII. -/
theorem float?_wordless {text : List Char} (hstrip : pyStrip text = text) (hne : text ≠ [])
    (h : Wordless (asciiDigits p text)) :
    float? p text =
      if (asciiDigits p text).all isDigit then some (.ofRat (decimalValue (asciiDigits p text)))
      else none := by
  have hascii : asciiDigits p text ≠ [] := fun hnil => hne (List.map_eq_nil_iff.mp hnil)
  have hsign : splitSign (asciiDigits p text) = (false, asciiDigits p text) := by
    unfold splitSign
    split
    · rename_i s hs
      exact absurd (hs ▸ List.mem_cons_self) (h.not_mem (c := '-') (by decide) (by decide))
    · rename_i s hs
      exact absurd (hs ▸ List.mem_cons_self) (h.not_mem (c := '+') (by decide) (by decide))
    · rfl
  rw [float?, hstrip, removeUnderscores_of_not_mem (h.not_mem (by decide) (by decide))]
  dsimp only
  rw [hsign]
  dsimp only
  rw [unsignedFloat?_wordless hascii h]
  exact Option.map_id'

end Digits

/-- A platform that knows the digits of ASCII only. -/
def asciiNumbers : NumberPlatform where
  decimal _ := none
  intMaxStrDigits := 4300

example : int? asciiNumbers " -1_000 ".toList = some (-1000) := by decide +kernel

example : float? asciiNumbers "1_0.25e1".toList = some (.finite (205 / 2)) := by decide +kernel

end IdentityModel.Py
