import IdentityModel.Url
import Mathlib.Data.List.DropRight
import Mathlib.Tactic

/-!
# Percent-encoding

Escapes of bytes, the bytes of characters, and the number of units in a text: an escape is
one unit, and so is every other character. The number of units is what an escape and the
character it stands for have in common.
-/
namespace IdentityModel.Percent

open Url

def isHex (c : Char) : Bool := (hexDigit c).isSome

/-- The digit of a number below sixteen. -/
def upperHex (n : ℕ) : Char := Char.ofNat (if n < 10 then 48 + n else 55 + n)

theorem hexDigit_upperHex {n : ℕ} (h : n < 16) : hexDigit (upperHex n) = some n := by
  have hall : ∀ k : Fin 16, hexDigit (upperHex k) = some k.val := by decide
  exact hall ⟨n, h⟩

theorem isHex_upperHex {n : ℕ} (h : n < 16) : isHex (upperHex n) = true := by
  rw [isHex, hexDigit_upperHex h, Option.isSome_some]

theorem hexDigit_lt {c : Char} {n : ℕ} (h : hexDigit c = some n) : n < 16 ∧ c.toNat < 128 := by
  have hle (a b : Char) (hab : a ≤ b) : a.toNat ≤ b.toNat := hab
  simp only [hexDigit, isDigit, Bool.and_eq_true, decide_eq_true_eq] at h
  split at h
  · next hc =>
      have := hle _ _ hc.2
      simp only [Option.some.injEq, Char.reduceToNat] at h this
      omega
  · split at h
    · next hc =>
        have := hle _ _ hc.2
        simp only [Option.some.injEq, Char.reduceToNat] at h this
        omega
    · split at h
      · next hc =>
          have := hle _ _ hc.2
          simp only [Option.some.injEq, Char.reduceToNat] at h this
          omega
      · cases h

/-- The bytes of a character in UTF-8. -/
def utf8 (c : Char) : List ℕ := (String.utf8EncodeChar c).map UInt8.toNat

def escapeByte (b : ℕ) : List Char := ['%', upperHex (b / 16), upperHex (b % 16)]

/-- A character, as escapes of its bytes. -/
def escapeChar (c : Char) : List Char := (utf8 c).flatMap escapeByte

theorem utf8_ascii {c : Char} (h : c.toNat < 128) : utf8 c = [c.toNat] := by
  have hval : c.val.toNat = c.toNat := rfl
  have hle : c.val.toNat ≤ 127 := by omega
  simp only [utf8, String.utf8EncodeChar, hle, if_true, List.map_cons, List.map_nil]
  rw [hval, UInt8.toNat_ofNat', Nat.mod_eq_of_lt (by omega)]

theorem utf8_lt {c : Char} {b : ℕ} (hb : b ∈ utf8 c) : b < 256 := by
  obtain ⟨u, _, rfl⟩ := List.mem_map.mp hb
  exact u.toNat_lt

theorem utf8_high {c : Char} (h : 128 ≤ c.toNat) {b : ℕ} (hb : b ∈ utf8 c) : 128 ≤ b := by
  have hval : c.val.toNat = c.toNat := rfl
  have hle : ¬ c.val.toNat ≤ 127 := by omega
  simp only [utf8, String.utf8EncodeChar, hle, if_false] at hb
  split at hb
  · simp only [List.map_cons, List.map_nil, List.mem_cons, List.not_mem_nil, or_false,
      UInt8.toNat_ofNat'] at hb
    omega
  · split at hb
    · simp only [List.map_cons, List.map_nil, List.mem_cons, List.not_mem_nil, or_false,
        UInt8.toNat_ofNat'] at hb
      omega
    · simp only [List.map_cons, List.map_nil, List.mem_cons, List.not_mem_nil, or_false,
        UInt8.toNat_ofNat'] at hb
      omega

theorem utf8_ne_nil (c : Char) : utf8 c ≠ [] := by
  simp [utf8, String.utf8EncodeChar_ne_nil]

/-- The number of units of a text. -/
def units : List Char → ℕ
  | '%' :: a :: b :: rest =>
      if isHex a && isHex b then 1 + units rest else 1 + units (a :: b :: rest)
  | _ :: rest => 1 + units rest
  | [] => 0

attribute [local simp] units

theorem units_cons {c : Char} (h : c ≠ '%') (rest : List Char) :
    units (c :: rest) = 1 + units rest := by
  rw [units]
  intro a b rest' hc
  exact absurd hc h

theorem units_escape {a b : Char} (ha : isHex a = true) (hb : isHex b = true) (rest : List Char) :
    units ('%' :: a :: b :: rest) = 1 + units rest := by
  rw [units, ha, hb]
  rfl

theorem units_escapeByte {b : ℕ} (h : b < 256) (rest : List Char) :
    units (escapeByte b ++ rest) = 1 + units rest :=
  units_escape (isHex_upperHex (by omega)) (isHex_upperHex (by omega)) rest

theorem units_pos {s : List Char} (h : s ≠ []) : 1 ≤ units s := by
  cases s using units.fun_cases with
  | case1 a b rest hhex =>
      simp only [units, hhex, if_true]
      omega
  | case2 a b rest hhex =>
      rw [units, if_neg hhex]
      omega
  | case3 c rest hc =>
      rw [units]
      · omega
      · exact hc
  | case4 => exact absurd rfl h

/-- A percent sign without two digits is a unit. -/
theorem units_percent {s : List Char} (h : ∀ a b rest, s = a :: b :: rest → (isHex a && isHex b) = false) :
    units ('%' :: s) = 1 + units s := by
  cases s with
  | nil => rfl
  | cons a s =>
      cases s with
      | nil => rfl
      | cons b rest => rw [units, h a b rest rfl, if_neg Bool.false_ne_true]

/-- What begins with no digit is counted by itself. -/
theorem units_append {t : List Char} (ht : ∀ c ∈ t.head?, isHex c = false) (s : List Char) :
    units (s ++ t) = units s + units t := by
  induction s using units.induct with
  | case1 a b rest hhex ih =>
      simp only [List.cons_append, units, hhex, if_true, ih]
      omega
  | case2 a b rest hhex ih =>
      simp only [List.cons_append] at ih ⊢
      rw [units, units, if_neg hhex, if_neg hhex, ih]
      omega
  | case3 c rest hc ih =>
      have hcons : units (c :: rest) = 1 + units rest := by rw [units]; exact hc
      by_cases hpercent : c = '%'
      · subst hpercent
        have hdigits : ∀ a b rest', rest ++ t = a :: b :: rest' → (isHex a && isHex b) = false := by
          intro a b rest' heq
          cases rest with
          | nil =>
              rw [List.nil_append] at heq
              simp [ht a (by simp [heq])]
          | cons x rest =>
              cases rest with
              | nil =>
                  obtain ⟨rfl, rfl⟩ := List.cons.inj heq
                  simp [ht b (by simp)]
              | cons y rest => exact (hc x y rest rfl rfl).elim
        rw [List.cons_append, units_percent hdigits, ih, hcons]
        omega
      · rw [List.cons_append, units_cons hpercent, ih, hcons]
        omega
  | case4 => simp [units]

theorem units_flatMap_escapeByte {bs : List ℕ} (h : ∀ b ∈ bs, b < 256) (rest : List Char) :
    units (bs.flatMap escapeByte ++ rest) = bs.length + units rest := by
  induction bs with
  | nil => simp
  | cons b bs ih =>
      have ⟨hb, hbs⟩ := List.forall_mem_cons.mp h
      rw [List.flatMap_cons, List.append_assoc, units_escapeByte hb, ih hbs, List.length_cons]
      omega

end IdentityModel.Percent
