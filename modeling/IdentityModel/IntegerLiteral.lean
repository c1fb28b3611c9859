import IdentityModel.Json
import Mathlib.Tactic

/-!
# Literals of integers

How an integer is written in a document: its decimal digits without leading zeros, behind a minus
sign where it is negative.
-/
namespace IdentityModel

/-- The digits of a number, the first one first. -/
def decimals (n : ℕ) : List Digit := ((Nat.digits 10 n).map (Fin.ofNat 10)).reverse

theorem digitsValue_reverse (ds : List Digit) :
    digitsValue ds.reverse = Nat.ofDigits 10 (ds.map Fin.val) := by
  induction ds with
  | nil => rfl
  | cons d ds ih =>
      rw [List.map_cons, Nat.ofDigits_cons, ← ih]
      simp [digitsValue, List.foldl_append, Nat.add_comm]

theorem digitsValue_decimals (n : ℕ) : digitsValue (decimals n) = n := by
  have hdigits : ((Nat.digits 10 n).map (Fin.ofNat 10)).map Fin.val = Nat.digits 10 n := by
    rw [List.map_map]
    refine (List.map_congr_left fun d hd => ?_).trans (List.map_id _)
    exact Nat.mod_eq_of_lt (Nat.digits_lt_base (by omega) hd)
  rw [decimals, digitsValue_reverse, hdigits, Nat.ofDigits_digits]

theorem head_decimals {n : ℕ} (hn : n ≠ 0) : (decimals n).head? ≠ some 0 := by
  have hlast := Nat.getLast_digit_ne_zero 10 hn
  have hne : Nat.digits 10 n ≠ [] := Nat.digits_ne_nil_iff_ne_zero.mpr hn
  intro hhead
  rw [decimals, List.head?_reverse, List.getLast?_map, List.getLast?_eq_some_getLast hne] at hhead
  have hval := congrArg (Option.map Fin.val) hhead
  have hlt := Nat.digits_lt_base (b := 10) (by omega) (List.getLast_mem hne)
  simp only [Option.map_some, Option.some.injEq, Fin.ofNat, Fin.val_zero,
    Nat.mod_eq_of_lt hlt] at hval
  exact hlast hval

/-- The literal of an integer. -/
def integerLiteral (i : Int64) : Number :=
  if h : i.toInt.natAbs = 0 then ⟨false, [0], [], none, by simp, .inl rfl⟩
  else ⟨decide (i.toInt < 0), decimals i.toInt.natAbs, [], none,
    fun hnil => h (by rw [← digitsValue_decimals i.toInt.natAbs, hnil]; rfl), .inr (head_decimals h)⟩

theorem value_integerLiteral (i : Int64) :
    (integerLiteral i).fraction = [] ∧ (integerLiteral i).exponent = none ∧
      (if (integerLiteral i).negative then -(digitsValue (integerLiteral i).whole : ℤ)
        else digitsValue (integerLiteral i).whole) = i.toInt := by
  unfold integerLiteral
  by_cases hzero : i.toInt.natAbs = 0
  · rw [dif_pos hzero]
    refine ⟨rfl, rfl, ?_⟩
    rw [Int.natAbs_eq_zero.mp hzero]
    rfl
  · rw [dif_neg hzero]
    refine ⟨rfl, rfl, ?_⟩
    simp only [digitsValue_decimals, decide_eq_true_eq]
    split <;> omega

end IdentityModel
