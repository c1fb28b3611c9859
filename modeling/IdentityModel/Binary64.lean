import Mathlib.Data.Int.Log
import Mathlib.Data.Rat.Floor
import Mathlib.Tactic

/-!
# Binary64 numbers

The values of IEEE 754 binary64 with rounding to the nearest, ties to even. The
sign of zero is not kept: no comparison or conversion below tells the two zeros
apart.
-/
namespace IdentityModel

/-- A binary64 value. -/
inductive Float64
  | nan
  | inf (negative : Bool)
  | finite (q : ℚ)
  deriving DecidableEq, Repr

namespace Float64

/-- The nearest integer, ties to even. -/
def roundEven (q : ℚ) : ℤ :=
  let below := ⌊q⌋
  let rest := q - below
  if rest < 1 / 2 ∨ (rest = 1 / 2 ∧ below % 2 = 0) then below else below + 1

/-- The nearest integer, ties away from zero. -/
def roundAway (q : ℚ) : ℤ := if 0 ≤ q then ⌊q + 1 / 2⌋ else ⌈q - 1 / 2⌉

/-- The exponent of the last place of the binade of `q`. -/
def ulpExponent (q : ℚ) : ℤ := max (Int.log 2 |q|) (-1022) - 52

/-- The binary64 value nearest to a rational. -/
def ofRat (q : ℚ) : Float64 :=
  if q = 0 then .finite 0
  else
    let ulp : ℚ := 2 ^ ulpExponent q
    let v := roundEven (q / ulp) * ulp
    if 2 ^ 1024 ≤ |v| then .inf (q < 0) else .finite v

def neg : Float64 → Float64
  | .nan => .nan
  | .inf negative => .inf (!negative)
  | .finite q => .finite (-q)

def add : Float64 → Float64 → Float64
  | .finite a, .finite b => ofRat (a + b)
  | .inf s, .inf t => if s = t then .inf s else .nan
  | .inf s, .finite _ => .inf s
  | .finite _, .inf t => .inf t
  | _, _ => .nan

def sub (x y : Float64) : Float64 := add x (neg y)

/-- Division by a positive constant. -/
def div (x : Float64) (d : ℚ) : Float64 :=
  match x with
  | .finite q => ofRat (q / d)
  | x => x

/-- `x < y`; false when one of them is no number. -/
def lt : Float64 → Float64 → Bool
  | .finite a, .finite b => a < b
  | .inf s, .inf t => s && !t
  | .inf s, .finite _ => s
  | .finite _, .inf t => !t
  | _, _ => false

/-- `x >= y`; false when one of them is no number. -/
def ge : Float64 → Float64 → Bool
  | .nan, _ => false
  | _, .nan => false
  | x, y => !lt x y

/-- The part before the point, rounded toward zero. -/
def truncate (q : ℚ) : ℤ := if 0 ≤ q then ⌊q⌋ else ⌈q⌉

/-- `max(lo, min(x, hi))`, where `min` and `max` keep their first argument unless
the second one is smaller or greater; a value that is no number gives `lo`. -/
def clamp (lo hi : ℚ) : Float64 → ℚ
  | .nan => lo
  | .inf negative => if negative then lo else max lo hi
  | .finite q => max lo (min q hi)

/-- A clamped value lies between its bounds. -/
theorem clamp_mem {lo hi : ℚ} (h : lo ≤ hi) (x : Float64) : lo ≤ clamp lo hi x ∧ clamp lo hi x ≤ hi := by
  cases x with
  | nan => exact ⟨le_rfl, h⟩
  | inf negative =>
      cases negative with
      | true => exact ⟨le_rfl, h⟩
      | false => exact ⟨le_max_left lo hi, max_le h le_rfl⟩
  | finite q => exact ⟨le_max_left _ _, max_le h (min_le_right _ _)⟩

@[simp] theorem roundEven_intCast (n : ℤ) : roundEven n = n := by
  simp [roundEven]

/-- A multiple of the last place of its binade is kept. -/
theorem ofRat_of_multiple {q : ℚ} {n : ℤ} (hq : q ≠ 0) (hmul : q = n * 2 ^ ulpExponent q)
    (hsmall : |q| < 2 ^ 1024) : ofRat q = .finite q := by
  have hulp : (2 : ℚ) ^ ulpExponent q ≠ 0 := by positivity
  have hdiv : q / 2 ^ ulpExponent q = n := by
    rw [div_eq_iff hulp]
    exact hmul
  have hv : (roundEven (q / 2 ^ ulpExponent q) : ℚ) * 2 ^ ulpExponent q = q := by
    rw [hdiv, roundEven_intCast]
    exact hmul.symm
  simp only [ofRat, hq, if_false, hv, if_neg (not_le.mpr hsmall)]

/-- Integers up to 2^53 are binary64 values. -/
theorem ofRat_intCast {k : ℤ} (hk : |k| ≤ 2 ^ 53) : ofRat k = .finite k := by
  by_cases hz : k = 0
  · simp [hz, ofRat]
  · have hq : (k : ℚ) ≠ 0 := by exact_mod_cast hz
    have habs : |(k : ℚ)| ≤ 2 ^ 53 := by exact_mod_cast hk
    have hpos : 0 < |(k : ℚ)| := abs_pos.mpr hq
    have hbig : |(k : ℚ)| < 2 ^ 1024 := habs.trans_lt (pow_lt_pow_right₀ (by norm_num) (by norm_num))
    obtain hlt | heq := lt_or_eq_of_le habs
    · have hlog : Int.log 2 |(k : ℚ)| < 53 :=
        (Int.lt_zpow_iff_log_lt (by norm_num) hpos).mp (by exact_mod_cast hlt)
      have hexp : ulpExponent k ≤ 0 := by
        unfold ulpExponent
        omega
      obtain ⟨m, hm⟩ := Int.eq_ofNat_of_zero_le (neg_nonneg.mpr hexp)
      refine ofRat_of_multiple (n := k * 2 ^ m) hq ?_ hbig
      have hneg : ulpExponent k = -(m : ℤ) := by omega
      rw [hneg, zpow_neg, zpow_natCast]
      push_cast
      field_simp
    · have hlog : Int.log 2 |(k : ℚ)| = 53 := by
        rw [heq]
        exact_mod_cast Int.log_zpow (R := ℚ) (by norm_num : 1 < 2) 53
      have hexp : ulpExponent k = 1 := by
        unfold ulpExponent
        omega
      have hcases : k = 2 ^ 53 ∨ k = -2 ^ 53 := by
        have hint : |k| = 2 ^ 53 := by exact_mod_cast heq
        exact abs_eq (by norm_num) |>.mp hint
      obtain rfl | rfl := hcases
      · refine ofRat_of_multiple (n := 2 ^ 52) hq ?_ hbig
        rw [hexp]
        norm_num
      · refine ofRat_of_multiple (n := -2 ^ 52) hq ?_ hbig
        rw [hexp]
        norm_num

/-- So are their multiples with powers of two, up to a bound no clock comes to. -/
theorem ofRat_mul_two_pow {k : ℤ} {j : ℕ} (hk : |k| < 2 ^ 53) (hj : j ≤ 64) :
    ofRat (k * 2 ^ j) = .finite (k * 2 ^ j) := by
  by_cases hz : k = 0
  · simp [hz, ofRat]
  · have hq : (k : ℚ) ≠ 0 := by exact_mod_cast hz
    have hmul : (k : ℚ) * 2 ^ j ≠ 0 := by positivity
    have habs : |(k : ℚ)| < 2 ^ 53 := by exact_mod_cast hk
    have hsize : |(k : ℚ) * 2 ^ j| < 2 ^ (53 + j) := by
      rw [abs_mul, abs_of_pos (by positivity : (0 : ℚ) < 2 ^ j), pow_add]
      exact mul_lt_mul_of_pos_right habs (by positivity)
    have hbig : |(k : ℚ) * 2 ^ j| < 2 ^ 1024 :=
      hsize.trans (pow_lt_pow_right₀ (by norm_num) (by omega))
    have hlog : Int.log 2 |(k : ℚ) * 2 ^ j| < ((53 + j : ℕ) : ℤ) :=
      (Int.lt_zpow_iff_log_lt (by norm_num) (abs_pos.mpr hmul)).mp (by
        rw [zpow_natCast]
        exact_mod_cast hsize)
    have hexp : ulpExponent (k * 2 ^ j) ≤ j := by
      unfold ulpExponent
      push_cast at hlog
      omega
    obtain ⟨m, hm⟩ := Int.eq_ofNat_of_zero_le (sub_nonneg.mpr hexp)
    refine ofRat_of_multiple (n := k * 2 ^ m) hmul ?_ hbig
    have hsplit : (j : ℤ) = m + ulpExponent (k * 2 ^ j) := by omega
    have hpow : (2 : ℚ) ^ j = 2 ^ m * 2 ^ ulpExponent (k * 2 ^ j) := calc
      (2 : ℚ) ^ j = 2 ^ (j : ℤ) := (zpow_natCast 2 j).symm
      _ = 2 ^ ((m : ℤ) + ulpExponent (k * 2 ^ j)) := congrArg _ hsplit
      _ = 2 ^ m * 2 ^ ulpExponent (k * 2 ^ j) := by rw [zpow_add₀ (by norm_num), zpow_natCast]
    push_cast
    rw [mul_assoc, ← hpow]

theorem floor_le_roundEven (q : ℚ) : ⌊q⌋ ≤ roundEven q := by
  unfold roundEven
  simp only
  split_ifs <;> omega

theorem roundEven_le (q : ℚ) : roundEven q ≤ ⌊q⌋ + 1 := by
  unfold roundEven
  simp only
  split_ifs <;> omega

/-- An integer of up to 54 bits rounds to a value that compares with small integers
as it does. -/
theorem lt_ofRat_intCast {d m : ℤ} (hd : |d| < 2 ^ 54) (hm : |m| ≤ 2 ^ 52) :
    lt (.finite m) (ofRat d) = decide (m < d) := by
  obtain hsmall | hlarge := le_or_gt |d| (2 ^ 53)
  · rw [ofRat_intCast hsmall]
    simp [lt]
  · have hz : (d : ℚ) ≠ 0 := by
      have : d ≠ 0 := by
        rintro rfl
        norm_num at hlarge
      exact_mod_cast this
    have hlogLow : (53 : ℤ) ≤ Int.log 2 |(d : ℚ)| := by
      apply (Int.zpow_le_iff_le_log (by norm_num) (abs_pos.mpr hz)).mp
      exact_mod_cast hlarge.le
    have hlogHigh : Int.log 2 |(d : ℚ)| < 54 := by
      apply (Int.lt_zpow_iff_log_lt (by norm_num) (abs_pos.mpr hz)).mp
      exact_mod_cast hd
    have hexp : ulpExponent d = 1 := by
      unfold ulpExponent
      omega
    have hfloor : ⌊(d : ℚ) / 2⌋ = d / 2 := by
      have := Rat.floor_intCast_div_natCast d 2
      exact_mod_cast this
    have hlow := floor_le_roundEven ((d : ℚ) / 2)
    have hhigh := roundEven_le ((d : ℚ) / 2)
    rw [hfloor] at hlow hhigh
    obtain ⟨r, hr⟩ : ∃ r, roundEven ((d : ℚ) / 2) = r := ⟨_, rfl⟩
    rw [hr] at hlow hhigh
    have hsize : |r * 2| ≤ 2 ^ 54 := by
      rw [abs_le]
      obtain ⟨h1, h2⟩ := abs_lt.mp hd
      omega
    have hfinite : ofRat d = .finite (r * 2 : ℤ) := by
      have hbound : ¬ (2 : ℚ) ^ 1024 ≤ |((r * 2 : ℤ) : ℚ)| := by
        rw [not_le]
        have hcast : |((r * 2 : ℤ) : ℚ)| ≤ 2 ^ 54 := by exact_mod_cast hsize
        exact hcast.trans_lt (pow_lt_pow_right₀ (by norm_num) (by norm_num))
      have hcast : ((r * 2 : ℤ) : ℚ) = (r : ℚ) * 2 := by push_cast; ring
      simp only [ofRat, hz, if_false, hexp, zpow_one, hr]
      rw [← hcast, if_neg hbound]
    rw [hfinite]
    simp only [lt, Int.cast_lt]
    have hcompare : m < r * 2 ↔ m < d := by
      obtain ⟨hm1, hm2⟩ := abs_le.mp hm
      obtain hpos | hneg := lt_abs.mp hlarge
      · omega
      · omega
    simp [hcompare]

@[simp] theorem truncate_intCast (k : ℤ) : truncate k = k := by
  simp [truncate]

def mul : Float64 → Float64 → Float64
  | .finite a, .finite b => ofRat (a * b)
  | .inf s, .inf t => .inf (s != t)
  | .inf s, .finite q => if q = 0 then .nan else .inf (s != decide (q < 0))
  | .finite q, .inf s => if q = 0 then .nan else .inf (s != decide (q < 0))
  | _, _ => .nan

/-- `max` of Python: the first argument unless the second one is greater. -/
def pyMax (x y : Float64) : Float64 := if lt x y then y else x

/-- `min` of Python: the first argument unless the second one is smaller. -/
def pyMin (x y : Float64) : Float64 := if lt y x then y else x

/-- A rational that is a binary64 value. -/
def IsValue (q : ℚ) : Prop := ofRat q = .finite q

theorem IsValue.multiple {q : ℚ} (h : IsValue q) (hq : q ≠ 0) : ∃ n : ℤ, q = n * 2 ^ ulpExponent q := by
  unfold IsValue ofRat at h
  rw [if_neg hq] at h
  dsimp only at h
  split at h
  · cases h
  · exact ⟨_, (Float64.finite.inj h).symm⟩

theorem ulpExponent_mul_two_pow {q : ℚ} (hq : q ≠ 0) (k : ℕ) :
    ulpExponent (q * 2 ^ k) ≤ ulpExponent q + k := by
  have habs : |q * 2 ^ k| = |q| * 2 ^ (k : ℤ) := by
    rw [abs_mul, zpow_natCast, abs_of_pos (by positivity : (0 : ℚ) < 2 ^ k)]
  have hlog : Int.log 2 |q * 2 ^ k| ≤ Int.log 2 |q| + k := by
    rw [habs]
    have hpos : 0 < |q| := abs_pos.mpr hq
    have hlt : |q| < (2 : ℚ) ^ (Int.log 2 |q| + 1) := by
      exact_mod_cast Int.lt_zpow_succ_log_self (by norm_num : 1 < 2) |q|
    have hproduct : |q| * 2 ^ (k : ℤ) < ((2 : ℕ) : ℚ) ^ (Int.log 2 |q| + 1 + k) := by
      push_cast
      rw [zpow_add₀ (by norm_num)]
      exact mul_lt_mul_of_pos_right hlt (by positivity)
    have := (Int.lt_zpow_iff_log_lt (by norm_num) (by positivity)).mp hproduct
    omega
  unfold ulpExponent
  omega

/-- Doubling a value loses nothing below the overflow threshold. -/
theorem IsValue.mul_two_pow {q : ℚ} (h : IsValue q) {k : ℕ} (hsmall : |q * 2 ^ k| < 2 ^ 1024) :
    ofRat (q * 2 ^ k) = .finite (q * 2 ^ k) := by
  by_cases hq : q = 0
  · simp [hq, ofRat]
  · obtain ⟨n, hn⟩ := h.multiple hq
    have hexp := ulpExponent_mul_two_pow hq k
    obtain ⟨m, hm⟩ := Int.eq_ofNat_of_zero_le (sub_nonneg.mpr hexp)
    have hmul : q * 2 ^ k ≠ 0 := mul_ne_zero hq (by positivity)
    refine ofRat_of_multiple (n := n * 2 ^ m) hmul ?_ hsmall
    have hsplit : ulpExponent q + k = m + ulpExponent (q * 2 ^ k) := by omega
    have hpow : (2 : ℚ) ^ ulpExponent q * 2 ^ k = 2 ^ m * 2 ^ ulpExponent (q * 2 ^ k) := calc
      (2 : ℚ) ^ ulpExponent q * 2 ^ k = 2 ^ (ulpExponent q + (k : ℤ)) := by
        rw [zpow_add₀ (by norm_num), zpow_natCast]
      _ = 2 ^ ((m : ℤ) + ulpExponent (q * 2 ^ k)) := congrArg _ hsplit
      _ = 2 ^ m * 2 ^ ulpExponent (q * 2 ^ k) := by rw [zpow_add₀ (by norm_num), zpow_natCast]
    calc q * 2 ^ k = n * (2 ^ ulpExponent q * 2 ^ k) := by
          nth_rewrite 1 [hn]
          ring
      _ = ((n * 2 ^ m : ℤ) : ℚ) * 2 ^ ulpExponent (q * 2 ^ k) := by
          rw [hpow]
          push_cast
          ring

/-- The value a rational is rounded to, without a bound on the exponent. -/
def round (q : ℚ) : ℚ := roundEven (q / 2 ^ ulpExponent q) * 2 ^ ulpExponent q

theorem ofRat_eq (q : ℚ) :
    ofRat q = if 2 ^ 1024 ≤ |round q| then .inf (q < 0) else .finite (round q) := by
  by_cases hq : q = 0
  · subst hq
    norm_num [ofRat, round, roundEven]
  · rw [ofRat, if_neg hq, round]

/-- A positive number is not rounded below the power of two under it. -/
theorem two_pow_log_le_round {q : ℚ} (hpos : 0 < q) (hlog : -1022 ≤ Int.log 2 q) :
    (2 : ℚ) ^ Int.log 2 q ≤ round q := by
  have hexp : ulpExponent q = Int.log 2 q - 52 := by
    unfold ulpExponent
    rw [abs_of_pos hpos]
    omega
  have hulp : (0 : ℚ) < 2 ^ ulpExponent q := by positivity
  have hsplit : (2 : ℚ) ^ 52 * 2 ^ ulpExponent q = 2 ^ Int.log 2 q := by
    rw [hexp, ← zpow_natCast, ← zpow_add₀ (by norm_num)]
    congr 1
    push_cast
    ring
  have hround : (2 ^ 52 : ℤ) ≤ roundEven (q / 2 ^ ulpExponent q) := by
    refine le_trans (Int.le_floor.mpr ?_) (floor_le_roundEven _)
    have hcast : ((2 ^ 52 : ℤ) : ℚ) = 2 ^ 52 := by norm_num
    rw [le_div_iff₀ hulp, hcast, hsplit]
    exact_mod_cast Int.zpow_log_le_self (by norm_num : 1 < 2) hpos
  have hround' : ((2 : ℚ) ^ 52) ≤ roundEven (q / 2 ^ ulpExponent q) := by exact_mod_cast hround
  rw [← hsplit]
  exact mul_le_mul_of_nonneg_right hround' hulp.le

theorem log_of_two_pow_le {q : ℚ} {j : ℕ} (h : 2 ^ j ≤ q) : (j : ℤ) ≤ Int.log 2 q := by
  have hpos : 0 < q := lt_of_lt_of_le (by positivity) h
  apply (Int.zpow_le_iff_le_log (by norm_num) hpos).mp
  exact_mod_cast h

/-- What is at least a power of two is so after rounding. -/
theorem two_pow_le_of_ofRat {q x : ℚ} {j : ℕ} (hlow : 2 ^ j ≤ q) (h : ofRat q = .finite x) : 2 ^ j ≤ x := by
  have hpos : 0 < q := lt_of_lt_of_le (by positivity) hlow
  have hlog := log_of_two_pow_le hlow
  have hj : (2 : ℚ) ^ j ≤ 2 ^ Int.log 2 q := by
    rw [← zpow_natCast]
    exact zpow_le_zpow_right₀ (by norm_num) hlog
  simp only [ofRat, hpos.ne', if_false] at h
  split at h
  · cases h
  · obtain rfl := Float64.finite.inj h
    exact hj.trans (two_pow_log_le_round hpos (by omega))

theorem two_pow_ulpExponent_le {q : ℚ} (hq : 0 ≤ q) : (2 : ℚ) ^ ulpExponent q ≤ q + 1 := by
  obtain hlog | hlog := lt_or_ge (Int.log 2 q) 0
  · have hexp : ulpExponent q ≤ 0 := by
      unfold ulpExponent
      rw [abs_of_nonneg hq]
      omega
    calc (2 : ℚ) ^ ulpExponent q ≤ 2 ^ (0 : ℤ) := zpow_le_zpow_right₀ (by norm_num) hexp
      _ ≤ q + 1 := by rw [zpow_zero]; exact le_add_of_nonneg_left hq
  · have hexp : ulpExponent q ≤ Int.log 2 q := by
      unfold ulpExponent
      rw [abs_of_nonneg hq]
      omega
    obtain rfl | hpos := hq.eq_or_lt
    · norm_num [ulpExponent]
    calc (2 : ℚ) ^ ulpExponent q ≤ 2 ^ Int.log 2 q := zpow_le_zpow_right₀ (by norm_num) hexp
      _ ≤ q := by exact_mod_cast Int.zpow_log_le_self (by norm_num : 1 < 2) hpos
      _ ≤ q + 1 := le_add_of_nonneg_right zero_le_one

theorem round_nonneg {q : ℚ} (hq : 0 ≤ q) : 0 ≤ round q := by
  have hulp : (0 : ℚ) < 2 ^ ulpExponent q := by positivity
  have hround : 0 ≤ roundEven (q / 2 ^ ulpExponent q) :=
    (Int.floor_nonneg.mpr (div_nonneg hq hulp.le)).trans (floor_le_roundEven _)
  exact mul_nonneg (by exact_mod_cast hround) hulp.le

/-- Rounding adds at most the last place. -/
theorem round_le {q : ℚ} (hq : 0 ≤ q) : round q ≤ 2 * q + 1 := by
  have hulp : (0 : ℚ) < 2 ^ ulpExponent q := by positivity
  have hround : (roundEven (q / 2 ^ ulpExponent q) : ℚ) ≤ q / 2 ^ ulpExponent q + 1 := by
    have hint : (roundEven (q / 2 ^ ulpExponent q) : ℚ) ≤ (⌊q / 2 ^ ulpExponent q⌋ + 1 : ℤ) := by
      exact_mod_cast roundEven_le _
    push_cast at hint
    exact hint.trans (add_le_add_left (Int.floor_le _) 1)
  calc round q
      ≤ (q / 2 ^ ulpExponent q + 1) * 2 ^ ulpExponent q := mul_le_mul_of_nonneg_right hround hulp.le
    _ = q + 2 ^ ulpExponent q := by field_simp
    _ ≤ q + (q + 1) := add_le_add_right (two_pow_ulpExponent_le hq) q
    _ = 2 * q + 1 := by ring

/-- A number that is not negative stays so, and it becomes infinite only near the overflow threshold. -/
theorem ofRat_of_nonneg {q : ℚ} (hq : 0 ≤ q) (hsmall : 2 * q + 1 < 2 ^ 1024) :
    ∃ x, ofRat q = .finite x ∧ 0 ≤ x ∧ x ≤ 2 * q + 1 := by
  have hfinite : ¬ (2 : ℚ) ^ 1024 ≤ |round q| := by
    rw [abs_of_nonneg (round_nonneg hq), not_le]
    exact (round_le hq).trans_lt hsmall
  exact ⟨round q, by rw [ofRat_eq, if_neg hfinite], round_nonneg hq, round_le hq⟩

/-- Above the overflow threshold there is only infinity. -/
theorem ofRat_of_large {q : ℚ} (h : 2 ^ 1024 ≤ q) : ofRat q = .inf false := by
  have hpos : 0 < q := lt_of_lt_of_le (by positivity) h
  have hlog := log_of_two_pow_le h
  have hv : (2 : ℚ) ^ 1024 ≤ roundEven (q / 2 ^ ulpExponent q) * 2 ^ ulpExponent q := by
    refine le_trans ?_ (two_pow_log_le_round hpos (by omega))
    rw [← zpow_natCast]
    exact zpow_le_zpow_right₀ (by norm_num) hlog
  have habs : (2 : ℚ) ^ 1024 ≤ |(roundEven (q / 2 ^ ulpExponent q) : ℚ) * 2 ^ ulpExponent q| :=
    hv.trans (le_abs_self _)
  simp only [ofRat, hpos.ne', if_false, if_pos habs, hpos.not_gt, decide_false]

theorem roundEven_mono {x y : ℚ} (h : x ≤ y) : roundEven x ≤ roundEven y := by
  obtain hlt | heq := lt_or_eq_of_le (Int.floor_mono h)
  · have hx := roundEven_le x
    have hy := floor_le_roundEven y
    omega
  · have hrest : x - ⌊x⌋ ≤ y - ⌊y⌋ := by
      rw [heq]
      exact sub_le_sub_right h _
    simp only [roundEven, heq] at hrest ⊢
    split_ifs with hx hy hy
    · exact le_rfl
    · omega
    · exfalso
      apply hx
      obtain hy | ⟨hy, heven⟩ := hy
      · exact .inl (lt_of_le_of_lt hrest hy)
      · obtain hlt | heq' := lt_or_eq_of_le (hy ▸ hrest)
        · exact .inl hlt
        · exact .inr ⟨heq', heven⟩
    · exact le_rfl

theorem roundEven_neg (q : ℚ) : roundEven (-q) = -roundEven q := by
  by_cases hint : (⌊q⌋ : ℚ) = q
  · rw [← hint, ← Int.cast_neg, roundEven_intCast, roundEven_intCast]
  · have hfloor : ⌊-q⌋ = -⌊q⌋ - 1 := by
      rw [Int.floor_eq_iff]
      have hlt : (⌊q⌋ : ℚ) < q := lt_of_le_of_ne (Int.floor_le q) hint
      have hup := Int.lt_floor_add_one q
      push_cast
      constructor <;> linarith
    simp only [roundEven, hfloor]
    push_cast
    have hrest : -q - (-(⌊q⌋ : ℚ) - 1) = 1 - (q - ⌊q⌋) := by ring
    rw [hrest]
    have hleft : 1 - (q - ⌊q⌋) < 1 / 2 ↔ 1 / 2 < q - ⌊q⌋ := by constructor <;> intro <;> linarith
    have hmid : 1 - (q - ⌊q⌋) = 1 / 2 ↔ q - ⌊q⌋ = 1 / 2 := by constructor <;> intro <;> linarith
    simp only [hleft, hmid]
    obtain hlt | heq | hgt := lt_trichotomy (q - ⌊q⌋) (1 / 2)
    · have hother : ¬ (1 / 2 < q - ⌊q⌋ ∨ q - ⌊q⌋ = 1 / 2 ∧ (-⌊q⌋ - 1) % 2 = 0) := by
        rintro (h | ⟨h, -⟩)
        · exact hlt.not_gt h
        · exact hlt.ne h
      rw [if_neg hother, if_pos (.inl hlt)]
      ring
    · by_cases heven : ⌊q⌋ % 2 = 0
      · have hother : ¬ (1 / 2 < q - ⌊q⌋ ∨ q - ⌊q⌋ = 1 / 2 ∧ (-⌊q⌋ - 1) % 2 = 0) := by
          rintro (h | ⟨-, h⟩)
          · exact h.ne' heq
          · omega
        rw [if_neg hother, if_pos (.inr ⟨heq, heven⟩)]
        ring
      · have hother : ¬ (q - ⌊q⌋ < 1 / 2 ∨ q - ⌊q⌋ = 1 / 2 ∧ ⌊q⌋ % 2 = 0) := by
          rintro (h | ⟨-, h⟩)
          · exact h.ne heq
          · exact heven h
        rw [if_pos (.inr ⟨heq, by omega⟩), if_neg hother]
        ring
    · have hother : ¬ (q - ⌊q⌋ < 1 / 2 ∨ q - ⌊q⌋ = 1 / 2 ∧ ⌊q⌋ % 2 = 0) := by
        rintro (h | ⟨h, -⟩)
        · exact hgt.not_gt h
        · exact hgt.ne' h
      rw [if_pos (.inl hgt), if_neg hother]
      ring

theorem round_neg (q : ℚ) : round (-q) = -round q := by
  have hexp : ulpExponent (-q) = ulpExponent q := by rw [ulpExponent, ulpExponent, abs_neg]
  rw [round, round, hexp, neg_div, roundEven_neg]
  push_cast
  ring

theorem round_zero : round 0 = 0 := by norm_num [round, roundEven]

/-- Within one binade the last place is the same; below a power of two nothing is rounded above it. -/
theorem round_mono_pos {a b : ℚ} (ha : 0 < a) (h : a ≤ b) : round a ≤ round b := by
  have hb : 0 < b := ha.trans_le h
  have hlog : Int.log 2 a ≤ Int.log 2 b := Int.log_mono_right ha h
  have hulpA : (0 : ℚ) < 2 ^ ulpExponent a := by positivity
  have hexpA : ulpExponent a = max (Int.log 2 a) (-1022) - 52 := by
    rw [ulpExponent, abs_of_pos ha]
  have hexpB : ulpExponent b = max (Int.log 2 b) (-1022) - 52 := by
    rw [ulpExponent, abs_of_pos hb]
  by_cases hexp : ulpExponent a = ulpExponent b
  · have hround : roundEven (a / 2 ^ ulpExponent a) ≤ roundEven (b / 2 ^ ulpExponent b) := by
      rw [← hexp]
      exact roundEven_mono (div_le_div_of_nonneg_right h hulpA.le)
    rw [round, round, ← hexp]
    rw [← hexp] at hround
    exact mul_le_mul_of_nonneg_right (by exact_mod_cast hround) hulpA.le
  · have hless : Int.log 2 a < Int.log 2 b := by omega
    have hbelow : a < 2 ^ Int.log 2 b := by
      exact_mod_cast (Int.lt_zpow_iff_log_lt (by norm_num : 1 < 2) ha).mpr hless
    obtain ⟨m, hm⟩ := Int.eq_ofNat_of_zero_le (show 0 ≤ Int.log 2 b - ulpExponent a by omega)
    have hpow : (2 : ℚ) ^ Int.log 2 b = ((2 ^ m : ℤ) : ℚ) * 2 ^ ulpExponent a := by
      have hsplit : Int.log 2 b = m + ulpExponent a := by omega
      push_cast
      rw [hsplit, zpow_add₀ (by norm_num), zpow_natCast]
    have hround : roundEven (a / 2 ^ ulpExponent a) ≤ 2 ^ m := by
      rw [← roundEven_intCast (2 ^ m)]
      apply roundEven_mono
      rw [div_le_iff₀ hulpA, ← hpow]
      exact hbelow.le
    calc round a ≤ ((2 ^ m : ℤ) : ℚ) * 2 ^ ulpExponent a :=
          mul_le_mul_of_nonneg_right (by exact_mod_cast hround) hulpA.le
      _ = 2 ^ Int.log 2 b := hpow.symm
      _ ≤ round b := two_pow_log_le_round hb (by omega)

theorem round_mono {a b : ℚ} (h : a ≤ b) : round a ≤ round b := by
  obtain ha | rfl | ha := lt_trichotomy 0 a
  · exact round_mono_pos ha h
  · rw [round_zero]
    exact round_nonneg h
  · obtain hb | hb := le_or_gt 0 b
    · have hneg : 0 ≤ round (-a) := round_nonneg (neg_nonneg.mpr ha.le)
      rw [round_neg] at hneg
      exact (neg_nonneg.mp hneg).trans (round_nonneg hb)
    · have hneg := round_mono_pos (neg_pos.mpr hb) (neg_le_neg h)
      rw [round_neg, round_neg] at hneg
      exact neg_le_neg_iff.mp hneg

theorem round_nonpos {q : ℚ} (hq : q ≤ 0) : round q ≤ 0 := by
  rw [← round_zero]
  exact round_mono hq

/-- A rounded number reaches a bound if it rounds to one, unless it is too large for a value. -/
theorem ge_ofRat_iff {q c : ℚ} :
    ge (ofRat q) (.finite c) = true ↔ 2 ^ 1024 ≤ round q ∨ (-2 ^ 1024 < round q ∧ c ≤ round q) := by
  have hhuge : (0 : ℚ) < 2 ^ 1024 := by positivity
  rw [ofRat_eq]
  split_ifs with hover
  · obtain hpos | hneg := le_or_gt 0 q
    · have hnonneg : 0 ≤ round q := round_nonneg hpos
      rw [abs_of_nonneg hnonneg] at hover
      simp [ge, lt, hpos.not_gt, hover]
    · have hle := round_nonpos hneg.le
      rw [abs_of_nonpos hle] at hover
      have hnot : ¬ 2 ^ 1024 ≤ round q := not_le.mpr (hle.trans_lt hhuge)
      have hnot' : ¬ -2 ^ 1024 < round q := not_lt.mpr (le_neg.mp hover)
      simp [ge, lt, hneg, hnot, hnot']
  · obtain ⟨hlow, hhigh⟩ := abs_lt.mp (not_le.mp hover)
    simp [ge, lt, hlow, hhigh.not_ge]

/-- Rounding keeps the order. -/
theorem ge_ofRat_mono {a b c : ℚ} (h : a ≤ b) (ha : ge (ofRat a) (.finite c) = true) :
    ge (ofRat b) (.finite c) = true := by
  have hround := round_mono h
  rw [ge_ofRat_iff] at ha ⊢
  obtain ha | ⟨hlow, hc⟩ := ha
  · exact .inl (ha.trans hround)
  · exact .inr ⟨hlow.trans_le hround, hc.trans hround⟩

end Float64

end IdentityModel
