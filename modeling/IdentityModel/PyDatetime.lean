import IdentityModel.Binary64

/-!
# Instants and durations of Python

`datetime` and `timedelta` as counts of microseconds within their bounds. What does
not fit raises `OverflowError`, which is `none` here.
-/
namespace IdentityModel.Py

/-- An aware `datetime`: microseconds since the start of year 1, up to year 9999. -/
abbrev Datetime := {t : ℤ // 0 ≤ t ∧ t < 315537897600000000}

/-- A `timedelta`: less than a thousand million days. -/
abbrev Timedelta := {d : ℤ // -86399999913600000000 ≤ d ∧ d < 86400000000000000000}

namespace Timedelta

def ofMicros (d : ℤ) : Option Timedelta :=
  if h : -86399999913600000000 ≤ d ∧ d < 86400000000000000000 then some ⟨d, h⟩ else none

/-- The microseconds of a number of seconds. The fraction is scaled as a float, and
rounded to the nearest microsecond, ties to even. -/
def micros : Float64 → Option ℤ
  | .finite q =>
      let whole := Float64.truncate q
      match Float64.ofRat ((q - whole) * 1000000) with
      | .finite rest => some (whole * 1000000 + Float64.roundEven rest)
      | _ => none
  | _ => none

/-- `timedelta(seconds=x)`. -/
def ofSeconds (x : Float64) : Option Timedelta := (micros x).bind ofMicros

theorem ofMicros_eq_some {d : ℤ} {δ : Timedelta} : ofMicros d = some δ ↔ δ.val = d := by
  unfold ofMicros
  split_ifs with h
  · simp only [Option.some.injEq]
    constructor
    · rintro rfl
      rfl
    · rintro rfl
      rfl
  · simp only [false_iff]
    rintro rfl
    exact h δ.property

/-- Whole seconds are kept. -/
theorem micros_intCast (n : ℤ) : micros (.finite n) = some (n * 1000000) := by
  have hzero : Float64.ofRat 0 = .finite ((0 : ℤ) : ℚ) := by simp [Float64.ofRat]
  simp only [micros, Float64.truncate_intCast, sub_self, zero_mul, hzero, Float64.roundEven_intCast,
    add_zero]

theorem ofSeconds_intCast {n : ℤ} {δ : Timedelta} :
    ofSeconds (.finite n) = some δ ↔ δ.val = n * 1000000 := by
  simp [ofSeconds, micros_intCast, ofMicros_eq_some]

end Timedelta

namespace Datetime

def ofMicros (t : ℤ) : Option Datetime :=
  if h : 0 ≤ t ∧ t < 315537897600000000 then some ⟨t, h⟩ else none

/-- `t + δ`. -/
def add (t : Datetime) (δ : Timedelta) : Option Datetime := ofMicros (t.val + δ.val)

/-- `t - δ`. -/
def sub (t : Datetime) (δ : Timedelta) : Option Datetime := ofMicros (t.val - δ.val)

theorem ofMicros_eq_some {t : ℤ} {u : Datetime} : ofMicros t = some u ↔ u.val = t := by
  unfold ofMicros
  split_ifs with h
  · simp only [Option.some.injEq]
    constructor
    · rintro rfl
      rfl
    · rintro rfl
      rfl
  · simp only [false_iff]
    rintro rfl
    exact h u.property

/-- The difference of two instants is a duration. -/
theorem exists_timedelta {t u : Datetime} {d : ℤ} (h : u.val = t.val + d) :
    ∃ δ : Timedelta, δ.val = d :=
  ⟨⟨d, by have := t.property; have := u.property; omega⟩, rfl⟩

/-- Seconds are added where the sum is an instant. -/
theorem add_seconds {t u : Datetime} {x : Float64} :
    (Timedelta.ofSeconds x).bind t.add = some u ↔
      ∃ d, Timedelta.micros x = some d ∧ u.val = t.val + d := by
  simp only [Timedelta.ofSeconds, Option.bind_eq_some_iff, Timedelta.ofMicros_eq_some, add,
    ofMicros_eq_some]
  constructor
  · rintro ⟨δ, ⟨d, hd, rfl⟩, hu⟩
    exact ⟨_, hd, hu⟩
  · rintro ⟨d, hd, hu⟩
    obtain ⟨δ, rfl⟩ := exists_timedelta hu
    exact ⟨δ, ⟨_, hd, rfl⟩, hu⟩

/-- Whole seconds are taken away where the difference is an instant. -/
theorem sub_seconds {t u : Datetime} {n : ℤ} :
    (Timedelta.ofSeconds (.finite n)).bind t.sub = some u ↔ u.val = t.val - n * 1000000 := by
  simp only [Option.bind_eq_some_iff, Timedelta.ofSeconds_intCast, sub, ofMicros_eq_some]
  constructor
  · rintro ⟨δ, hδ, hu⟩
    rw [hu, hδ]
  · intro hu
    obtain ⟨δ, hδ⟩ := exists_timedelta (t := u) (u := t) (d := n * 1000000) (by omega)
    exact ⟨δ, hδ, by rw [hu, hδ]⟩

end Datetime

end IdentityModel.Py
