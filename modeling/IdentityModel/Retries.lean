import Mathlib.Tactic

/-!
# Retried attempts

Attempts are numbered from zero and each one has an outcome. Another attempt follows an outcome that
asks for one, as long as attempts are left.
-/
namespace IdentityModel.Retries

variable {ω : Type*} (again : ω → Bool) (outcomes : ℕ → ω)

/-- The attempt that is not repeated, with so many left behind the given one. -/
def lastAttempt : ℕ → ℕ → ℕ
  | 0, attempt => attempt
  | left + 1, attempt =>
      if again (outcomes attempt) then lastAttempt left (attempt + 1) else attempt

attribute [local simp] lastAttempt

variable {again outcomes} {left attempt i : ℕ}

theorem lastAttempt_again (h : again (outcomes attempt) = true) :
    lastAttempt again outcomes (left + 1) attempt = lastAttempt again outcomes left (attempt + 1) := by
  rw [lastAttempt, if_pos h]

theorem lastAttempt_stop (h : again (outcomes attempt) = false) :
    lastAttempt again outcomes left attempt = attempt := by
  cases left with
  | zero => rfl
  | succ left => rw [lastAttempt, h, if_neg Bool.false_ne_true]

theorem le_lastAttempt (again : ω → Bool) (outcomes : ℕ → ω) (left attempt : ℕ) :
    attempt ≤ lastAttempt again outcomes left attempt := by
  induction left generalizing attempt with
  | zero => exact le_rfl
  | succ left ih =>
      rw [lastAttempt]
      split
      · have := ih (attempt + 1)
        omega
      · exact le_rfl

theorem lastAttempt_le (again : ω → Bool) (outcomes : ℕ → ω) (left attempt : ℕ) :
    lastAttempt again outcomes left attempt ≤ attempt + left := by
  induction left generalizing attempt with
  | zero => exact le_rfl
  | succ left ih =>
      rw [lastAttempt]
      split
      · have := ih (attempt + 1)
        omega
      · omega

/-- Every attempt before the last one asks for another. -/
theorem again_of_lt (hle : attempt ≤ i) (hlt : i < lastAttempt again outcomes left attempt) :
    again (outcomes i) = true := by
  induction left generalizing attempt with
  | zero =>
      rw [lastAttempt] at hlt
      omega
  | succ left ih =>
      cases hagain : again (outcomes attempt) with
      | false =>
          rw [lastAttempt_stop hagain] at hlt
          omega
      | true =>
          rw [lastAttempt_again hagain] at hlt
          obtain rfl | hne := eq_or_ne attempt i
          · exact hagain
          · exact ih (by omega) hlt

/-- Unless no attempts are left, the last one asks for no other. -/
theorem not_again_of_lt (hlt : lastAttempt again outcomes left attempt < attempt + left) :
    again (outcomes (lastAttempt again outcomes left attempt)) = false := by
  induction left generalizing attempt with
  | zero =>
      rw [lastAttempt] at hlt
      omega
  | succ left ih =>
      cases hagain : again (outcomes attempt) with
      | false => rwa [lastAttempt_stop hagain]
      | true =>
          rw [lastAttempt_again hagain] at hlt ⊢
          exact ih (by omega)

end IdentityModel.Retries
