import Mathlib.Tactic

/-!
# Systems left alone

A system that is left alone takes one step after another; the surroundings enter through the
number of the step. Its orbit is the sequence of its states, which ends where a step is not
possible. Two systems have the same orbit as long as their steps agree on it.
-/
namespace IdentityModel.Orbits

variable {σ : Type*}

/-- The state after `n` steps. -/
def orbit (step : ℕ → σ → Option σ) (s : σ) : ℕ → Option σ
  | 0 => some s
  | n + 1 => (orbit step s n).bind (step n)

section Rules

variable {step step' : ℕ → σ → Option σ} {s m m' : σ} {n : ℕ}

theorem orbit_succ (h : orbit step s n = some m) : orbit step s (n + 1) = step n m := by
  simp [orbit, h]

/-- Where the invariant makes each step possible, the orbit goes on. -/
theorem orbit_total {Inv : ℕ → σ → Prop}
    (hstep : ∀ k m, Inv k m → ∃ m', step k m = some m' ∧ Inv (k + 1) m') (hs : Inv 0 s) (n : ℕ) :
    ∃ m, orbit step s n = some m ∧ Inv n m := by
  induction n with
  | zero => exact ⟨s, rfl, hs⟩
  | succ n ih =>
      obtain ⟨m, hm, hinv⟩ := ih
      obtain ⟨m', hm', hinv'⟩ := hstep n m hinv
      exact ⟨m', (orbit_succ hm).trans hm', hinv'⟩

/-- Steps that agree on the orbit so far give the same orbit. -/
theorem orbit_congr
    (h : ∀ k < n, ∀ m, orbit step s k = some m → step k m = step' k m) :
    orbit step s n = orbit step' s n := by
  induction n with
  | zero => rfl
  | succ n ih =>
      have hn : orbit step s n = orbit step' s n := ih fun k hk => h k (by omega)
      cases ho : orbit step s n with
      | none =>
          rw [ho] at hn
          simp [orbit, ho, ← hn]
      | some m =>
          rw [ho] at hn
          rw [orbit_succ ho, orbit_succ hn.symm]
          exact h n (by omega) m ho

/-- A state at rest is never left. -/
theorem orbit_rest {k : ℕ} (hrest : ∀ n, step n m = some m) (h : orbit step s k = some m)
    (hk : k ≤ n) : orbit step s n = some m := by
  induction n, hk using Nat.le_induction with
  | base => exact h
  | succ n _ ih => exact (orbit_succ ih).trans (hrest n)

/-- There is only one state at rest. -/
theorem orbit_rest_unique {k : ℕ} (hrest : ∀ n, step n m = some m)
    (hrest' : ∀ n, step n m' = some m') (h : orbit step s n = some m)
    (h' : orbit step s k = some m') : m = m' := by
  have hlast : orbit step s (max n k) = some m := orbit_rest hrest h (le_max_left n k)
  have hlast' : orbit step s (max n k) = some m' := orbit_rest hrest' h' (le_max_right n k)
  exact Option.some.inj (hlast.symm.trans hlast')

/-- The orbit meets a condition throughout, or there is a first state that does not. -/
theorem orbit_first (step : ℕ → σ → Option σ) (s : σ) (ok : σ → Prop) :
    (∀ n m, orbit step s n = some m → ok m) ∨
      ∃ n m, orbit step s n = some m ∧ ¬ ok m ∧ ∀ k < n, ∀ m', orbit step s k = some m' → ok m' := by
  classical
  by_cases h : ∃ n, ∃ m, orbit step s n = some m ∧ ¬ ok m
  · right
    obtain ⟨m, hm, hbad⟩ := Nat.find_spec h
    refine ⟨Nat.find h, m, hm, hbad, ?_⟩
    intro k hk m' hm'
    by_contra hno
    exact Nat.find_min h hk ⟨m', hm', hno⟩
  · left
    intro n m hm
    by_contra hno
    exact h ⟨n, m, hm, hno⟩

end Rules

end IdentityModel.Orbits
