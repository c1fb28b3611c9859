import Mathlib.Tactic

/-!
# Results of fallible computations

How a computation in `Except` comes to succeed: step by step.
-/
namespace IdentityModel.Results

variable {α β ε : Type}

theorem bind_eq_ok {x : Except ε α} {f : α → Except ε β} {b : β} :
    (x >>= f) = .ok b ↔ ∃ a, x = .ok a ∧ f a = .ok b := by
  cases x with
  | error e => simp [Bind.bind, Except.bind]
  | ok a => simp [Bind.bind, Except.bind]

/-- A check comes before what follows. -/
theorem check_eq_ok {x : Except ε Unit} {y : Except ε β} {b : β} :
    (x >>= fun _ => y) = .ok b ↔ x = .ok () ∧ y = .ok b := by
  rw [bind_eq_ok]
  constructor
  · rintro ⟨⟨⟩, hx, hy⟩
    exact ⟨hx, hy⟩
  · rintro ⟨hx, hy⟩
    exact ⟨(), hx, hy⟩

theorem map_eq_ok {f : α → β} {x : Except ε α} {b : β} :
    x.map f = .ok b ↔ ∃ a, x = .ok a ∧ f a = b := by
  cases x <;> simp [Except.map]

theorem mapError_eq_ok {ε' : Type} {f : ε → ε'} {x : Except ε α} {a : α} :
    x.mapError f = .ok a ↔ x = .ok a := by
  cases x <;> simp [Except.mapError]

/-- Goes on if a condition holds. -/
def ensure (c : Prop) [Decidable c] (e : ε) : Except ε Unit := if c then .ok () else .error e

theorem ensure_eq_ok {c : Prop} [Decidable c] {e : ε} {u : Unit} : ensure c e = .ok u ↔ c := by
  by_cases hc : c <;> simp [ensure, hc]

/-- A loop that ends has passed the check of every element. -/
theorem forM_eq_ok {f : α → Except ε Unit} :
    ∀ {xs : List α}, xs.forM f = .ok () → ∀ x ∈ xs, f x = .ok ()
  | [], _, _, hx => by cases hx
  | y :: ys, h, x, hx => by
      obtain ⟨u, hy, hrest⟩ := bind_eq_ok.mp h
      obtain rfl | hx := List.mem_cons.mp hx
      · exact hy
      · exact forM_eq_ok hrest x hx

/-- What a mapping over a list returns comes from its elements. -/
theorem mem_of_mapM_eq_ok {f : α → Except ε β} {b : β} :
    ∀ {xs : List α} {ys : List β}, xs.mapM f = .ok ys → b ∈ ys → ∃ a ∈ xs, f a = .ok b
  | [], ys, h, hb => by
      rw [List.mapM_nil] at h
      rw [← Except.ok.inj h] at hb
      cases hb
  | x :: xs, ys, h, hb => by
      rw [List.mapM_cons] at h
      obtain ⟨y, hy, h⟩ := bind_eq_ok.mp h
      obtain ⟨rest, hrest, h⟩ := bind_eq_ok.mp h
      rw [← Except.ok.inj h] at hb
      obtain rfl | hb := List.mem_cons.mp hb
      · exact ⟨x, List.mem_cons_self, hy⟩
      · obtain ⟨a, ha, hfa⟩ := mem_of_mapM_eq_ok hrest hb
        exact ⟨a, List.mem_cons_of_mem x ha, hfa⟩

theorem exists_of_isOk {x : Except ε α} (h : x.isOk = true) : ∃ a, x = .ok a := by
  cases x with
  | error e => cases h
  | ok a => exact ⟨a, rfl⟩

end IdentityModel.Results
