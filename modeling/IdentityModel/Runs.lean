import Mathlib.Data.List.Basic
import Mathlib.Data.Option.Basic
import Mathlib.Tactic

/-!
# Runs of a labelled step function

A step function gives the successor state of a label, or `none` where the label
is not enabled. A run is a list of labels, executed from the left. Safety
results are stated for runs whose every step meets a condition on the state
before it; an interleaving of several parties is a run whose labels name the
party that moves.
-/
namespace IdentityModel.Runs

variable {σ ℓ : Type*}

/-- Execute the labels from the left; `none` as soon as one is not enabled. -/
def exec (step : σ → ℓ → Option σ) : σ → List ℓ → Option σ
  | s, [] => some s
  | s, l :: ls => (step s l).bind fun s' => exec step s' ls

@[simp] theorem exec_nil (step : σ → ℓ → Option σ) (s : σ) : exec step s [] = some s := rfl

theorem exec_cons_eq_some {step : σ → ℓ → Option σ} {s s' : σ} {l : ℓ} {ls : List ℓ} :
    exec step s (l :: ls) = some s' ↔ ∃ m, step s l = some m ∧ exec step m ls = some s' := by
  simp [exec, Option.bind_eq_some_iff]

/-- The state a run that succeeds ends in. -/
theorem eq_some_getD {o : Option σ} (d : σ) (h : o.isSome = true) : o = some (o.getD d) := by
  obtain ⟨s, rfl⟩ := Option.isSome_iff_exists.mp h
  rfl

/-- Every label of the run meets `ok` in the state it is taken from. -/
def Meets (step : σ → ℓ → Option σ) (ok : σ → ℓ → Prop) : σ → List ℓ → Prop
  | _, [] => True
  | s, l :: ls => ok s l ∧
      match step s l with
      | some s' => Meets step ok s' ls
      | none => True

instance decidableMeets (step : σ → ℓ → Option σ) (ok : σ → ℓ → Prop)
    [∀ s l, Decidable (ok s l)] : ∀ s ls, Decidable (Meets step ok s ls)
  | _, [] => inferInstanceAs (Decidable True)
  | s, l :: ls =>
      have : Decidable (match step s l with
          | some s' => Meets step ok s' ls
          | none => True) :=
        match step s l with
        | some s' => decidableMeets step ok s' ls
        | none => inferInstanceAs (Decidable True)
      inferInstanceAs (Decidable (ok s l ∧ _))

theorem Meets.head {step : σ → ℓ → Option σ} {ok : σ → ℓ → Prop} {s : σ} {l : ℓ} {ls : List ℓ}
    (h : Meets step ok s (l :: ls)) : ok s l := h.1

theorem Meets.tail {step : σ → ℓ → Option σ} {ok : σ → ℓ → Prop} {s s' : σ} {l : ℓ} {ls : List ℓ}
    (h : Meets step ok s (l :: ls)) (hs : step s l = some s') : Meets step ok s' ls := by
  have h2 := h.2
  simpa only [hs] using h2

theorem Meets.of_forall {step : σ → ℓ → Option σ} {ok : ℓ → Prop} {ls : List ℓ} :
    ∀ {s : σ}, (∀ l ∈ ls, ok l) → Meets step (fun _ l => ok l) s ls := by
  induction ls with
  | nil => exact fun _ => trivial
  | cons l ls ih =>
      intro s h
      refine ⟨h l (by simp), ?_⟩
      split
      · exact ih fun l' hl' => h l' (List.mem_cons_of_mem _ hl')
      · trivial

theorem Meets.and {step : σ → ℓ → Option σ} {ok ok' : σ → ℓ → Prop} {ls : List ℓ} :
    ∀ {s : σ}, Meets step ok s ls → Meets step ok' s ls →
      Meets step (fun s l => ok s l ∧ ok' s l) s ls := by
  induction ls with
  | nil => exact fun _ _ => trivial
  | cons l ls ih =>
      intro s h h'
      refine ⟨⟨h.head, h'.head⟩, ?_⟩
      split
      · rename_i s' hs
        exact ih (h.tail hs) (h'.tail hs)
      · trivial

/-- A run whose steps meet the condition, with its end. -/
structure Goes (step : σ → ℓ → Option σ) (ok : σ → ℓ → Prop) (s : σ) (ls : List ℓ) (s' : σ) : Prop where
  meets : Meets step ok s ls
  exec : exec step s ls = some s'

theorem Goes.nil {step : σ → ℓ → Option σ} {ok : σ → ℓ → Prop} (s : σ) : Goes step ok s [] s :=
  ⟨trivial, rfl⟩

theorem Goes.cons {step : σ → ℓ → Option σ} {ok : σ → ℓ → Prop} {s m s' : σ} {l : ℓ} {ls : List ℓ}
    (hok : ok s l) (hstep : step s l = some m) (h : Goes step ok m ls s') :
    Goes step ok s (l :: ls) s' := by
  refine ⟨⟨hok, ?_⟩, exec_cons_eq_some.mpr ⟨m, hstep, h.exec⟩⟩
  rw [hstep]
  exact h.meets

/-- A run that does not meet the condition has a first step that breaks it. -/
theorem exists_first_break {step : σ → ℓ → Option σ} {ok : σ → ℓ → Prop} {ls : List ℓ} {s s' : σ}
    (hrun : exec step s ls = some s') (h : ¬ Meets step ok s ls) :
    ∃ before l after m m', ls = before ++ l :: after ∧ exec step s before = some m ∧
      Meets step ok s before ∧ ¬ ok m l ∧ step m l = some m' ∧ exec step m' after = some s' := by
  induction ls generalizing s with
  | nil => exact absurd trivial h
  | cons l ls ih =>
      obtain ⟨m, hm, hrest⟩ := exec_cons_eq_some.mp hrun
      by_cases hl : ok s l
      · have hn : ¬ Meets step ok m ls := by
          intro hmeets
          refine h ⟨hl, ?_⟩
          rw [hm]
          exact hmeets
        obtain ⟨before, l', after, n, n', rfl, hb, hmb, hbad, hn', ha⟩ := ih hrest hn
        refine ⟨l :: before, l', after, n, n', rfl, ?_, ?_, hbad, hn', ha⟩
        · exact exec_cons_eq_some.mpr ⟨m, hm, hb⟩
        · refine ⟨hl, ?_⟩
          rw [hm]
          exact hmb
      · exact ⟨[], l, ls, s, m, rfl, rfl, trivial, hl, hm, hrest⟩

/-- An invariant kept by every step that meets the condition holds after every
run whose steps all meet it. -/
theorem exec_invariant {step : σ → ℓ → Option σ} {ok : σ → ℓ → Prop} {Inv : σ → Prop}
    (hstep : ∀ s l s', Inv s → ok s l → step s l = some s' → Inv s')
    {ls : List ℓ} {s s' : σ} (hs : Inv s) (hok : Meets step ok s ls)
    (hrun : exec step s ls = some s') : Inv s' := by
  induction ls generalizing s with
  | nil =>
      have he : s = s' := by simpa using hrun
      exact he ▸ hs
  | cons l ls ih =>
      obtain ⟨m, hm, hrest⟩ := exec_cons_eq_some.mp hrun
      exact ih (hstep s l m hs hok.head hm) (hok.tail hm) hrest

/-- The unconditional form: an invariant of every step holds after every run. -/
theorem exec_preserves {step : σ → ℓ → Option σ} {Inv : σ → Prop}
    (hstep : ∀ s l s', Inv s → step s l = some s' → Inv s')
    {ls : List ℓ} {s s' : σ} (hs : Inv s) (hrun : exec step s ls = some s') : Inv s' := by
  induction ls generalizing s with
  | nil =>
      have he : s = s' := by simpa using hrun
      exact he ▸ hs
  | cons l ls ih =>
      obtain ⟨m, hm, hrest⟩ := exec_cons_eq_some.mp hrun
      exact ih (hstep s l m hs hm) hrest

end IdentityModel.Runs
