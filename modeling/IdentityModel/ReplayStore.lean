import Mathlib.Data.List.Pairwise
import Mathlib.Tactic

/-!
# Stores against replays

A server looks at what is presented to it: it turns some of it away, and gives the rest
an identifier. What it accepts it remembers for a while, and a presentation whose
identifier it remembers is refused. Two presentations of one identifier are then both
accepted just when they are further apart than that while.
-/
namespace IdentityModel

/-- What a store goes by; a presentation without an identifier is turned away. -/
structure ReplayStore (P I : Type) where
  ident : P → Option I
  time : P → ℕ
  retention : ℕ

namespace ReplayStore

variable {P I : Type} [DecidableEq I] (store : ReplayStore P I)

/-- The identifier is still remembered when `p` comes. -/
def remembers (log : List P) (p : P) (i : I) : Bool :=
  log.any fun a => store.ident a = some i && store.time p ≤ store.time a + store.retention

/-- The accepted presentations, the last one first. -/
def step (log : List P) (p : P) : List P :=
  match store.ident p with
  | none => log
  | some i => if store.remembers log p i then log else p :: log

def run (ps : List P) : List P := ps.foldl store.step []

variable {store} {log ps : List P} {p : P} {i : I}

theorem step_of_new (hi : store.ident p = some i) (hnew : store.remembers log p i = false) :
    store.step log p = p :: log := by
  simp only [step, hi, hnew, Bool.false_eq_true, if_false]

/-- A step accepts what has an identifier that is not remembered. -/
theorem step_cases (store : ReplayStore P I) (log : List P) (p : P) :
    store.step log p = log ∧ (∀ i, store.ident p = some i → store.remembers log p i = true) ∨
      ∃ i, store.ident p = some i ∧ store.remembers log p i = false ∧
        store.step log p = p :: log := by
  unfold step
  cases hp : store.ident p with
  | none => exact .inl ⟨rfl, fun i h => by cases h⟩
  | some i =>
      by_cases hseen : store.remembers log p i = true
      · refine .inl ⟨by simp only [hseen, if_true], fun j hj => ?_⟩
        rwa [← Option.some.inj hj]
      · have hnew : store.remembers log p i = false := by simpa using hseen
        exact .inr ⟨i, rfl, hnew, by simp only [hnew, Bool.false_eq_true, if_false]⟩

theorem remembers_iff : store.remembers log p i = true ↔
    ∃ a ∈ log, store.ident a = some i ∧ store.time p ≤ store.time a + store.retention := by
  simp [remembers]

theorem step_subset (log : List P) (p : P) : log ⊆ store.step log p := by
  obtain ⟨hstep, -⟩ | ⟨i, -, -, hstep⟩ := store.step_cases log p
  · rw [hstep]
    exact List.Subset.refl _
  · rw [hstep]
    exact List.subset_cons_self p log

theorem foldl_subset : log ⊆ ps.foldl store.step log := by
  induction ps generalizing log with
  | nil => exact List.Subset.refl _
  | cons p ps ih => exact List.Subset.trans (step_subset log p) ih

variable (store) in
/-- Accepted presentations of one identifier are further apart than the retention. -/
def Spaced (log : List P) : Prop :=
  log.Pairwise fun later earlier => ∀ i, store.ident later = some i → store.ident earlier = some i →
    store.time earlier + store.retention < store.time later

theorem Spaced.step (h : store.Spaced log) (p : P) : store.Spaced (store.step log p) := by
  obtain ⟨hstep, -⟩ | ⟨i, hi, hnew, hstep⟩ := store.step_cases log p
  · rwa [hstep]
  · rw [hstep]
    refine List.pairwise_cons.mpr ⟨fun a ha j hj haj => ?_, h⟩
    rw [hi] at hj
    cases hj
    by_contra hnear
    rw [remembers_iff.mpr ⟨a, ha, haj, by omega⟩] at hnew
    cases hnew

theorem Spaced.foldl (h : store.Spaced log) : store.Spaced (ps.foldl store.step log) := by
  induction ps generalizing log with
  | nil => exact h
  | cons p ps ih => exact ih (h.step p)

theorem spaced (ps : List P) : store.Spaced (store.run ps) :=
  Spaced.foldl List.Pairwise.nil

/-- The presentation, or one of its identifier within the retention before it, is in the
log after its step. -/
theorem step_covers (hlog : ∀ a ∈ log, store.time a ≤ store.time p) (hi : store.ident p = some i) :
    ∃ a ∈ store.step log p, store.ident a = some i ∧ store.time a ≤ store.time p ∧
      store.time p ≤ store.time a + store.retention := by
  obtain ⟨hstep, hseen⟩ | ⟨-, -, -, hstep⟩ := store.step_cases log p
  · obtain ⟨a, ha, hai, hnear⟩ := remembers_iff.mp (hseen i hi)
    exact ⟨a, by rwa [hstep], hai, hlog a ha, hnear⟩
  · exact ⟨p, by rw [hstep]; exact List.mem_cons_self, hi, le_rfl, by omega⟩

theorem step_time (hlog : ∀ a ∈ log, store.time a ≤ store.time p) :
    ∀ a ∈ store.step log p, store.time a ≤ store.time p := by
  obtain ⟨hstep, -⟩ | ⟨-, -, -, hstep⟩ := store.step_cases log p
  · rwa [hstep]
  · rw [hstep]
    intro a ha
    obtain rfl | ha := List.mem_cons.mp ha
    · exact le_rfl
    · exact hlog a ha

theorem foldl_covers (hsorted : ps.Pairwise fun p q => store.time p ≤ store.time q)
    (hlog : ∀ a ∈ log, ∀ p ∈ ps, store.time a ≤ store.time p) (hp : p ∈ ps)
    (hi : store.ident p = some i) :
    ∃ a ∈ ps.foldl store.step log, store.ident a = some i ∧ store.time a ≤ store.time p ∧
      store.time p ≤ store.time a + store.retention := by
  induction ps generalizing log with
  | nil => cases hp
  | cons q ps ih =>
      obtain ⟨hq, hrest⟩ := List.pairwise_cons.mp hsorted
      have hnow : ∀ a ∈ log, store.time a ≤ store.time q :=
        fun a ha => hlog a ha q List.mem_cons_self
      obtain rfl | hp := List.mem_cons.mp hp
      · obtain ⟨a, ha, hai, hbefore, hnear⟩ := step_covers hnow hi
        have hkept : store.step log p ⊆ ps.foldl store.step (store.step log p) := foldl_subset
        exact ⟨a, hkept ha, hai, hbefore, hnear⟩
      · exact ih hrest (fun a ha r hr => (step_time hnow a ha).trans (hq r hr)) hp

/-- In a run in order of time, each presentation with an identifier comes within the
retention after one that was accepted. -/
theorem covered (hsorted : ps.Pairwise fun p q => store.time p ≤ store.time q) (hp : p ∈ ps)
    (hi : store.ident p = some i) :
    ∃ a ∈ store.run ps, store.ident a = some i ∧ store.time a ≤ store.time p ∧
      store.time p ≤ store.time a + store.retention :=
  foldl_covers hsorted (fun a ha => by cases ha) hp hi

theorem step_mem {a : P} (ha : a ∈ store.step log p) :
    a ∈ log ∨ a = p ∧ ∃ i, store.ident p = some i := by
  obtain ⟨hstep, -⟩ | ⟨i, hi, -, hstep⟩ := store.step_cases log p
  · exact .inl (by rwa [hstep] at ha)
  · rw [hstep] at ha
    obtain rfl | ha := List.mem_cons.mp ha
    · exact .inr ⟨rfl, i, hi⟩
    · exact .inl ha

theorem foldl_mem {a : P} (ha : a ∈ ps.foldl store.step log) :
    a ∈ log ∨ a ∈ ps ∧ ∃ i, store.ident a = some i := by
  induction ps generalizing log with
  | nil => exact .inl ha
  | cons p ps ih =>
      obtain hstep | ⟨hmem, hi⟩ := ih ha
      · obtain hlog | ⟨rfl, hi⟩ := step_mem hstep
        · exact .inl hlog
        · exact .inr ⟨List.mem_cons_self, hi⟩
      · exact .inr ⟨List.mem_cons_of_mem _ hmem, hi⟩

/-- What a run accepts was presented, with an identifier. -/
theorem mem_run {a : P} (ha : a ∈ store.run ps) : a ∈ ps ∧ ∃ i, store.ident a = some i := by
  obtain hnil | h := foldl_mem ha
  · cases hnil
  · exact h

end ReplayStore

end IdentityModel
