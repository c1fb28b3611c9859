import IdentityModel.Tasks
import IdentityModel.Throttle

/-!
# Cooldowns kept by a pool of tasks

A task that wants to start an expensive action first passes a gate, starts the
action later, and leaves a stamp after that. An observer of the pool sees the
time, the starts so far, the stamp, and of each task whether it is inside (past
the gate, not yet stamped) and whether it has still to start. `Kept` is the
invariant of such a pool and `Sees` lists the ways a step may look to the
observer; a pool whose gate is only passed while nobody is inside keeps its
starts far enough apart, whatever that means to its clock.
-/
namespace IdentityModel.Cooldown

open Tasks Throttle

theorem countP_set {θ : Type*} {tasks : List θ} {t : ℕ} {x : θ} (p : θ → Bool) (x' : θ)
    (hx : tasks[t]? = some x) :
    (tasks.set t x').countP p + (if p x then 1 else 0) =
      tasks.countP p + (if p x' then 1 else 0) := by
  obtain ⟨hlt, rfl⟩ := List.getElem?_eq_some_iff.mp hx
  have hpos : p tasks[t] = true → 0 < tasks.countP p := fun h =>
    List.countP_pos_iff.mpr ⟨tasks[t], List.getElem_mem hlt, h⟩
  rw [List.countP_set hlt]
  by_cases h : p tasks[t] = true
  · have := hpos h
    simp only [h, if_true]
    omega
  · simp [h]

/-- What is seen of a pool: time, starts (newest first), the stamp, and of a task
whether it is inside and whether it has still to start. -/
structure Observer (σ θ T : Type*) where
  now : σ → T
  times : σ → List T
  stamp : σ → Option T
  inside : θ → Bool
  unsent : θ → Bool

namespace Observer

variable {σ θ T : Type*} (o : Observer σ θ T)

def insideCount (s : Pool σ θ) : ℕ := s.tasks.countP o.inside

def unsentCount (s : Pool σ θ) : ℕ := s.tasks.countP o.unsent

section Move

variable {o} {s : Pool σ θ} {t : ℕ} {x : θ} (w' : σ) (x' : θ) (hx : s.tasks[t]? = some x)
include hx

theorem unsentCount_move_le (h : o.unsent x' = true → o.unsent x = true) :
    o.unsentCount ⟨w', s.tasks.set t x'⟩ ≤ o.unsentCount s := by
  have key := countP_set o.unsent x' hx
  show (s.tasks.set t x').countP o.unsent ≤ s.tasks.countP o.unsent
  split_ifs at key with hx₀ hx₁ hx₁
  · omega
  · omega
  · exact absurd (h hx₁) hx₀
  · omega

theorem unsentCount_move_lt (h : o.unsent x = true) (h' : o.unsent x' = false) :
    o.unsentCount ⟨w', s.tasks.set t x'⟩ < o.unsentCount s := by
  have key := countP_set o.unsent x' hx
  show (s.tasks.set t x').countP o.unsent < s.tasks.countP o.unsent
  rw [h, h'] at key
  simp only [if_true, Bool.false_eq_true, if_false] at key
  omega

theorem unsentCount_pos (h : o.unsent x = true) : 0 < o.unsentCount s :=
  List.countP_pos_iff.mpr ⟨x, List.mem_of_getElem? hx, h⟩

theorem unsentCount_move_le_one (h : o.unsentCount s = 0) :
    o.unsentCount ⟨w', s.tasks.set t x'⟩ ≤ 1 := by
  have key := countP_set o.unsent x' hx
  have h : s.tasks.countP o.unsent = 0 := h
  show (s.tasks.set t x').countP o.unsent ≤ 1
  split_ifs at key <;> omega

theorem insideCount_move_pos (h : o.inside x' = true) :
    0 < o.insideCount ⟨w', s.tasks.set t x'⟩ :=
  List.countP_pos_iff.mpr ⟨x', mem_set_self hx, h⟩

theorem insideCount_move (h : o.inside x = true → o.inside x' = true)
    (hpos : 0 < o.insideCount s) : 0 < o.insideCount ⟨w', s.tasks.set t x'⟩ := by
  have key := countP_set o.inside x' hx
  have hpos : 0 < s.tasks.countP o.inside := hpos
  show 0 < (s.tasks.set t x').countP o.inside
  split_ifs at key with hx₀ hx₁ hx₁
  · omega
  · exact absurd (h hx₀) hx₁
  · omega
  · omega

end Move

theorem unsentCount_eq_zero_of_inside {o : Observer σ θ T} {s : Pool σ θ}
    (hsub : ∀ x, o.unsent x = true → o.inside x = true) (h : o.insideCount s = 0) :
    o.unsentCount s = 0 := by
  have hle : o.unsentCount s ≤ o.insideCount s := List.countP_mono_left fun x _ hx => hsub x hx
  omega

variable [LinearOrder T]

/-- The starts are far enough apart, at most one task has still to start and the
last start is far enough back for it, and the last start is covered. -/
structure Kept (far : T → T → Prop) (s : Pool σ θ) : Prop where
  apart : Apart far (o.times s.shared)
  past : ∀ t ∈ o.times s.shared, t ≤ o.now s.shared
  single : o.unsentCount s ≤ 1
  elapsed : 0 < o.unsentCount s → ∀ t, (o.times s.shared).head? = some t → far t (o.now s.shared)
  covered : Covered far (o.now s.shared) (o.times s.shared).head? (o.stamp s.shared)
    (0 < o.insideCount s)

/-- How a step looks: nothing happens to starts and stamp; a task passes the open
gate while nobody is inside; the one task that has still to start does so; a
stamp is written; the stamp changes while a task has still to start; the record
of starts is begun anew. -/
inductive Sees (far : T → T → Prop) (s s' : Pool σ θ) : Prop
  | quiet (times : o.times s'.shared = o.times s.shared)
      (stamp : o.stamp s'.shared = o.stamp s.shared)
      (unsent : o.unsentCount s' ≤ o.unsentCount s)
      (inside : 0 < o.insideCount s → 0 < o.insideCount s' ∨ 0 < o.unsentCount s)
  | passed (times : o.times s'.shared = o.times s.shared) (unsent : o.unsentCount s' ≤ 1)
      (free : o.insideCount s = 0) (isOpen : Open far (o.now s'.shared) (o.stamp s.shared))
  | sent (times : o.times s'.shared = o.now s'.shared :: o.times s.shared)
      (before : 0 < o.unsentCount s) (unsent : o.unsentCount s' < o.unsentCount s)
      (inside : 0 < o.insideCount s')
  | marked (times : o.times s'.shared = o.times s.shared)
      (stamp : o.stamp s'.shared = some (o.now s'.shared))
      (unsent : o.unsentCount s' ≤ o.unsentCount s)
  | dropped (times : o.times s'.shared = o.times s.shared) (before : 0 < o.unsentCount s)
      (unsent : o.unsentCount s' ≤ o.unsentCount s)
  | reset (times : o.times s'.shared = []) (unsent : o.unsentCount s' ≤ 1)

variable {o} {far : T → T → Prop} {s s' : Pool σ θ}

theorem kept_of_empty (htimes : o.times s.shared = []) (hsingle : o.unsentCount s ≤ 1) :
    o.Kept far s where
  apart := by
    rw [htimes]
    exact apart_nil far
  past := by simp [htimes]
  single := hsingle
  elapsed := by simp [htimes]
  covered := by
    rw [htimes]
    exact fun t ht => by cases ht

theorem Kept.past_step (h : o.Kept far s) (hnow : o.now s.shared ≤ o.now s'.shared)
    (htimes : o.times s'.shared = o.times s.shared) :
    ∀ t ∈ o.times s'.shared, t ≤ o.now s'.shared := by
  intro t ht
  rw [htimes] at ht
  exact (h.past t ht).trans hnow

theorem Kept.elapsed_step (hgap : IsGap far) (h : o.Kept far s) (hnow : o.now s.shared ≤ o.now s'.shared)
    (htimes : o.times s'.shared = o.times s.shared) (hunsent : 0 < o.unsentCount s) :
    ∀ t, (o.times s'.shared).head? = some t → far t (o.now s'.shared) := by
  intro t ht
  rw [htimes] at ht
  exact hgap.mono (h.elapsed hunsent t ht) le_rfl hnow

/-- Every step of these kinds keeps the cooldown. -/
theorem Kept.step (hgap : IsGap far) (h : o.Kept far s) (hnow : o.now s.shared ≤ o.now s'.shared)
    (hsees : o.Sees far s s') : o.Kept far s' := by
  cases hsees with
  | quiet times stamp unsent inside =>
      have hsp : Apart far (o.times s'.shared) := times ▸ h.apart
      refine ⟨hsp, h.past_step hnow times, unsent.trans h.single, fun hpos => ?_, ?_⟩
      · exact h.elapsed_step hgap hnow times (by omega)
      · intro t ht
        have ht' : (o.times s.shared).head? = some t := times ▸ ht
        obtain hin | hst | hel := h.covered.mono hgap hnow t ht'
        · obtain hin' | hun := inside hin
          · exact .inl hin'
          · exact .inr (.inr (h.elapsed_step hgap hnow times hun t ht))
        · exact .inr (.inl (stamp ▸ hst))
        · exact .inr (.inr hel)
  | passed times unsent free isOpen =>
      have hsp : Apart far (o.times s'.shared) := times ▸ h.apart
      have hel : ∀ t, (o.times s'.shared).head? = some t → far t (o.now s'.shared) := by
        rw [times]
        exact (h.covered.mono hgap hnow).elapsed hgap (by omega) isOpen
      exact ⟨hsp, h.past_step hnow times, unsent, fun _ => hel, Covered.of_elapsed hel _ _⟩
  | sent times before unsent inside =>
      have hsingle := h.single
      refine ⟨?_, ?_, by omega, fun hpos => by omega, fun t _ => .inl inside⟩
      · rw [times]
        refine h.apart.cons hgap fun t ht => ⟨?_, ?_⟩
        · exact hgap.mono (h.elapsed before t ht) le_rfl hnow
        · exact (h.past t (List.mem_of_mem_head? ht)).trans hnow
      · intro t ht
        rw [times] at ht
        obtain rfl | ht := List.mem_cons.mp ht
        · exact le_rfl
        · exact (h.past t ht).trans hnow
  | marked times stamp unsent =>
      have hsp : Apart far (o.times s'.shared) := times ▸ h.apart
      have hpast := h.past_step hnow times
      refine ⟨hsp, hpast, unsent.trans h.single, fun hpos => ?_, ?_⟩
      · exact h.elapsed_step hgap hnow times (by omega)
      · rw [stamp]
        exact Covered.stamped (fun t ht => hpast t (List.mem_of_mem_head? ht)) _
  | dropped times before unsent =>
      have hsp : Apart far (o.times s'.shared) := times ▸ h.apart
      have hel := h.elapsed_step hgap hnow times before
      exact ⟨hsp, h.past_step hnow times, unsent.trans h.single, fun _ => hel,
        Covered.of_elapsed hel _ _⟩
  | reset times unsent => exact kept_of_empty times unsent

end Observer

end IdentityModel.Cooldown
