import IdentityModel.Runs

/-!
# Pools of tasks over shared state

Several tasks, each with its own program counter, act one after another on a
shared state. A label spawns a task or lets one of them move; a move may fork a
further task. `Holds` is the
form of invariant used throughout: a fact about the shared state, a fact about
each task against it, and a symmetric relation between any two tasks. The step
rule reduces such an invariant to what the moving task does to itself and to one
arbitrary other task.
-/
namespace IdentityModel.Tasks

/-- Shared state and the tasks started so far, in order of their start. -/
structure Pool (σ θ : Type*) where
  shared : σ
  tasks : List θ

inductive Label (β ε : Type*)
  | spawn (b : β)
  | move (t : ℕ) (e : ε)

/-- How a task starts and how it moves; `none` where it cannot. A move that
happens may fork a task. -/
structure Machine (σ θ β ε : Type*) where
  spawn : σ → β → Option (σ × θ)
  move : σ → θ → ε → Option (σ × θ)
  fork : σ → θ → ε → Option θ := fun _ _ _ => none

variable {σ θ β ε : Type*}

def Machine.step (m : Machine σ θ β ε) (s : Pool σ θ) : Label β ε → Option (Pool σ θ)
  | .spawn b => (m.spawn s.shared b).map fun r => ⟨r.1, s.tasks ++ [r.2]⟩
  | .move t e => (s.tasks[t]?).bind fun x =>
      (m.move s.shared x e).map fun r =>
        ⟨r.1, s.tasks.set t r.2 ++ (m.fork s.shared x e).toList⟩

theorem Machine.step_spawn {m : Machine σ θ β ε} {s s' : Pool σ θ} {b : β}
    (h : m.step s (.spawn b) = some s') :
    ∃ w x, m.spawn s.shared b = some (w, x) ∧ s' = ⟨w, s.tasks ++ [x]⟩ := by
  obtain ⟨⟨w, x⟩, hr, hs⟩ := Option.map_eq_some_iff.mp h
  exact ⟨w, x, hr, hs.symm⟩

theorem Machine.step_move_fork {m : Machine σ θ β ε} {s s' : Pool σ θ} {t : ℕ} {e : ε}
    (h : m.step s (.move t e) = some s') :
    ∃ x w x', s.tasks[t]? = some x ∧ m.move s.shared x e = some (w, x') ∧
      s' = ⟨w, s.tasks.set t x' ++ (m.fork s.shared x e).toList⟩ := by
  obtain ⟨x, hx, hm⟩ := Option.bind_eq_some_iff.mp h
  obtain ⟨⟨w, x'⟩, hr, hs⟩ := Option.map_eq_some_iff.mp hm
  exact ⟨x, w, x', hx, hr, hs.symm⟩

theorem Machine.step_move {m : Machine σ θ β ε} (hfork : ∀ w x e, m.fork w x e = none)
    {s s' : Pool σ θ} {t : ℕ} {e : ε} (h : m.step s (.move t e) = some s') :
    ∃ x w x', s.tasks[t]? = some x ∧ m.move s.shared x e = some (w, x') ∧
      s' = ⟨w, s.tasks.set t x'⟩ := by
  obtain ⟨x, w, x', hx, hr, hs⟩ := Machine.step_move_fork h
  refine ⟨x, w, x', hx, hr, ?_⟩
  rw [hs, hfork]
  simp

theorem Machine.step_of_move {m : Machine σ θ β ε} (hfork : ∀ w x e, m.fork w x e = none)
    {s : Pool σ θ} {t : ℕ} {e : ε} {x : θ} {w : σ} {x' : θ} (hx : s.tasks[t]? = some x)
    (hm : m.move s.shared x e = some (w, x')) :
    m.step s (.move t e) = some ⟨w, s.tasks.set t x'⟩ := by
  simp [Machine.step, hx, hm, hfork]

theorem getElem?_snoc {tasks : List θ} {x y : θ} {i : ℕ} (h : (tasks ++ [x])[i]? = some y) :
    tasks[i]? = some y ∨ (tasks.length ≤ i ∧ y = x) := by
  by_cases hi : i < tasks.length
  · rw [List.getElem?_append_left hi] at h
    exact .inl h
  · rw [List.getElem?_append_right (by omega)] at h
    have hy : y ∈ [x] := List.mem_of_getElem? h
    exact .inr ⟨by omega, by simpa using hy⟩

theorem getElem?_set_cases {tasks : List θ} {x y : θ} {i t : ℕ}
    (h : (tasks.set t x)[i]? = some y) : (i = t ∧ y = x) ∨ (i ≠ t ∧ tasks[i]? = some y) := by
  by_cases hi : i = t
  · subst i
    have hy : y = x := by
      rw [List.getElem?_set] at h
      simp only [if_true] at h
      split at h
      · exact (Option.some.inj h).symm
      · simp at h
    exact .inl ⟨rfl, hy⟩
  · rw [List.getElem?_set_ne (Ne.symm hi)] at h
    exact .inr ⟨hi, h⟩

/-- A task that starts and moves at once. -/
theorem Machine.exec_spawn_move {m : Machine σ θ β ε} (hfork : ∀ w x e, m.fork w x e = none)
    {s : Pool σ θ} {b : β} {e : ε} {w w' : σ}
    {x x' : θ} (hs : m.spawn s.shared b = some (w, x)) (hm : m.move w x e = some (w', x')) :
    Runs.exec m.step s [.spawn b, .move s.tasks.length e] = some ⟨w', s.tasks ++ [x']⟩ := by
  simp [Runs.exec, Machine.step, hs, hm, hfork]

/-- A move of a task outside `P` keeps every task inside `P` where it is. -/
theorem exists_mem_set_of_not {tasks : List θ} {t : ℕ} {x : θ} {P : θ → Prop} (x' : θ)
    (hx : tasks[t]? = some x) (hP : ¬ P x) (h : ∃ y ∈ tasks, P y) :
    ∃ y ∈ tasks.set t x', P y := by
  obtain ⟨y, hy, hPy⟩ := h
  obtain ⟨j, hj⟩ := List.mem_iff_getElem?.mp hy
  have hne : t ≠ j := by
    rintro rfl
    have hxy : x = y := Option.some.inj (hx.symm.trans hj)
    exact hP (hxy ▸ hPy)
  have hset : (tasks.set t x')[j]? = some y := by rwa [List.getElem?_set_ne hne]
  exact ⟨y, List.mem_of_getElem? hset, hPy⟩

theorem mem_set_self {tasks : List θ} {t : ℕ} {x x' : θ} (hx : tasks[t]? = some x) :
    x' ∈ tasks.set t x' := by
  have hlt : t < tasks.length := (List.getElem?_eq_some_iff.mp hx).1
  exact List.mem_of_getElem? (List.getElem?_set_self hlt)

/-- At most one task is inside `P` when no two different ones are. -/
theorem countP_le_one {tasks : List θ} {P : θ → Bool}
    (h : ∀ (i j : ℕ) x y, i ≠ j → tasks[i]? = some x → tasks[j]? = some y →
      ¬ (P x = true ∧ P y = true)) : tasks.countP P ≤ 1 := by
  induction tasks with
  | nil => simp
  | cons x rest ih =>
      by_cases hx : P x = true
      · have hrest : rest.countP P = 0 := by
          rw [List.countP_eq_zero]
          intro y hy hPy
          obtain ⟨j, hj⟩ := List.mem_iff_getElem?.mp hy
          exact h 0 (j + 1) x y (by omega) rfl hj ⟨hx, hPy⟩
        rw [List.countP_cons, hrest]
        simp [hx]
      · have hrest := ih fun i j y z hij hy hz =>
          h (i + 1) (j + 1) y z (by omega) hy hz
        rw [List.countP_cons]
        simpa [hx] using hrest

section Invariant

variable (G : σ → Prop) (L : σ → θ → Prop) (R : θ → θ → Prop)

/-- The shared state satisfies `G`, every task satisfies `L` against it, and any
two different tasks are related by `R`. -/
structure Holds (s : Pool σ θ) : Prop where
  shared : G s.shared
  each : ∀ (i : ℕ) x, s.tasks[i]? = some x → L s.shared x
  pair : ∀ (i j : ℕ) x y, i ≠ j → s.tasks[i]? = some x → s.tasks[j]? = some y → R x y

variable {G L R}

theorem Holds.of_idle {s : Pool σ θ} (hG : G s.shared) (hs : s.tasks = []) : Holds G L R s where
  shared := hG
  each := by simp [hs]
  pair := by simp [hs]

theorem Holds.of_mem {s : Pool σ θ} (h : Holds G L R s) {x : θ} (hx : x ∈ s.tasks) :
    L s.shared x := by
  obtain ⟨i, hi⟩ := List.mem_iff_getElem?.mp hx
  exact h.each i x hi

theorem Holds.spawn {s : Pool σ θ} {w : σ} {x : θ} (h : Holds G L R s)
    (hsymm : ∀ x y, R x y → R y x) (hG : G w) (hx : L w x)
    (hother : ∀ (j : ℕ) y, s.tasks[j]? = some y → L w y ∧ R x y) :
    Holds G L R ⟨w, s.tasks ++ [x]⟩ where
  shared := hG
  each := by
    intro i y hy
    obtain hy | ⟨-, rfl⟩ := getElem?_snoc hy
    · exact (hother i y hy).1
    · exact hx
  pair := by
    intro i j y z hij hy hz
    have hi' := (List.getElem?_eq_some_iff.mp hy).1
    have hj' := (List.getElem?_eq_some_iff.mp hz).1
    obtain hy' | ⟨hi, rfl⟩ := getElem?_snoc hy
    · obtain hz' | ⟨-, rfl⟩ := getElem?_snoc hz
      · exact h.pair i j y z hij hy' hz'
      · exact hsymm _ _ (hother i y hy').2
    · obtain hz' | ⟨hj, rfl⟩ := getElem?_snoc hz
      · exact (hother j z hz').2
      · simp only [List.length_append, List.length_singleton] at hi' hj'
        omega

theorem Holds.move {s : Pool σ θ} {t : ℕ} {w : σ} {x' : θ} (h : Holds G L R s)
    (hsymm : ∀ x y, R x y → R y x) (hG : G w) (hx : L w x')
    (hother : ∀ (j : ℕ) y, j ≠ t → s.tasks[j]? = some y → L w y ∧ R x' y) :
    Holds G L R ⟨w, s.tasks.set t x'⟩ where
  shared := hG
  each := by
    intro i y hy
    obtain ⟨-, rfl⟩ | ⟨hi, hy⟩ := getElem?_set_cases hy
    · exact hx
    · exact (hother i y hi hy).1
  pair := by
    intro i j y z hij hy hz
    obtain ⟨rfl, rfl⟩ | ⟨hi, hy'⟩ := getElem?_set_cases hy
    · obtain ⟨rfl, -⟩ | ⟨hj, hz'⟩ := getElem?_set_cases hz
      · exact absurd rfl hij
      · exact (hother j z hj hz').2
    · obtain ⟨rfl, rfl⟩ | ⟨hj, hz'⟩ := getElem?_set_cases hz
      · exact hsymm _ _ (hother i y hi hy').2
      · exact h.pair i j y z hij hy' hz'

/-- The step rule: spawned, moving and forked tasks re-establish the invariant for
themselves and against any one other task. -/
theorem Machine.holds_step_fork {m : Machine σ θ β ε} (ok : Pool σ θ → Label β ε → Prop)
    (hsymm : ∀ x y, R x y → R y x)
    (hspawn : ∀ s b w x, Holds G L R s → ok s (.spawn b) → m.spawn s.shared b = some (w, x) →
      G w ∧ L w x ∧ ∀ (j : ℕ) y, s.tasks[j]? = some y → L w y ∧ R x y)
    (hmove : ∀ s t e x w x', Holds G L R s → ok s (.move t e) → s.tasks[t]? = some x →
      m.move s.shared x e = some (w, x') →
      (G w ∧ L w x' ∧ ∀ (j : ℕ) y, j ≠ t → s.tasks[j]? = some y → L w y ∧ R x' y) ∧
        ∀ z, m.fork s.shared x e = some z →
          L w z ∧ R z x' ∧ ∀ (j : ℕ) y, j ≠ t → s.tasks[j]? = some y → R z y) :
    ∀ s l s', Holds G L R s → ok s l → m.step s l = some s' → Holds G L R s' := by
  intro s l s' h hok hstep
  cases l with
  | spawn b =>
      obtain ⟨w, x, hr, rfl⟩ := Machine.step_spawn hstep
      obtain ⟨hG, hx, hother⟩ := hspawn s b w x h hok hr
      exact h.spawn hsymm hG hx hother
  | move t e =>
      obtain ⟨x, w, x', hx, hr, rfl⟩ := Machine.step_move_fork hstep
      obtain ⟨⟨hG, hx', hother⟩, hfork⟩ := hmove s t e x w x' h hok hx hr
      have hmoved := h.move hsymm hG hx' hother
      cases hf : m.fork s.shared x e with
      | none => simpa using hmoved
      | some z =>
          obtain ⟨hz, hzx, hzy⟩ := hfork z hf
          refine hmoved.spawn hsymm hG hz fun j y hy => ⟨hmoved.each j y hy, ?_⟩
          obtain ⟨-, rfl⟩ | ⟨hj, hy⟩ := getElem?_set_cases hy
          · exact hzx
          · exact hzy j y hj hy

/-- The same for a machine that never forks. -/
theorem Machine.holds_step {m : Machine σ θ β ε} (hfork : ∀ w x e, m.fork w x e = none)
    (ok : Pool σ θ → Label β ε → Prop) (hsymm : ∀ x y, R x y → R y x)
    (hspawn : ∀ s b w x, Holds G L R s → ok s (.spawn b) → m.spawn s.shared b = some (w, x) →
      G w ∧ L w x ∧ ∀ (j : ℕ) y, s.tasks[j]? = some y → L w y ∧ R x y)
    (hmove : ∀ s t e x w x', Holds G L R s → ok s (.move t e) → s.tasks[t]? = some x →
      m.move s.shared x e = some (w, x') →
      G w ∧ L w x' ∧ ∀ (j : ℕ) y, j ≠ t → s.tasks[j]? = some y → L w y ∧ R x' y) :
    ∀ s l s', Holds G L R s → ok s l → m.step s l = some s' → Holds G L R s' := by
  refine Machine.holds_step_fork ok hsymm hspawn fun s t e x w x' h hok hx hr => ?_
  refine ⟨hmove s t e x w x' h hok hx hr, fun z hz => ?_⟩
  simp [hfork] at hz

end Invariant

end IdentityModel.Tasks
