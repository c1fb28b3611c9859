import IdentityModel.PyOverwrite

/-!
# Clearing the Python JWKS cache

`clear_jwks_cache` empties the cache under its write lock. A call whose request is
out at that time takes the lock when it is answered, and writes keys that were
requested before the clear. Runs in which the cache is cleared only while no request
is in flight keep it free of such keys.
-/
namespace IdentityModel.Py

open Runs Tasks Ledger

/-- The cache is cleared only while no request for keys is in flight. -/
def clearsQuietly (s : LoopState) : LoopLabel → Bool
  | .spawn _ => true
  | .move t _ =>
      match (s.tasks[t]?).map LoopTask.task with
      | some (.clearJwks false) => s.tasks.all fun y => y.task.flight.isNone
      | _ => true

theorem clearsQuietly_clear {s : LoopState} {t : ℕ} {e : Event} {x : LoopTask}
    (hok : clearsQuietly s (.move t e) = true) (hx : s.tasks[t]? = some x)
    (hclear : x.task = .clearJwks false) (j : ℕ) (y : LoopTask) (hy : s.tasks[j]? = some y) :
    y.task.flight = none := by
  simp only [clearsQuietly, hx, Option.map_some, hclear, List.all_eq_true] at hok
  simpa using hok y (List.mem_of_getElem? hy)

/-- What is in the cache was requested after every clear; when nothing was requested
since a clear, the cache is empty. -/
structure ClearedForGood (r : Record) : Prop where
  requested : ∀ uri entry, r.shared.jwks.lookup uri = some entry →
    ∃ w, current uri r.trace = some w ∧ w.stored = some entry ∧ w.request ∈ sents r.trace ∧
      ∀ c ∈ clears r.trace, c < w.request
  empty : (∃ c ∈ clears r.trace, ∀ id ∈ sents r.trace, id < c) →
    ∀ uri, r.shared.jwks.lookup uri = none

/-- The entries of the cache were requested after every clear. -/
def Record.Current (r : Record) : Prop :=
  ∀ uri w, current uri r.trace = some w → ∀ c ∈ clears r.trace, c < w.request

/-- A request in flight was sent after every clear. -/
def LoopTask.Current (r : Record) (x : LoopTask) : Prop :=
  x.task.flight ≠ none → ∀ c ∈ clears r.trace, c < x.request

section Step

variable {rt : Runtime} {r r' : Record} {x x' y : LoopTask}

theorem Effect.clears_cases (h : Effect rt r x r' x') :
    clears r'.trace = clears r.trace ∨
      (x.task = .clearJwks false ∧ r'.trace = .cleared :: r.trace ∧ x'.task.flight = none) := by
  cases h with
  | quiet before after trace => exact .inl (by rw [trace])
  | sent uri purpose before after request trace =>
      left
      rw [trace]
      rfl
  | answered uri purpose response before after request trace => exact .inl (by rw [trace])
  | raised uri purpose before after aio trace => exact .inl (by rw [trace])
  | wrote uri response evicted before after trace =>
      left
      rw [trace, clears_evicted]
      rfl
  | cleared before after call trace => exact .inr ⟨call, trace, Task.flight_of_phase after⟩

theorem Effect.record_current (h : Effect rt r x r' x') (hr : r.Current) (hx : x.Current r) :
    r'.Current := by
  intro uri w hw c hc
  obtain hclears | ⟨-, htrace, -⟩ := h.clears_cases
  · rw [hclears] at hc
    obtain hw | ⟨hflight, -, hreq⟩ := h.current_cases hw
    · exact hr uri w hw c hc
    · rw [hreq]
      exact hx (by simp [hflight]) c hc
  · rw [htrace] at hw
    cases hw

theorem Effect.flight_current (h : Effect rt r x r' x') (hx : x.Current r) : x'.Current r' := by
  intro hin c hc
  obtain ⟨uri, huri⟩ := Option.ne_none_iff_exists'.mp hin
  obtain hclears | ⟨-, -, hidle⟩ := h.clears_cases
  · rw [hclears] at hc
    obtain ⟨hreq, -⟩ | ⟨hreq, hflight, -⟩ := h.flight_cases huri
    · rw [hreq]
      exact clears_lt hc
    · rw [hreq]
      exact hx (by simp [hflight]) c hc
  · exact absurd hidle hin

end Step

/-- After every run in which the cache is cleared only while no request is in flight,
a cleared cache stays cleared of what was requested before. -/
theorem clearedForGood_run {rt : Runtime} {ls : List LoopLabel} {s : LoopState}
    (hok : Meets (loops rt).step (fun s l => clearsQuietly s l = true) initialLoops ls)
    (hrun : runLoops rt initialLoops ls = some s) : ClearedForGood s.shared := by
  have h : Joint rt Record.Current LoopTask.Current s := by
    refine joint_run _ ?_ ?_ ?_ hok hrun
    · intro r x hidle hin
      exact absurd hidle hin
    · intro s t e x r' x' h hok hx heff hloop
      have hxcur := h.each t x hx
      refine ⟨heff.record_current h.shared hxcur, heff.flight_current hxcur, fun j y hy _ hin c hc => ?_⟩
      obtain hclears | ⟨hclear, -, -⟩ := heff.clears_cases
      · exact h.each j y hy hin c (hclears ▸ hc)
      · exact absurd (clearsQuietly_clear hok hx hclear j y hy) hin
    · intro uri w hw
      cases hw
  have hrequested (uri : String) (entry : CacheEntry JwksResponse)
      (hentry : s.shared.shared.jwks.lookup uri = some entry) :
      ∃ w, current uri s.shared.trace = some w ∧ w.stored = some entry ∧
        w.request ∈ sents s.shared.trace ∧ ∀ c ∈ clears s.shared.trace, c < w.request := by
    rw [h.accounted.shared.mirror] at hentry
    obtain ⟨w, hw, hstored⟩ := Option.bind_eq_some_iff.mp hentry
    exact ⟨w, hw, hstored, h.accounted.shared.ordered.request_mem (current_mem hw).1,
      h.shared uri w hw⟩
  refine ⟨hrequested, fun ⟨c, hc, hnone⟩ uri => ?_⟩
  cases hl : s.shared.shared.jwks.lookup uri with
  | none => rfl
  | some entry =>
      obtain ⟨w, -, -, hsent, hafter⟩ := hrequested uri entry hl
      have hlt := hafter c hc
      have hgt := hnone w.request hsent
      omega

end IdentityModel.Py
