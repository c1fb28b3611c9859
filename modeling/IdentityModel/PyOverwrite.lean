import IdentityModel.PyLocks

/-!
# Overwriting cached keys

An answer that reaches the JWKS cache replaces the entry of its URI. On one event
loop the fetch lock orders requests and writes alike, so an entry is never replaced
by the answer to an earlier request; requests of two loops are not ordered.
-/
namespace IdentityModel.Py

open Runs Tasks Ledger

/-- No entry is replaced by the answer to an earlier request, for the pairs of loops
in `related`. -/
def NeverOlder (related : ℕ → ℕ → Prop) : KeyTrace → Prop
  | [] => True
  | .written w :: rest =>
      (w.stored.isSome = true → ∀ v, current w.key rest = some v → related v.party w.party →
        v.request < w.request) ∧ NeverOlder related rest
  | _ :: rest => NeverOlder related rest

theorem neverOlder_evicted {related : ℕ → ℕ → Prop} {keys : List String} {trace : KeyTrace}
    (h : NeverOlder related trace) : NeverOlder related (keys.map .evicted ++ trace) := by
  induction keys with
  | nil => exact h
  | cons key keys ih => exact ih

/-- The request of a call in flight is newer than the entry its own loop wrote. -/
def LoopTask.Ahead (r : Record) (x : LoopTask) : Prop :=
  ∀ uri, x.task.flight = some uri → ∀ v, current uri r.trace = some v → v.party = x.loop →
    v.request < x.request

section Step

variable {rt : Runtime} {r r' : Record} {x x' y : LoopTask}

/-- The entry a cache holds after a move was there before, or is what it wrote. -/
theorem Effect.current_cases (h : Effect rt r x r' x') {uri : String} {v : KeyWrite}
    (hv : current uri r'.trace = some v) :
    current uri r.trace = some v ∨
      (x.task.flight = some uri ∧ v.party = x.loop ∧ v.request = x.request) := by
  cases h with
  | quiet before after trace => exact .inl (trace ▸ hv)
  | sent uri' purpose before after request trace =>
      rw [trace] at hv
      exact .inl hv
  | answered uri' purpose response before after request trace => exact .inl (trace ▸ hv)
  | raised uri' purpose before after aio trace => exact .inl (trace ▸ hv)
  | wrote uri' response evicted before after trace =>
      rw [trace, current_evicted] at hv
      split at hv
      · cases hv
      · simp only [current] at hv
        split at hv
        · rename_i hk
          cases hv
          right
          rw [Task.flight_of_phase before, ← hk.1]
          exact ⟨rfl, rfl, rfl⟩
        · exact .inl hv
  | cleared before after call trace =>
      rw [trace] at hv
      cases hv

theorem Effect.neverOlder (h : Effect rt r x r' x') (hr : NeverOlder (· = ·) r.trace)
    (hx : x.Ahead r) : NeverOlder (· = ·) r'.trace := by
  cases h with
  | quiet before after trace => exact trace ▸ hr
  | sent uri purpose before after request trace =>
      rw [trace]
      exact hr
  | answered uri purpose response before after request trace => exact trace ▸ hr
  | raised uri purpose before after aio trace => exact trace ▸ hr
  | wrote uri response evicted before after trace =>
      have hflight : x.task.flight = some uri := Task.flight_of_phase before
      rw [trace]
      exact neverOlder_evicted ⟨fun _ => hx uri hflight, hr⟩
  | cleared before after call trace =>
      rw [trace]
      exact hr

theorem Effect.ahead (h : Effect rt r x r' x') (hloop : x'.loop = x.loop) (hr : r.Kept)
    (hx : x.Ahead r) : x'.Ahead r' := by
  intro uri hin v hv hparty
  obtain ⟨hreq, purpose, htrace⟩ | ⟨hreq, hflight, htrace⟩ := h.flight_cases hin
  · have hv : current uri r.trace = some v := by simpa [htrace, current] using hv
    have hlt := sents_lt (hr.ordered.request_mem (current_mem hv).1)
    omega
  · rw [hreq]
    rw [htrace] at hv
    exact hx uri hflight v hv (hparty.trans hloop)

theorem Effect.other_ahead (h : Effect rt r x r' x') (hxy : Apart rt x y) (hy : y.Ahead r) :
    y.Ahead r' := by
  intro uri hin v hv hparty
  obtain hv | ⟨hflight, hloop, -⟩ := h.current_cases hv
  · exact hy uri hin v hv hparty
  · exact absurd hin (hxy.flights (hloop.symm.trans hparty) hflight)

end Step

/-- On one event loop, keys are never replaced by the answer to an earlier request. -/
theorem overwritten_in_order {rt : Runtime} {ls : List LoopLabel} {s : LoopState}
    (hrun : runLoops rt initialLoops ls = some s) :
    NeverOlder (fun a b => a = b) s.shared.trace := by
  have hjoint : Joint rt (fun r => NeverOlder (· = ·) r.trace) (fun r x => x.Ahead r) s := by
    refine joint_run (fun _ _ => True) ?_ ?_ trivial (Meets.of_forall fun _ _ => trivial) hrun
    · intro r x hidle uri hin
      rw [hidle] at hin
      cases hin
    · intro s t e x r' x' h _ hx heff hloop
      have hahead := h.each t x hx
      refine ⟨heff.neverOlder h.shared hahead, heff.ahead hloop h.accounted.shared hahead, ?_⟩
      intro j y hy hxy
      exact heff.other_ahead hxy (h.each j y hy)
  exact hjoint.shared

/-- A refresh that replaces the keys of its own call's fetch. -/
theorem overwritten_in_order_refresh :
    ∃ s, runLoops (sampleRuntime .aio) initialLoops
        (.spawn (0, sampleCall) :: onLoops (missRun "k1")) = some s ∧
      (current "https://idp/jwks" s.shared.trace).map (fun w => w.request) = some 2 ∧
      NeverOlder (fun a b => a = b) s.shared.trace := by
  have hrun := eq_some_getD initialLoops (show (runLoops (sampleRuntime .aio) initialLoops
    (.spawn (0, sampleCall) :: onLoops (missRun "k1"))).isSome = true by decide +kernel)
  exact ⟨_, hrun, by decide +kernel, overwritten_in_order hrun⟩

/-- Coroutines on any number of loops never replace an entry by the answer to an
earlier request. -/
def NoStaleOverwrite : Prop :=
  ∀ (rt : Runtime) (ls : List LoopLabel) (s : LoopState), rt.flavour = .aio →
    Meets (loops rt).step (fun s l => loopCooperative s l = true) initialLoops ls →
    runLoops rt initialLoops ls = some s → NeverOlder (fun _ _ => True) s.shared.trace

/-- Two loops fetch the same keys; the loop that asked last is answered first. -/
def crossedAnswers : List LoopLabel :=
  coldStart 0 ++ secondStart 1 ++
    onLoops ([oneKeyAnswer 1 1 "k2"] ++ runsAt 1 1 1 ++ [oneKeyAnswer 0 2 "k1"] ++ runsAt 0 2 1)

theorem older_answer_overwrites : ¬ NoStaleOverwrite := by
  intro h
  have hrun := eq_some_getD initialLoops (show (runLoops (sampleRuntime .aio) initialLoops
    crossedAnswers).isSome = true by decide +kernel)
  have hnever := h _ crossedAnswers _ rfl (by decide +kernel) hrun
  have hold : ((runLoops (sampleRuntime .aio) initialLoops crossedAnswers).getD
      initialLoops).shared.trace.head? = some (.written ⟨0, 0, "https://idp/jwks",
        some (oneKeyEntry "k1" 2)⟩) := by decide +kernel
  rw [List.eq_cons_of_mem_head? hold] at hnever
  have hlt := hnever.1 rfl ⟨1, 1, "https://idp/jwks", some (oneKeyEntry "k2" 1)⟩ (by decide +kernel) trivial
  exact absurd hlt (by decide)

end IdentityModel.Py
