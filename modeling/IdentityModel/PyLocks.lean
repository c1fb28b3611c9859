import IdentityModel.PyLoops

/-!
# The fetch locks of the JWKS cache

A call holds the stripe of its `jwks_uri` between taking it and the last operation
it makes under it, and with it whenever it has a request out or an answer to
write. No two calls of one event loop hold the same stripe; calls of different
loops may.
-/
namespace IdentityModel.Py

open Runs Tasks Ledger

/-- The stripe a validation holds at a program counter. -/
def Pc.holds (rt : Runtime) : Pc → Option ℕ
  | .jwksTouch d _ true => some (rt.jwksLock d.uri)
  | .jwksRecheck d => some (rt.jwksLock d.uri)
  | .jwksFetch d => some (rt.jwksLock d.uri)
  | .jwksWrite d _ => some (rt.jwksLock d.uri)
  | .refreshCheck d _ => some (rt.jwksLock d.uri)
  | .refreshFetch d _ => some (rt.jwksLock d.uri)
  | .refreshWrite d _ _ => some (rt.jwksLock d.uri)
  | _ => none

def Task.holds (rt : Runtime) : Task → Option ℕ
  | .token _ pc => pc.holds rt
  | _ => none

/-- What an operation does to the stripes. -/
inductive LockEffect (w w' : Shared) (before after : Option ℕ) : Prop
  | keeps (holds : after = before) (held : w'.jwksHeld = w.jwksHeld)
  | takes (stripe : ℕ) (free : stripe ∉ w.jwksHeld) (before : before = none)
      (after : after = some stripe) (held : w'.jwksHeld = stripe :: w.jwksHeld)
  | releases (stripe : ℕ) (before : before = some stripe) (after : after = none)
      (held : w'.jwksHeld = release stripe w.jwksHeld)

section Operations

variable {rt : Runtime} {w w' : Shared} {req : Request} {pc pc' : Pc} {act : Act}

theorem Landing.holds {d : Disco} (h : Landing d pc) : pc.holds rt = none := by
  cases h <;> rfl

theorem afterDisco_holds (response : DiscoveryDocumentResponse) :
    (afterDisco rt response).holds rt = none := by
  obtain ⟨result, h⟩ | ⟨d, h⟩ := afterDisco_landing rt response <;> rw [h] <;> rfl

theorem afterRefresh_holds (req : Request) (d : Disco) (why : Why) (response : JwksResponse)
    (retained : Bool) : (afterRefresh rt req d why response retained).holds rt = none := by
  obtain h | ⟨stamp, next, h, hnext⟩ := afterRefresh_landing rt req d why response retained
  · exact h.holds
  · rw [h]
    rfl

theorem Advance.lockEffect (h : Advance rt w req pc act w' pc') (hpc : pc.Tidy) :
    LockEffect w w' (pc.holds rt) (pc'.holds rt) := by
  cases h with
  | discoTouch response locked held => exact .keeps (afterDisco_holds _) rfl
  | discoWrite response held => exact .keeps (afterDisco_holds _) rfl
  | jwksTouch d response locked held hheld =>
      cases locked with
      | false => exact .keeps (afterJwks_landing rt req d _).holds hheld
      | true => exact .releases _ rfl (afterJwks_landing rt req d _).holds hheld
  | jwksLock d hfree => exact .takes _ hfree rfl rfl rfl
  | jwksRaised d response e held hraised hheld => exact .releases _ rfl rfl hheld
  | jwksWrite d response held hheld =>
      exact .releases _ rfl (afterJwks_landing rt req d _).holds hheld
  | gateBlocked d why now => exact .keeps (afterBlocked_landing rt req d why).holds rfl
  | refreshLock d why hfree => exact .takes _ hfree rfl rfl rfl
  | coalesced d why entry held hentry hnow hheld =>
      exact .releases _ rfl (afterRefresh_holds req d why _ _) hheld
  | refreshRaised d why response e held hraised hheld => exact .releases _ rfl rfl hheld
  | refreshWrite d why response => exact .releases _ rfl (afterRefresh_holds req d why _ _) rfl
  | settle d stamp _ => exact .keeps (Landing.holds hpc) rfl
  | _ => exact .keeps rfl rfl

end Operations

/-- A call in flight holds the stripe of its URI. -/
theorem Task.holds_of_flight {rt : Runtime} {x : Task} {uri : String} (h : x.flight = some uri) :
    x.holds rt = some (rt.jwksLock uri) := by
  cases x with
  | token req pc => cases pc <;> cases h <;> rfl
  | clearJwks done => cases h
  | clearDisco done => cases h

/-- What holds of each call: its request and its stripe are on record. -/
structure LoopTask.Accounted (rt : Runtime) (r : Record) (x : LoopTask) : Prop where
  kept : x.Kept rt r
  held : ∀ stripe, x.task.holds rt = some stripe → stripe ∈ r.jwksHeld x.loop

/-- Two calls of one loop hold different stripes, and calls in flight have different
requests. -/
structure Apart (rt : Runtime) (x y : LoopTask) : Prop where
  stripes : x.loop = y.loop → ∀ stripe, x.task.holds rt = some stripe → y.task.holds rt ≠ some stripe
  requests : x.task.flight ≠ none → y.task.flight ≠ none → x.request ≠ y.request

abbrev Accounted (rt : Runtime) : LoopState → Prop :=
  Holds Record.Kept (LoopTask.Accounted rt) (Apart rt)

theorem Apart.symm {rt : Runtime} (x y : LoopTask) (h : Apart rt x y) : Apart rt y x :=
  ⟨fun hloop stripe hy hx => h.stripes hloop.symm stripe hx hy,
    fun hy hx => (h.requests hx hy).symm⟩

section Step

variable {rt : Runtime} {r r' : Record} {x x' y : LoopTask} {e : Event}

/-- What a move does to the stripes of the loops. -/
theorem loops_locks (h : (loops rt).move r x e = some (r', x')) (hx : x.task.Tidy) :
    (∀ loop, loop ≠ x.loop → r'.jwksHeld loop = r.jwksHeld loop) ∧
      ∃ w w' : Shared, w.jwksHeld = r.jwksHeld x.loop ∧ w'.jwksHeld = r'.jwksHeld x.loop ∧
        LockEffect w w' (x.task.holds rt) (x'.task.holds rt) := by
  obtain ⟨w, y, hnow, hmoved, rfl, rfl⟩ := loops_move h
  obtain ⟨task, loop, request⟩ := x
  refine ⟨fun l hl => Function.update_of_ne hl _ _, ?_⟩
  refine ⟨{ r.view loop with now := e.now }, w, rfl, by simp, ?_⟩
  cases hmoved with
  | token req pc _ pc' hadv => exact hadv.lockEffect hx
  | clearJwks => exact .keeps rfl rfl
  | clearDisco => exact .keeps rfl rfl

/-- The stripes of a call after a move of its own. -/
theorem held_of_move (h : (loops rt).move r x e = some (r', x')) (hloop : x'.loop = x.loop)
    (hx : x.Accounted rt r) (stripe : ℕ) (hs : x'.task.holds rt = some stripe) :
    stripe ∈ r'.jwksHeld x'.loop := by
  obtain ⟨-, w, w', hw, hw', heff⟩ := loops_locks h hx.kept.tidy
  rw [hloop, ← hw']
  cases heff with
  | keeps holds held =>
      rw [held, hw]
      exact hx.held stripe (holds ▸ hs)
  | takes taken free before after held =>
      rw [after] at hs
      cases hs
      rw [held]
      exact List.mem_cons_self
  | releases released before after held =>
      rw [after] at hs
      cases hs

/-- A move of one call leaves the stripes of another where they are, and apart. -/
theorem apart_of_move (h : (loops rt).move r x e = some (r', x')) (hloop : x'.loop = x.loop)
    (hx : x.Accounted rt r) (hy : y.Accounted rt r) (hxy : Apart rt x y) :
    (∀ stripe, y.task.holds rt = some stripe → stripe ∈ r'.jwksHeld y.loop) ∧
      (x'.loop = y.loop → ∀ stripe, x'.task.holds rt = some stripe →
        y.task.holds rt ≠ some stripe) := by
  obtain ⟨hother, w, w', hw, hw', heff⟩ := loops_locks h hx.kept.tidy
  by_cases hl : x.loop = y.loop
  · constructor
    · intro stripe hs
      have hmem := hy.held stripe hs
      rw [← hl, ← hw] at hmem
      rw [← hl, ← hw']
      cases heff with
      | keeps holds held => rwa [held]
      | takes taken free before after held =>
          rw [held]
          exact List.mem_cons_of_mem _ hmem
      | releases released before after held =>
          have hne : stripe ≠ released := by
            rintro rfl
            exact hxy.stripes hl stripe before hs
          rw [held]
          simpa [release, hne] using hmem
    · intro _ stripe hs hsy
      cases heff with
      | keeps holds held => exact hxy.stripes hl stripe (holds ▸ hs) hsy
      | takes taken free before after held =>
          obtain rfl : taken = stripe := Option.some.inj (after.symm.trans hs)
          have hmem := hy.held taken hsy
          rw [← hl, ← hw] at hmem
          exact free hmem
      | releases released before after held =>
          rw [after] at hs
          cases hs
  · refine ⟨fun stripe hs => ?_, fun hl' => absurd (hloop.symm.trans hl') hl⟩
    rw [hother y.loop (Ne.symm hl)]
    exact hy.held stripe hs

end Step

theorem Call.start_holds (rt : Runtime) (now : ℚ) (call : Call) :
    (call.start (rt.at now)).holds rt = none := by
  cases call with
  | validateToken jwt config address =>
      obtain ⟨pc, h, rfl | ⟨result, rfl⟩⟩ := startToken_eq (rt.at now) jwt config address
      · rw [Call.start, h]
        rfl
      · rw [Call.start, h]
        rfl
  | clearJwksCache => rfl
  | clearDiscoveryCache => rfl

/-- A call that has just started. -/
theorem Call.start_accounted (rt : Runtime) (now : ℚ) (r : Record) (b : ℕ × Call) :
    LoopTask.Accounted rt r ⟨b.2.start (rt.at now), rt.lockLoop b.1, 0⟩ := by
  have hidle : (b.2.start (rt.at now)).flight = none := Task.flight_of_phase (b.2.start_idle _).2
  refine ⟨⟨(b.2.start_idle _).1, fun hsync => ?_, fun hin => absurd hidle hin,
    fun hin => absurd hidle hin⟩, fun stripe hs => ?_⟩
  · simp [Runtime.lockLoop, hsync]
  · rw [b.2.start_holds rt now] at hs
    cases hs

theorem accounted_step (rt : Runtime) (s : LoopState) (l : LoopLabel) (s' : LoopState)
    (h : Accounted rt s) (hstep : (loops rt).step s l = some s') : Accounted rt s' := by
  refine Machine.holds_step (loops_fork rt) (fun _ _ => True) Apart.symm ?_ ?_ s l s' h trivial hstep
  · intro s b w x hs _ hspawn
    obtain ⟨rfl, rfl⟩ := loops_spawn hspawn
    refine ⟨hs.shared, Call.start_accounted rt _ _ b, fun j y hy => ⟨hs.each j y hy, ?_, ?_⟩⟩
    · intro _ stripe hx
      rw [b.2.start_holds rt _] at hx
      cases hx
    · intro hx
      exact absurd (Task.flight_of_phase (b.2.start_idle _).2) hx
  · intro s t e x w x' hs _ hx hmove
    have hacc := hs.each t x hx
    obtain ⟨heff, htidy, hloop, hnow⟩ := loops_effect hmove hacc.kept.tidy
    refine ⟨heff.kept hnow hs.shared hacc.kept, ⟨heff.request_kept hs.shared hacc.kept htidy hloop,
      held_of_move hmove hloop hacc⟩, fun j y hj hy => ?_⟩
    have hyacc := hs.each j y hy
    have hxy := hs.pair t j x y hj.symm hx hy
    obtain ⟨hheld, hstripes⟩ := apart_of_move hmove hloop hacc hyacc hxy
    exact ⟨⟨heff.other_kept hyacc.kept hxy.requests, hheld⟩, hstripes,
      heff.distinct hyacc.kept hxy.requests⟩

theorem accounted_initial (rt : Runtime) : Accounted rt initialLoops := by
  refine Holds.of_idle ⟨fun k => rfl, trivial, ?_, ?_⟩ rfl
  · intro w v hw
    cases hw
  · intro loop uri purpose at_ hmem
    cases hmem

/-- In every reachable state the ledger tells what the cache holds, and no two calls
of one loop hold the same stripe. -/
theorem accounted_run {rt : Runtime} {ls : List LoopLabel} {s : LoopState}
    (hrun : runLoops rt initialLoops ls = some s) : Accounted rt s :=
  exec_preserves (accounted_step rt) (accounted_initial rt) hrun

/-- Two calls of one loop never have a request for the same URI in flight. -/
theorem Apart.flights {rt : Runtime} {x y : LoopTask} (h : Apart rt x y) (hloop : x.loop = y.loop)
    {uri : String} (hx : x.task.flight = some uri) : y.task.flight ≠ some uri :=
  fun hy => h.stripes hloop _ (Task.holds_of_flight hx) (Task.holds_of_flight hy)

/-- A fact about the record and one about each call, beside what is accounted for. -/
structure Joint (rt : Runtime) (G : Record → Prop) (L : Record → LoopTask → Prop)
    (s : LoopState) : Prop where
  accounted : Accounted rt s
  shared : G s.shared
  each : ∀ (i : ℕ) x, s.tasks[i]? = some x → L s.shared x

section Joint

variable {rt : Runtime} {G : Record → Prop} {L : Record → LoopTask → Prop}
  (ok : LoopState → LoopLabel → Prop) (hidle : ∀ r x, x.task.flight = none → L r x)
  (hmove : ∀ s t e x r' x', Joint rt G L s → ok s (.move t e) → s.tasks[t]? = some x →
    Effect rt s.shared x r' x' → x'.loop = x.loop →
    G r' ∧ L r' x' ∧ ∀ (j : ℕ) y, s.tasks[j]? = some y → Apart rt x y → L r' y)
include hidle hmove

/-- The step rule: a fact about calls that holds of idle ones, and is kept by what a
move does to the ledger. -/
theorem joint_step (s : LoopState) (l : LoopLabel) (s' : LoopState) (h : Joint rt G L s)
    (hok : ok s l) (hstep : (loops rt).step s l = some s') : Joint rt G L s' := by
  have hacc := accounted_step rt s l s' h.accounted hstep
  cases l with
  | spawn b =>
      obtain ⟨w, x, hspawn, rfl⟩ := Machine.step_spawn hstep
      obtain ⟨rfl, rfl⟩ := loops_spawn hspawn
      refine ⟨hacc, h.shared, fun i y hy => ?_⟩
      obtain hy | ⟨-, rfl⟩ := getElem?_snoc hy
      · exact h.each i y hy
      · exact hidle _ _ (Task.flight_of_phase (b.2.start_idle _).2)
  | move t e =>
      obtain ⟨x, w, x', hx, hm, rfl⟩ := Machine.step_move (loops_fork rt) hstep
      have htidy := (h.accounted.each t x hx).kept.tidy
      obtain ⟨heff, -, hloop, -⟩ := loops_effect hm htidy
      obtain ⟨hG, hx', hothers⟩ := hmove s t e x w x' h hok hx heff hloop
      refine ⟨hacc, hG, fun i y hy => ?_⟩
      obtain ⟨-, rfl⟩ | ⟨hi, hy⟩ := getElem?_set_cases hy
      · exact hx'
      · exact hothers i y hy (h.accounted.pair t i x y hi.symm hx hy)

theorem joint_run {ls : List LoopLabel} {s : LoopState} (hinit : G initialLoops.shared)
    (hok : Meets (loops rt).step ok initialLoops ls)
    (hrun : runLoops rt initialLoops ls = some s) : Joint rt G L s :=
  exec_invariant (joint_step ok hidle hmove)
    ⟨accounted_initial rt, hinit, fun i x hx => by cases hx⟩ hok hrun

end Joint

end IdentityModel.Py
