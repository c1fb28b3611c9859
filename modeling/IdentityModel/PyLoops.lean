import IdentityModel.Ledger
import IdentityModel.PyBadAnswers
import IdentityModel.PyRefreshGate

/-!
# Event loops, and what is on record of the key requests

The cached token validation on several event loops. The caches are module-level
and shared by all of them; the fetch locks of the asynchronous module are those
of the loop a coroutine runs on, and threads share one set. Each move is a move
of `validator` that sees the locks of its own loop.

The ledger is a ghost: it records the requests for keys, the answers as they
reach the JWKS cache, evictions and clears. A call remembers the number of the
last request it sent.
-/
namespace IdentityModel.Py

open Runs Tasks Ledger

abbrev KeyWrite := Write String (CacheEntry JwksResponse)

abbrev KeyTrace := Trace String (CacheEntry JwksResponse) Purpose ℚ

/-- A call, the event loop it runs on, and its last request. -/
structure LoopTask where
  task : Task
  loop : ℕ
  request : ℕ

structure Record where
  shared : Shared
  /-- The stripes held, by loop. -/
  discoHeld : ℕ → List ℕ
  jwksHeld : ℕ → List ℕ
  trace : KeyTrace

abbrev LoopState := Pool Record LoopTask

/-- A call starts on an event loop. -/
abbrev LoopLabel := Tasks.Label (ℕ × Call) Event

/-- What a call running on a loop sees. -/
def Record.view (r : Record) (loop : ℕ) : Shared :=
  { r.shared with discoHeld := r.discoHeld loop, jwksHeld := r.jwksHeld loop }

/-- Where a call is with a request for keys. -/
inductive Phase
  | idle
  | out (uri : String) (purpose : Purpose)
  | answered (uri : String) (response : JwksResponse)
  deriving DecidableEq

/-- The URI a request in flight is for. -/
def Phase.uri : Phase → Option String
  | .idle => none
  | .out uri _ => some uri
  | .answered uri _ => some uri

def Pc.phase : Pc → Phase
  | .jwksFetch d => .out d.uri .fetch
  | .refreshFetch d why => .out d.uri why.purpose
  | .jwksWrite d response => .answered d.uri response
  | .refreshWrite d _ response => .answered d.uri response
  | _ => .idle

def Task.phase : Task → Phase
  | .token _ pc => pc.phase
  | _ => .idle

/-- The URI for which a call has a request in flight or an answer to write. -/
def Task.flight (x : Task) : Option String := x.phase.uri

/-- The entry an answer is stored as, when it is. -/
def storedEntry (env : Env) (response : JwksResponse) (now : ℚ) : Option (CacheEntry JwksResponse) :=
  if response.bad then none else some (jwksEntry env response now)

/-- What a move puts on record, given the call before it and after it. -/
def moveEvents (rt : Runtime) (r : Record) (x : LoopTask) (y : Task) (now : ℚ) : KeyTrace :=
  match x.task, x.task.phase, y.phase with
  | .clearJwks false, _, _ => [.cleared]
  | _, .answered uri response, _ =>
      (applyJwksCacheOutcome rt.env r.shared.jwks r.shared.lastAttempt uri response now).2.2.map
          .evicted ++
        [.written ⟨x.request, x.loop, uri, storedEntry rt.env response now⟩]
  | _, .idle, .out uri purpose => [.sent x.loop uri purpose now]
  | _, _, _ => []

/-- The number of the last request of a call after a move. -/
def nextRequest (r : Record) (x : LoopTask) (y : Task) : ℕ :=
  match x.task.phase, y.phase with
  | .idle, .out .. => r.trace.length
  | _, _ => x.request

/-- The loop whose locks a call takes: threads have one set of locks. -/
def Runtime.lockLoop (rt : Runtime) (loop : ℕ) : ℕ :=
  match rt.flavour with
  | .sync => 0
  | .aio => loop

/-- The module on several event loops. -/
def loops (rt : Runtime) : Machine Record LoopTask (ℕ × Call) Event where
  spawn r b := some (r, ⟨b.2.start (rt.at r.shared.now), rt.lockLoop b.1, 0⟩)
  move r x e :=
    ((validator rt).move (r.view x.loop) x.task e).map fun m =>
      (⟨m.1, Function.update r.discoHeld x.loop m.1.discoHeld,
          Function.update r.jwksHeld x.loop m.1.jwksHeld, moveEvents rt r x m.2 e.now ++ r.trace⟩,
        ⟨m.2, x.loop, nextRequest r x m.2⟩)

theorem loops_fork (rt : Runtime) (r : Record) (x : LoopTask) (e : Event) :
    (loops rt).fork r x e = none := rfl

/-- A fresh process. -/
def initialLoops : LoopState := ⟨⟨initial.shared, fun _ => [], fun _ => [], []⟩, []⟩

abbrev runLoops (rt : Runtime) : LoopState → List LoopLabel → Option LoopState :=
  exec (loops rt).step

/-- Coroutines: one moves only while the others of its loop are suspended. -/
def loopCooperative (s : LoopState) : LoopLabel → Bool
  | .spawn _ => true
  | .move t _ =>
      match s.tasks[t]? with
      | none => true
      | some x => s.tasks.zipIdx.all fun y => y.2 = t || y.1.loop ≠ x.loop || y.1.task.suspended

/-- Moves of calls, as labels of the module on several loops. -/
def onLoops (ls : List Label) : List LoopLabel :=
  ls.filterMap fun l =>
    match l with
    | .move t e => some (.move t e)
    | .spawn _ => none

/-- A call on a loop, on empty caches, with its key request out. -/
def coldStart (loop : ℕ) : List LoopLabel :=
  .spawn (loop, sampleCall) :: onLoops (runsAt 0 0 3 ++ [.move 0 ⟨0, .discovery sampleAnswer⟩] ++
    runsAt 0 0 4)

/-- A second call on a loop, with its key request out. -/
def secondStart (loop : ℕ) : List LoopLabel :=
  .spawn (loop, sampleCall) :: onLoops (runsAt 1 0 5)

/-- The entry `oneKeyAnswer` is stored as. -/
def oneKeyEntry (kid : String) (now : ℚ) : CacheEntry JwksResponse :=
  ⟨{ isSuccessful := true, keys := some [{ kty := "RSA", kid := some kid }] }, now, 86400⟩

/-- After a settlement a call returns or comes to its gate. -/
def Pc.Tidy : Pc → Prop
  | .settle d _ next => Landing d next
  | _ => True

def Task.Tidy : Task → Prop
  | .token _ pc => pc.Tidy
  | _ => True

section Tidy

variable {d : Disco} {pc : Pc}

theorem Landing.tidy (h : Landing d pc) : pc.Tidy := by
  cases h <;> trivial

theorem Landing.phase (h : Landing d pc) : pc.phase = .idle := by
  cases h <;> rfl

theorem afterDisco_tidy (rt : Runtime) (response : DiscoveryDocumentResponse) : (afterDisco rt response).Tidy := by
  obtain ⟨result, h⟩ | ⟨d, h⟩ := afterDisco_landing rt response <;> rw [h] <;> trivial

theorem afterDisco_phase (rt : Runtime) (response : DiscoveryDocumentResponse) :
    (afterDisco rt response).phase = .idle := by
  obtain ⟨result, h⟩ | ⟨d, h⟩ := afterDisco_landing rt response <;> rw [h] <;> rfl

end Tidy

section Refresh

variable (rt : Runtime) (req : Request) (d : Disco) (why : Why) (response : JwksResponse)
  (retained : Bool)

theorem afterRefresh_tidy : (afterRefresh rt req d why response retained).Tidy := by
  obtain h | ⟨stamp, next, h, hnext⟩ := afterRefresh_landing rt req d why response retained
  · exact h.tidy
  · rw [h]
    exact hnext

theorem afterRefresh_phase : (afterRefresh rt req d why response retained).phase = .idle := by
  obtain h | ⟨stamp, next, h, hnext⟩ := afterRefresh_landing rt req d why response retained
  · exact h.phase
  · rw [h]
    rfl

end Refresh

theorem Advance.tidy {rt : Runtime} {w w' : Shared} {req : Request} {pc pc' : Pc} {act : Act}
    (h : Advance rt w req pc act w' pc') (hpc : pc.Tidy) : pc'.Tidy := by
  cases h with
  | discoTouch response locked held => exact afterDisco_tidy rt _
  | discoWrite response held => exact afterDisco_tidy rt _
  | jwksTouch d response locked held => exact (afterJwks_landing rt req d _).tidy
  | jwksWrite d response held => exact (afterJwks_landing rt req d _).tidy
  | gateBlocked d why now => exact (afterBlocked_landing rt req d why).tidy
  | coalesced d why entry held => exact afterRefresh_tidy rt req d why _ _
  | refreshWrite d why response => exact afterRefresh_tidy rt req d why _ _
  | settle d stamp _ => exact Landing.tidy hpc
  | _ => trivial

/-- A call starts with no request out. -/
theorem Call.start_idle (rt : Runtime) (call : Call) :
    (call.start rt).Tidy ∧ (call.start rt).phase = .idle := by
  cases call with
  | validateToken jwt config address =>
      obtain ⟨pc, h, rfl | ⟨result, rfl⟩⟩ := startToken_eq rt jwt config address
      · rw [Call.start, h]
        exact ⟨trivial, rfl⟩
      · rw [Call.start, h]
        exact ⟨trivial, rfl⟩
  | clearJwksCache => exact ⟨trivial, rfl⟩
  | clearDiscoveryCache => exact ⟨trivial, rfl⟩

/-- What a move does to the cache and the ledger. -/
inductive Effect (rt : Runtime) (r : Record) (x : LoopTask) (r' : Record) (x' : LoopTask) : Prop
  | quiet (before : x.task.phase = .idle) (after : x'.task.phase = .idle)
      (trace : r'.trace = r.trace)
      (cache : ∀ k, r'.shared.jwks.lookup k = r.shared.jwks.lookup k)
  | sent (uri : String) (purpose : Purpose) (before : x.task.phase = .idle)
      (after : x'.task.phase = .out uri purpose) (request : x'.request = r.trace.length)
      (trace : r'.trace = .sent x.loop uri purpose r'.shared.now :: r.trace)
      (cache : r'.shared.jwks = r.shared.jwks)
      (missed : purpose = .fetch →
        freshResponse (r.shared.jwks.lookup uri) r'.shared.now = none)
  | answered (uri : String) (purpose : Purpose) (response : JwksResponse)
      (before : x.task.phase = .out uri purpose) (after : x'.task.phase = .answered uri response)
      (request : x'.request = x.request) (trace : r'.trace = r.trace)
      (cache : r'.shared.jwks = r.shared.jwks)
  | raised (uri : String) (purpose : Purpose) (before : x.task.phase = .out uri purpose)
      (after : x'.task.phase = .idle) (aio : rt.flavour = .aio) (trace : r'.trace = r.trace)
      (cache : r'.shared.jwks = r.shared.jwks)
  | wrote (uri : String) (response : JwksResponse) (evicted : List String)
      (before : x.task.phase = .answered uri response) (after : x'.task.phase = .idle)
      (trace : r'.trace = evicted.map .evicted ++ .written ⟨x.request, x.loop, uri,
        storedEntry rt.env response r'.shared.now⟩ :: r.trace)
      (cache : (r'.shared.jwks, evicted) = ((applyJwksCacheOutcome rt.env r.shared.jwks
        r.shared.lastAttempt uri response r'.shared.now).1, (applyJwksCacheOutcome rt.env
          r.shared.jwks r.shared.lastAttempt uri response r'.shared.now).2.2))
  | cleared (before : x.task.phase = .idle) (after : x'.task.phase = .idle)
      (call : x.task = .clearJwks false) (trace : r'.trace = .cleared :: r.trace)
      (cache : r'.shared.jwks = ∅)

theorem countingError_sync {rt : Runtime} {address : String} {policy : DiscoveryPolicy}
    {e : PyError} (h : rt.countingError address policy = some e) : rt.flavour = .aio := by
  cases hf : rt.flavour with
  | sync => simp [Runtime.countingError, hf] at h
  | aio => rfl

section Inversion

variable {rt : Runtime} {r r' : Record} {x x' : LoopTask} {e : Event}

theorem loops_move (h : (loops rt).move r x e = some (r', x')) :
    ∃ w y, r.shared.now ≤ e.now ∧
      Moved (rt.at e.now) { r.view x.loop with now := e.now } e.act x.task w y ∧
      r' = ⟨w, Function.update r.discoHeld x.loop w.discoHeld,
        Function.update r.jwksHeld x.loop w.jwksHeld, moveEvents rt r x y e.now ++ r.trace⟩ ∧
      x' = ⟨y, x.loop, nextRequest r x y⟩ := by
  obtain ⟨⟨w, y⟩, hm, hr⟩ := Option.map_eq_some_iff.mp h
  cases hr
  obtain ⟨hnow, hmoved⟩ := validator_move hm
  exact ⟨w, y, hnow, hmoved, rfl, rfl⟩

theorem Advance.effect {w : Shared} {req : Request} {pc pc' : Pc} {act : Act} {loop request : ℕ}
    {now time : ℚ} {dh jh : ℕ → List ℕ}
    (h : Advance (rt.at time) { r.view loop with now := now } req pc act w pc') (hpc : pc.Tidy) :
    Effect rt r ⟨.token req pc, loop, request⟩
      ⟨w, dh, jh, moveEvents rt r ⟨.token req pc, loop, request⟩ (.token req pc') now ++ r.trace⟩
      ⟨.token req pc', loop, nextRequest r ⟨.token req pc, loop, request⟩ (.token req pc')⟩ := by
  have hquiet (hb : pc.phase = .idle) (ha : pc'.phase = .idle)
      (hc : ∀ k, w.jwks.lookup k = r.shared.jwks.lookup k) :
      Effect rt r ⟨.token req pc, loop, request⟩
        ⟨w, dh, jh, moveEvents rt r ⟨.token req pc, loop, request⟩ (.token req pc') now ++ r.trace⟩
        ⟨.token req pc', loop, nextRequest r ⟨.token req pc, loop, request⟩ (.token req pc')⟩ :=
    .quiet hb ha (by simp [moveEvents, Task.phase, hb, ha]) hc
  cases h with
  | discoTouch response locked held => exact hquiet rfl (afterDisco_phase rt _) fun _ => rfl
  | discoWrite response held => exact hquiet rfl (afterDisco_phase rt _) fun _ => rfl
  | jwksTouch d response locked held =>
      exact hquiet rfl (afterJwks_landing _ req d _).phase fun k => Dict.lookup_touch _ _ _
  | jwksRecheckMiss d hmiss => exact .sent d.uri .fetch rfl rfl rfl rfl rfl fun _ => hmiss
  | jwksAnswer d response => exact .answered d.uri .fetch response rfl rfl rfl rfl rfl
  | jwksRaised d response e held hraised =>
      exact .raised d.uri .fetch rfl rfl (countingError_sync hraised) rfl rfl
  | jwksWrite d response held =>
      refine .wrote d.uri response _ rfl (afterJwks_landing _ req d _).phase ?_ rfl
      simp [moveEvents, Task.phase, Pc.phase]
      rfl
  | gateBlocked d why now => exact hquiet rfl (afterBlocked_landing _ req d why).phase fun _ => rfl
  | coalesced d why entry held => exact hquiet rfl (afterRefresh_phase _ req d why _ _) fun _ => rfl
  | refreshSend d why =>
      refine .sent d.uri why.purpose rfl rfl rfl rfl rfl fun hfetch => ?_
      cases why <;> cases hfetch
  | refreshAnswer d why response => exact .answered d.uri why.purpose response rfl rfl rfl rfl rfl
  | refreshRaised d why response e held hraised =>
      exact .raised d.uri why.purpose rfl rfl (countingError_sync hraised) rfl rfl
  | refreshWrite d why response =>
      refine .wrote d.uri response _ rfl (afterRefresh_phase _ req d why _ _) ?_ rfl
      simp [moveEvents, Task.phase, Pc.phase]
      rfl
  | settle d stamp _ => exact hquiet rfl (Landing.phase hpc) fun _ => rfl
  | _ => exact hquiet rfl rfl fun _ => rfl

theorem loops_effect (h : (loops rt).move r x e = some (r', x')) (hx : x.task.Tidy) :
    Effect rt r x r' x' ∧ x'.task.Tidy ∧ x'.loop = x.loop ∧ r.shared.now ≤ r'.shared.now := by
  obtain ⟨w, y, hnow, hmoved, rfl, rfl⟩ := loops_move h
  obtain ⟨task, loop, request⟩ := x
  cases hmoved with
  | token req pc _ pc' hadv => exact ⟨hadv.effect hx, hadv.tidy hx, rfl, hadv.now.symm ▸ hnow⟩
  | clearJwks => exact ⟨.cleared rfl rfl rfl rfl rfl, trivial, rfl, hnow⟩
  | clearDisco => exact ⟨.quiet rfl rfl rfl fun _ => rfl, trivial, rfl, hnow⟩

theorem loops_spawn {b : ℕ × Call} (h : (loops rt).spawn r b = some (r', x)) :
    r' = r ∧ x = ⟨b.2.start (rt.at r.shared.now), rt.lockLoop b.1, 0⟩ := by
  cases h
  exact ⟨rfl, rfl⟩

end Inversion

/-- An answer in the cache: what it evicts is gone, and it is there itself unless it
is bad. -/
theorem lookup_applied (env : Env) (cache : JwksCache) (cooldown : Dict String ℚ) (uri k : String)
    (response : JwksResponse) (now : ℚ) :
    (applyJwksCacheOutcome env cache cooldown uri response now).1.lookup k =
      if k ∈ (applyJwksCacheOutcome env cache cooldown uri response now).2.2 then none
      else if uri = k ∧ (storedEntry env response now).isSome = true then
        storedEntry env response now
      else cache.lookup k := by
  obtain hs | hr := response.stored_or_retained
  · have hgood : response.bad = false := by simp [JwksResponse.bad, hs]
    rw [applyJwksCacheOutcome_store _ _ _ _ hs.1 hs.2]
    simp only [Dict.lookup_keepNewest_eq, storedEntry, hgood, Bool.false_eq_true, if_false,
      Option.isSome_some, and_true]
    by_cases hk : uri = k
    · subst hk
      simp
    · simp [hk, AList.lookup_insert_ne (Ne.symm hk)]
  · have hbad : response.bad = true := JwksResponse.bad_iff.mpr hr
    rw [applyJwksCacheOutcome_retain _ _ _ _ hr]
    simp [storedEntry, hbad]

/-- The ledger tells what the cache holds, and every write answers an earlier request. -/
structure Record.Kept (r : Record) : Prop where
  mirror : ∀ k, r.shared.jwks.lookup k = (current k r.trace).bind fun w => w.stored
  ordered : Ordered r.trace
  unique : ∀ w v, .written w ∈ r.trace → .written v ∈ r.trace → w.request = v.request → w = v
  times : ∀ loop uri purpose at_, .sent loop uri purpose at_ ∈ r.trace → at_ ≤ r.shared.now

/-- A call in flight has a request on record that has not been answered there. -/
structure LoopTask.Kept (rt : Runtime) (r : Record) (x : LoopTask) : Prop where
  tidy : x.task.Tidy
  threads : rt.flavour = .sync → x.loop = 0
  request : x.task.flight ≠ none → x.request ∈ sents r.trace
  unwritten : x.task.flight ≠ none → ∀ w, .written w ∈ r.trace → w.request ≠ x.request

theorem Task.flight_of_phase {x : Task} {p : Phase} (h : x.phase = p) : x.flight = p.uri := by
  rw [Task.flight, h]

section Step

variable {rt : Runtime} {r r' : Record} {x x' y : LoopTask}

/-- The ledger only grows. -/
theorem Effect.grows (h : Effect rt r x r' x') : ∃ es, r'.trace = es ++ r.trace := by
  cases h with
  | quiet before after trace => exact ⟨[], trace⟩
  | sent uri purpose before after request trace => exact ⟨[_], trace⟩
  | answered uri purpose response before after request trace => exact ⟨[], trace⟩
  | raised uri purpose before after aio trace => exact ⟨[], trace⟩
  | wrote uri response evicted before after trace =>
      exact ⟨evicted.map .evicted ++ [.written _], by rw [trace, List.append_assoc]; rfl⟩
  | cleared before after call trace => exact ⟨[_], trace⟩

theorem Effect.mirror (h : Effect rt r x r' x')
    (hr : ∀ k, r.shared.jwks.lookup k = (current k r.trace).bind fun w => w.stored) (k : String) :
    r'.shared.jwks.lookup k = (current k r'.trace).bind fun w => w.stored := by
  cases h with
  | quiet before after trace cache => rw [cache, trace, hr]
  | sent uri purpose before after request trace cache =>
      rw [cache, trace, hr]
      rfl
  | answered uri purpose response before after request trace cache => rw [cache, trace, hr]
  | raised uri purpose before after aio trace cache => rw [cache, trace, hr]
  | wrote uri response evicted before after trace cache =>
      obtain ⟨hcache, rfl⟩ := Prod.mk.inj cache
      rw [hcache, trace, lookup_applied, current_evicted]
      split
      · rfl
      · simp only [current]
        split
        · rfl
        · exact hr k
  | cleared before after call trace cache =>
      rw [cache, trace]
      rfl

theorem Effect.ordered (h : Effect rt r x r' x') (hr : Ordered r.trace)
    (hx : x.task.flight ≠ none → x.request ∈ sents r.trace) : Ordered r'.trace := by
  cases h with
  | quiet before after trace => exact trace ▸ hr
  | sent uri purpose before after request trace =>
      rw [trace]
      exact hr
  | answered uri purpose response before after request trace => exact trace ▸ hr
  | raised uri purpose before after aio trace => exact trace ▸ hr
  | wrote uri response evicted before after trace =>
      have hin : x.task.flight ≠ none := by simp [Task.flight_of_phase before, Phase.uri]
      rw [trace]
      exact ordered_evicted ⟨hx hin, hr⟩
  | cleared before after call trace =>
      rw [trace]
      exact hr

/-- A request on record after a move was there before, or is the one it sent. -/
theorem Effect.sent_cases (h : Effect rt r x r' x') {loop : ℕ} {uri : String} {purpose : Purpose}
    {at_ : ℚ} (hmem : .sent loop uri purpose at_ ∈ r'.trace) :
    .sent loop uri purpose at_ ∈ r.trace ∨ at_ = r'.shared.now := by
  cases h with
  | quiet before after trace => exact .inl (trace ▸ hmem)
  | sent uri' purpose' before after request trace =>
      rw [trace] at hmem
      obtain heq | hmem := List.mem_cons.mp hmem
      · cases heq
        exact .inr rfl
      · exact .inl hmem
  | answered uri' purpose' response before after request trace => exact .inl (trace ▸ hmem)
  | raised uri' purpose' before after aio trace => exact .inl (trace ▸ hmem)
  | wrote uri' response evicted before after trace =>
      rw [trace] at hmem
      exact .inl (by simpa using hmem)
  | cleared before after call trace =>
      rw [trace] at hmem
      exact .inl (by simpa using hmem)

/-- A write on record after a move was there before, or is the one it made. -/
theorem Effect.written_cases (h : Effect rt r x r' x') {w : KeyWrite}
    (hmem : .written w ∈ r'.trace) : .written w ∈ r.trace ∨
      ∃ uri response, x.task.phase = .answered uri response ∧
        w = ⟨x.request, x.loop, uri, storedEntry rt.env response r'.shared.now⟩ := by
  cases h with
  | quiet before after trace => exact .inl (trace ▸ hmem)
  | sent uri purpose before after request trace =>
      rw [trace] at hmem
      exact .inl (by simpa using hmem)
  | answered uri purpose response before after request trace => exact .inl (trace ▸ hmem)
  | raised uri purpose before after aio trace => exact .inl (trace ▸ hmem)
  | wrote uri response evicted before after trace =>
      rw [trace] at hmem
      have hmem : w = ⟨x.request, x.loop, uri, storedEntry rt.env response r'.shared.now⟩ ∨
          .written w ∈ r.trace := by simpa using hmem
      obtain rfl | hmem := hmem
      · exact .inr ⟨uri, response, before, rfl⟩
      · exact .inl hmem
  | cleared before after call trace =>
      rw [trace] at hmem
      exact .inl (by simpa using hmem)

/-- A call in flight after a move has just sent its request, or had it out before. -/
theorem Effect.flight_cases (h : Effect rt r x r' x') {uri : String}
    (hin : x'.task.flight = some uri) :
    (x'.request = r.trace.length ∧ ∃ purpose, r'.trace = .sent x.loop uri purpose r'.shared.now ::
      r.trace) ∨ (x'.request = x.request ∧ x.task.flight = some uri ∧ r'.trace = r.trace) := by
  cases h with
  | sent uri' purpose before after request trace =>
      rw [Task.flight_of_phase after] at hin
      cases hin
      exact .inl ⟨request, purpose, trace⟩
  | answered uri' purpose response before after request trace =>
      rw [Task.flight_of_phase after] at hin
      cases hin
      exact .inr ⟨request, Task.flight_of_phase before, trace⟩
  | quiet before after =>
      rw [Task.flight_of_phase after] at hin
      cases hin
  | raised uri' purpose before after =>
      rw [Task.flight_of_phase after] at hin
      cases hin
  | wrote uri' response evicted before after =>
      rw [Task.flight_of_phase after] at hin
      cases hin
  | cleared before after =>
      rw [Task.flight_of_phase after] at hin
      cases hin

theorem Effect.kept (h : Effect rt r x r' x') (hnow : r.shared.now ≤ r'.shared.now)
    (hr : r.Kept) (hx : x.Kept rt r) : r'.Kept where
  mirror := h.mirror hr.mirror
  ordered := h.ordered hr.ordered hx.request
  unique := by
    have hunwritten (uri : String) (response : JwksResponse)
        (hphase : x.task.phase = .answered uri response) :
        ∀ w, .written w ∈ r.trace → w.request ≠ x.request :=
      hx.unwritten (by simp [Task.flight_of_phase hphase, Phase.uri])
    intro w v hw hv heq
    obtain hw | ⟨uri, response, hphase, rfl⟩ := h.written_cases hw
    · obtain hv | ⟨uri, response, hphase, rfl⟩ := h.written_cases hv
      · exact hr.unique w v hw hv heq
      · exact absurd heq (hunwritten uri response hphase w hw)
    · obtain hv | ⟨uri', response', hphase', rfl⟩ := h.written_cases hv
      · exact absurd heq.symm (hunwritten uri response hphase v hv)
      · rw [hphase] at hphase'
        cases hphase'
        rfl
  times := by
    intro loop uri purpose at_ hmem
    obtain hmem | rfl := h.sent_cases hmem
    · exact (hr.times loop uri purpose at_ hmem).trans hnow
    · exact le_rfl

theorem Effect.request_kept (h : Effect rt r x r' x') (hr : r.Kept) (hx : x.Kept rt r)
    (hx' : x'.task.Tidy) (hloop : x'.loop = x.loop) : x'.Kept rt r' := by
  refine ⟨hx', fun hsync => hloop.trans (hx.threads hsync), fun hin => ?_, fun hin w hw => ?_⟩
  · obtain ⟨uri, huri⟩ := Option.ne_none_iff_exists'.mp hin
    obtain ⟨hreq, purpose, htrace⟩ | ⟨hreq, hflight, htrace⟩ := h.flight_cases huri
    · rw [hreq, htrace]
      exact List.mem_cons_self
    · rw [hreq, htrace]
      exact hx.request (by simp [hflight])
  · obtain ⟨uri, huri⟩ := Option.ne_none_iff_exists'.mp hin
    obtain ⟨hreq, purpose, htrace⟩ | ⟨hreq, hflight, htrace⟩ := h.flight_cases huri
    · have hw : .written w ∈ r.trace := by simpa [htrace] using hw
      have hlt := sents_lt (hr.ordered.request_mem hw)
      omega
    · rw [hreq]
      exact hx.unwritten (by simp [hflight]) w (htrace ▸ hw)

/-- Another call stays on record. -/
theorem Effect.other_kept (h : Effect rt r x r' x') (hy : y.Kept rt r)
    (hxy : x.task.flight ≠ none → y.task.flight ≠ none → x.request ≠ y.request) : y.Kept rt r' := by
  refine ⟨hy.tidy, hy.threads, fun hin => ?_, fun hin w hw => ?_⟩
  · obtain ⟨es, hes⟩ := h.grows
    rw [hes]
    exact sents_append (hy.request hin) es
  · obtain hw | ⟨uri, response, hphase, rfl⟩ := h.written_cases hw
    · exact hy.unwritten hin w hw
    · exact hxy (by simp [Task.flight_of_phase hphase, Phase.uri]) hin

/-- Two calls in flight keep different requests. -/
theorem Effect.distinct (h : Effect rt r x r' x') (hy : y.Kept rt r)
    (hxy : x.task.flight ≠ none → y.task.flight ≠ none → x.request ≠ y.request)
    (hx' : x'.task.flight ≠ none) (hin : y.task.flight ≠ none) : x'.request ≠ y.request := by
  obtain ⟨uri, huri⟩ := Option.ne_none_iff_exists'.mp hx'
  obtain ⟨hreq, -⟩ | ⟨hreq, hflight, -⟩ := h.flight_cases huri
  · have hlt := sents_lt (hy.request hin)
    omega
  · rw [hreq]
    exact hxy (by simp [hflight]) hin

end Step

end IdentityModel.Py
