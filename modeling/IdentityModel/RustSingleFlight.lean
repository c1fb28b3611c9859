import IdentityModel.RustJwksClient

/-!
# Single flight in the Rust JWKS client

Two tasks never hold the lock of one gate, so the requests for a URI exclude
each other as long as its tasks share one gate. The map entry of a gate is
removed by the first guard that drops, also when other tasks still hold that
gate; a task that arrives then allocates a second one. The runs in which this
does not happen keep at most one request in flight per URI.
-/
namespace IdentityModel.RustJwks

open Runs Tasks

/-- The gate whose `FlightGuard` the task holds. -/
def Pc.guard : Pc → Option ℕ
  | .wait _ g => some g
  | .recheck _ g => some g
  | .request _ g _ => some g
  | .store _ g _ => some g
  | .unlock _ g _ => some g
  | .dropGuard _ g _ => some g
  | _ => none

/-- The gate whose lock the task holds. -/
def Pc.lock : Pc → Option ℕ
  | .recheck _ g => some g
  | .request _ g _ => some g
  | .store _ g _ => some g
  | .unlock _ g _ => some g
  | _ => none

/-- The task waits for the answer of the provider. -/
def Pc.requesting : Pc → Bool
  | .request .. => true
  | _ => false

/-- The upstream requests for `u` that are in flight. -/
def inFlightRequests (u : String) (s : State) : ℕ :=
  s.tasks.countP fun x => x.uri = u && x.pc.requesting

/-- A task allocates a gate for its URI only when no task holds a guard for it. -/
def newGateAlone (s : State) : Label → Bool
  | .move t ⟨_, .run⟩ =>
      match s.tasks[t]? with
      | some ⟨uri, .gate _⟩ =>
          (s.shared.gates.inFlight.lookup uri).isSome ||
            s.tasks.all fun y => y.uri ≠ uri || y.pc.guard.isNone
      | _ => true
  | _ => true

theorem newGateAlone_gate {s : State} {t now : ℕ} {uri : String} {why : Use}
    (hok : newGateAlone s (.move t ⟨now, .run⟩) = true)
    (ht : s.tasks[t]? = some ⟨uri, .gate why⟩)
    (hnone : s.shared.gates.inFlight.lookup uri = none) :
    ∀ y ∈ s.tasks, y.uri = uri → y.pc.guard = none := by
  intro y hy hu
  simp only [newGateAlone, ht, hnone, Option.isSome_none, Bool.false_or, List.all_eq_true] at hok
  have h := hok y hy
  simpa [hu] using h

@[simp] theorem afterFetch_guard (why : Use) (r : Fetched) : (afterFetch why r).guard = none := by
  unfold afterFetch
  repeat' split
  all_goals rfl

@[simp] theorem afterFetch_lock (why : Use) (r : Fetched) : (afterFetch why r).lock = none := by
  unfold afterFetch
  repeat' split
  all_goals rfl

theorem Pc.guard_of_lock {pc : Pc} {g : ℕ} (h : pc.lock = some g) : pc.guard = some g := by
  cases pc <;> first | exact h | cases h

theorem Pc.lock_of_requesting {pc : Pc} (h : pc.requesting = true) : ∃ g, pc.lock = some g := by
  cases pc <;> first | exact ⟨_, rfl⟩ | cases h

/-- The gate joined is the one in the map afterwards; a gate that was in the map
is the one joined. -/
theorem flightGate_spec (g : Gates) (u : String) :
    (g.flightGate u).1.inFlight.lookup u = some (g.flightGate u).2 ∧
      (∀ n, g.inFlight.lookup u = some n → (g.flightGate u).2 = n) ∧
      ∀ v, v ≠ u → (g.flightGate u).1.inFlight.lookup v = g.inFlight.lookup v := by
  unfold Gates.flightGate
  cases h : g.inFlight.lookup u with
  | some n => simp [h]
  | none =>
      refine ⟨by simp, by simp, fun v hv => ?_⟩
      simp [AList.lookup_insert_ne hv]

theorem releaseFlight_lookup {g : Gates} {u v : String} {n m : ℕ}
    (h : (g.releaseFlight u n).inFlight.lookup v = some m) : g.inFlight.lookup v = some m := by
  unfold Gates.releaseFlight at h
  split at h
  · exact (Dict.lookup_erase_eq_some.mp h).2
  · exact h

/-- The gates of an operation: it leaves them alone, joins one, locks it,
unlocks it, or drops its guard. -/
theorem Advance.gate_effect {cfg : Config} {w w' : Shared} {uri : String} {pc pc' : Pc} {act : Act}
    (h : Advance cfg w uri pc act w' pc') :
    (w'.gates = w.gates ∧ w'.held = w.held ∧ (pc'.guard = pc.guard ∨ pc'.guard = none) ∧
        (pc'.lock = pc.lock ∨ pc'.lock = none)) ∨
      (∃ why, pc = .gate why ∧ act = .run ∧ w'.gates = (w.gates.flightGate uri).1 ∧
        w'.held = w.held ∧ pc' = .wait why (w.gates.flightGate uri).2) ∨
      (∃ why g, pc = .wait why g ∧ g ∉ w.held ∧ w'.gates = w.gates ∧ w'.held = g :: w.held ∧
        pc' = .recheck why g) ∨
      (∃ why g r, pc = .unlock why g r ∧ w'.gates = w.gates ∧
        w'.held = w.held.filter (fun n => n ≠ g) ∧ pc' = .dropGuard why g r) ∨
      (∃ g, w'.gates = w.gates.releaseFlight uri g ∧ w'.held = w.held ∧
        pc'.guard = none ∧ pc'.lock = none) := by
  cases h with
  | gate why => exact .inr (.inl ⟨why, rfl, rfl, rfl, rfl, rfl⟩)
  | lock why g hheld => exact .inr (.inr (.inl ⟨why, g, rfl, hheld, rfl, rfl, rfl⟩))
  | unlock why g r => exact .inr (.inr (.inr (.inl ⟨why, g, r, rfl, rfl, rfl, rfl⟩)))
  | dropGuard why g r => exact .inr (.inr (.inr (.inr ⟨g, rfl, rfl, by simp, by simp⟩)))
  | cancelHeld _ why g hpc =>
      obtain rfl | ⟨n, rfl⟩ | ⟨ks, rfl⟩ := hpc <;> exact .inl ⟨rfl, rfl, .inl rfl, .inl rfl⟩
  | cancelFree _ hpc => exact .inl ⟨rfl, rfl, .inr rfl, .inr rfl⟩
  | lookupHit why ks hget => exact .inl ⟨rfl, rfl, .inr (by simp), .inr (by simp)⟩
  | cancelWait why g => exact .inl ⟨rfl, rfl, .inl rfl, .inr rfl⟩
  | _ => exact .inl ⟨rfl, rfl, .inl rfl, .inl rfl⟩

/-- A guard on `u` is a guard for the gate in the map, if there is one, and a
locked gate is held. -/
def GateKnown (u : String) (w : Shared) (x : Task) : Prop :=
  (x.uri = u → ∀ g g', x.pc.guard = some g → w.gates.inFlight.lookup u = some g' → g' = g) ∧
    ∀ g, x.pc.lock = some g → g ∈ w.held

/-- Two tasks on `u` guard the same gate, and no two tasks lock one gate. -/
def GateShared (u : String) (x y : Task) : Prop :=
  (x.uri = u → y.uri = u → ∀ g g', x.pc.guard = some g → y.pc.guard = some g' → g = g') ∧
    ∀ g, x.pc.lock = some g → y.pc.lock ≠ some g

theorem GateShared.symm {u : String} (x y : Task) (h : GateShared u x y) : GateShared u y x :=
  ⟨fun hy hx g g' hg hg' => (h.1 hx hy g' g hg' hg).symm, fun g hy hx => h.2 g hx hy⟩

section Move

variable {u : String} {w : Shared} {x y : Task}

/-- Guards and locks given up, map entries removed, locks of others kept. -/
theorem gates_shrink (w' : Shared) (pc' : Pc) (hself : GateKnown u w x)
    (hmap : ∀ g, w'.gates.inFlight.lookup u = some g → w.gates.inFlight.lookup u = some g)
    (hguard : ∀ g, pc'.guard = some g → x.pc.guard = some g)
    (hlock : ∀ g, pc'.lock = some g → x.pc.lock = some g)
    (hheld : ∀ g, pc'.lock = some g → g ∈ w.held → g ∈ w'.held)
    (hrest : ∀ g, x.pc.lock ≠ some g → g ∈ w.held → g ∈ w'.held) :
    GateKnown u w' ⟨x.uri, pc'⟩ ∧ ∀ y, GateKnown u w y → GateShared u x y →
      GateKnown u w' y ∧ GateShared u ⟨x.uri, pc'⟩ y := by
  constructor
  · refine ⟨fun hu a b ha hb => hself.1 hu a b (hguard a ha) (hmap b hb), fun a ha => ?_⟩
    exact hheld a ha (hself.2 a (hlock a ha))
  · intro y hy hxy
    refine ⟨⟨fun hu a b ha hb => hy.1 hu a b ha (hmap b hb), fun a ha => ?_⟩, ?_, ?_⟩
    · exact hrest a (fun hx => hxy.2 a hx ha) (hy.2 a ha)
    · exact fun hxu hyu a b ha hb => hxy.1 hxu hyu a b (hguard a ha) hb
    · exact fun a ha => hxy.2 a (hlock a ha)

/-- Joining a gate: a gate in the map is the one the others guard, and a new one
is allocated only when the others guard none. -/
theorem gates_join (w' : Shared) (why : Use) (hg : w'.gates = (w.gates.flightGate x.uri).1)
    (hh : w'.held = w.held)
    (halone : w.gates.inFlight.lookup x.uri = none → y.uri = x.uri → y.pc.guard = none)
    (hy : GateKnown u w y) :
    GateKnown u w' ⟨x.uri, .wait why (w.gates.flightGate x.uri).2⟩ ∧ GateKnown u w' y ∧
      GateShared u ⟨x.uri, .wait why (w.gates.flightGate x.uri).2⟩ y := by
  obtain ⟨hnew, hold, hne⟩ := flightGate_spec w.gates x.uri
  have hsame : x.uri = u → y.uri = u → ∀ g, y.pc.guard = some g →
      (w.gates.flightGate x.uri).2 = g := by
    intro hxu hyu g hyg
    cases hmap : w.gates.inFlight.lookup x.uri with
    | none => simp [halone hmap (hyu.trans hxu.symm)] at hyg
    | some n => exact (hold n hmap).trans (hy.1 hyu g n hyg (hxu ▸ hmap))
  have hjoin : x.uri = u → ∀ g, w'.gates.inFlight.lookup u = some g →
      (w.gates.flightGate x.uri).2 = g := by
    intro hxu g hmap
    rw [hg, ← hxu] at hmap
    exact Option.some.inj (hnew.symm.trans hmap)
  refine ⟨⟨fun hxu a b ha hb => ?_, fun a ha => by cases ha⟩, ⟨fun hyu a b ha hb => ?_, ?_⟩, ?_, ?_⟩
  · exact (hjoin hxu b hb).symm.trans (Option.some.inj ha)
  · by_cases hxu : x.uri = u
    · exact (hjoin hxu b hb).symm.trans (hsame hxu hyu a ha)
    · rw [hg, hne u (Ne.symm hxu)] at hb
      exact hy.1 hyu a b ha hb
  · intro a ha
    rw [hh]
    exact hy.2 a ha
  · intro hxu hyu a b ha hb
    exact (Option.some.inj ha).symm.trans (hsame hxu hyu b hb)
  · intro a ha
    cases ha

/-- Taking a free lock: nobody else holds it. -/
theorem gates_lock (w' : Shared) {why : Use} {g : ℕ} (hpc : x.pc = .wait why g) (hfree : g ∉ w.held)
    (hg : w'.gates = w.gates) (hh : w'.held = g :: w.held) (hself : GateKnown u w x) :
    GateKnown u w' ⟨x.uri, .recheck why g⟩ ∧ ∀ y, GateKnown u w y → GateShared u x y →
      GateKnown u w' y ∧ GateShared u ⟨x.uri, .recheck why g⟩ y := by
  have hguard : ∀ a, (Pc.recheck why g).guard = some a → x.pc.guard = some a := by
    intro a ha
    rw [hpc]
    exact ha
  constructor
  · refine ⟨fun hu a b ha hb => hself.1 hu a b (hguard a ha) (hg ▸ hb), fun a ha => ?_⟩
    have hag : g = a := Option.some.inj ha
    simp [hh, hag]
  · intro y hy hxy
    refine ⟨⟨fun hu a b ha hb => hy.1 hu a b ha (hg ▸ hb), fun a ha => ?_⟩, ?_, fun a ha hya => ?_⟩
    · rw [hh]
      exact List.mem_cons_of_mem _ (hy.2 a ha)
    · exact fun hxu hyu a b ha hb => hxy.1 hxu hyu a b (hguard a ha) hb
    · have hag : g = a := Option.some.inj ha
      exact hfree (hag ▸ hy.2 a hya)

end Move

theorem gates_move {cfg : Config} {u : String} {s : State} {t : ℕ} {e : Event} {x x' : Task}
    {w' : Shared} (h : Holds (fun _ => True) (GateKnown u) (GateShared u) s)
    (hok : newGateAlone s (.move t e) = true) (hx : s.tasks[t]? = some x)
    (hmove : (client cfg).move s.shared x e = some (w', x')) :
    GateKnown u w' x' ∧
      ∀ (j : ℕ) y, j ≠ t → s.tasks[j]? = some y → GateKnown u w' y ∧ GateShared u x' y := by
  obtain ⟨hle, v, pc', hadv, rfl, rfl⟩ := client_move hmove
  have hself : GateKnown u s.shared x := h.each t x hx
  have hother : ∀ (j : ℕ) y, j ≠ t → s.tasks[j]? = some y →
      GateKnown u s.shared y ∧ GateShared u x y :=
    fun j y hj hy => ⟨h.each j y hy, h.pair t j x y (Ne.symm hj) hx hy⟩
  obtain ⟨hg, hh, hguard, hlock⟩ | ⟨why, hpc, hact, hg, hh, rfl⟩ |
    ⟨why, g, hpc, hfree, hg, hh, rfl⟩ | ⟨why, g, r, hpc, hg, hh, rfl⟩ | ⟨g, hg, hh, hguard, hlock⟩ :=
    hadv.gate_effect
  · have key := gates_shrink { v with clock := v.clock + 1 } pc' hself
      (fun a ha => by simpa [hg] using ha)
      (fun a ha => by obtain hs | hs := hguard <;> simp_all)
      (fun a ha => by obtain hs | hs := hlock <;> simp_all)
      (fun a _ ha => by simpa [hh] using ha) (fun a _ ha => by simpa [hh] using ha)
    exact ⟨key.1, fun j y hj hy => key.2 y (hother j y hj hy).1 (hother j y hj hy).2⟩
  · have hx' : s.tasks[t]? = some ⟨x.uri, .gate why⟩ := by rw [hx, ← hpc]
    have hok' : newGateAlone s (.move t ⟨e.now, .run⟩) = true := by rw [← hact]; exact hok
    have halone := newGateAlone_gate hok' hx'
    have key : ∀ y ∈ s.tasks, GateKnown u s.shared y → _ := fun y hy =>
      gates_join { v with clock := v.clock + 1 } why hg hh (fun hn => halone hn y hy)
    have hmem : x ∈ s.tasks := List.mem_of_getElem? hx
    refine ⟨(key x hmem hself).1, fun j y hj hy => ?_⟩
    exact (key y (List.mem_of_getElem? hy) (hother j y hj hy).1).2
  · have key := gates_lock { v with clock := v.clock + 1 } hpc hfree hg hh hself
    exact ⟨key.1, fun j y hj hy => key.2 y (hother j y hj hy).1 (hother j y hj hy).2⟩
  · have key := gates_shrink { v with clock := v.clock + 1 } (.dropGuard why g r) hself
      (fun a ha => by simpa [hg] using ha) (fun a ha => by rw [hpc]; exact ha)
      (fun a ha => by cases ha) (fun a ha => by cases ha) (fun a ha hin => by
        have hne : a ≠ g := by
          rintro rfl
          exact ha (by rw [hpc]; rfl)
        simpa [hh, hne] using hin)
    exact ⟨key.1, fun j y hj hy => key.2 y (hother j y hj hy).1 (hother j y hj hy).2⟩
  · have key := gates_shrink { v with clock := v.clock + 1 } pc' hself
      (fun a ha => releaseFlight_lookup (by simpa only [hg] using ha))
      (fun a ha => by simp [hguard] at ha) (fun a ha => by simp [hlock] at ha)
      (fun a ha => by simp [hlock] at ha) (fun a _ ha => by simpa [hh] using ha)
    exact ⟨key.1, fun j y hj hy => key.2 y (hother j y hj hy).1 (hother j y hj hy).2⟩

theorem start_guard (clock : ℕ) (call : Call) :
    (call.start clock).guard = none ∧ (call.start clock).lock = none := by
  cases call <;> exact ⟨rfl, rfl⟩

/-- The gates stay shared along every run in which no gate is allocated beside
a guarded one. -/
theorem gates_step (cfg : Config) (u : String) (s : State) (l : Label) (s' : State)
    (h : Holds (fun _ => True) (GateKnown u) (GateShared u) s) (hok : newGateAlone s l = true)
    (hstep : (client cfg).step s l = some s') :
    Holds (fun _ => True) (GateKnown u) (GateShared u) s' := by
  refine Machine.holds_step (client_fork cfg) (fun s l => newGateAlone s l = true) GateShared.symm ?_ ?_
    s l s' h hok hstep
  · intro s call w x h _ hspawn
    obtain ⟨rfl, rfl⟩ := client_spawn hspawn
    obtain ⟨hguard, hlock⟩ := start_guard s.shared.clock call
    refine ⟨trivial, ⟨?_, ?_⟩, fun j y hy => ⟨h.each j y hy, ?_, ?_⟩⟩
    · simp [hguard]
    · simp [hlock]
    · simp [hguard]
    · simp [hlock]
  · intro s t e x w x' h hok hx hmove
    exact ⟨trivial, gates_move h hok hx hmove⟩

/-- In a run that never allocates a gate for a URI while a task still guards an
older gate for it, at most one request for that URI is in flight in every state
reached. -/
theorem fetch_single_flight (cfg : Config) (ls : List Label) (s : State) (u : String)
    (hok : Meets (client cfg).step (fun s l => newGateAlone s l = true) initial ls)
    (hrun : run cfg initial ls = some s) : inFlightRequests u s ≤ 1 := by
  have hinit : Holds (fun _ => True) (GateKnown u) (GateShared u) initial :=
    Holds.of_idle trivial rfl
  have hs := exec_invariant (gates_step cfg u) hinit hok hrun
  refine countP_le_one fun i j x y hij hx hy => ?_
  rintro ⟨hxr, hyr⟩
  simp only [Bool.and_eq_true, decide_eq_true_eq] at hxr hyr
  obtain ⟨g, hg⟩ := Pc.lock_of_requesting hxr.2
  obtain ⟨g', hg'⟩ := Pc.lock_of_requesting hyr.2
  obtain ⟨hguard, hlock⟩ := hs.pair i j x y hij hx hy
  have hsame : g = g' :=
    hguard hxr.1 hyr.1 g g' (Pc.guard_of_lock hg) (Pc.guard_of_lock hg')
  exact hlock g hg (hsame ▸ hg')

/-- One operation of task `t` at time zero. -/
def runTask (t : ℕ) : Label := .move t ⟨0, .run⟩

/-- A first fetch has its request out; a second one waits on the gate. -/
def waitingRun : List Label :=
  [.spawn (.fetch "https://idp/jwks"), runTask 0, runTask 0, runTask 0, runTask 0,
    .spawn (.fetch "https://idp/jwks"), runTask 1, runTask 1]

theorem fetch_single_flight_waiting :
    Meets (client {}).step (fun s l => newGateAlone s l = true) initial waitingRun ∧
      ∃ s, run {} initial waitingRun = some s ∧ inFlightRequests "https://idp/jwks" s ≤ 1 := by
  have hok : Meets (client {}).step (fun s l => newGateAlone s l = true) initial waitingRun := by
    decide +kernel
  have hsome : (run {} initial waitingRun).isSome = true := by decide +kernel
  obtain ⟨s, hs⟩ := Option.isSome_iff_exists.mp hsome
  exact ⟨hok, s, hs, fetch_single_flight {} waitingRun s _ hok hs⟩

/-- The waiting fetch is cancelled, which removes the map entry of the gate the
first one holds; a third fetch allocates its own and sends a second request. -/
def cancelledWaiterRun : List Label :=
  waitingRun ++ [.move 1 ⟨0, .cancel⟩, runTask 1, .spawn (.fetch "https://idp/jwks"),
    runTask 2, runTask 2, runTask 2, runTask 2]

theorem two_requests_in_flight :
    ¬ ∀ (cfg : Config) (ls : List Label) (s : State) (u : String),
      run cfg initial ls = some s → inFlightRequests u s ≤ 1 := by
  intro h
  have hcount : (run {} initial cancelledWaiterRun).map
      (fun s => inFlightRequests "https://idp/jwks" s) = some 2 := by decide +kernel
  obtain ⟨s, hs, htwo⟩ := Option.map_eq_some_iff.mp hcount
  have hle := h {} cancelledWaiterRun s "https://idp/jwks" hs
  omega

end IdentityModel.RustJwks
