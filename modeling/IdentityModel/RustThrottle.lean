import IdentityModel.RustJwksClient
import IdentityModel.Cooldown

/-!
# The refresh cooldown of the Rust JWKS client

`resolve_key` checks the cooldown before its forced refresh and records it after
the refresh. A `kid` miss that passes the check while another one is between the
two finds no record of it. In the runs in which that does not happen, the
requests caused by `kid` misses of one URI are a cooldown apart.
-/
namespace IdentityModel.RustJwks

open Runs Tasks Throttle Cooldown TtlCache

/-- The task is in the forced refresh of a `kid` miss, whose fetch has not ended
without a set. -/
def Pc.inKidMiss : Pc → Bool
  | .invalidate kid _ => kid.isSome
  | .lookup why => why.kidMiss
  | .gate why => why.kidMiss
  | .wait why _ => why.kidMiss
  | .recheck why _ => why.kidMiss
  | .request why _ _ => why.kidMiss
  | .store why _ _ => why.kidMiss
  | .unlock why _ (.ok _) => why.kidMiss
  | .dropGuard why _ (.ok _) => why.kidMiss
  | .mark kid _ _ => kid.isSome
  | _ => false

/-- It has not sent its request. -/
def Pc.unsent : Pc → Bool
  | .invalidate .. => true
  | .lookup _ => true
  | .gate _ => true
  | .wait .. => true
  | .recheck .. => true
  | _ => false

/-- The send times of the requests that `kid` misses of `u` caused, newest first. -/
def kidMissTimes (u : String) (w : Shared) : List ℕ :=
  (w.requests.filter fun r => r.uri = u && r.kidMiss).map fun r => r.at_

/-- Calls on `u` against a provider that always answers. -/
def answeringCall (u : String) : Label → Bool
  | .spawn call => call.uri = u
  | .move _ ⟨_, .response (.error _)⟩ => false
  | _ => true

/-- A `kid` miss passes the cooldown check only when no other one of its URI is
inside its forced refresh, and none is cancelled there after its request. -/
def kidMissAlone (cfg : Config) (s : State) : Label → Bool
  | .move t ⟨now, .run⟩ =>
      match s.tasks[t]? with
      | some ⟨uri, .throttle _⟩ =>
          s.shared.cache.refreshThrottled cfg uri now ||
            s.tasks.all fun y => y.uri ≠ uri || !y.pc.inKidMiss
      | _ => true
  | .move t ⟨_, .cancel⟩ =>
      match s.tasks[t]? with
      | some x => !x.pc.inKidMiss || x.pc.unsent
      | none => true
  | _ => true

theorem kidMissAlone_passed {cfg : Config} {s : State} {t : ℕ} {e : Event} {x : Task} {kid : String}
    (hok : kidMissAlone cfg s (.move t e) = true) (hx : s.tasks[t]? = some x)
    (hpc : x.pc = .throttle kid) (hact : e.act = .run)
    (hthr : s.shared.cache.refreshThrottled cfg x.uri e.now = false) :
    ∀ y ∈ s.tasks, y.uri = x.uri → y.pc.inKidMiss = false := by
  obtain ⟨now, act⟩ := e
  obtain ⟨uri, pc⟩ := x
  simp only at hpc hact hthr
  subst hpc hact
  simp only [kidMissAlone, hx, hthr, Bool.false_or, List.all_eq_true] at hok
  intro y hy hu
  simpa [hu] using hok y hy

theorem kidMissAlone_cancel {cfg : Config} {s : State} {t : ℕ} {e : Event} {x : Task}
    (hok : kidMissAlone cfg s (.move t e) = true) (hx : s.tasks[t]? = some x)
    (hact : e.act = .cancel) : x.pc.inKidMiss = false ∨ x.pc.unsent = true := by
  obtain ⟨now, act⟩ := e
  simp only at hact
  subst hact
  simpa [kidMissAlone, hx] using hok

theorem afterFetch_inKidMiss {why : Use} {r : Fetched} :
    (afterFetch why r).inKidMiss = true ↔ why.kidMiss = true ∧ ∃ ks, r = .ok ks := by
  unfold afterFetch Use.kidMiss
  cases r with
  | cancelled => simp [Pc.inKidMiss]
  | error e => simp [Pc.inKidMiss]
  | ok ks =>
      cases hr : why.refresh with
      | some began => simp [Pc.inKidMiss]
      | none =>
          simp only
          split
          · simp [Pc.inKidMiss]
          · split <;> simp [Pc.inKidMiss]

theorem afterFetch_unsent (why : Use) (r : Fetched) : (afterFetch why r).unsent = false := by
  unfold afterFetch
  repeat' split
  all_goals rfl

section Effect

variable {cfg : Config} {w w' : Shared} {u : String} {pc pc' : Pc} {act : Act}

/-- What an operation means for the cooldown of `u`: nothing; a check passed; a
request of a `kid` miss; a record. -/
inductive Throttling (cfg : Config) (u : String) (w w' : Shared) (pc pc' : Pc) : Prop
  | quiet (times : kidMissTimes u w' = kidMissTimes u w)
      (stamp : w'.cache.lastRefresh.lookup u = w.cache.lastRefresh.lookup u)
      (inside : pc'.inKidMiss = true → pc.inKidMiss = true ∧ (pc'.unsent = true → pc.unsent = true))
      (left : pc.inKidMiss = true → pc'.inKidMiss = true ∨ pc.unsent = true)
  | passed (times : kidMissTimes u w' = kidMissTimes u w)
      (stamp : w'.cache.lastRefresh.lookup u = w.cache.lastRefresh.lookup u)
      (inside : pc'.inKidMiss = true) (outside : pc.inKidMiss = false)
      (notThrottled : w.cache.refreshThrottled cfg u w.now = false)
  | sent (times : kidMissTimes u w' = w.now :: kidMissTimes u w)
      (stamp : w'.cache.lastRefresh.lookup u = w.cache.lastRefresh.lookup u)
      (unsent : pc.unsent = true) (before : pc.inKidMiss = true) (inside : pc'.inKidMiss = true)
      (sent : pc'.unsent = false)
  | marked (times : kidMissTimes u w' = kidMissTimes u w)
      (stamp : w'.cache.lastRefresh.lookup u = some w.now) (outside : pc'.inKidMiss = false)

theorem Throttling.same (hr : w'.requests = w.requests)
    (hs : w'.cache.lastRefresh.lookup u = w.cache.lastRefresh.lookup u)
    (hin : pc'.inKidMiss = true → pc.inKidMiss = true ∧ (pc'.unsent = true → pc.unsent = true))
    (hleft : pc.inKidMiss = true → pc'.inKidMiss = true ∨ pc.unsent = true) :
    Throttling cfg u w w' pc pc' :=
  .quiet (by rw [kidMissTimes, kidMissTimes, hr]) hs hin hleft

theorem Advance.throttling (h : Advance cfg w u pc act w' pc') (hkey : w.cache.SingleKey u)
    (hcancel : act = .cancel → pc.inKidMiss = false ∨ pc.unsent = true)
    (hfail : ∀ e, act ≠ .response (.error e)) : Throttling cfg u w w' pc pc' := by
  cases h with
  | invalidate kid began =>
      refine .same rfl rfl (fun h => ⟨?_, fun _ => rfl⟩) (fun _ => .inr rfl)
      simpa [Pc.inKidMiss, Use.kidMiss] using h
  | lookupFail why e cache hc =>
      refine .same rfl ?_ (fun h => by cases h) (fun _ => .inr rfl)
      obtain rfl | rfl := hc
      · rfl
      · simp
  | lookupHit why ks hget hne =>
      refine .same rfl (by simp) (fun h => ?_) (fun _ => .inr rfl)
      exact ⟨(afterFetch_inKidMiss.mp h).1, fun h' => by simp [afterFetch_unsent] at h'⟩
  | lookupMiss why hget hne hscheme =>
      exact .same rfl (by simp) (fun h => ⟨h, fun _ => rfl⟩) (fun _ => .inr rfl)
  | gate why => exact .same rfl rfl (fun h => ⟨h, fun _ => rfl⟩) (fun _ => .inr rfl)
  | lock why g hheld => exact .same rfl rfl (fun h => ⟨h, fun _ => rfl⟩) (fun _ => .inr rfl)
  | recheckHit why g ks hget =>
      exact .same rfl (by simp) (fun h => ⟨h, fun _ => rfl⟩) (fun _ => .inr rfl)
  | send why g hget =>
      cases hk : why.kidMiss with
      | true => exact .sent (by simp [kidMissTimes]) (by simp) rfl hk hk rfl
      | false =>
          refine .quiet (by simp [kidMissTimes]) (by simp) (fun h => ⟨h, fun _ => rfl⟩) ?_
          exact fun _ => .inr rfl
  | store why g ks =>
      refine .same rfl ?_ (fun h => ⟨h, fun h' => by cases h'⟩) (fun h => .inl h)
      simp only
      rw [(put_single hkey _ _ _).1]
  | unlock why g r =>
      cases r with
      | ok ks => exact .same rfl rfl (fun h => ⟨h, fun h' => by cases h'⟩) (fun h => .inl h)
      | error e => exact .same rfl rfl (fun h => by cases h) (fun h => by cases h)
      | cancelled => exact .same rfl rfl (fun h => by cases h) (fun h => by cases h)
  | dropGuard why g r =>
      refine .same rfl rfl (fun h => ?_) (fun h => .inl ?_)
      · obtain ⟨hk, ks, rfl⟩ := afterFetch_inKidMiss.mp h
        exact ⟨hk, fun h' => by simp [afterFetch_unsent] at h'⟩
      · cases r with
        | ok ks => exact afterFetch_inKidMiss.mpr ⟨h, ks, rfl⟩
        | error e => cases h
        | cancelled => cases h
  | throttled kid hthr => exact .same rfl rfl (fun h => by cases h) (fun h => by cases h)
  | passed kid hthr => exact .passed rfl rfl rfl rfl hthr
  | mark kid began ks =>
      exact .marked rfl (markRefresh_single hkey _ _).1 rfl
  | answered why g n set =>
      exact .same rfl rfl (fun h => ⟨h, fun h' => by cases h'⟩) (fun h => .inl h)
  | failed why g n e => exact absurd rfl (hfail e)
  | cancelWait why g => exact .same rfl rfl (fun h => by cases h) (fun _ => .inr rfl)
  | cancelHeld _ why g hcase =>
      refine .same rfl rfl (fun h => by cases h) (fun h => .inr ?_)
      exact (hcancel rfl).resolve_left (by simp [h])
  | cancelFree _ hcase =>
      refine .same rfl rfl (fun h => by cases h) (fun h => .inr ?_)
      exact (hcancel rfl).resolve_left (by simp [h])

/-- A task enters the forced refresh of a `kid` miss at the cooldown check only. -/
theorem Advance.of_passed (h : Advance cfg w u pc act w' pc') (hout : pc.inKidMiss = false)
    (hin : pc'.inKidMiss = true) : ∃ kid, pc = .throttle kid ∧ act = .run := by
  cases h with
  | passed kid hthr => exact ⟨kid, rfl, rfl⟩
  | invalidate kid began => simp_all [Pc.inKidMiss, Use.kidMiss]
  | lookupHit why ks hget hne =>
      have hk := (afterFetch_inKidMiss.mp hin).1
      simp_all [Pc.inKidMiss]
  | dropGuard why g r =>
      obtain ⟨hk, ks, rfl⟩ := afterFetch_inKidMiss.mp hin
      simp_all [Pc.inKidMiss]
  | unlock why g r => cases r <;> simp_all [Pc.inKidMiss]
  | _ => simp_all [Pc.inKidMiss]

theorem Advance.singleKey (h : Advance cfg w u pc act w' pc') (hkey : w.cache.SingleKey u) :
    w'.cache.SingleKey u := by
  have hget := singleKey_get hkey w.now
  cases h with
  | invalidate kid began => exact singleKey_invalidate hkey u
  | lookupFail why e cache hc =>
      obtain rfl | rfl := hc
      · exact hkey
      · exact hget
  | lookupHit => exact hget
  | lookupMiss => exact hget
  | recheckHit => exact hget
  | send => exact hget
  | store why g ks => exact (put_single hkey _ _ _).2
  | mark kid began ks => exact (markRefresh_single hkey _ _).2
  | _ => exact hkey

theorem Advance.now (h : Advance cfg w u pc act w' pc') : w'.now = w.now := by
  cases h <;> rfl

end Effect

/-- The cooldown of `u` as the observer of a pool sees it. -/
def throttleObserver (u : String) : Observer Shared Task ℕ where
  now w := w.now
  times := kidMissTimes u
  stamp w := w.cache.lastRefresh.lookup u
  inside x := x.pc.inKidMiss
  unsent x := x.pc.inKidMiss && x.pc.unsent

/-- Every call of the run is on `u`, and the cache holds nothing else. -/
def OnUri (u : String) : State → Prop :=
  Holds (fun w => w.cache.SingleKey u) (fun _ x => x.uri = u) (fun _ _ => True)

theorem insideCount_eq_zero {cfg : Config} {u : String} {s : State} {t : ℕ} {e : Event} {x : Task}
    {kid : String} (h : OnUri u s) (hok : kidMissAlone cfg s (.move t e) = true)
    (hx : s.tasks[t]? = some x) (hpc : x.pc = .throttle kid) (hact : e.act = .run)
    (hthr : s.shared.cache.refreshThrottled cfg x.uri e.now = false) :
    (throttleObserver u).insideCount s = 0 := by
  refine List.countP_eq_zero.mpr fun y hy hin => ?_
  have huri : y.uri = x.uri := (h.of_mem hy).trans (h.each t x hx).symm
  have hout := kidMissAlone_passed hok hx hpc hact hthr y hy huri
  have hin : y.pc.inKidMiss = true := hin
  simp [hout] at hin

theorem throttle_sees {cfg : Config} {u : String} {s : State} {t : ℕ} {e : Event} {x : Task}
    {v : Shared} {pc' : Pc} (hc : 0 < cfg.refreshCooldown) (h : OnUri u s)
    (hok : kidMissAlone cfg s (.move t e) = true) (hans : answeringCall u (.move t e) = true)
    (hx : s.tasks[t]? = some x)
    (hadv : Advance cfg { s.shared with now := e.now } u x.pc e.act v pc') :
    (throttleObserver u).Sees (After cfg.refreshCooldown) s
      ⟨{ v with clock := v.clock + 1 }, s.tasks.set t ⟨x.uri, pc'⟩⟩ := by
  have hfail : ∀ err, e.act ≠ .response (.error err) := by
    intro err hact
    obtain ⟨now, act⟩ := e
    simp only at hact
    subst hact
    cases hans
  have hnow : v.now = e.now := hadv.now
  cases hadv.throttling h.shared (fun hact => kidMissAlone_cancel hok hx hact) hfail with
  | quiet times stamp inside left =>
      refine .quiet times stamp (Observer.unsentCount_move_le _ _ hx ?_) fun hpos => ?_
      · intro hun
        simp only [throttleObserver, Bool.and_eq_true] at hun ⊢
        exact ⟨(inside hun.1).1, (inside hun.1).2 hun.2⟩
      · by_cases hun : (throttleObserver u).unsent x = true
        · exact .inr (Observer.unsentCount_pos hx hun)
        · left
          refine Observer.insideCount_move _ _ hx (fun hin => ?_) hpos
          refine (left hin).resolve_right fun hus => hun ?_
          simp only [throttleObserver, Bool.and_eq_true]
          exact ⟨hin, hus⟩
  | passed times stamp inside outside notThrottled =>
      obtain ⟨kid, hpc, hact⟩ := hadv.of_passed outside inside
      have hthr : s.shared.cache.refreshThrottled cfg x.uri e.now = false := by
        rw [h.each t x hx]
        exact notThrottled
      have hfree := insideCount_eq_zero h hok hx hpc hact hthr
      refine .passed times (Observer.unsentCount_move_le_one _ _ hx ?_) hfree ?_
      · refine Observer.unsentCount_eq_zero_of_inside (fun y hy => ?_) hfree
        simp only [throttleObserver, Bool.and_eq_true] at hy
        exact hy.1
      · show Open (After cfg.refreshCooldown) v.now _
        rw [hnow]
        exact not_throttled hc notThrottled
  | sent times stamp unsent before inside sent =>
      have hun : (throttleObserver u).unsent x = true := by simp [throttleObserver, before, unsent]
      refine .sent ?_ (Observer.unsentCount_pos hx hun)
        (Observer.unsentCount_move_lt _ _ hx hun ?_) (Observer.insideCount_move_pos _ _ hx inside)
      · show kidMissTimes u v = v.now :: _
        rw [hnow]
        exact times
      · simp [throttleObserver, sent]
  | marked times stamp outside =>
      refine .marked times ?_ (Observer.unsentCount_move_le _ _ hx ?_)
      · show v.cache.lastRefresh.lookup u = some v.now
        rw [hnow]
        exact stamp
      · simp [throttleObserver, outside]

theorem onUri_step (cfg : Config) (u : String) (s : State) (l : Label) (s' : State) (h : OnUri u s)
    (hans : answeringCall u l = true) (hstep : (client cfg).step s l = some s') : OnUri u s' := by
  refine Machine.holds_step (client_fork cfg) (fun _ l => answeringCall u l = true)
    (fun _ _ _ => trivial) ?_ ?_ s l s' h hans hstep
  · intro s call w x h hans hspawn
    obtain ⟨rfl, rfl⟩ := client_spawn hspawn
    refine ⟨h.shared, ?_, fun j y hy => ⟨h.each j y hy, trivial⟩⟩
    simpa [answeringCall] using hans
  · intro s t e x w x' h _ hx hmove
    obtain ⟨hle, v, pc', hadv, rfl, rfl⟩ := client_move hmove
    rw [h.each t x hx] at hadv
    exact ⟨hadv.singleKey h.shared, h.each t x hx, fun j y _ hy => ⟨h.each j y hy, trivial⟩⟩

theorem throttle_step (cfg : Config) (u : String) (hc : 0 < cfg.refreshCooldown) (s : State)
    (l : Label) (s' : State)
    (h : OnUri u s ∧ (throttleObserver u).Kept (After cfg.refreshCooldown) s)
    (hok : kidMissAlone cfg s l = true ∧ answeringCall u l = true)
    (hstep : (client cfg).step s l = some s') :
    OnUri u s' ∧ (throttleObserver u).Kept (After cfg.refreshCooldown) s' := by
  refine ⟨onUri_step cfg u s l s' h.1 hok.2 hstep, ?_⟩
  cases l with
  | spawn call =>
      obtain ⟨w, x, hspawn, rfl⟩ := Machine.step_spawn hstep
      obtain ⟨rfl, rfl⟩ := client_spawn hspawn
      have hout : (call.start s.shared.clock).inKidMiss = false := by cases call <;> rfl
      refine h.2.step (isGap_after _) le_rfl (.quiet rfl rfl ?_ fun hpos => .inl ?_)
      · simp [Observer.unsentCount, throttleObserver, hout]
      · simpa [Observer.insideCount, throttleObserver, hout] using hpos
  | move t e =>
      obtain ⟨x, w, x', hx, hmove, rfl⟩ := Machine.step_move (client_fork cfg) hstep
      obtain ⟨hle, v, pc', hadv, rfl, rfl⟩ := client_move hmove
      have hadv' := hadv
      rw [h.1.each t x hx] at hadv'
      refine h.2.step (isGap_after _) ?_ (throttle_sees hc h.1 hok.1 hok.2 hx hadv')
      show s.shared.now ≤ v.now
      rw [show v.now = e.now from hadv.now]
      exact hle

/-- The requests caused by `kid` misses of one URI are a cooldown apart in every
run whose `kid` misses refresh one at a time. -/
theorem kidMiss_spaced {cfg : Config} {u : String} {ls : List Label} {s : State}
    (hc : 0 < cfg.refreshCooldown) (hcalls : ∀ l ∈ ls, answeringCall u l = true)
    (hok : Meets (client cfg).step (fun s l => kidMissAlone cfg s l = true) initial ls)
    (hrun : run cfg initial ls = some s) :
    Spaced cfg.refreshCooldown (kidMissTimes u s.shared) := by
  have hinit : OnUri u initial ∧ (throttleObserver u).Kept (After cfg.refreshCooldown) initial := by
    refine ⟨Holds.of_idle ⟨?_, ?_⟩ rfl, Observer.kept_of_empty rfl (by simp [Observer.unsentCount,
      initial])⟩
    · intro k hk
      cases hk
    · intro k hk
      cases hk
  exact (exec_invariant (throttle_step cfg u hc) hinit (hok.and (Meets.of_forall hcalls)) hrun).2.apart

end IdentityModel.RustJwks
