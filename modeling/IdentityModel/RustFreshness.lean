import IdentityModel.RustJwksClient

/-!
# Freshness of a forced refresh in the Rust JWKS client

`force_refresh` removes the cached set and fetches. A request that was sent
before the call began and is still pending at the removal can complete
afterwards, refill the cache and be handed to the refresher. The runs in which
no such request is pending at a removal, and in which nothing removes a set
between the moment a refresher obtained one and its return, give every refresher
a set requested after it began, and leave such a set in the cache.
-/
namespace IdentityModel.RustJwks

open Runs Tasks TtlCache

/-- The fetch a task is in. -/
def Pc.use : Pc → Option Use
  | .lookup why => some why
  | .gate why => some why
  | .wait why _ => some why
  | .recheck why _ => some why
  | .request why _ _ => some why
  | .store why _ _ => some why
  | .unlock why _ _ => some why
  | .dropGuard why _ _ => some why
  | _ => none

/-- The forced refresh the task is in, past its removal: when it began. -/
def Pc.refreshing : Pc → Option ℕ
  | .mark _ began _ => some began
  | pc => pc.use.bind fun why => why.refresh

/-- The request the task waits for, or whose answer it is about to store. -/
def Pc.pending : Pc → Option ℕ
  | .request _ _ started => some started
  | .store _ _ ks => some ks.requestedAt
  | _ => none

/-- The set the task's fetch has obtained. -/
def Pc.obtained : Pc → Option Obtained
  | .unlock _ _ (.ok ks) => some ks
  | .dropGuard _ _ (.ok ks) => some ks
  | .mark _ _ ks => some ks
  | _ => none

/-- The task is a forced refresh that has its set and has not returned. -/
def Pc.returning (pc : Pc) : Bool := pc.refreshing.isSome && pc.obtained.isSome

/-- A forced refresh removes the set of its URI only when every pending request
for it was sent after the refresh began; and no removal or eviction takes the set
of a refresher that is about to return. -/
def removalClean (cfg : Config) (s : State) : Label → Bool
  | .move t ⟨now, .run⟩ =>
      match s.tasks[t]? with
      | some ⟨uri, .invalidate _ began⟩ =>
          s.tasks.all fun y => y.uri ≠ uri ||
            ((y.pc.pending.all fun n => began < n) && !y.pc.returning)
      | some ⟨uri, .store _ _ ks⟩ =>
          s.tasks.all fun y => !y.pc.returning || y.uri = uri ||
            ((s.shared.cache.put cfg uri ks now).stored y.uri).isSome
      | _ => true
  | _ => true

theorem removalClean_invalidate {cfg : Config} {s : State} {t now began : ℕ} {uri : String}
    {kid : Option String} (hok : removalClean cfg s (.move t ⟨now, .run⟩) = true)
    (ht : s.tasks[t]? = some ⟨uri, .invalidate kid began⟩) :
    ∀ y ∈ s.tasks, y.uri = uri →
      (∀ n, y.pc.pending = some n → began < n) ∧ y.pc.returning = false := by
  intro y hy hu
  simp only [removalClean, ht, List.all_eq_true] at hok
  have h := hok y hy
  simp only [hu, ne_eq, not_true_eq_false, decide_false, Bool.false_or, Bool.and_eq_true,
    Bool.not_eq_true'] at h
  refine ⟨fun n hn => ?_, h.2⟩
  simpa [hn] using h.1

theorem removalClean_store {cfg : Config} {s : State} {t now g : ℕ} {uri : String} {why : Use}
    {ks : Obtained} (hok : removalClean cfg s (.move t ⟨now, .run⟩) = true)
    (ht : s.tasks[t]? = some ⟨uri, .store why g ks⟩) :
    ∀ y ∈ s.tasks, y.pc.returning = true → y.uri ≠ uri →
      (s.shared.cache.put cfg uri ks now).stored y.uri ≠ none := by
  intro y hy hret hne
  simp only [removalClean, ht, List.all_eq_true] at hok
  have h := hok y hy
  simp only [hret, Bool.not_true, Bool.false_or, hne, decide_false] at h
  exact Option.isSome_iff_ne_none.mp h

theorem move_run {cfg : Config} {s : State} {t : ℕ} {e : Event}
    (hok : removalClean cfg s (.move t e) = true) (hact : e.act = .run) :
    removalClean cfg s (.move t ⟨e.now, .run⟩) = true := by
  rw [← hact]
  exact hok

theorem task_eta {x : Task} {pc : Pc} (hpc : x.pc = pc) :
    (some x : Option Task) = some ⟨x.uri, pc⟩ := by rw [← hpc]

/-- The step number a forced refresh began at, from its first operation on. -/
def Pc.began : Pc → Option ℕ
  | .invalidate _ began => some began
  | pc => pc.refreshing

theorem Pc.began_of_refreshing {pc : Pc} {b : ℕ} (h : pc.refreshing = some b) :
    pc.began = some b := by
  cases pc <;> first | exact h | cases h

theorem afterFetch_refreshing {why : Use} {r : Fetched} {b : ℕ}
    (h : (afterFetch why r).began = some b) :
    why.refresh = some b ∧ ∃ ks, r = .ok ks ∧ (afterFetch why r).obtained = some ks := by
  unfold afterFetch at *
  cases r with
  | cancelled => cases h
  | error e => cases h
  | ok ks =>
      cases hr : why.refresh with
      | some began =>
          simp only [hr] at h
          exact ⟨h, ks, rfl, rfl⟩
      | none =>
          simp only [hr] at h
          split at h
          · cases h
          · split at h <;> cases h

theorem afterFetch_pending (why : Use) (r : Fetched) : (afterFetch why r).pending = none := by
  unfold afterFetch
  repeat' split
  all_goals rfl

section Effect

variable {cfg : Config} {w w' : Shared} {uri : String} {pc pc' : Pc} {act : Act}

theorem Advance.began_effect (h : Advance cfg w uri pc act w' pc') {b : ℕ}
    (hb : pc'.began = some b) : pc.began = some b ∨ b = w.clock := by
  cases h with
  | lookupHit why ks hget hne => exact .inl (afterFetch_refreshing hb).1
  | dropGuard why g r => exact .inl (afterFetch_refreshing hb).1
  | passed kid hthr => exact .inr (Option.some.inj hb).symm
  | cancelHeld _ why g hcase => obtain rfl | ⟨n, rfl⟩ | ⟨ks, rfl⟩ := hcase <;> exact .inl hb
  | _ => first | exact .inl hb | cases hb

theorem Advance.refreshing_effect (h : Advance cfg w uri pc act w' pc') {b : ℕ}
    (hb : pc'.refreshing = some b) :
    pc.refreshing = some b ∨ ∃ kid, pc = .invalidate kid b ∧ act = .run := by
  have hbegan := Pc.began_of_refreshing hb
  cases h with
  | invalidate kid began =>
      have hbb : began = b := Option.some.inj hb
      exact .inr ⟨kid, by rw [hbb], rfl⟩
  | lookupHit why ks hget hne => exact .inl (afterFetch_refreshing hbegan).1
  | dropGuard why g r => exact .inl (afterFetch_refreshing hbegan).1
  | cancelHeld _ why g hcase => obtain rfl | ⟨n, rfl⟩ | ⟨ks, rfl⟩ := hcase <;> exact .inl hb
  | _ => first | exact .inl hb | cases hb

theorem Advance.pending_effect (h : Advance cfg w uri pc act w' pc') {n : ℕ}
    (hn : pc'.pending = some n) : pc.pending = some n ∨ n = w.clock := by
  cases h with
  | lookupHit why ks hget hne => simp [afterFetch_pending] at hn
  | dropGuard why g r => simp [afterFetch_pending] at hn
  | send why g hget => exact .inr (Option.some.inj hn).symm
  | _ => first | exact .inl hn | cases hn

/-- A refresher obtains its set from the cache or from the request it stores. -/
theorem Advance.obtained_effect (h : Advance cfg w uri pc act w' pc') {b : ℕ} {ks : Obtained}
    (hb : pc'.refreshing = some b) (hks : pc'.obtained = some ks) :
    (pc.obtained = some ks ∧ pc.refreshing = some b) ∨
      (pc.refreshing = some b ∧ ∃ expiresAt, w.cache.stored uri = some (ks, expiresAt) ∧
        ∀ u, w'.cache.stored u = w.cache.stored u) ∨
      (pc.refreshing = some b ∧ pc.pending = some ks.requestedAt ∧
        w'.cache = w.cache.put cfg uri ks w.now) := by
  cases h with
  | lookupHit why ks' hget hne =>
      obtain ⟨hr, ks'', hk, hk'⟩ := afterFetch_refreshing (Pc.began_of_refreshing hb)
      cases hk
      rw [hk'] at hks
      cases hks
      obtain ⟨expiresAt, hst⟩ := get_eq_some hget
      exact .inr (.inl ⟨hr, expiresAt, hst, fun u => stored_get _ _ _ _⟩)
  | recheckHit why g ks' hget =>
      cases hks
      obtain ⟨expiresAt, hst⟩ := get_eq_some hget
      exact .inr (.inl ⟨hb, expiresAt, hst, fun u => stored_get _ _ _ _⟩)
  | store why g ks' =>
      cases hks
      exact .inr (.inr ⟨hb, rfl, rfl⟩)
  | unlock why g r => cases r <;> exact .inl ⟨hks, hb⟩
  | dropGuard why g r =>
      obtain ⟨hr, ks', rfl, hk'⟩ := afterFetch_refreshing (Pc.began_of_refreshing hb)
      rw [hk'] at hks
      cases hks
      exact .inl ⟨rfl, hr⟩
  | _ => cases hks

theorem Advance.ticksBelow (h : Advance cfg w uri pc act w' pc') (hw : w.cache.TicksBelow) :
    w'.cache.TicksBelow := by
  cases h with
  | invalidate kid began => exact ticksBelow_invalidate hw uri
  | lookupFail why e cache hc =>
      obtain rfl | rfl := hc
      · exact hw
      · exact ticksBelow_get hw uri w.now
  | lookupHit => exact ticksBelow_get hw uri w.now
  | lookupMiss => exact ticksBelow_get hw uri w.now
  | recheckHit => exact ticksBelow_get hw uri w.now
  | send => exact ticksBelow_get hw uri w.now
  | store why g ks => exact ticksBelow_put hw _ _ _ _
  | _ => exact hw

theorem Advance.refreshed_effect (h : Advance cfg w uri pc act w' pc') :
    w'.refreshed = w.refreshed ∨ ∃ kid began ks, pc = .mark kid began ks ∧
      w'.refreshed = ⟨uri, began, ks.requestedAt,
        (w.cache.stored uri).map fun held => held.1.requestedAt⟩ :: w.refreshed := by
  cases h with
  | mark kid began ks => exact .inr ⟨kid, began, ks, rfl, rfl⟩
  | _ => exact .inl rfl

theorem Advance.clock (h : Advance cfg w uri pc act w' pc') : w'.clock = w.clock := by
  cases h <;> rfl

end Effect

/-- A forced refresh began before now; past its removal, the set in the cache, the
request it waits for and the set it obtained are all later than it, and the cache
holds a set from the moment it obtained one. -/
structure RefreshFresh (w : Shared) (x : Task) : Prop where
  began : ∀ b, x.pc.began = some b → b < w.clock
  cached : ∀ b, x.pc.refreshing = some b →
    ∀ held expiresAt, w.cache.stored x.uri = some (held, expiresAt) → b < held.requestedAt
  pending : ∀ b n, x.pc.refreshing = some b → x.pc.pending = some n → b < n
  obtained : ∀ b ks, x.pc.refreshing = some b → x.pc.obtained = some ks →
    b < ks.requestedAt ∧ w.cache.stored x.uri ≠ none

/-- Requests pending beside a forced refresh on the same URI are later than it. -/
def PendingLater (x y : Task) : Prop :=
  x.uri = y.uri → (∀ b n, x.pc.refreshing = some b → y.pc.pending = some n → b < n) ∧
    ∀ b n, y.pc.refreshing = some b → x.pc.pending = some n → b < n

theorem PendingLater.symm (x y : Task) (h : PendingLater x y) : PendingLater y x :=
  fun hu => ⟨(h hu.symm).2, (h hu.symm).1⟩

/-- A refresh that returned got, and left in the cache, a set requested after it
began. -/
def Refreshed.Fresh (r : Refreshed) : Prop :=
  r.began < r.got ∧ ∃ c, r.cached = some c ∧ r.began < c

instance (r : Refreshed) : Decidable r.Fresh :=
  decidable_of_iff (r.began < r.got ∧ r.cached.any (fun c => r.began < c) = true) (by
    unfold Refreshed.Fresh
    cases r.cached <;> simp)

def FreshLog (w : Shared) : Prop := w.cache.TicksBelow ∧ ∀ r ∈ w.refreshed, r.Fresh

section Move

variable {cfg : Config} {s : State} {t : ℕ} {e : Event} {x : Task} {v : Shared} {pc' : Pc}

/-- The moving task keeps its own part of the invariant. -/
theorem refreshFresh_self (hticks : s.shared.cache.TicksBelow) (hx : RefreshFresh s.shared x)
    (hadv : Advance cfg { s.shared with now := e.now } x.uri x.pc e.act v pc') :
    RefreshFresh { v with clock := v.clock + 1 } ⟨x.uri, pc'⟩ := by
  have hclock : v.clock = s.shared.clock := hadv.clock
  have hlt : ∀ b, pc'.refreshing = some b → b < s.shared.clock := by
    intro b hb
    obtain hold | ⟨kid, hpc, -⟩ := hadv.refreshing_effect hb
    · exact hx.began b (Pc.began_of_refreshing hold)
    · exact hx.began b (by rw [hpc]; rfl)
  refine ⟨fun b hb => ?_, fun b hb held expiresAt hst => ?_, fun b n hb hn => ?_,
    fun b ks hb hks => ?_⟩
  · show b < v.clock + 1
    obtain hold | hnew := hadv.began_effect hb
    · have := hx.began b hold
      omega
    · have hnew : b = s.shared.clock := hnew
      omega
  · obtain hold | ⟨kid, hpc, hact⟩ := hadv.refreshing_effect hb
    · obtain hsame | ⟨kid, began, hpc, -⟩ | ⟨why, g, ks, hpc, -, hcache, -⟩ := hadv.stored_effect
      · exact hx.cached b hold held expiresAt ((hsame x.uri).symm.trans hst)
      · rw [hpc] at hold
        cases hold
      · have hst' : (s.shared.cache.put cfg x.uri ks e.now).stored x.uri = some (held, expiresAt) := by
          rw [← hst, hcache]
        obtain ⟨-, rfl⟩ | ⟨hne, -⟩ := stored_put hst'
        · exact hx.pending b _ hold (by rw [hpc]; rfl)
        · exact absurd rfl hne
    · have hnone := hadv.removes hpc (by simp [hact])
      exact absurd (hnone.symm.trans hst) (by simp)
  · obtain hold | hnew := hadv.pending_effect hn
    · obtain hb' | ⟨kid, hpc, -⟩ := hadv.refreshing_effect hb
      · exact hx.pending b n hb' hold
      · rw [hpc] at hold
        cases hold
    · rw [hnew]
      exact hlt b hb
  · obtain ⟨hks', hb'⟩ | ⟨hb', expiresAt, hst, hsame⟩ | ⟨hb', hpend, hcache⟩ :=
      hadv.obtained_effect hb hks
    · obtain ⟨hlt', hst⟩ := hx.obtained b ks hb' hks'
      refine ⟨hlt', ?_⟩
      obtain hsame | ⟨kid, began, hpc, -⟩ | ⟨why, g, ks', hpc, -⟩ := hadv.stored_effect
      · rw [show v.cache.stored x.uri = s.shared.cache.stored x.uri from hsame x.uri]
        exact hst
      · rw [hpc] at hb'
        cases hb'
      · rw [hpc] at hks'
        cases hks'
    · refine ⟨hx.cached b hb' ks expiresAt hst, ?_⟩
      rw [show v.cache.stored x.uri = _ from (hsame x.uri).trans hst]
      simp
    · refine ⟨hx.pending b _ hb' hpend, ?_⟩
      have hst := stored_put_self hticks cfg.maxEntries x.uri ks (checkedAdd cfg e.now cfg.cacheTtl)
      rw [show v.cache.stored x.uri = _ from (congrArg (·.stored x.uri) hcache).trans hst]
      simp

/-- Any other task keeps its part of the invariant. -/
theorem refreshFresh_other (hticks : s.shared.cache.TicksBelow)
    (hok : removalClean cfg s (.move t e) = true) (hx : s.tasks[t]? = some x)
    (hadv : Advance cfg { s.shared with now := e.now } x.uri x.pc e.act v pc') {y : Task}
    (hymem : y ∈ s.tasks) (hy : RefreshFresh s.shared y) (hxy : PendingLater x y) :
    RefreshFresh { v with clock := v.clock + 1 } y := by
  have hclock : v.clock = s.shared.clock := hadv.clock
  refine ⟨fun b hb => ?_, fun b hb held expiresAt hst => ?_, hy.pending, fun b ks hb hks => ?_⟩
  · show b < v.clock + 1
    have := hy.began b hb
    omega
  · obtain hsame | ⟨kid, began, hpc, -, hcache, -⟩ | ⟨why, g, ks, hpc, -, hcache, -⟩ :=
      hadv.stored_effect
    · exact hy.cached b hb held expiresAt ((hsame y.uri).symm.trans hst)
    · have hst' : (s.shared.cache.invalidate x.uri).stored y.uri = some (held, expiresAt) := by
        rw [← hst, hcache]
      rw [stored_invalidate] at hst'
      split at hst'
      · cases hst'
      · exact hy.cached b hb held expiresAt hst'
    · have hst' : (s.shared.cache.put cfg x.uri ks e.now).stored y.uri = some (held, expiresAt) := by
        rw [← hst, hcache]
      obtain ⟨hu, rfl⟩ | ⟨-, hold⟩ := stored_put hst'
      · exact (hxy hu.symm).2 b _ hb (by rw [hpc]; rfl)
      · exact hy.cached b hb held expiresAt hold
  · obtain ⟨hlt, hst⟩ := hy.obtained b ks hb hks
    have hret : y.pc.returning = true := by simp [Pc.returning, hb, hks]
    refine ⟨hlt, ?_⟩
    obtain hsame | ⟨kid, began, hpc, hact, hcache, -⟩ | ⟨why, g, ks', hpc, hact, hcache, -⟩ :=
      hadv.stored_effect
    · rw [show v.cache.stored y.uri = s.shared.cache.stored y.uri from hsame y.uri]
      exact hst
    · have hne : y.uri ≠ x.uri := by
        intro hu
        have hclean := removalClean_invalidate (move_run hok hact) (hx.trans (task_eta hpc)) y hymem hu
        simp [hret] at hclean
      show v.cache.stored y.uri ≠ none
      rw [hcache, stored_invalidate]
      simpa [hne] using hst
    · show v.cache.stored y.uri ≠ none
      rw [hcache]
      by_cases hu : y.uri = x.uri
      · have hst' := stored_put_self hticks cfg.maxEntries x.uri ks'
          (checkedAdd cfg e.now cfg.cacheTtl)
        rw [hu]
        intro hnone
        exact absurd (hnone.symm.trans hst') (by simp)
      · exact removalClean_store (move_run hok hact) (hx.trans (task_eta hpc)) y hymem hret hu

theorem pendingLater_move (hok : removalClean cfg s (.move t e) = true)
    (hx : s.tasks[t]? = some x)
    (hadv : Advance cfg { s.shared with now := e.now } x.uri x.pc e.act v pc') {y : Task}
    (hymem : y ∈ s.tasks) (hy : RefreshFresh s.shared y) (hxy : PendingLater x y) :
    PendingLater ⟨x.uri, pc'⟩ y := by
  intro hu
  have hu : x.uri = y.uri := hu
  refine ⟨fun b n hb hn => ?_, fun b n hb hn => ?_⟩
  · obtain hold | ⟨kid, hpc, hact⟩ := hadv.refreshing_effect hb
    · exact (hxy hu).1 b n hold hn
    · exact (removalClean_invalidate (move_run hok hact) (hx.trans (task_eta hpc)) y hymem hu.symm).1
        n hn
  · obtain hold | hnew := hadv.pending_effect hn
    · exact (hxy hu).2 b n hb hold
    · rw [hnew]
      exact hy.began b (Pc.began_of_refreshing hb)

theorem freshLog_move (h : FreshLog s.shared) (hx : RefreshFresh s.shared x)
    (hadv : Advance cfg { s.shared with now := e.now } x.uri x.pc e.act v pc') :
    FreshLog { v with clock := v.clock + 1 } := by
  refine ⟨hadv.ticksBelow h.1, ?_⟩
  show ∀ r ∈ v.refreshed, r.Fresh
  obtain hsame | ⟨kid, began, ks, hpc, hlog⟩ := hadv.refreshed_effect
  · rw [hsame]
    exact h.2
  · rw [hlog]
    intro r hr
    obtain rfl | hr := List.mem_cons.mp hr
    · obtain ⟨hlt, hst⟩ := hx.obtained began ks (by rw [hpc]; rfl) (by rw [hpc]; rfl)
      obtain ⟨⟨held, expiresAt⟩, hheld⟩ := Option.ne_none_iff_exists'.mp hst
      have hcached := hx.cached began (by rw [hpc]; rfl) held expiresAt hheld
      exact ⟨hlt, held.requestedAt, by simp [hheld], hcached⟩
    · exact h.2 r hr

end Move

/-- The invariant of every run whose removals are clean. -/
theorem fresh_step (cfg : Config) (s : State) (l : Label) (s' : State)
    (h : Holds FreshLog RefreshFresh PendingLater s) (hok : removalClean cfg s l = true)
    (hstep : (client cfg).step s l = some s') : Holds FreshLog RefreshFresh PendingLater s' := by
  refine Machine.holds_step (client_fork cfg) (fun s l => removalClean cfg s l = true) PendingLater.symm ?_ ?_
    s l s' h hok hstep
  · intro s call w x h _ hspawn
    obtain ⟨rfl, rfl⟩ := client_spawn hspawn
    have hlater : ∀ y : Task, RefreshFresh s.shared y →
        RefreshFresh { s.shared with clock := s.shared.clock + 1 } y := fun y hy =>
      ⟨fun b hb => Nat.lt_succ_of_lt (hy.began b hb), hy.cached, hy.pending, hy.obtained⟩
    have hstart : (call.start s.shared.clock).refreshing = none ∧
        (call.start s.shared.clock).pending = none ∧
        ∀ b, (call.start s.shared.clock).began = some b → b = s.shared.clock := by
      cases call with
      | fetch jwksUri => exact ⟨rfl, rfl, fun b hb => by cases hb⟩
      | forceRefresh jwksUri => exact ⟨rfl, rfl, fun b hb => (Option.some.inj hb).symm⟩
      | resolveKey jwksUri kid => exact ⟨rfl, rfl, fun b hb => by cases hb⟩
    obtain ⟨hr, hp, hb⟩ := hstart
    refine ⟨h.shared, ⟨?_, ?_, ?_, ?_⟩, fun j y hy => ⟨hlater y (h.each j y hy), fun _ => ?_⟩⟩
    · intro b hbegan
      rw [hb b hbegan]
      exact Nat.lt_succ_self _
    · simp [hr]
    · simp [hr]
    · simp [hr]
    · simp [hr, hp]
  · intro s t e x w x' h hok hx hmove
    obtain ⟨hle, v, pc', hadv, rfl, rfl⟩ := client_move hmove
    have hself := h.each t x hx
    refine ⟨freshLog_move h.shared hself hadv, refreshFresh_self h.shared.1 hself hadv, ?_⟩
    intro j y hj hy
    have hpair := h.pair t j x y (Ne.symm hj) hx hy
    exact ⟨refreshFresh_other h.shared.1 hok hx hadv (List.mem_of_getElem? hy) (h.each j y hy) hpair,
      pendingLater_move hok hx hadv (List.mem_of_getElem? hy) (h.each j y hy) hpair⟩

/-- Every forced refresh that returns in such a run is fresh. -/
theorem forceRefresh_fresh {cfg : Config} {ls : List Label} {s : State}
    (hok : Meets (client cfg).step (fun s l => removalClean cfg s l = true) initial ls)
    (hrun : run cfg initial ls = some s) : ∀ r ∈ s.shared.refreshed, r.Fresh := by
  have hinit : Holds FreshLog RefreshFresh PendingLater initial := by
    refine Holds.of_idle ⟨?_, ?_⟩ rfl
    · intro key e he
      cases he
    · intro r hr
      cases hr
  exact (exec_invariant (fresh_step cfg) hinit hok hrun).shared.2

end IdentityModel.RustJwks
