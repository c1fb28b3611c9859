import IdentityModel.GoFreshness
import IdentityModel.Cooldown

/-!
# The refresh cooldown of the Go JWKS package

`ResolveKeyWithRefresh` checks the cooldown before its forced refresh, which
records it after the fetch. The request itself is sent by the flight the
refresher created. In the runs in which no `kid` miss passes the check while
another one is between its check and its record, the requests caused by `kid`
misses of one URI are a cooldown apart.
-/
namespace IdentityModel.GoJwks

open Runs Tasks Throttle Cooldown TtlCache

/-- The caller is in the forced refresh of a `kid` miss, up to its record. -/
def Proc.inKidMiss : Proc → Bool
  | .caller _ _ (.invalidate _ kid _) => kid.isSome
  | .caller _ _ (.lookup why) => why.kidMiss
  | .caller _ _ (.doChan why) => why.kidMiss
  | .caller _ _ (.wait why _) => why.kidMiss
  | .caller _ _ (.mark _ kid _ _) => kid.isSome
  | _ => false

/-- The request of a `kid` miss is still to be sent: by the caller's flight, which
it has not created, or by the flight. -/
def Proc.unsent : Proc → Bool
  | .caller _ _ (.invalidate _ kid _) => kid.isSome
  | .caller _ _ (.lookup why) => why.kidMiss
  | .caller _ _ (.doChan why) => why.kidMiss
  | .flight _ _ _ kidMiss .recheck => kidMiss
  | _ => false

/-- The flight of a `kid` miss that has not delivered. -/
def Proc.kidMissFlight : Proc → Option ℕ
  | .flight _ _ _ _ .ended => none
  | .flight id _ _ true _ => some id
  | _ => none

/-- The flight has not delivered. -/
def Proc.undelivered : Proc → Option ℕ
  | .flight _ _ _ _ .ended => none
  | .flight id _ _ _ _ => some id
  | _ => none

/-- The result a flight is about to deliver. -/
def Proc.finishing : Proc → Option Result
  | .flight _ _ _ _ (.finish r) => some r
  | _ => none

def Proc.cfg : Proc → Config
  | .caller _ cfg _ => cfg
  | .flight _ _ cfg _ _ => cfg

/-- The send times of the requests that `kid` misses of `u` caused, newest first. -/
def kidMissTimes (u : String) (w : Shared) : List ℕ :=
  (w.requests.filter fun r => r.uri = u && r.kidMiss).map fun r => r.at_

section Run

variable (lib : Library) (c : ℕ) (u : String)

/-- The configuration has the cooldown `c` and accepts the URI. -/
def Accepts (cfg : Config) : Prop := cfg.refreshCooldown = c ∧ uriError lib cfg u = none

instance (cfg : Config) : Decidable (Accepts lib c u cfg) :=
  inferInstanceAs (Decidable (_ ∧ _))

/-- Calls on `u` with the cooldown `c`, against a provider that always answers. -/
def answeringCall : Label → Bool
  | .spawn (.fetchKeySet jwksURI cfg) => jwksURI = u && Accepts lib c u cfg
  | .move _ ⟨_, .response (.error _)⟩ => false
  | _ => true

end Run

/-- A `kid` miss passes the cooldown check only when no other one of its URI is
between its check and its record, and none gives up waiting. -/
def kidMissAlone (s : State) : Label → Bool
  | .move t ⟨now, .run⟩ =>
      match s.tasks[t]? with
      | some (.caller uri cfg (.throttle _ _)) =>
          s.shared.cache.refreshThrottled cfg.refreshCooldown uri now ||
            s.tasks.all fun y => y.uri ≠ uri || !y.inKidMiss
      | _ => true
  | .move t ⟨_, .ctxDone _⟩ =>
      match s.tasks[t]? with
      | some x => !x.inKidMiss
      | none => true
  | _ => true

theorem kidMissAlone_passed {s : State} {t : ℕ} {e : Event} {uri : String} {cfg : Config} {h : ℕ}
    {kid : String} (hok : kidMissAlone s (.move t e) = true) (hact : e.act = .run)
    (hx : s.tasks[t]? = some (.caller uri cfg (.throttle h kid)))
    (hthr : s.shared.cache.refreshThrottled cfg.refreshCooldown uri e.now = false) :
    ∀ y ∈ s.tasks, y.uri = uri → y.inKidMiss = false := by
  obtain ⟨now, act⟩ := e
  simp only at hact hthr
  subst hact
  simp only [kidMissAlone, hx, hthr, Bool.false_or, List.all_eq_true] at hok
  intro y hy hu
  simpa [hu] using hok y hy

theorem kidMissAlone_ctxDone {s : State} {t : ℕ} {e : Event} {x : Proc} {err : String}
    (hok : kidMissAlone s (.move t e) = true) (hact : e.act = .ctxDone err)
    (hx : s.tasks[t]? = some x) : x.inKidMiss = false := by
  obtain ⟨now, act⟩ := e
  simp only at hact
  subst hact
  simpa [kidMissAlone, hx] using hok

section Effect

variable {lib : Library} {c : ℕ} {u : String} {w w' : Shared}
  {x x' : Proc} {act : Act}

/-- What an operation means for the cooldown of `u`: nothing; a check passed; a
request of a `kid` miss; a record. -/
inductive Throttling (c : ℕ) (u : String) (w w' : Shared) (x x' : Proc) (act : Act) : Prop
  | quiet (times : kidMissTimes u w' = kidMissTimes u w)
      (stamp : w'.cache.lastRefresh.lookup u = w.cache.lastRefresh.lookup u)
      (unsent : x'.unsent = true → x.unsent = true)
      (inside : x.inKidMiss = true → x'.inKidMiss = true)
  | passed (uri : String) (cfg : Config) (h : ℕ) (kid : String)
      (pc : x = .caller uri cfg (.throttle h kid)) (run : act = .run)
      (notThrottled : w.cache.refreshThrottled cfg.refreshCooldown uri w.now = false)
      (same : w' = w)
  | sent (id : ℕ) (flight : x.kidMissFlight = some id)
      (times : kidMissTimes u w' = w.now :: kidMissTimes u w) (before : x.unsent = true)
      (after : x'.unsent = false) (outside : x.inKidMiss = false)
  | marked (times : kidMissTimes u w' = kidMissTimes u w)
      (stamp : w'.cache.lastRefresh.lookup u = some w.now) (after : x'.unsent = false)

theorem Advance.throttling (h : Advance lib w x act w' x') (hkey : w.cache.SingleKey u)
    (huri : x.uri = u) (haccept : Accepts lib c u x.cfg)
    (hresult : ∀ f r, w.results.lookup f = some r → ∃ keys, r = .ok keys)
    (hctx : ∀ err, act = .ctxDone err → x.inKidMiss = false)
    (hfail : ∀ e, act ≠ .response (.error e)) : Throttling c u w w' x x' act := by
  cases h with
  | caller h =>
      obtain rfl : _ = u := huri
      cases h with
      | passed hd kid ht => exact .passed _ _ hd kid rfl rfl ht rfl
      | invalidate hd kid began =>
          refine .quiet rfl rfl (fun h => ?_) (fun h => ?_) <;>
            cases kid <;> simp_all [Proc.unsent, Proc.inKidMiss, Why.kidMiss]
      | hitFetch keys hget =>
          exact .quiet rfl (by simp) (fun h => by cases h) (fun h => by cases h)
      | hitRefresh hd kid began keys hget =>
          refine .quiet rfl (by simp) (fun h => by cases h) (fun h => ?_)
          cases kid <;> simp_all [Proc.inKidMiss, Why.kidMiss]
      | miss why hget => exact .quiet rfl (by simp) id id
      | joined why f hg => exact .quiet rfl rfl (fun h => by cases h) id
      | created why hg => exact .quiet rfl rfl (fun h => by cases h) id
      | gotFetch f keys hr => exact .quiet rfl rfl (fun h => by cases h) (fun h => by cases h)
      | gotRefresh hd kid began f keys hr =>
          refine .quiet rfl rfl (fun h => by cases h) (fun h => ?_)
          cases kid <;> simp_all [Proc.inKidMiss, Why.kidMiss]
      | gotError why f e hr =>
          obtain ⟨keys, hk⟩ := hresult f _ hr
          cases hk
      | ctxDone why f err =>
          refine .quiet rfl rfl (fun h => by cases h) (fun h => ?_)
          simp [hctx err rfl] at h
      | mark hd kid began keys => exact .marked rfl (markRefresh_single hkey _ _).1 rfl
      | assign hd kid began keys =>
          refine .quiet rfl rfl (fun h => ?_) (fun h => by cases h)
          cases kid <;> cases h
      | resolved => exact .quiet rfl rfl (fun h => by cases h) (fun h => by cases h)
      | missed => exact .quiet rfl rfl (fun h => by cases h) (fun h => by cases h)
      | throttled => exact .quiet rfl rfl (fun h => by cases h) (fun h => by cases h)
      | retried => exact .quiet rfl rfl (fun h => by cases h) (fun h => by cases h)
  | @flight id uri cfg kidMiss pc pc' _ _ h =>
      obtain rfl : uri = u := huri
      cases h with
      | hit keys hget => exact .quiet rfl (by simp) (fun h => by cases h) (fun h => by cases h)
      | refused e he =>
          have hnone : uriError lib cfg uri = none := haccept.2
          exact absurd (hnone.symm.trans he) (by simp)
      | send =>
          cases kidMiss with
          | true => exact .sent id rfl (by simp [kidMissTimes]) rfl rfl rfl
          | false =>
              exact .quiet (by simp [kidMissTimes]) (by simp) (fun h => by cases h)
                (fun h => by cases h)
      | answered => exact .quiet rfl rfl (fun h => by cases h) (fun h => by cases h)
      | failed started e => exact absurd rfl (hfail e)
      | store keys =>
          refine .quiet rfl ?_ (fun h => by cases h) (fun h => by cases h)
          simp only
          rw [(put_single hkey _ _ _).1]
      | finish r => exact .quiet rfl rfl (fun h => by cases h) (fun h => by cases h)

theorem Advance.singleKey (h : Advance lib w x act w' x') (hkey : w.cache.SingleKey u)
    (huri : x.uri = u) : w'.cache.SingleKey u := by
  cases h with
  | caller h =>
      obtain rfl : _ = u := huri
      cases h with
      | invalidate => exact singleKey_invalidate hkey _
      | hitFetch => exact singleKey_get hkey _
      | hitRefresh => exact singleKey_get hkey _
      | miss => exact singleKey_get hkey _
      | mark => exact (markRefresh_single hkey _ _).2
      | _ => exact hkey
  | @flight id uri cfg kidMiss pc pc' _ _ h =>
      obtain rfl : uri = u := huri
      cases h with
      | hit => exact singleKey_get hkey _
      | refused => exact singleKey_get hkey _
      | send => exact singleKey_get hkey _
      | store keys => exact (put_single hkey _ _ _).2
      | _ => exact hkey

theorem Advance.now_eq (h : Advance lib w x act w' x') : w'.now = w.now := by
  cases h with
  | caller h => cases h <;> rfl
  | flight h => cases h <;> rfl

end Effect

section Invariant

variable (lib : Library) (c : ℕ) (u : String)

/-- Only `u` is cached, every handle is on it, and every result delivered has keys. -/
structure UriShared (w : Shared) : Prop where
  key : w.cache.SingleKey u
  handles : ∀ h ∈ w.handles, h.uri = u ∧ Accepts lib c u h.cfg
  results : ∀ f r, w.results.lookup f = some r → ∃ keys, r = .ok keys
  delivered : ∀ f r, w.results.lookup f = some r → f < w.nextFlight

/-- The goroutine is on `u`, and a flight delivers keys, once. -/
structure UriProc (w : Shared) (x : Proc) : Prop where
  uri : x.uri = u
  accepts : Accepts lib c u x.cfg
  finishing : ∀ r, x.finishing = some r → ∃ keys, r = .ok keys
  flight : ∀ id, x.flightId = some id → id < w.nextFlight
  undelivered : ∀ id, x.undelivered = some id → w.results.lookup id = none

def DistinctFlights (x y : Proc) : Prop := ∀ id, x.flightId = some id → y.flightId ≠ some id

/-- Every call of the run is on `u`. -/
abbrev OnUri : State → Prop := Holds (UriShared lib c u) (UriProc lib c u) DistinctFlights

end Invariant

theorem Proc.flightId_of_undelivered {x : Proc} {id : ℕ} (h : x.undelivered = some id) :
    x.flightId = some id := by
  cases x with
  | caller => cases h
  | flight _ _ _ _ pc => cases pc <;> first | exact h | cases h

theorem Proc.undelivered_of_kidMissFlight {x : Proc} {id : ℕ} (h : x.kidMissFlight = some id) :
    x.undelivered = some id := by
  cases x with
  | caller => cases h
  | flight _ _ _ kidMiss pc => cases pc <;> cases kidMiss <;> first | exact h | cases h

section Move

variable {lib : Library} {c : ℕ} {u : String} {s : State} {t : ℕ}
  {e : Event} {x x' : Proc} {v : Shared}

theorem answeringCall_act (hans : answeringCall lib c u (.move t e) = true) (err : JwksError) :
    e.act ≠ .response (.error err) := by
  intro hact
  obtain ⟨now, act⟩ := e
  simp only at hact
  subst hact
  cases hans

theorem uriShared_move (h : UriShared lib c u s.shared) (hx : UriProc lib c u s.shared x)
    (hadv : Advance lib { s.shared with now := e.now } x e.act v x') :
    UriShared lib c u { v with clock := v.clock + 1 } := by
  refine ⟨hadv.singleKey h.key hx.uri, ?_, fun f r hr => ?_, fun f r hr => ?_⟩
  · show ∀ hd ∈ v.handles, hd.uri = u ∧ Accepts lib c u hd.cfg
    have hnew : ∀ keys, ∀ hd ∈ s.shared.handles ++ [⟨keys, x.uri, x.cfg⟩],
        hd.uri = u ∧ Accepts lib c u hd.cfg := by
      intro keys hd hmem
      obtain hmem | hmem := List.mem_append.mp hmem
      · exact h.handles hd hmem
      · rw [List.mem_singleton.mp hmem]
        exact ⟨hx.uri, hx.accepts⟩
    generalize e.act = act at hadv
    cases hadv with
    | flight hs => cases hs <;> exact h.handles
    | caller hs =>
        cases hs with
        | hitFetch keys hget => exact hnew keys
        | gotFetch f keys hr => exact hnew keys
        | assign hd kid began keys =>
            intro hd' hmem
            obtain ⟨i, hi⟩ := List.mem_iff_getElem?.mp hmem
            simp only [assignStep, List.getElem?_modify] at hi
            obtain ⟨old, hold, hset⟩ := Option.map_eq_some_iff.mp hi
            have hkeep := h.handles old (List.mem_of_getElem? hold)
            split at hset <;> cases hset <;> exact hkeep
        | _ => exact h.handles
  · obtain ⟨-, -, hres⟩ | ⟨uri, -, -, -, -, hres⟩ | ⟨id, uri, cfg, kidMiss, r', rfl, -, -, hres, -⟩ :=
      hadv.group_effect
    · exact h.results f r (hres ▸ hr)
    · exact h.results f r (hres ▸ hr)
    · simp only [hres] at hr
      obtain ⟨-, rfl⟩ | ⟨-, hold⟩ := Dict.lookup_insert_eq_some.mp hr
      · exact hx.finishing _ rfl
      · exact h.results f r hold
  · obtain ⟨-, hn, hres⟩ | ⟨uri, -, -, -, hn, hres⟩ | ⟨id, uri, cfg, kidMiss, r', rfl, -, hn, hres, -⟩ :=
      hadv.group_effect
    · simp only [hn, hres] at hr ⊢
      exact h.delivered f r hr
    · simp only [hn, hres] at hr ⊢
      exact Nat.lt_succ_of_lt (h.delivered f r hr)
    · simp only [hn, hres] at hr ⊢
      obtain ⟨rfl, -⟩ | ⟨-, hold⟩ := Dict.lookup_insert_eq_some.mp hr
      · exact hx.flight f rfl
      · exact h.delivered f r hold

theorem uriProc_self (h : UriShared lib c u s.shared) (hx : UriProc lib c u s.shared x)
    (hans : answeringCall lib c u (.move t e) = true)
    (hadv : Advance lib { s.shared with now := e.now } x e.act v x') :
    UriProc lib c u { v with clock := v.clock + 1 } x' := by
  have hcfg : x'.cfg = x.cfg := by cases hadv <;> rfl
  have hfail := answeringCall_act hans
  refine ⟨hadv.uri_eq.trans hx.uri, hcfg ▸ hx.accepts, fun r hr => ?_, fun id hid => ?_,
    fun id hid => ?_⟩
  · generalize e.act = act at hadv hfail
    cases hadv with
    | caller hs => cases hr
    | @flight id uri cfg kidMiss pc pc' _ _ hs =>
        cases hs with
        | hit keys hget => exact ⟨keys, (Option.some.inj hr).symm⟩
        | store keys => exact ⟨keys, (Option.some.inj hr).symm⟩
        | failed started err => exact absurd rfl (hfail err)
        | refused err he =>
            obtain rfl : uri = u := hx.uri
            have hnone : uriError lib cfg uri = none := hx.accepts.2
            exact absurd (hnone.symm.trans he) (by simp)
        | _ => cases hr
  · show id < v.nextFlight
    rw [hadv.flightId_eq] at hid
    exact lt_of_lt_of_le (hx.flight id hid) (nextFlight_le hadv)
  · show v.results.lookup id = none
    generalize e.act = act at hadv
    cases hadv with
    | caller hs => cases hid
    | @flight id' uri cfg kidMiss pc pc' _ _ hs =>
        cases hs with
        | finish r => cases hid
        | _ =>
            cases hid
            exact hx.undelivered id rfl

theorem uriProc_other {y : Proc} (hxy : DistinctFlights x y) (hy : UriProc lib c u s.shared y)
    (hadv : Advance lib { s.shared with now := e.now } x e.act v x') :
    UriProc lib c u { v with clock := v.clock + 1 } y := by
  refine ⟨hy.uri, hy.accepts, hy.finishing, fun id hid => ?_, fun id hid => ?_⟩
  · show id < v.nextFlight
    exact lt_of_lt_of_le (hy.flight id hid) (nextFlight_le hadv)
  · show v.results.lookup id = none
    have hold := hy.undelivered id hid
    obtain ⟨-, -, hres⟩ | ⟨uri, -, -, -, -, hres⟩ | ⟨id', uri, cfg, kidMiss, r', rfl, -, -, hres, -⟩ :=
      hadv.group_effect
    · rw [hres]
      exact hold
    · rw [hres]
      exact hold
    · have hne : id ≠ id' := by
        rintro rfl
        exact hxy id rfl (Proc.flightId_of_undelivered hid)
      rw [hres, AList.lookup_insert_ne hne]
      exact hold

theorem uriProc_fork (h : UriShared lib c u s.shared)
    (hx : UriProc lib c u s.shared x)
    (hadv : Advance lib { s.shared with now := e.now } x e.act v x') {z : Proc}
    (hfork : (client lib).fork s.shared x e = some z) :
    UriProc lib c u { v with clock := v.clock + 1 } z ∧ DistinctFlights z x' ∧
      ∀ y, UriProc lib c u s.shared y → DistinctFlights z y := by
  obtain ⟨uri, cfg, why, rfl, rfl, rfl, -, hnext, hres⟩ := hadv.forked hfork
  refine ⟨⟨hx.uri, hx.accepts, fun r hr => (by cases hr), fun id hid => ?_, fun id hid => ?_⟩,
    fun id _ => by simp [Proc.flightId], fun y hy id hid hyid => ?_⟩
  · cases hid
    show s.shared.nextFlight < v.nextFlight
    omega
  · cases hid
    show v.results.lookup s.shared.nextFlight = none
    rw [hres]
    exact Dict.lookup_eq_none_of_lt h.delivered
  · cases hid
    exact absurd (hy.flight _ hyid) (lt_irrefl _)

end Move

theorem onUri_step (lib : Library) (c : ℕ) (u : String) (s : State)
    (l : Label) (s' : State) (h : OnUri lib c u s)
    (hans : answeringCall lib c u l = true)
    (hstep : (client lib).step s l = some s') : OnUri lib c u s' := by
  have hsymm : ∀ x y, DistinctFlights x y → DistinctFlights y x :=
    fun x y hxy id hy hx => hxy id hx hy
  refine Machine.holds_step_fork (fun _ l => answeringCall lib c u l = true) hsymm ?_ ?_
    s l s' h hans hstep
  · intro s call w x h hans hspawn
    obtain ⟨hstart, rfl⟩ := client_spawn hspawn
    have hnew : (x.uri = u ∧ Accepts lib c u x.cfg) ∧ x.finishing = none ∧
        x.flightId = none ∧ x.undelivered = none := by
      cases call with
      | fetchKeySet jwksURI cfg =>
          cases hstart
          have hcall : jwksURI = u ∧ Accepts lib c u cfg := by
            simpa [answeringCall] using hans
          exact ⟨hcall, rfl, rfl, rfl⟩
      | forceRefresh hd =>
          obtain ⟨set, hset, rfl⟩ := Option.map_eq_some_iff.mp hstart
          exact ⟨h.shared.handles set (List.mem_of_getElem? hset), rfl, rfl, rfl⟩
      | resolveKeyWithRefresh hd kid =>
          obtain ⟨set, hset, rfl⟩ := Option.map_eq_some_iff.mp hstart
          exact ⟨h.shared.handles set (List.mem_of_getElem? hset), rfl, rfl, rfl⟩
    obtain ⟨⟨huri, hacc⟩, hfin, hid, hun⟩ := hnew
    refine ⟨⟨h.shared.key, h.shared.handles, h.shared.results, h.shared.delivered⟩,
      ⟨huri, hacc, by simp [hfin], by simp [hid], by simp [hun]⟩, fun j y hy => ?_⟩
    have hy := h.each j y hy
    exact ⟨⟨hy.uri, hy.accepts, hy.finishing, hy.flight, hy.undelivered⟩,
      fun id hxid => by simp [hid] at hxid⟩
  · intro s t e x w x' h hans hx hmove
    obtain ⟨hle, v, hadv, rfl⟩ := client_move hmove
    have hself := h.each t x hx
    refine ⟨⟨uriShared_move h.shared hself hadv, uriProc_self h.shared hself hans hadv,
      fun j y hj hy => ?_⟩, fun z hz => ?_⟩
    · have hpair := h.pair t j x y (Ne.symm hj) hx hy
      refine ⟨uriProc_other hpair (h.each j y hy) hadv, fun id hid => hpair id ?_⟩
      rw [← hadv.flightId_eq]
      exact hid
    · obtain ⟨hzl, hzx, hzy⟩ := uriProc_fork h.shared hself hadv hz
      exact ⟨hzl, hzx, fun j y _ hy => hzy y (h.each j y hy)⟩

/-- The flight of a `kid` miss that has not delivered is waited for by the caller
that created it. -/
def Linked (s : State) : Prop :=
  ∀ y ∈ s.tasks, ∀ id, y.kidMissFlight = some id →
    ∃ x ∈ s.tasks, x.inKidMiss = true ∧ x.waitsOn = some id

section Link

variable {lib : Library} {c : ℕ} {u : String} {s : State} {t : ℕ}
  {e : Event} {x x' : Proc} {v : Shared}

theorem Advance.kidMissFlight_eq {w w' : Shared} {act : Act}
    (h : Advance lib w x act w' x') {id : ℕ} (hid : x'.kidMissFlight = some id) :
    x.kidMissFlight = some id := by
  cases h with
  | caller h => cases hid
  | @flight _ _ _ kidMiss _ _ _ _ h => cases h <;> cases kidMiss <;> first | exact hid | cases hid

/-- A caller that waits moves on only when its flight has delivered. -/
theorem not_waiting_on_undelivered
    (hok : kidMissAlone s (.move t e) = true) (hx : s.tasks[t]? = some x)
    (hadv : Advance lib { s.shared with now := e.now } x e.act v x') {id : ℕ}
    (hnone : s.shared.results.lookup id = none) :
    ¬ (x.inKidMiss = true ∧ x.waitsOn = some id) := by
  rintro ⟨hin, hwait⟩
  have hctx : ∀ err, e.act = .ctxDone err → x.inKidMiss = false :=
    fun err hact => kidMissAlone_ctxDone hok hact hx
  generalize e.act = act at hadv hctx
  cases hadv with
  | flight h => cases hwait
  | caller h =>
      cases h with
      | gotFetch f keys hr => cases hin
      | gotRefresh hd kid began f keys hr =>
          cases hwait
          exact absurd (hnone.symm.trans hr) (by simp)
      | gotError why f err hr =>
          cases hwait
          exact absurd (hnone.symm.trans hr) (by simp)
      | ctxDone why f err => simp [hctx err rfl] at hin
      | _ => cases hwait

theorem linked_move (h : OnUri lib c u s) (hlink : Linked s)
    (hok : kidMissAlone s (.move t e) = true) (hx : s.tasks[t]? = some x)
    (hadv : Advance lib { s.shared with now := e.now } x e.act v x') :
    Linked ⟨{ v with clock := v.clock + 1 },
      s.tasks.set t x' ++ ((client lib).fork s.shared x e).toList⟩ := by
  intro y hy id hid
  have hkeep : (∃ k ∈ s.tasks, k.inKidMiss = true ∧ k.waitsOn = some id) →
      s.shared.results.lookup id = none →
      ∃ k ∈ s.tasks.set t x' ++ ((client lib).fork s.shared x e).toList,
        k.inKidMiss = true ∧ k.waitsOn = some id := by
    intro hk hnone
    obtain ⟨k, hk, hkp⟩ := exists_mem_set_of_not x' hx
      (not_waiting_on_undelivered hok hx hadv hnone) hk
    exact ⟨k, List.mem_append_left _ hk, hkp⟩
  obtain hy | hy := List.mem_append.mp hy
  · obtain hy | rfl := List.mem_or_eq_of_mem_set hy
    · exact hkeep (hlink y hy id hid)
        ((h.of_mem hy).undelivered id (Proc.undelivered_of_kidMissFlight hid))
    · have hid' := hadv.kidMissFlight_eq hid
      exact hkeep (hlink x (List.mem_of_getElem? hx) id hid')
        ((h.each t x hx).undelivered id (Proc.undelivered_of_kidMissFlight hid'))
  · obtain ⟨uri, cfg, why, rfl, rfl, rfl, -⟩ := hadv.forked (Option.mem_toList.mp hy)
    have hmiss : why.kidMiss = true ∧ s.shared.nextFlight = id := by
      cases hk : why.kidMiss with
      | true =>
          rw [hk] at hid
          exact ⟨rfl, Option.some.inj hid⟩
      | false =>
          rw [hk] at hid
          cases hid
    refine ⟨_, List.mem_append_left _ (mem_set_self hx), hmiss.1, ?_⟩
    rw [← hmiss.2]
    rfl

end Link

/-- The cooldown of `u` as the observer of a pool sees it. -/
def throttleObserver (u : String) : Observer Shared Proc ℕ where
  now w := w.now
  times := kidMissTimes u
  stamp w := w.cache.lastRefresh.lookup u
  inside := Proc.inKidMiss
  unsent := Proc.unsent

section Sees

variable {lib : Library} {c : ℕ} {u : String} {s : State} {t : ℕ}
  {e : Event} {x x' : Proc} {v : Shared}

/-- A fork hands the request still to be sent from the caller to its flight. -/
theorem unsentCount_fork_le (hadv : Advance lib { s.shared with now := e.now } x e.act v x')
    (hx : s.tasks[t]? = some x) (h : x'.unsent = true → x.unsent = true) (w : Shared) :
    (throttleObserver u).unsentCount
        ⟨w, s.tasks.set t x' ++ ((client lib).fork s.shared x e).toList⟩ ≤
      (throttleObserver u).unsentCount s := by
  cases hf : (client lib).fork s.shared x e with
  | none =>
      simp only [Option.toList_none, List.append_nil]
      exact Observer.unsentCount_move_le _ _ hx h
  | some z =>
      obtain ⟨uri, cfg, why, rfl, rfl, rfl, -⟩ := hadv.forked hf
      have key := countP_set Proc.unsent (.caller uri cfg (.wait why s.shared.nextFlight)) hx
      show (s.tasks.set t _ ++ [_]).countP Proc.unsent ≤ s.tasks.countP Proc.unsent
      rw [List.countP_append, List.countP_singleton]
      cases hk : why.kidMiss with
      | true =>
          simp only [Proc.unsent, hk, Bool.false_eq_true, if_false, if_true] at key ⊢
          omega
      | false =>
          simp only [Proc.unsent, hk, Bool.false_eq_true, if_false] at key ⊢
          omega

theorem insideCount_fork (hx : s.tasks[t]? = some x) (h : x.inKidMiss = true → x'.inKidMiss = true)
    (w : Shared) (hpos : 0 < (throttleObserver u).insideCount s) :
    0 < (throttleObserver u).insideCount
      ⟨w, s.tasks.set t x' ++ ((client lib).fork s.shared x e).toList⟩ := by
  have hmove := Observer.insideCount_move (o := throttleObserver u) w x' hx h hpos
  have hmove : 0 < (s.tasks.set t x').countP Proc.inKidMiss := hmove
  show 0 < (s.tasks.set t x' ++ _).countP Proc.inKidMiss
  rw [List.countP_append]
  omega

/-- While nobody is inside, no request of a `kid` miss is still to be sent. -/
theorem unsentCount_eq_zero (hlink : Linked s) (hfree : (throttleObserver u).insideCount s = 0) :
    (throttleObserver u).unsentCount s = 0 := by
  have hout : ∀ y ∈ s.tasks, ¬ y.inKidMiss = true := List.countP_eq_zero.mp hfree
  refine List.countP_eq_zero.mpr fun y hy hun => ?_
  cases y with
  | caller uri cfg pc => cases pc <;> first | exact hout _ hy hun | cases hun
  | flight id uri cfg kidMiss pc =>
      cases pc with
      | recheck =>
          cases hun
          obtain ⟨k, hk, hin, -⟩ := hlink _ hy id rfl
          exact hout k hk hin
      | _ => cases hun

theorem throttle_sees (hc : 0 < c) (h : OnUri lib c u s) (hlink : Linked s)
    (hok : kidMissAlone s (.move t e) = true)
    (hans : answeringCall lib c u (.move t e) = true) (hx : s.tasks[t]? = some x)
    (hadv : Advance lib { s.shared with now := e.now } x e.act v x') :
    (throttleObserver u).Sees (After c) s ⟨{ v with clock := v.clock + 1 },
      s.tasks.set t x' ++ ((client lib).fork s.shared x e).toList⟩ := by
  have hself := h.each t x hx
  have hnow : v.now = e.now := hadv.now_eq
  cases hadv.throttling (c := c) h.shared.key hself.uri hself.accepts h.shared.results
      (fun err hact => kidMissAlone_ctxDone hok hact hx) (answeringCall_act hans) with
  | quiet times stamp unsent inside =>
      exact .quiet times stamp (unsentCount_fork_le hadv hx unsent _)
        fun hpos => .inl (insideCount_fork hx inside _ hpos)
  | passed uri cfg hd kid pc run notThrottled same =>
      subst pc
      obtain rfl : uri = u := hself.uri
      have hcool : cfg.refreshCooldown = c := hself.accepts.1
      have hfree : (throttleObserver uri).insideCount s = 0 := by
        refine List.countP_eq_zero.mpr fun y hy hin => ?_
        have hout := kidMissAlone_passed hok run hx notThrottled y hy (h.of_mem hy).uri
        have hin : y.inKidMiss = true := hin
        simp [hout] at hin
      have hzero := unsentCount_eq_zero hlink hfree
      have hfork : (client lib).fork s.shared (.caller uri cfg (.throttle hd kid)) e = none := rfl
      refine .passed (by rw [same]; rfl) ?_ hfree ?_
      · rw [hfork]
        simp only [Option.toList_none, List.append_nil]
        exact Observer.unsentCount_move_le_one _ _ hx hzero
      · show Open (After c) v.now _
        rw [hnow, ← hcool]
        exact not_throttled (by omega) notThrottled
  | sent id flight times before after outside =>
      have hfork : (client lib).fork s.shared x e = none := by
        cases x with
        | caller => cases flight
        | flight => rfl
      obtain ⟨k, hk, hin, -⟩ := hlink x (List.mem_of_getElem? hx) id flight
      have hpos : 0 < (throttleObserver u).insideCount s := List.countP_pos_iff.mpr ⟨k, hk, hin⟩
      refine .sent ?_ (Observer.unsentCount_pos hx before) ?_ ?_
      · show kidMissTimes u v = v.now :: _
        rw [hnow]
        exact times
      · rw [hfork]
        simp only [Option.toList_none, List.append_nil]
        exact Observer.unsentCount_move_lt _ _ hx before after
      · exact insideCount_fork hx (fun hin' => by simp [outside] at hin') _ hpos
  | marked times stamp after =>
      refine .marked times ?_ (unsentCount_fork_le hadv hx (by simp [after]) _)
      show v.cache.lastRefresh.lookup u = some v.now
      rw [hnow]
      exact stamp

end Sees

theorem throttle_step (lib : Library) (c : ℕ) (u : String) (hc : 0 < c)
    (s : State) (l : Label) (s' : State)
    (h : OnUri lib c u s ∧ Linked s ∧ (throttleObserver u).Kept (After c) s)
    (hok : kidMissAlone s l = true ∧ answeringCall lib c u l = true)
    (hstep : (client lib).step s l = some s') :
    OnUri lib c u s' ∧ Linked s' ∧ (throttleObserver u).Kept (After c) s' := by
  obtain ⟨huri, hlink, hkept⟩ := h
  refine ⟨onUri_step lib c u s l s' huri hok.2 hstep, ?_⟩
  cases l with
  | spawn call =>
      obtain ⟨w, x, hspawn, rfl⟩ := Machine.step_spawn hstep
      obtain ⟨hstart, rfl⟩ := client_spawn hspawn
      have hnew : x.inKidMiss = false ∧ x.unsent = false ∧ x.kidMissFlight = none := by
        cases call with
        | fetchKeySet jwksURI cfg =>
            cases hstart
            exact ⟨rfl, rfl, rfl⟩
        | forceRefresh hd =>
            obtain ⟨set, -, rfl⟩ := Option.map_eq_some_iff.mp hstart
            exact ⟨rfl, rfl, rfl⟩
        | resolveKeyWithRefresh hd kid =>
            obtain ⟨set, -, rfl⟩ := Option.map_eq_some_iff.mp hstart
            exact ⟨rfl, rfl, rfl⟩
      obtain ⟨hin, hun, hfl⟩ := hnew
      constructor
      · intro y hy id hid
        obtain hy | hy := List.mem_append.mp hy
        · obtain ⟨k, hk, hkp⟩ := hlink y hy id hid
          exact ⟨k, List.mem_append_left _ hk, hkp⟩
        · rw [List.mem_singleton.mp hy, hfl] at hid
          cases hid
      · refine hkept.step (isGap_after _) le_rfl (.quiet rfl rfl ?_ fun hpos => .inl ?_)
        · simp [Observer.unsentCount, throttleObserver, hun]
        · simpa [Observer.insideCount, throttleObserver, hin] using hpos
  | move t e =>
      obtain ⟨x, w, x', hx, hmove, rfl⟩ := Machine.step_move_fork hstep
      obtain ⟨hle, v, hadv, rfl⟩ := client_move hmove
      refine ⟨linked_move huri hlink hok.1 hx hadv, hkept.step (isGap_after _) ?_
        (throttle_sees hc huri hlink hok.1 hok.2 hx hadv)⟩
      show s.shared.now ≤ v.now
      rw [show v.now = e.now from hadv.now_eq]
      exact hle

/-- The requests caused by `kid` misses of one URI are a cooldown apart in every
run whose `kid` misses refresh one at a time. -/
theorem kidMiss_spaced {lib : Library} {c : ℕ} {u : String}
    {ls : List Label} {s : State} (hc : 0 < c)
    (hcalls : ∀ l ∈ ls, answeringCall lib c u l = true)
    (hok : Meets (client lib).step (fun s l => kidMissAlone s l = true) initial ls)
    (hrun : run lib initial ls = some s) : Spaced c (kidMissTimes u s.shared) := by
  have hinit : OnUri lib c u initial ∧ Linked initial ∧
      (throttleObserver u).Kept (After c) initial := by
    refine ⟨Holds.of_idle ⟨⟨?_, ?_⟩, ?_, ?_, ?_⟩ rfl, ?_,
      Observer.kept_of_empty rfl (by simp [Observer.unsentCount, initial])⟩
    · intro k hk
      cases hk
    · intro k hk
      cases hk
    · intro h hh
      cases hh
    · intro f r hr
      cases hr
    · intro f r hr
      cases hr
    · intro y hy
      cases hy
  have hend := exec_invariant (throttle_step lib c u hc) hinit
    (hok.and (Meets.of_forall hcalls)) hrun
  exact hend.2.2.apart

end IdentityModel.GoJwks
