import IdentityModel.GoJwks

/-!
# Freshness of a forced refresh in the Go JWKS package

`ForceRefresh` removes the cached keys and joins the flight of its URI. A flight
that is past its own lookup when the keys are removed carries an older request:
it stores its keys afterwards and hands them to the refresher. The runs in which
no flight with an older request, and nothing a refresher is about to return, is
there when keys are removed give every refresher keys requested after it began,
and leave such keys in the cache.
-/
namespace IdentityModel.GoJwks

open Runs Tasks TtlCache

def Proc.uri : Proc → String
  | .caller uri _ _ => uri
  | .flight _ uri _ _ _ => uri

def Proc.flightId : Proc → Option ℕ
  | .caller .. => none
  | .flight id _ _ _ _ => some id

/-- The forced refresh the caller is in, past its removal: when it began. -/
def Proc.refreshing : Proc → Option ℕ
  | .caller _ _ (.lookup why) => why.began
  | .caller _ _ (.doChan why) => why.began
  | .caller _ _ (.wait why _) => why.began
  | .caller _ _ (.mark _ _ began _) => some began
  | .caller _ _ (.assign _ _ began _) => some began
  | _ => none

/-- When the caller's forced refresh began, from its first operation on. -/
def Proc.began : Proc → Option ℕ
  | .caller _ _ (.invalidate _ _ began) => some began
  | x => x.refreshing

/-- The keys a forced refresh has received. -/
def Proc.obtained : Proc → Option Obtained
  | .caller _ _ (.mark _ _ _ keys) => some keys
  | .caller _ _ (.assign _ _ _ keys) => some keys
  | _ => none

def Proc.waitsOn : Proc → Option ℕ
  | .caller _ _ (.wait _ f) => some f
  | _ => none

/-- The request behind the keys a flight waits for, stores or delivers. -/
def Proc.pending : Proc → Option ℕ
  | .flight _ _ _ _ (.request started) => some started
  | .flight _ _ _ _ (.store keys) => some keys.requestedAt
  | .flight _ _ _ _ (.finish (.ok keys)) => some keys.requestedAt
  | _ => none

/-- The goroutine relies on the keys of its URI being cached: a flight that
delivers keys, a refresher that has received some or can. -/
def holding (w : Shared) : Proc → Bool
  | .caller _ _ (.mark ..) => true
  | .caller _ _ (.assign ..) => true
  | .caller _ _ (.wait why flight) =>
      why.began.isSome &&
        match w.results.lookup flight with
        | some (.ok _) => true
        | _ => false
  | .flight _ _ _ _ (.finish (.ok _)) => true
  | _ => false

/-- A forced refresh removes the keys of its URI only when every flight for it is
before its request or sent it after the refresh began, and no removal or eviction
takes keys that someone relies on. -/
def removalClean (s : State) : Label → Bool
  | .move t ⟨now, .run⟩ =>
      match s.tasks[t]? with
      | some (.caller uri _ (.invalidate _ _ began)) =>
          s.tasks.all fun y => y.uri ≠ uri ||
            ((y.pending.all fun n => began < n) && !holding s.shared y)
      | some (.flight _ uri cfg _ (.store keys)) =>
          s.tasks.all fun y => !holding s.shared y || y.uri = uri ||
            ((Cache.store cfg s.shared.cache uri keys now).stored y.uri).isSome
      | _ => true
  | _ => true

theorem removalClean_invalidate {s : State} {t : ℕ} {e : Event} {uri : String} {cfg : Config}
    {h began : ℕ} {kid : Option String} (hok : removalClean s (.move t e) = true)
    (hact : e.act = .run) (ht : s.tasks[t]? = some (.caller uri cfg (.invalidate h kid began))) :
    ∀ y ∈ s.tasks, y.uri = uri →
      (∀ n, y.pending = some n → began < n) ∧ holding s.shared y = false := by
  intro y hy hu
  obtain ⟨now, act⟩ := e
  simp only at hact
  subst hact
  simp only [removalClean, ht, List.all_eq_true] at hok
  have hy' := hok y hy
  simp only [hu, ne_eq, not_true_eq_false, decide_false, Bool.false_or, Bool.and_eq_true,
    Bool.not_eq_true'] at hy'
  refine ⟨fun n hn => ?_, hy'.2⟩
  simpa [hn] using hy'.1

theorem removalClean_store {s : State} {t : ℕ} {e : Event} {id : ℕ} {uri : String} {cfg : Config}
    {kidMiss : Bool} {keys : Obtained} (hok : removalClean s (.move t e) = true)
    (hact : e.act = .run) (ht : s.tasks[t]? = some (.flight id uri cfg kidMiss (.store keys))) :
    ∀ y ∈ s.tasks, holding s.shared y = true → y.uri ≠ uri →
      (Cache.store cfg s.shared.cache uri keys e.now).stored y.uri ≠ none := by
  intro y hy hh hne
  obtain ⟨now, act⟩ := e
  simp only at hact
  subst hact
  simp only [removalClean, ht, List.all_eq_true] at hok
  have hy' := hok y hy
  simp only [hh, Bool.not_true, Bool.false_or, hne, decide_false] at hy'
  exact Option.isSome_iff_ne_none.mp hy'

section Effect

variable {lib : Library} {w w' : Shared} {x x' : Proc} {act : Act}

theorem Advance.uri_eq (h : Advance lib w x act w' x') : x'.uri = x.uri := by
  cases h <;> rfl

theorem Advance.flightId_eq (h : Advance lib w x act w' x') : x'.flightId = x.flightId := by
  cases h <;> rfl

theorem Advance.clock_eq (h : Advance lib w x act w' x') : w'.clock = w.clock := by
  cases h with
  | caller h => cases h <;> rfl
  | flight h => cases h <;> rfl

theorem Proc.began_of_refreshing {x : Proc} {b : ℕ} (h : x.refreshing = some b) :
    x.began = some b := by
  cases x with
  | caller uri cfg pc => cases pc <;> first | exact h | cases h
  | flight => cases h

theorem Advance.began_effect (h : Advance lib w x act w' x') {b : ℕ}
    (hb : x'.began = some b) : x.began = some b ∨ b = w.clock := by
  cases h with
  | flight h => cases hb
  | caller h =>
      cases h with
      | passed hd kid ht => exact .inr (Option.some.inj hb).symm
      | assign hd kid began keys => cases kid <;> cases hb
      | _ => first | exact .inl hb | cases hb

theorem Advance.refreshing_effect (h : Advance lib w x act w' x') {b : ℕ}
    (hb : x'.refreshing = some b) :
    x.refreshing = some b ∨
      ∃ uri cfg hd kid, x = .caller uri cfg (.invalidate hd kid b) ∧ act = .run ∧
        w'.cache = w.cache.invalidate uri := by
  cases h with
  | flight h => cases hb
  | caller h =>
      cases h with
      | invalidate hd kid began =>
          have hbb : began = b := Option.some.inj hb
          exact .inr ⟨_, _, hd, kid, by rw [hbb], rfl, rfl⟩
      | assign hd kid began keys => cases kid <;> cases hb
      | _ => first | exact .inl hb | cases hb

/-- A flight's keys are those of its request, or cached ones. -/
theorem Advance.pending_effect (h : Advance lib w x act w' x') {n : ℕ}
    (hn : x'.pending = some n) :
    x.pending = some n ∨ n = w.clock ∨
      ∃ keys expiresAt, w.cache.stored x.uri = some (keys, expiresAt) ∧ n = keys.requestedAt := by
  cases h with
  | caller h => cases hn
  | flight h =>
      cases h with
      | hit keys hget =>
          obtain ⟨expiresAt, hst⟩ := get_eq_some hget
          exact .inr (.inr ⟨keys, expiresAt, hst, (Option.some.inj hn).symm⟩)
      | send => exact .inr (.inl (Option.some.inj hn).symm)
      | _ => first | exact .inl hn | cases hn

theorem Advance.obtained_effect (h : Advance lib w x act w' x') {keys : Obtained}
    (hk : x'.obtained = some keys) :
    x.obtained = some keys ∨ (∃ expiresAt, w.cache.stored x.uri = some (keys, expiresAt)) ∨
      ∃ flight, x.waitsOn = some flight ∧ w.results.lookup flight = some (.ok keys) := by
  cases h with
  | flight h => cases hk
  | caller h =>
      cases h with
      | hitRefresh hd kid began keys' hget =>
          cases hk
          obtain ⟨expiresAt, hst⟩ := get_eq_some hget
          exact .inr (.inl ⟨expiresAt, hst⟩)
      | gotRefresh hd kid began flight keys' hr =>
          cases hk
          exact .inr (.inr ⟨flight, rfl, hr⟩)
      | assign hd kid began keys' => cases kid <;> cases hk
      | mark hd kid began keys' => exact .inl hk
      | _ => cases hk

theorem Advance.waits_effect (h : Advance lib w x act w' x') {f : ℕ}
    (hf : x'.waitsOn = some f) :
    (w.group.lookup x.uri = some f ∧ w' = w) ∨
      (w.group.lookup x.uri = none ∧ f = w.nextFlight ∧
        w' = { w with group := w.group.insert x.uri w.nextFlight,
                      nextFlight := w.nextFlight + 1 }) := by
  cases h with
  | flight h => cases hf
  | caller h =>
      cases h with
      | joined why flight hg =>
          cases hf
          exact .inl ⟨hg, rfl⟩
      | created why hg => exact .inr ⟨hg, (Option.some.inj hf).symm, rfl⟩
      | assign hd kid began keys => cases kid <;> cases hf
      | _ => cases hf

/-- What an operation does to the stored keys. -/
theorem Advance.stored_effect (h : Advance lib w x act w' x') :
    (∀ u, w'.cache.stored u = w.cache.stored u) ∨
      (∃ uri cfg hd kid began, x = .caller uri cfg (.invalidate hd kid began) ∧ act = .run ∧
        w'.cache = w.cache.invalidate uri) ∨
      ∃ id uri cfg kidMiss keys, x = .flight id uri cfg kidMiss (.store keys) ∧ act = .run ∧
        w'.cache = Cache.store cfg w.cache uri keys w.now ∧ w'.results = w.results := by
  cases h with
  | caller h =>
      cases h with
      | invalidate hd kid began => exact .inr (.inl ⟨_, _, hd, kid, began, rfl, rfl, rfl⟩)
      | hitFetch keys hget => exact .inl fun u => stored_get _ _ _ _
      | hitRefresh hd kid began keys hget => exact .inl fun u => stored_get _ _ _ _
      | miss why hget => exact .inl fun u => stored_get _ _ _ _
      | _ => exact .inl fun u => rfl
  | flight h =>
      cases h with
      | store keys => exact .inr (.inr ⟨_, _, _, _, keys, rfl, rfl, rfl, rfl⟩)
      | hit keys hget => exact .inl fun u => stored_get _ _ _ _
      | refused e he => exact .inl fun u => stored_get _ _ _ _
      | send => exact .inl fun u => stored_get _ _ _ _
      | _ => exact .inl fun u => rfl

/-- What an operation does to the group and the results. -/
theorem Advance.group_effect (h : Advance lib w x act w' x') :
    (w'.group = w.group ∧ w'.nextFlight = w.nextFlight ∧ w'.results = w.results) ∨
      (∃ uri, x.uri = uri ∧ w.group.lookup uri = none ∧
        w'.group = w.group.insert uri w.nextFlight ∧ w'.nextFlight = w.nextFlight + 1 ∧
        w'.results = w.results) ∨
      ∃ id uri cfg kidMiss r, x = .flight id uri cfg kidMiss (.finish r) ∧
        w'.group = (if w.group.lookup uri = some id then w.group.erase uri else w.group) ∧
        w'.nextFlight = w.nextFlight ∧ w'.results = w.results.insert id r ∧
        w'.cache = w.cache := by
  cases h with
  | caller h =>
      cases h with
      | created why hg => exact .inr (.inl ⟨_, rfl, hg, rfl, rfl, rfl⟩)
      | _ => exact .inl ⟨rfl, rfl, rfl⟩
  | flight h =>
      cases h with
      | finish r => exact .inr (.inr ⟨_, _, _, _, r, rfl, rfl, rfl, rfl, rfl⟩)
      | _ => exact .inl ⟨rfl, rfl, rfl⟩

theorem Advance.ticksBelow (h : Advance lib w x act w' x') (hw : w.cache.TicksBelow) :
    w'.cache.TicksBelow := by
  cases h with
  | caller h =>
      cases h with
      | invalidate => exact ticksBelow_invalidate hw _
      | hitFetch => exact ticksBelow_get hw _ _
      | hitRefresh => exact ticksBelow_get hw _ _
      | miss => exact ticksBelow_get hw _ _
      | _ => exact hw
  | flight h =>
      cases h with
      | hit => exact ticksBelow_get hw _ _
      | refused => exact ticksBelow_get hw _ _
      | send => exact ticksBelow_get hw _ _
      | store keys => exact ticksBelow_put hw _ _ _ _
      | _ => exact hw

theorem Advance.refreshed_effect (h : Advance lib w x act w' x') :
    w'.refreshed = w.refreshed ∨ ∃ hd kid began keys cfg uri,
      x = .caller uri cfg (.assign hd kid began keys) ∧
      w'.refreshed = ⟨uri, began, keys.requestedAt,
        (w.cache.stored uri).map fun held => held.1.requestedAt⟩ :: w.refreshed := by
  cases h with
  | caller h =>
      cases h with
      | assign hd kid began keys => exact .inr ⟨hd, kid, began, keys, _, _, rfl, rfl⟩
      | _ => exact .inl rfl
  | flight h => cases h <;> exact .inl rfl

end Effect

/-- A refresh that returned got, and left in the cache, keys requested after it
began. -/
def Refreshed.Fresh (r : Refreshed) : Prop :=
  r.began < r.got ∧ ∃ c, r.cached = some c ∧ r.began < c

/-- Flights are numbered in order, a flight that may be joined has delivered
nothing, and every refresh that returned is fresh. -/
structure GroupFresh (w : Shared) : Prop where
  ticks : w.cache.TicksBelow
  open_ : ∀ u f, w.group.lookup u = some f → f < w.nextFlight ∧ w.results.lookup f = none
  delivered : ∀ f r, w.results.lookup f = some r → f < w.nextFlight
  log : ∀ r ∈ w.refreshed, r.Fresh

/-- A forced refresh began before now; past its removal, the keys in the cache,
the keys it received and those delivered to it are later than it, and keys that a
goroutine relies on are cached. -/
structure RefreshFresh (w : Shared) (x : Proc) : Prop where
  began : ∀ b, x.began = some b → b < w.clock
  cached : ∀ b, x.refreshing = some b →
    ∀ held expiresAt, w.cache.stored x.uri = some (held, expiresAt) → b < held.requestedAt
  obtained : ∀ b keys, x.refreshing = some b → x.obtained = some keys → b < keys.requestedAt
  delivered : ∀ b f keys, x.refreshing = some b → x.waitsOn = some f →
    w.results.lookup f = some (.ok keys) → b < keys.requestedAt
  holding : holding w x = true → w.cache.stored x.uri ≠ none
  waits : ∀ f, x.waitsOn = some f → f < w.nextFlight
  flight : ∀ id, x.flightId = some id →
    id < w.nextFlight ∧ ∀ u, w.group.lookup u = some id → u = x.uri

/-- What holds of a caller beside a flight: a flight of its URI carries keys later
than its refresh, and it waits on flights of its URI only. -/
def CallerBeside (x y : Proc) : Prop :=
  (x.uri = y.uri → ∀ b n, x.refreshing = some b → y.pending = some n → b < n) ∧
    ∀ f, x.waitsOn = some f → y.flightId = some f → x.uri = y.uri

def Beside (x y : Proc) : Prop := CallerBeside x y ∧ CallerBeside y x

theorem Beside.symm (x y : Proc) (h : Beside x y) : Beside y x := ⟨h.2, h.1⟩

section Move

variable {lib : Library} {s : State} {t : ℕ} {e : Event}
  {x x' y : Proc} {v : Shared}

theorem groupFresh_move (h : GroupFresh s.shared) (hx : RefreshFresh s.shared x)
    (hadv : Advance lib { s.shared with now := e.now } x e.act v x') :
    GroupFresh { v with clock := v.clock + 1 } := by
  have hgroup := hadv.group_effect
  refine ⟨hadv.ticksBelow h.ticks, fun u f hf => ?_, fun f r hr => ?_, fun r hr => ?_⟩
  · obtain ⟨hg, hn, hres⟩ | ⟨uri, -, -, hg, hn, hres⟩ | ⟨id, uri, cfg, kidMiss, r, rfl, hg, hn, hres, -⟩ :=
      hgroup
    · simp only [hg, hn, hres] at hf ⊢
      exact h.open_ u f hf
    · simp only [hg, hn, hres] at hf ⊢
      obtain ⟨-, rfl⟩ | ⟨-, hf⟩ := Dict.lookup_insert_eq_some.mp hf
      · exact ⟨Nat.lt_succ_self _, Dict.lookup_eq_none_of_lt h.delivered⟩
      · obtain ⟨hlt, hnone⟩ := h.open_ u f hf
        exact ⟨Nat.lt_succ_of_lt hlt, hnone⟩
    · simp only [hg, hn, hres] at hf ⊢
      have hold : s.shared.group.lookup u = some f := by
        split at hf
        · exact (Dict.lookup_erase_eq_some.mp hf).2
        · exact hf
      have hne : f ≠ id := by
        rintro rfl
        have hu : u = uri := (hx.flight f rfl).2 u hold
        subst hu
        rw [if_pos hold] at hf
        exact (Dict.lookup_erase_eq_some.mp hf).1 rfl
      obtain ⟨hlt, hnone⟩ := h.open_ u f hold
      exact ⟨hlt, by rw [AList.lookup_insert_ne hne]; exact hnone⟩
  · obtain ⟨hg, hn, hres⟩ | ⟨uri, -, -, hg, hn, hres⟩ | ⟨id, uri, cfg, kidMiss, r', rfl, hg, hn, hres, -⟩ :=
      hgroup
    · simp only [hn, hres] at hr ⊢
      exact h.delivered f r hr
    · simp only [hn, hres] at hr ⊢
      exact Nat.lt_succ_of_lt (h.delivered f r hr)
    · simp only [hn, hres] at hr ⊢
      obtain ⟨rfl, -⟩ | ⟨-, hr⟩ := Dict.lookup_insert_eq_some.mp hr
      · exact (hx.flight f rfl).1
      · exact h.delivered f r hr
  · obtain hlog | ⟨hd, kid, began, keys, cfg, uri, rfl, hlog⟩ := hadv.refreshed_effect
    · simp only [hlog] at hr
      exact h.log r hr
    · simp only [hlog] at hr
      obtain rfl | hr := List.mem_cons.mp hr
      · have hlt := hx.obtained began keys rfl rfl
        obtain ⟨⟨held, expiresAt⟩, hheld⟩ := Option.ne_none_iff_exists'.mp (hx.holding rfl)
        have hcached := hx.cached began rfl held expiresAt hheld
        have hheld : s.shared.cache.stored uri = some (held, expiresAt) := hheld
        exact ⟨hlt, held.requestedAt, by simp [hheld], hcached⟩
      · exact h.log r hr

/-- Flights that are registered or removed leave other flights registered as they
were. -/
theorem flight_move (hadv : Advance lib { s.shared with now := e.now } x e.act v x')
    (hy : ∀ id, y.flightId = some id →
      id < s.shared.nextFlight ∧ ∀ u, s.shared.group.lookup u = some id → u = y.uri) :
    ∀ id, y.flightId = some id → id < v.nextFlight ∧ ∀ u, v.group.lookup u = some id → u = y.uri := by
  intro id hid
  obtain ⟨hlt, hmap⟩ := hy id hid
  obtain ⟨hg, hn, -⟩ | ⟨uri, -, -, hg, hn, -⟩ | ⟨id', uri, cfg, kidMiss, r, -, hg, hn, -⟩ :=
    hadv.group_effect
  · rw [hg, hn]
    exact ⟨hlt, hmap⟩
  · rw [hg, hn]
    refine ⟨Nat.lt_succ_of_lt hlt, fun u hu => ?_⟩
    obtain ⟨-, hnew⟩ | ⟨-, hold⟩ := Dict.lookup_insert_eq_some.mp hu
    · exact absurd (hnew ▸ hlt) (lt_irrefl _)
    · exact hmap u hold
  · rw [hg, hn]
    refine ⟨hlt, fun u hu => hmap u ?_⟩
    split at hu
    · exact (Dict.lookup_erase_eq_some.mp hu).2
    · exact hu

theorem nextFlight_le (hadv : Advance lib { s.shared with now := e.now } x e.act v x') :
    s.shared.nextFlight ≤ v.nextFlight := by
  obtain ⟨-, hn, -⟩ | ⟨uri, -, -, -, hn, -⟩ | ⟨id', uri, cfg, kidMiss, r, -, -, hn, -⟩ :=
    hadv.group_effect
  · exact hn.ge
  · rw [hn]
    exact Nat.le_succ _
  · exact hn.ge

/-- The keys cached for a refresher stay later than it. -/
theorem cached_move (hx : RefreshFresh s.shared x) (hy : RefreshFresh s.shared y)
    (hxy : x.uri = y.uri → ∀ b n, y.refreshing = some b → x.pending = some n → b < n)
    (hadv : Advance lib { s.shared with now := e.now } x e.act v x') {b : ℕ}
    (hb : y.refreshing = some b) {held : Obtained} {expiresAt : Option ℕ}
    (hst : v.cache.stored y.uri = some (held, expiresAt)) : b < held.requestedAt := by
  obtain hsame | ⟨uri, cfg, hd, kid, began, rfl, -, hcache⟩ |
    ⟨id, uri, cfg, kidMiss, keys, rfl, -, hcache, -⟩ := hadv.stored_effect
  · exact hy.cached b hb held expiresAt ((hsame y.uri).symm.trans hst)
  · rw [hcache, stored_invalidate] at hst
    split at hst
    · cases hst
    · exact hy.cached b hb held expiresAt hst
  · rw [hcache] at hst
    obtain ⟨hu, rfl⟩ | ⟨-, hold⟩ := stored_put hst
    · exact hxy hu.symm b _ hb rfl
    · exact hy.cached b hb held expiresAt hold

/-- The keys a goroutine relies on stay cached, whatever another one does. -/
theorem stored_ne_none_move (hw : GroupFresh s.shared)
    (hok : removalClean s (.move t e) = true) (hx : s.tasks[t]? = some x)
    (hadv : Advance lib { s.shared with now := e.now } x e.act v x')
    (hy : y ∈ s.tasks) (hh : holding s.shared y = true)
    (hst : s.shared.cache.stored y.uri ≠ none) : v.cache.stored y.uri ≠ none := by
  obtain hsame | ⟨uri, cfg, hd, kid, began, rfl, hact, hcache⟩ |
    ⟨id, uri, cfg, kidMiss, keys, rfl, hact, hcache, -⟩ := hadv.stored_effect
  · rw [show v.cache.stored y.uri = s.shared.cache.stored y.uri from hsame y.uri]
    exact hst
  · have hne : y.uri ≠ uri := by
      intro hu
      simp [(removalClean_invalidate hok hact hx y hy hu).2] at hh
    rw [hcache, stored_invalidate]
    simpa [hne] using hst
  · rw [hcache]
    by_cases hu : y.uri = uri
    · rw [hu, stored_put_self hw.ticks]
      simp
    · exact removalClean_store hok hact hx y hy hh hu

/-- A caller that starts to wait waits on a flight that has delivered nothing. -/
theorem waits_move (hw : GroupFresh s.shared)
    (hadv : Advance lib { s.shared with now := e.now } x e.act v x') {f : ℕ}
    (hf : x'.waitsOn = some f) : f < v.nextFlight ∧ v.results.lookup f = none := by
  obtain ⟨hg, rfl⟩ | ⟨hg, rfl, rfl⟩ := hadv.waits_effect hf
  · exact hw.open_ _ f hg
  · exact ⟨Nat.lt_succ_self _, Dict.lookup_eq_none_of_lt hw.delivered⟩

/-- Keys that the moving goroutine comes to rely on are cached. -/
theorem holding_self (hw : GroupFresh s.shared) (hx : RefreshFresh s.shared x)
    (hadv : Advance lib { s.shared with now := e.now } x e.act v x')
    (hh : holding { v with clock := v.clock + 1 } x' = true) :
    v.cache.stored x'.uri ≠ none := by
  have hwait : ∀ f, x'.waitsOn = some f → v.results.lookup f = none :=
    fun f hf => (waits_move hw hadv hf).2
  generalize e.act = act at hadv
  cases hadv with
  | caller h =>
      cases h with
      | hitRefresh hd kid began keys hget =>
          obtain ⟨expiresAt, hst⟩ := get_eq_some hget
          simp only [stored_get]
          exact fun hnone => by simp [Proc.uri, hst] at hnone
      | gotRefresh hd kid began f keys hr =>
          have hres : s.shared.results.lookup f = some (.ok keys) := hr
          exact hx.holding (by simp [holding, Why.began, hres])
      | mark hd kid began keys => exact hx.holding rfl
      | joined why f hg => simp [holding, hwait f rfl] at hh
      | created why hg => simp [holding, hwait _ rfl] at hh
      | assign hd kid began keys => cases kid <;> cases hh
      | _ => cases hh
  | flight h =>
      cases h with
      | hit keys hget =>
          obtain ⟨expiresAt, hst⟩ := get_eq_some hget
          simp only [stored_get]
          exact fun hnone => by simp [Proc.uri, hst] at hnone
      | store keys =>
          simp only [Proc.uri]
          rw [stored_put_self hw.ticks]
          simp
      | _ => cases hh

/-- The moving goroutine keeps its part of the invariant. -/
theorem refreshFresh_self (hw : GroupFresh s.shared) (hx : RefreshFresh s.shared x)
    (hadv : Advance lib { s.shared with now := e.now } x e.act v x') :
    RefreshFresh { v with clock := v.clock + 1 } x' := by
  have hclock : v.clock = s.shared.clock := hadv.clock_eq
  have huri := hadv.uri_eq
  refine ⟨fun b hb => ?_, fun b hb held expiresAt hst => ?_, fun b keys hb hk => ?_,
    fun b f keys hb hf hr => ?_, fun hh => ?_, fun f hf => ?_, fun id hid => ?_⟩
  · show b < v.clock + 1
    obtain hold | hnew := hadv.began_effect hb
    · have := hx.began b hold
      omega
    · have hnew : b = s.shared.clock := hnew
      omega
  · rw [huri] at hst
    obtain hold | ⟨uri, cfg, hd, kid, rfl, hact, hcache⟩ := hadv.refreshing_effect hb
    · refine cached_move hx hx (fun _ b n hb' hn => ?_) hadv hold hst
      cases x with
      | caller => cases hn
      | flight => cases hb'
    · simp only [hcache] at hst
      rw [stored_invalidate] at hst
      simp [Proc.uri] at hst
  · obtain hold | ⟨uri, cfg, hd, kid, rfl, hact, hcache⟩ := hadv.refreshing_effect hb
    · obtain hk' | ⟨expiresAt, hst⟩ | ⟨f, hf, hr⟩ := hadv.obtained_effect hk
      · exact hx.obtained b keys hold hk'
      · exact hx.cached b hold keys expiresAt hst
      · exact hx.delivered b f keys hold hf hr
    · rw [hact] at hadv
      cases hadv with
      | caller h =>
          cases h
          cases hk
  · have hnone : v.results.lookup f = none := (waits_move hw hadv hf).2
    exact absurd (hnone.symm.trans hr) (by simp)
  · show v.cache.stored x'.uri ≠ none
    exact holding_self hw hx hadv hh
  · show f < v.nextFlight
    exact (waits_move hw hadv hf).1
  · rw [hadv.flightId_eq] at hid
    rw [huri]
    show id < v.nextFlight ∧ ∀ u, v.group.lookup u = some id → u = x.uri
    exact flight_move hadv hx.flight id hid

/-- A goroutine that does not move comes to rely on keys only when the flight it
waits on delivers them. -/
theorem holding_other
    (hres : ∀ f keys, v.results.lookup f = some (.ok keys) →
      s.shared.results.lookup f = some (.ok keys) ∨
        (x.flightId = some f ∧ x.pending = some keys.requestedAt ∧ holding s.shared x = true ∧
          v.cache = s.shared.cache))
    (hh : holding { v with clock := v.clock + 1 } y = true) :
    holding s.shared y = true ∨ ∃ f, y.waitsOn = some f ∧ x.flightId = some f ∧
      holding s.shared x = true ∧ v.cache = s.shared.cache := by
  cases y with
  | flight id uri cfg kidMiss pc =>
      cases pc with
      | finish r => cases r <;> exact .inl hh
      | _ => exact .inl hh
  | caller uri cfg pc =>
      cases pc with
      | wait why f =>
          simp only [holding, Bool.and_eq_true] at hh
          obtain ⟨hb, hmatch⟩ := hh
          split at hmatch
          · rename_i keys hr
            obtain hold | ⟨hid, -, hhx, hcache⟩ := hres f keys hr
            · exact .inl (by simp [holding, hb, hold])
            · exact .inr ⟨f, rfl, hid, hhx, hcache⟩
          · cases hmatch
      | _ => exact .inl hh

/-- Any other goroutine keeps its part of the invariant. -/
theorem refreshFresh_other (hw : GroupFresh s.shared) (hok : removalClean s (.move t e) = true)
    (ht : s.tasks[t]? = some x) (hx : RefreshFresh s.shared x)
    (hadv : Advance lib { s.shared with now := e.now } x e.act v x') (hymem : y ∈ s.tasks)
    (hy : RefreshFresh s.shared y) (hxy : Beside x y) :
    RefreshFresh { v with clock := v.clock + 1 } y := by
  have hclock : v.clock = s.shared.clock := hadv.clock_eq
  have hlater : ∀ b n, x.uri = y.uri → y.refreshing = some b → x.pending = some n → b < n :=
    fun b n hu => hxy.2.1 hu.symm b n
  -- results change only when the mover is a flight that delivers
  have hres : ∀ f keys, v.results.lookup f = some (.ok keys) →
      s.shared.results.lookup f = some (.ok keys) ∨
        (x.flightId = some f ∧ x.pending = some keys.requestedAt ∧ holding s.shared x = true ∧
          v.cache = s.shared.cache) := by
    intro f keys hr
    obtain ⟨-, -, hsame⟩ | ⟨uri, -, -, -, -, hsame⟩ |
      ⟨id, uri, cfg, kidMiss, r, rfl, -, -, hnew, hcache⟩ := hadv.group_effect
    · exact .inl (hsame ▸ hr)
    · exact .inl (hsame ▸ hr)
    · rw [hnew] at hr
      obtain ⟨rfl, rfl⟩ | ⟨-, hold⟩ := Dict.lookup_insert_eq_some.mp hr
      · exact .inr ⟨rfl, rfl, rfl, hcache⟩
      · exact .inl hold
  refine ⟨fun b hb => ?_, fun b hb held expiresAt hst => ?_, hy.obtained,
    fun b f keys hb hf hr => ?_, fun hh => ?_, fun f hf => ?_, ?_⟩
  · show b < v.clock + 1
    have := hy.began b hb
    omega
  · exact cached_move hx hy (fun hu b n => hlater b n hu) hadv hb hst
  · obtain hold | ⟨hid, hpend, -, -⟩ := hres f keys hr
    · exact hy.delivered b f keys hb hf hold
    · exact hlater b _ (hxy.2.2 f hf hid).symm hb hpend
  · obtain hold | ⟨f, hf, hid, hhx, hcache⟩ := holding_other hres hh
    · show v.cache.stored y.uri ≠ none
      exact stored_ne_none_move hw hok ht hadv hymem hold (hy.holding hold)
    · show v.cache.stored y.uri ≠ none
      rw [hcache, hxy.2.2 f hf hid]
      exact hx.holding hhx
  · show f < v.nextFlight
    exact lt_of_lt_of_le (hy.waits f hf) (nextFlight_le hadv)
  · show ∀ id, y.flightId = some id → id < v.nextFlight ∧ ∀ u, v.group.lookup u = some id → u = y.uri
    exact flight_move hadv hy.flight

theorem beside_move (hok : removalClean s (.move t e) = true) (ht : s.tasks[t]? = some x)
    (hadv : Advance lib { s.shared with now := e.now } x e.act v x') (hymem : y ∈ s.tasks)
    (hy : RefreshFresh s.shared y) (hxy : Beside x y) : Beside x' y := by
  have huri := hadv.uri_eq
  refine ⟨⟨fun hu b n hb hn => ?_, fun f hf hid => ?_⟩, fun hu b n hb hn => ?_, fun f hf hid => ?_⟩
  · rw [huri] at hu
    obtain hold | ⟨uri, cfg, hd, kid, rfl, hact, -⟩ := hadv.refreshing_effect hb
    · exact hxy.1.1 hu b n hold hn
    · exact (removalClean_invalidate hok hact ht y hymem hu.symm).1 n hn
  · rw [huri]
    obtain ⟨hlt, hmap⟩ := hy.flight f hid
    obtain ⟨hg, -⟩ | ⟨-, hnew, -⟩ := hadv.waits_effect hf
    · exact hmap x.uri hg
    · exact absurd (hnew ▸ hlt) (lt_irrefl _)
  · rw [huri] at hu
    obtain hold | hnew | ⟨keys, expiresAt, hst, rfl⟩ := hadv.pending_effect hn
    · exact hxy.2.1 hu b n hb hold
    · rw [hnew]
      exact hy.began b (Proc.began_of_refreshing hb)
    · exact hy.cached b hb keys expiresAt (hu ▸ hst)
  · rw [hadv.flightId_eq] at hid
    rw [huri]
    exact hxy.2.2 f hf hid

/-- A caller that forks a flight registers it under the next number and waits on it. -/
theorem Advance.forked (hadv : Advance lib { s.shared with now := e.now } x e.act v x')
    {z : Proc} (hfork : (client lib).fork s.shared x e = some z) :
    ∃ uri cfg why, x = .caller uri cfg (.doChan why) ∧
      z = .flight s.shared.nextFlight uri cfg why.kidMiss .recheck ∧
      x' = .caller uri cfg (.wait why s.shared.nextFlight) ∧
      v.group = s.shared.group.insert uri s.shared.nextFlight ∧
      v.nextFlight = s.shared.nextFlight + 1 ∧ v.results = s.shared.results := by
  obtain ⟨uri, cfg, why, rfl, hg, rfl⟩ := client_fork hfork
  refine ⟨uri, cfg, why, rfl, rfl, ?_⟩
  generalize e.act = act at hadv
  cases hadv with
  | caller h =>
      cases h with
      | joined _ f hj => exact absurd (hg.symm.trans hj) (by simp)
      | created => exact ⟨rfl, rfl, rfl, rfl⟩

/-- A new flight: nobody waits on it but the caller that created it. -/
theorem fork_fresh (hw : GroupFresh s.shared)
    (hadv : Advance lib { s.shared with now := e.now } x e.act v x') {z : Proc}
    (hfork : (client lib).fork s.shared x e = some z) :
    RefreshFresh { v with clock := v.clock + 1 } z ∧ Beside z x' ∧
      ∀ y, RefreshFresh s.shared y → Beside z y := by
  obtain ⟨uri, cfg, why, rfl, rfl, rfl, hgroup, hnext, -⟩ := hadv.forked hfork
  have hflight : ∀ id, some s.shared.nextFlight = some id → id < v.nextFlight ∧
      ∀ u, v.group.lookup u = some id → u = uri := by
    intro id hid
    cases hid
    rw [hnext, hgroup]
    refine ⟨Nat.lt_succ_self _, fun u hu => ?_⟩
    obtain ⟨hu, -⟩ | ⟨-, hold⟩ := Dict.lookup_insert_eq_some.mp hu
    · exact hu
    · exact absurd (hw.open_ u _ hold).1 (lt_irrefl _)
  refine ⟨⟨by simp [Proc.began, Proc.refreshing], by simp [Proc.refreshing],
    by simp [Proc.refreshing], by simp [Proc.refreshing], by simp [holding], by simp [Proc.waitsOn],
    hflight⟩, ⟨⟨?_, ?_⟩, ?_, ?_⟩, fun y hy => ⟨⟨?_, ?_⟩, ?_, fun f hf hid => ?_⟩⟩
  · simp [Proc.refreshing]
  · simp [Proc.waitsOn]
  · simp [Proc.pending]
  · simp [Proc.uri]
  · simp [Proc.refreshing]
  · simp [Proc.waitsOn]
  · simp [Proc.pending]
  · have hlt := hy.waits f hf
    cases hid
    exact absurd hlt (lt_irrefl _)

end Move

/-- The invariant of every run whose removals are clean. -/
theorem fresh_step (lib : Library) (s : State) (l : Label) (s' : State)
    (h : Holds GroupFresh RefreshFresh Beside s) (hok : removalClean s l = true)
    (hstep : (client lib).step s l = some s') : Holds GroupFresh RefreshFresh Beside s' := by
  refine Machine.holds_step_fork (fun s l => removalClean s l = true) Beside.symm ?_ ?_ s l s' h hok
    hstep
  · intro s call w x h _ hspawn
    obtain ⟨hstart, rfl⟩ := client_spawn hspawn
    have hnew : x.refreshing = none ∧ x.pending = none ∧ x.waitsOn = none ∧ x.flightId = none ∧
        holding { s.shared with clock := s.shared.clock + 1 } x = false ∧
        ∀ b, x.began = some b → b = s.shared.clock := by
      cases call with
      | fetchKeySet jwksURI cfg =>
          cases hstart
          exact ⟨rfl, rfl, rfl, rfl, rfl, fun b hb => by cases hb⟩
      | forceRefresh hd =>
          obtain ⟨set, -, rfl⟩ := Option.map_eq_some_iff.mp hstart
          exact ⟨rfl, rfl, rfl, rfl, rfl, fun b hb => (Option.some.inj hb).symm⟩
      | resolveKeyWithRefresh hd kid =>
          obtain ⟨set, -, rfl⟩ := Option.map_eq_some_iff.mp hstart
          exact ⟨rfl, rfl, rfl, rfl, rfl, fun b hb => by cases hb⟩
    obtain ⟨hr, hp, hwt, hid, hh, hb⟩ := hnew
    refine ⟨⟨h.shared.ticks, h.shared.open_, h.shared.delivered, h.shared.log⟩,
      ⟨fun b hbegan => ?_, by simp [hr], by simp [hr], by simp [hr], by simp [hh], by simp [hwt],
        by simp [hid]⟩, fun j y hy => ⟨?_, ⟨by simp [hr], by simp [hwt]⟩, by simp [hp], by simp [hid]⟩⟩
    · rw [hb b hbegan]
      exact Nat.lt_succ_self _
    · have hy := h.each j y hy
      exact ⟨fun b hb => Nat.lt_succ_of_lt (hy.began b hb), hy.cached, hy.obtained, hy.delivered,
        hy.holding, hy.waits, hy.flight⟩
  · intro s t e x w x' h hok hx hmove
    obtain ⟨hle, v, hadv, rfl⟩ := client_move hmove
    have hself := h.each t x hx
    refine ⟨⟨groupFresh_move h.shared hself hadv, refreshFresh_self h.shared hself hadv,
      fun j y hj hy => ?_⟩, fun z hz => ?_⟩
    · have hpair := h.pair t j x y (Ne.symm hj) hx hy
      have hymem := List.mem_of_getElem? hy
      exact ⟨refreshFresh_other h.shared hok hx hself hadv hymem (h.each j y hy) hpair,
        beside_move hok hx hadv hymem (h.each j y hy) hpair⟩
    · obtain ⟨hz, hzx, hzy⟩ := fork_fresh h.shared hadv hz
      exact ⟨hz, hzx, fun j y _ hy => hzy y (h.each j y hy)⟩

/-- Every forced refresh that returns in such a run is fresh. -/
theorem forceRefresh_fresh {lib : Library} {ls : List Label} {s : State}
    (hok : Meets (client lib).step (fun s l => removalClean s l = true) initial ls)
    (hrun : run lib initial ls = some s) : ∀ r ∈ s.shared.refreshed, r.Fresh := by
  have hinit : Holds GroupFresh RefreshFresh Beside initial := by
    refine Holds.of_idle ⟨?_, ?_, ?_, ?_⟩ rfl
    · intro key e he
      cases he
    · intro u f hf
      cases hf
    · intro f r hr
      cases hr
    · intro r hr
      cases hr
  exact (exec_invariant (fresh_step lib) hinit hok hrun).shared.log

end IdentityModel.GoJwks
