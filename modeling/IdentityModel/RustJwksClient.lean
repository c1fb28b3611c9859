import IdentityModel.RustJwksCache
import IdentityModel.Tasks
import IdentityModel.Throttle

/-!
# The Rust JWKS client

`rust/src/jwks/client.rs` as a pool of tasks over one cache. A task is one call
of `fetch`, `force_refresh` or `resolve_key`; its program counter names the next
operation on shared state, so between two of them any other task may run. The
release of the single-flight lock and the drop of the guard behind it are two
operations. The answer of the provider and a cancellation arrive as events.

`clock` numbers the steps. A forced refresh remembers the step it began at and a
request the step it was sent at; the code reads neither.
-/
namespace IdentityModel.RustJwks

open Runs Tasks TtlCache

/-- Unicode `White_Space`, as `str::trim` uses it. -/
def isWhitespace (c : Char) : Bool :=
  let n := c.toNat
  (9 ≤ n && n ≤ 13) || n == 0x20 || n == 0x85 || n == 0xA0 || n == 0x1680 ||
    (0x2000 ≤ n && n ≤ 0x200A) || n == 0x2028 || n == 0x2029 || n == 0x202F ||
    n == 0x205F || n == 0x3000

/-- `str::trim`. -/
def trim (s : String) : String :=
  String.ofList (((s.toList.dropWhile isWhitespace).reverse.dropWhile isWhitespace).reverse)

def toAsciiLowercase (c : Char) : Char :=
  if 'A' ≤ c ∧ c ≤ 'Z' then Char.ofNat (c.toNat + 32) else c

/-- The scheme test of `fetch`, on a lowercased copy. -/
def schemeOk (cfg : Config) (uri : String) : Bool :=
  let scheme := uri.toList.map toAsciiLowercase
  "https://".toList.isPrefixOf scheme ||
    (cfg.allowHttp && "http://".toList.isPrefixOf scheme)

inductive Call
  | fetch (jwksUri : String)
  | forceRefresh (jwksUri : String)
  | resolveKey (jwksUri kid : String)
  deriving DecidableEq

/-- The cache key of a call: its URI, trimmed. -/
def Call.uri : Call → String
  | .fetch jwksUri => trim jwksUri
  | .forceRefresh jwksUri => trim jwksUri
  | .resolveKey jwksUri _ => trim jwksUri

/-- Why a fetch runs: for `resolve_key` of some `kid`, and inside a
`force_refresh` that began at some step. -/
structure Use where
  kid : Option String
  refresh : Option ℕ
  deriving DecidableEq

/-- The fetch is the forced refresh of a `kid` miss. -/
def Use.kidMiss (why : Use) : Bool := why.kid.isSome && why.refresh.isSome

/-- How a fetch ended. -/
inductive Fetched
  | ok (ks : Obtained)
  | error (e : IdentityError)
  | cancelled
  deriving DecidableEq

/-- What a call returned. -/
inductive Outcome
  | keySet (ks : Obtained)
  | key (k : JsonWebKey)
  | error (e : IdentityError)
  | cancelled
  deriving DecidableEq

/-- The next operation of a task. -/
inductive Pc
  | invalidate (kid : Option String) (began : ℕ)
  | lookup (why : Use)
  | gate (why : Use)
  | wait (why : Use) (g : ℕ)
  | recheck (why : Use) (g : ℕ)
  | request (why : Use) (g started : ℕ)
  | store (why : Use) (g : ℕ) (ks : Obtained)
  | unlock (why : Use) (g : ℕ) (r : Fetched)
  | dropGuard (why : Use) (g : ℕ) (r : Fetched)
  | throttle (kid : String)
  | mark (kid : Option String) (began : ℕ) (ks : Obtained)
  | done (out : Outcome)
  deriving DecidableEq

structure Task where
  uri : String
  pc : Pc
  deriving DecidableEq

/-- An upstream request: when it was sent, and whether a `kid` miss caused it. -/
structure Request where
  uri : String
  at_ : ℕ
  kidMiss : Bool
  deriving DecidableEq

/-- A `force_refresh` that returned: the step it began at, the step at which the
request behind the returned set was sent, and the same for the set the cache
holds at that moment. -/
structure Refreshed where
  uri : String
  began : ℕ
  got : ℕ
  cached : Option ℕ
  deriving DecidableEq

structure Shared where
  cache : RustJwks.Cache
  gates : Gates
  /-- The gates whose lock is held. -/
  held : List ℕ
  now : ℕ
  clock : ℕ
  /-- Requests sent, newest first. -/
  requests : List Request
  /-- Forced refreshes that returned, newest first. -/
  refreshed : List Refreshed

/-- What happens to a task: it runs, its request is answered, it is dropped. -/
inductive Act
  | run
  | response (answer : Except IdentityError JsonWebKeySet)
  | cancel

structure Event where
  now : ℕ
  act : Act

abbrev State := Pool Shared Task

abbrev Label := Tasks.Label Call Event

/-- What a call does with the result of its fetch. -/
def afterFetch (why : Use) : Fetched → Pc
  | .cancelled => .done .cancelled
  | .error e => .done (.error e)
  | .ok ks =>
      match why.refresh with
      | some began => .mark why.kid began ks
      | none =>
          match why.kid with
          | none => .done (.keySet ks)
          | some kid =>
              match ks.keySet.find kid with
              | some k => .done (.key k)
              | none => .throttle kid

/-- What a `force_refresh` hands to its caller. -/
def afterRefresh (kid : Option String) (ks : Obtained) : Outcome :=
  match kid with
  | none => .keySet ks
  | some kid =>
      match ks.keySet.resolveKey kid with
      | .ok k => .key k
      | .error e => .error e

def emptyUri : IdentityError := .validation "jwks_uri is empty"

def notHttps (cfg : Config) (uri : String) : IdentityError :=
  .validation ("jwks_uri " ++ cfg.debugStr uri ++
    " must use https (enable allow_http for development)")

/-- A fetch up to the single-flight gate. -/
def lookupStep (cfg : Config) (w : Shared) (uri : String) (why : Use) : Shared × Pc :=
  if uri = "" then (w, afterFetch why (.error emptyUri))
  else
    match w.cache.get uri w.now with
    | (cache, some ks) => ({ w with cache := cache }, afterFetch why (.ok ks))
    | (cache, none) =>
        if schemeOk cfg uri then ({ w with cache := cache }, .gate why)
        else ({ w with cache := cache }, afterFetch why (.error (notHttps cfg uri)))

/-- The second lookup, under the gate; on a miss the request goes out. -/
def recheckStep (w : Shared) (uri : String) (why : Use) (g : ℕ) : Shared × Pc :=
  match w.cache.get uri w.now with
  | (cache, some ks) => ({ w with cache := cache }, .unlock why g (.ok ks))
  | (cache, none) =>
      ({ w with cache := cache, requests := ⟨uri, w.now, why.kidMiss⟩ :: w.requests },
        .request why g w.clock)

def markStep (cfg : Config) (w : Shared) (uri : String) (kid : Option String) (began : ℕ)
    (ks : Obtained) : Shared × Pc :=
  ({ w with
      cache := w.cache.markRefresh cfg uri w.now
      refreshed := ⟨uri, began, ks.requestedAt,
        (w.cache.stored uri).map fun held => held.1.requestedAt⟩ :: w.refreshed },
    .done (afterRefresh kid ks))

/-- One operation of a task on `uri`. -/
def advance (cfg : Config) (w : Shared) (uri : String) : Pc → Act → Option (Shared × Pc)
  | .invalidate kid began, .run =>
      some ({ w with cache := w.cache.invalidate uri }, .lookup ⟨kid, some began⟩)
  | .lookup why, .run => some (lookupStep cfg w uri why)
  | .gate why, .run =>
      some ({ w with gates := (w.gates.flightGate uri).1 }, .wait why (w.gates.flightGate uri).2)
  | .wait why g, .run =>
      if g ∈ w.held then none else some ({ w with held := g :: w.held }, .recheck why g)
  | .recheck why g, .run => some (recheckStep w uri why g)
  | .store why g ks, .run =>
      some ({ w with cache := w.cache.put cfg uri ks w.now }, .unlock why g (.ok ks))
  | .unlock why g r, .run =>
      some ({ w with held := w.held.filter fun h => h ≠ g }, .dropGuard why g r)
  | .dropGuard why g r, .run =>
      some ({ w with gates := w.gates.releaseFlight uri g }, afterFetch why r)
  | .throttle kid, .run =>
      if w.cache.refreshThrottled cfg uri w.now then some (w, .done (.error (.keyNotFound kid)))
      else some (w, .invalidate (some kid) w.clock)
  | .mark kid began ks, .run => some (markStep cfg w uri kid began ks)
  | .request why g started, .response (.ok set) => some (w, .store why g ⟨set, started⟩)
  | .request why g _, .response (.error e) => some (w, .unlock why g (.error e))
  | .wait why g, .cancel => some (w, .dropGuard why g .cancelled)
  | .recheck why g, .cancel => some (w, .unlock why g .cancelled)
  | .request why g _, .cancel => some (w, .unlock why g .cancelled)
  | .store why g _, .cancel => some (w, .unlock why g .cancelled)
  | .invalidate .., .cancel => some (w, .done .cancelled)
  | .lookup _, .cancel => some (w, .done .cancelled)
  | .throttle _, .cancel => some (w, .done .cancelled)
  | .mark .., .cancel => some (w, .done .cancelled)
  | _, _ => none

/-- The first operation of a call that begins at step `clock`. -/
def Call.start (clock : ℕ) : Call → Pc
  | .fetch _ => .lookup ⟨none, none⟩
  | .forceRefresh _ => .invalidate none clock
  | .resolveKey _ kid => .lookup ⟨some kid, none⟩

/-- The client: calls start at any time, and time never goes back. -/
def client (cfg : Config) : Machine Shared Task Call Event where
  spawn w call := some ({ w with clock := w.clock + 1 }, ⟨call.uri, call.start w.clock⟩)
  move w x e :=
    if w.now ≤ e.now then
      (advance cfg { w with now := e.now } x.uri x.pc e.act).map fun r =>
        ({ r.1 with clock := r.1.clock + 1 }, ⟨x.uri, r.2⟩)
    else none

theorem client_fork (cfg : Config) (w : Shared) (x : Task) (e : Event) :
    (client cfg).fork w x e = none := rfl

/-- A new client. -/
def initial : State := ⟨⟨TtlCache.Cache.new, ⟨∅, 0⟩, [], 0, 0, [], []⟩, []⟩

abbrev run (cfg : Config) : State → List Label → Option State := exec (client cfg).step

/-- The operations of a task as a relation, one rule per outcome. -/
inductive Advance (cfg : Config) (w : Shared) (uri : String) : Pc → Act → Shared → Pc → Prop
  | invalidate (kid : Option String) (began : ℕ) :
      Advance cfg w uri (.invalidate kid began) .run
        { w with cache := w.cache.invalidate uri } (.lookup ⟨kid, some began⟩)
  | lookupFail (why : Use) (e : IdentityError) (cache : RustJwks.Cache)
      (hc : cache = w.cache ∨ cache = (w.cache.get uri w.now).1) :
      Advance cfg w uri (.lookup why) .run { w with cache := cache } (.done (.error e))
  | lookupHit (why : Use) (ks : Obtained) (h : (w.cache.get uri w.now).2 = some ks)
      (hne : uri ≠ "") :
      Advance cfg w uri (.lookup why) .run
        { w with cache := (w.cache.get uri w.now).1 } (afterFetch why (.ok ks))
  | lookupMiss (why : Use) (h : (w.cache.get uri w.now).2 = none) (hne : uri ≠ "")
      (hscheme : schemeOk cfg uri = true) :
      Advance cfg w uri (.lookup why) .run
        { w with cache := (w.cache.get uri w.now).1 } (.gate why)
  | gate (why : Use) :
      Advance cfg w uri (.gate why) .run
        { w with gates := (w.gates.flightGate uri).1 } (.wait why (w.gates.flightGate uri).2)
  | lock (why : Use) (g : ℕ) (h : g ∉ w.held) :
      Advance cfg w uri (.wait why g) .run { w with held := g :: w.held } (.recheck why g)
  | recheckHit (why : Use) (g : ℕ) (ks : Obtained) (h : (w.cache.get uri w.now).2 = some ks) :
      Advance cfg w uri (.recheck why g) .run
        { w with cache := (w.cache.get uri w.now).1 } (.unlock why g (.ok ks))
  | send (why : Use) (g : ℕ) (h : (w.cache.get uri w.now).2 = none) :
      Advance cfg w uri (.recheck why g) .run
        { w with
          cache := (w.cache.get uri w.now).1
          requests := ⟨uri, w.now, why.kidMiss⟩ :: w.requests } (.request why g w.clock)
  | store (why : Use) (g : ℕ) (ks : Obtained) :
      Advance cfg w uri (.store why g ks) .run
        { w with cache := w.cache.put cfg uri ks w.now } (.unlock why g (.ok ks))
  | unlock (why : Use) (g : ℕ) (r : Fetched) :
      Advance cfg w uri (.unlock why g r) .run
        { w with held := w.held.filter fun h => h ≠ g } (.dropGuard why g r)
  | dropGuard (why : Use) (g : ℕ) (r : Fetched) :
      Advance cfg w uri (.dropGuard why g r) .run
        { w with gates := w.gates.releaseFlight uri g } (afterFetch why r)
  | throttled (kid : String) (h : w.cache.refreshThrottled cfg uri w.now = true) :
      Advance cfg w uri (.throttle kid) .run w (.done (.error (.keyNotFound kid)))
  | passed (kid : String) (h : w.cache.refreshThrottled cfg uri w.now = false) :
      Advance cfg w uri (.throttle kid) .run w (.invalidate (some kid) w.clock)
  | mark (kid : Option String) (began : ℕ) (ks : Obtained) :
      Advance cfg w uri (.mark kid began ks) .run (markStep cfg w uri kid began ks).1
        (.done (afterRefresh kid ks))
  | answered (why : Use) (g started : ℕ) (set : JsonWebKeySet) :
      Advance cfg w uri (.request why g started) (.response (.ok set)) w
        (.store why g ⟨set, started⟩)
  | failed (why : Use) (g started : ℕ) (e : IdentityError) :
      Advance cfg w uri (.request why g started) (.response (.error e)) w
        (.unlock why g (.error e))
  | cancelWait (why : Use) (g : ℕ) :
      Advance cfg w uri (.wait why g) .cancel w (.dropGuard why g .cancelled)
  | cancelHeld (pc : Pc) (why : Use) (g : ℕ)
      (h : pc = .recheck why g ∨ (∃ n, pc = .request why g n) ∨ ∃ ks, pc = .store why g ks) :
      Advance cfg w uri pc .cancel w (.unlock why g .cancelled)
  | cancelFree (pc : Pc)
      (h : (∃ kid n, pc = .invalidate kid n) ∨ (∃ why, pc = .lookup why) ∨
        (∃ kid, pc = .throttle kid) ∨ ∃ kid n ks, pc = .mark kid n ks) :
      Advance cfg w uri pc .cancel w (.done .cancelled)

theorem lookupStep_advance (cfg : Config) (w : Shared) (uri : String) (why : Use) :
    Advance cfg w uri (.lookup why) .run (lookupStep cfg w uri why).1
      (lookupStep cfg w uri why).2 := by
  unfold lookupStep
  split
  · exact .lookupFail why emptyUri w.cache (.inl rfl)
  · rename_i hne
    cases hget : w.cache.get uri w.now with
    | mk cache found =>
        have h1 : cache = (w.cache.get uri w.now).1 := by rw [hget]
        have h2 : found = (w.cache.get uri w.now).2 := by rw [hget]
        cases found with
        | some ks => exact h1 ▸ .lookupHit why ks h2.symm hne
        | none =>
            simp only
            split
            · rename_i hscheme
              exact h1 ▸ .lookupMiss why h2.symm hne hscheme
            · exact .lookupFail why _ cache (.inr h1)

theorem recheckStep_advance (cfg : Config) (w : Shared) (uri : String) (why : Use) (g : ℕ) :
    Advance cfg w uri (.recheck why g) .run (recheckStep w uri why g).1
      (recheckStep w uri why g).2 := by
  unfold recheckStep
  cases hget : w.cache.get uri w.now with
  | mk cache found =>
      have h1 : cache = (w.cache.get uri w.now).1 := by rw [hget]
      have h2 : found = (w.cache.get uri w.now).2 := by rw [hget]
      cases found with
      | some ks => exact h1 ▸ .recheckHit why g ks h2.symm
      | none => exact h1 ▸ .send why g h2.symm

/-- Every operation is one of the rules. -/
theorem advance_cases {cfg : Config} {w w' : Shared} {uri : String} {pc pc' : Pc} {act : Act}
    (h : advance cfg w uri pc act = some (w', pc')) : Advance cfg w uri pc act w' pc' := by
  cases act with
  | run =>
      cases pc with
      | invalidate kid began =>
          cases h
          exact .invalidate kid began
      | lookup why =>
          have hr : lookupStep cfg w uri why = (w', pc') := Option.some.inj h
          have ha := lookupStep_advance cfg w uri why
          rwa [hr] at ha
      | gate why =>
          cases h
          exact .gate why
      | wait why g =>
          simp only [advance] at h
          split at h
          · cases h
          · rename_i hheld
            cases h
            exact .lock why g hheld
      | recheck why g =>
          have hr : recheckStep w uri why g = (w', pc') := Option.some.inj h
          have ha := recheckStep_advance cfg w uri why g
          rwa [hr] at ha
      | request why g started => cases h
      | store why g ks =>
          cases h
          exact .store why g ks
      | unlock why g r =>
          cases h
          exact .unlock why g r
      | dropGuard why g r =>
          cases h
          exact .dropGuard why g r
      | throttle kid =>
          simp only [advance] at h
          split at h
          · rename_i hthr
            cases h
            exact .throttled kid hthr
          · rename_i hthr
            cases h
            exact .passed kid (Bool.eq_false_iff.mpr hthr)
      | mark kid began ks =>
          cases h
          exact .mark kid began ks
      | done out => cases h
  | response answer =>
      cases pc <;> cases answer <;> cases h
      · exact .failed _ _ _ _
      · exact .answered _ _ _ _
  | cancel =>
      cases pc <;> cases h
      · exact .cancelFree _ (.inl ⟨_, _, rfl⟩)
      · exact .cancelFree _ (.inr (.inl ⟨_, rfl⟩))
      · exact .cancelWait _ _
      · exact .cancelHeld _ _ _ (.inl rfl)
      · exact .cancelHeld _ _ _ (.inr (.inl ⟨_, rfl⟩))
      · exact .cancelHeld _ _ _ (.inr (.inr ⟨_, rfl⟩))
      · exact .cancelFree _ (.inr (.inr (.inl ⟨_, rfl⟩)))
      · exact .cancelFree _ (.inr (.inr (.inr ⟨_, _, _, rfl⟩)))

/-- A move of the client is one operation, timed and numbered. -/
theorem client_move {cfg : Config} {w w' : Shared} {x x' : Task} {e : Event}
    (h : (client cfg).move w x e = some (w', x')) :
    w.now ≤ e.now ∧ ∃ v pc', Advance cfg { w with now := e.now } x.uri x.pc e.act v pc' ∧
      w' = { v with clock := v.clock + 1 } ∧ x' = ⟨x.uri, pc'⟩ := by
  simp only [client] at h
  split at h
  · rename_i hle
    obtain ⟨⟨v, pc'⟩, hadv, hr⟩ := Option.map_eq_some_iff.mp h
    cases hr
    exact ⟨hle, v, pc', advance_cases hadv, rfl, rfl⟩
  · cases h

/-- A finished task does not move. -/
theorem Advance.not_done {cfg : Config} {w w' : Shared} {uri : String} {pc pc' : Pc} {act : Act}
    (h : Advance cfg w uri pc act w' pc') (out : Outcome) : pc ≠ .done out := by
  cases h with
  | cancelHeld _ why g hpc => obtain rfl | ⟨n, rfl⟩ | ⟨ks, rfl⟩ := hpc <;> simp
  | cancelFree _ hpc =>
      obtain ⟨kid, n, rfl⟩ | ⟨why, rfl⟩ | ⟨kid, rfl⟩ | ⟨kid, n, ks, rfl⟩ := hpc <;> simp
  | _ => simp

/-- What an operation does to the stored sets: it leaves them alone, removes the
one of its URI, or stores an answer. -/
theorem Advance.stored_effect {cfg : Config} {w w' : Shared} {uri : String} {pc pc' : Pc}
    {act : Act} (h : Advance cfg w uri pc act w' pc') :
    (∀ u, w'.cache.stored u = w.cache.stored u) ∨
      (∃ kid began, pc = .invalidate kid began ∧ act = .run ∧
        w'.cache = w.cache.invalidate uri ∧ pc' = .lookup ⟨kid, some began⟩) ∨
      (∃ why g ks, pc = .store why g ks ∧ act = .run ∧
        w'.cache = w.cache.put cfg uri ks w.now ∧ pc' = .unlock why g (.ok ks)) := by
  cases h with
  | invalidate kid began => exact .inr (.inl ⟨kid, began, rfl, rfl, rfl, rfl⟩)
  | store why g ks => exact .inr (.inr ⟨why, g, ks, rfl, rfl, rfl, rfl⟩)
  | lookupFail why e cache hc =>
      obtain rfl | rfl := hc
      · exact .inl fun u => rfl
      · exact .inl fun u => stored_get _ _ _ _
  | lookupHit why ks hget hne => exact .inl fun u => stored_get _ _ _ _
  | lookupMiss why hget hne hscheme => exact .inl fun u => stored_get _ _ _ _
  | recheckHit why g ks hget => exact .inl fun u => stored_get _ _ _ _
  | send why g hget => exact .inl fun u => stored_get _ _ _ _
  | _ => exact .inl fun u => rfl

/-- A removal that is not cancelled removes. -/
theorem Advance.removes {cfg : Config} {w w' : Shared} {uri : String} {pc pc' : Pc} {act : Act}
    (h : Advance cfg w uri pc act w' pc') {kid : Option String} {began : ℕ}
    (hpc : pc = .invalidate kid began) (hact : act ≠ .cancel) : w'.cache.stored uri = none := by
  cases h with
  | invalidate => simp [stored_invalidate]
  | cancelHeld => exact absurd rfl hact
  | cancelFree => exact absurd rfl hact
  | _ => cases hpc

/-- The task is past the checks of `fetch` on its URI and not yet past the store. -/
def Pc.fetching : Pc → Bool
  | .gate _ => true
  | .wait .. => true
  | .recheck .. => true
  | .request .. => true
  | .store .. => true
  | _ => false

theorem afterFetch_fetching (why : Use) (r : Fetched) : (afterFetch why r).fetching = false := by
  unfold afterFetch
  repeat' split
  all_goals rfl

theorem Advance.fetching {cfg : Config} {w w' : Shared} {uri : String} {pc pc' : Pc} {act : Act}
    (h : Advance cfg w uri pc act w' pc') (hpc' : pc'.fetching = true) :
    pc.fetching = true ∨ uri ≠ "" := by
  cases h with
  | lookupMiss why hget hne hscheme => exact .inr hne
  | lookupHit why ks hget hne => exact .inr hne
  | dropGuard why g r => simp [afterFetch_fetching] at hpc'
  | _ => first | exact .inl rfl | cases hpc'

theorem client_spawn {cfg : Config} {w w' : Shared} {call : Call} {x : Task}
    (h : (client cfg).spawn w call = some (w', x)) :
    w' = { w with clock := w.clock + 1 } ∧ x = ⟨call.uri, call.start w.clock⟩ := by
  cases h
  exact ⟨rfl, rfl⟩

/-- The empty URI is rejected before anything is stored under it. -/
theorem stored_empty {cfg : Config} {ls : List Label} {s : State}
    (hrun : run cfg initial ls = some s) : s.shared.cache.stored "" = none := by
  have hstep : ∀ (s : State) (l : Label) (s' : State),
      Holds (fun w : Shared => w.cache.stored "" = none)
        (fun _ x => x.pc.fetching = true → x.uri ≠ "") (fun _ _ => True) s →
      (client cfg).step s l = some s' →
      Holds (fun w : Shared => w.cache.stored "" = none)
        (fun _ x => x.pc.fetching = true → x.uri ≠ "") (fun _ _ => True) s' := by
    intro s l s' h hs
    refine Machine.holds_step (client_fork cfg) (fun _ _ => True) (fun _ _ _ => trivial) ?_ ?_ s l s' h trivial hs
    · intro s call w x h _ hspawn
      obtain ⟨rfl, rfl⟩ := client_spawn hspawn
      refine ⟨h.shared, ?_, fun j y hy => ⟨h.each j y hy, trivial⟩⟩
      cases call <;> simp [Call.start, Pc.fetching]
    · intro s t e x w x' h _ hx hmove
      obtain ⟨hle, v, pc', hadv, rfl, rfl⟩ := client_move hmove
      have hself := h.each t x hx
      refine ⟨?_, ?_, fun j y _ hy => ⟨h.each j y hy, trivial⟩⟩
      · obtain hsame | ⟨kid, began, -, -, hcache, -⟩ | ⟨why, g, ks, hpc, -, hcache, -⟩ :=
          hadv.stored_effect
        · exact (hsame "").trans h.shared
        · show v.cache.stored "" = none
          rw [hcache, stored_invalidate]
          simp [h.shared]
        · show v.cache.stored "" = none
          have hne : x.uri ≠ "" := hself (by rw [hpc]; rfl)
          rw [hcache]
          cases hst : (s.shared.cache.put cfg x.uri ks e.now).stored "" with
          | none => rfl
          | some held =>
              obtain ⟨hu, -⟩ | ⟨-, hold⟩ := stored_put hst
              · exact absurd hu.symm hne
              · simp [h.shared] at hold
      · intro hf
        obtain hpc | hne := hadv.fetching hf
        · exact hself hpc
        · exact hne
  exact (exec_preserves hstep (Holds.of_idle rfl rfl) hrun).shared

end IdentityModel.RustJwks
