import IdentityModel.GoFreshness

/-!
# Clearing the Go JWKS cache

`ClearCache` drops every cached key set under the cache's mutex, while calls of the
package go on. A flight whose request is out stores its keys when it is answered;
runs in which the cache is cleared only while no flight has a request out keep it
free of keys requested before a clear.
-/
namespace IdentityModel.GoJwks

open Runs Tasks TtlCache

/-- A step of the package, or a call of `ClearCache`. -/
inductive ClearLabel
  | client (l : Label)
  | clearCache

/-- The package with the steps, by number, at which requests were sent and the cache
was cleared; newest first. -/
structure Clearing where
  state : State
  sends : List ℕ
  clears : List ℕ

/-- `cache.clear`. -/
def Cache.clear (c : Cache) : Cache := { c with entries := ∅, lastRefresh := ∅ }

def clearStep (s : State) : State :=
  ⟨{ s.shared with cache := Cache.clear s.shared.cache, clock := s.shared.clock + 1 }, s.tasks⟩

def clearingStep (lib : Library) (s : Clearing) :
    ClearLabel → Option Clearing
  | .client l =>
      ((client lib).step s.state l).map fun s' =>
        ⟨s', if s.state.shared.requests.length < s'.shared.requests.length then
          s.state.shared.clock :: s.sends else s.sends, s.clears⟩
  | .clearCache => some ⟨clearStep s.state, s.sends, s.state.shared.clock :: s.clears⟩

def initialClearing : Clearing := ⟨initial, [], []⟩

abbrev runClearing (lib : Library) :
    Clearing → List ClearLabel → Option Clearing := exec (clearingStep lib)

/-- The request behind the keys a flight waits for or stores. -/
def Proc.outstanding : Proc → Option ℕ
  | .flight _ _ _ _ (.request started) => some started
  | .flight _ _ _ _ (.store keys) => some keys.requestedAt
  | _ => none

/-- The cache is cleared only while no flight has a request out. -/
def clearsQuietly (s : Clearing) : ClearLabel → Bool
  | .client _ => true
  | .clearCache => s.state.tasks.all fun y => y.outstanding.isNone

/-- What is in the cache was requested after every clear; when nothing was requested
since a clear, the cache is empty. -/
structure ClearedForGood (s : Clearing) : Prop where
  requested : ∀ uri keys expiresAt, s.state.shared.cache.stored uri = some (keys, expiresAt) →
    keys.requestedAt ∈ s.sends ∧ ∀ c ∈ s.clears, c < keys.requestedAt
  empty : (∃ c ∈ s.clears, ∀ n ∈ s.sends, n < c) →
    ∀ uri, s.state.shared.cache.stored uri = none

/-- Keys requested after every clear, wherever they are. -/
structure Current (s : Clearing) : Prop where
  past : ∀ c ∈ s.clears, c < s.state.shared.clock
  cached : ∀ uri keys expiresAt, s.state.shared.cache.stored uri = some (keys, expiresAt) →
    keys.requestedAt ∈ s.sends ∧ ∀ c ∈ s.clears, c < keys.requestedAt
  flying : ∀ x ∈ s.state.tasks, ∀ n, x.outstanding = some n →
    n ∈ s.sends ∧ ∀ c ∈ s.clears, c < n

section Effect

variable {lib : Library} {w w' : Shared} {x x' : Proc} {act : Act}

/-- A flight has just sent its request, or had it out before. -/
theorem Advance.outstanding_effect (h : Advance lib w x act w' x') {n : ℕ}
    (hn : x'.outstanding = some n) :
    x.outstanding = some n ∨ (n = w.clock ∧ w.requests.length < w'.requests.length) := by
  cases h with
  | caller h => cases hn
  | flight h =>
      cases h with
      | send => exact .inr ⟨(Option.some.inj hn).symm, by simp⟩
      | _ => first | exact .inl hn | cases hn

/-- Keys in the cache were there before, or come from the flight that stored them. -/
theorem Advance.stored_cases (h : Advance lib w x act w' x') {uri : String} {keys : Obtained}
    {expiresAt : Option ℕ} (hst : w'.cache.stored uri = some (keys, expiresAt)) :
    w.cache.stored uri = some (keys, expiresAt) ∨ x.outstanding = some keys.requestedAt := by
  obtain hsame | ⟨uri', cfg, hd, kid, began, -, -, hcache⟩ |
    ⟨id, uri', cfg, kidMiss, keys', rfl, -, hcache, -⟩ := h.stored_effect
  · exact .inl ((hsame uri).symm.trans hst)
  · rw [hcache, stored_invalidate] at hst
    split at hst
    · cases hst
    · exact .inl hst
  · rw [hcache] at hst
    obtain ⟨-, rfl⟩ | ⟨-, hold⟩ := stored_put hst
    · exact .inr rfl
    · exact .inl hold

end Effect

theorem Call.start_outstanding {w : Shared} {call : Call} {x : Proc} (h : call.start w = some x) :
    x.outstanding = none := by
  cases call with
  | fetchKeySet uri cfg =>
      cases h
      rfl
  | forceRefresh hd =>
      obtain ⟨set, -, rfl⟩ := Option.map_eq_some_iff.mp h
      rfl
  | resolveKeyWithRefresh hd kid =>
      obtain ⟨set, -, rfl⟩ := Option.map_eq_some_iff.mp h
      rfl

theorem mem_tasks_move {α : Type*} {tasks : List α} {t : ℕ} {x' y : α} {z : Option α}
    (hy : y ∈ tasks.set t x' ++ z.toList) : y = x' ∨ y ∈ tasks ∨ z = some y := by
  obtain hy | hy := List.mem_append.mp hy
  · obtain hy | rfl := List.mem_or_eq_of_mem_set hy
    · exact .inr (.inl hy)
    · exact .inl rfl
  · exact .inr (.inr (by simpa [Option.mem_toList] using hy))

section Steps

variable {lib : Library}

theorem current_client (s : Clearing) (l : Label) (s' : State) (h : Current s)
    (hstep : (client lib).step s.state l = some s') :
    Current ⟨s', if s.state.shared.requests.length < s'.shared.requests.length then
      s.state.shared.clock :: s.sends else s.sends, s.clears⟩ := by
  have hgrows {n : ℕ} (hn : n ∈ s.sends) (s' : State) :
      n ∈ if s.state.shared.requests.length < s'.shared.requests.length then
        s.state.shared.clock :: s.sends else s.sends := by
    split
    · exact List.mem_cons_of_mem _ hn
    · exact hn
  cases l with
  | spawn call =>
      obtain ⟨w, x, hspawn, rfl⟩ := Machine.step_spawn hstep
      obtain ⟨hstart, rfl⟩ := client_spawn hspawn
      refine ⟨fun c hc => ?_, fun uri keys expiresAt hst => ?_, fun y hy n hn => ?_⟩
      · have hlt := h.past c hc
        show c < s.state.shared.clock + 1
        omega
      · obtain ⟨hsent, hafter⟩ := h.cached uri keys expiresAt hst
        exact ⟨hgrows hsent _, hafter⟩
      · obtain hy | hy := List.mem_append.mp hy
        · obtain ⟨hsent, hafter⟩ := h.flying y hy n hn
          exact ⟨hgrows hsent _, hafter⟩
        · obtain rfl : y = x := by simpa using hy
          rw [Call.start_outstanding hstart] at hn
          cases hn
  | move t e =>
      obtain ⟨x, w, x', hx, hmove, rfl⟩ := Machine.step_move_fork hstep
      obtain ⟨-, v, hadv, rfl⟩ := client_move hmove
      have hclock : v.clock = s.state.shared.clock := hadv.clock_eq
      have hxflying := h.flying x (List.mem_of_getElem? hx)
      refine ⟨fun c hc => ?_, fun uri keys expiresAt hst => ?_, fun y hy n hn => ?_⟩
      · have hlt := h.past c hc
        show c < v.clock + 1
        omega
      · obtain hold | hout := hadv.stored_cases hst
        · obtain ⟨hsent, hafter⟩ := h.cached uri keys expiresAt hold
          exact ⟨hgrows hsent _, hafter⟩
        · obtain ⟨hsent, hafter⟩ := hxflying _ hout
          exact ⟨hgrows hsent _, hafter⟩
      · obtain rfl | hy | hz := mem_tasks_move hy
        · obtain hout | ⟨rfl, hlen⟩ := hadv.outstanding_effect hn
          · obtain ⟨hsent, hafter⟩ := hxflying n hout
            exact ⟨hgrows hsent _, hafter⟩
          · have hlen : s.state.shared.requests.length < v.requests.length := hlen
            refine ⟨?_, h.past⟩
            simp [hlen]
        · obtain ⟨hsent, hafter⟩ := h.flying y hy n hn
          exact ⟨hgrows hsent _, hafter⟩
        · obtain ⟨uri, cfg, why, -, -, rfl⟩ := client_fork hz
          cases hn

theorem current_step (s : Clearing) (l : ClearLabel) (s' : Clearing) (h : Current s)
    (hok : clearsQuietly s l = true) (hstep : clearingStep lib s l = some s') :
    Current s' := by
  cases l with
  | client l =>
      obtain ⟨s₁, hs₁, rfl⟩ := Option.map_eq_some_iff.mp hstep
      exact current_client s l s₁ h hs₁
  | clearCache =>
      cases hstep
      simp only [clearsQuietly, List.all_eq_true, Option.isNone_iff_eq_none] at hok
      refine ⟨fun c hc => ?_, fun uri keys expiresAt hst => ?_, fun y hy n hn => ?_⟩
      · show c < s.state.shared.clock + 1
        obtain rfl | hc := List.mem_cons.mp hc
        · omega
        · have hlt := h.past c hc
          omega
      · cases hst
      · rw [hok y hy] at hn
        cases hn

/-- After every run in which the cache is cleared only while no flight has a request
out, a cleared cache stays cleared of what was requested before. -/
theorem clearedForGood_run {ls : List ClearLabel} {s : Clearing}
    (hok : Meets (clearingStep lib) (fun s l => clearsQuietly s l = true) initialClearing ls)
    (hrun : runClearing lib initialClearing ls = some s) : ClearedForGood s := by
  have hinit : Current initialClearing := by
    refine ⟨fun c hc => ?_, fun uri keys expiresAt hst => ?_, fun x hx => ?_⟩
    · cases hc
    · cases hst
    · cases hx
  have h : Current s := exec_invariant current_step hinit hok hrun
  refine ⟨h.cached, fun ⟨c, hc, hnone⟩ uri => ?_⟩
  cases hst : s.state.shared.cache.stored uri with
  | none => rfl
  | some held =>
      obtain ⟨hsent, hafter⟩ := h.cached uri held.1 held.2 hst
      have hlt := hafter c hc
      have hgt := hnone _ hsent
      omega

end Steps

end IdentityModel.GoJwks
