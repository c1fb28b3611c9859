import IdentityModel.Dict

/-!
# Bounded caches with lifetimes and refresh records

A map from keys to values, each with an expiry and a recency tick, beside a
record of when each key was last refreshed. A store keeps the bound by dropping
the least recently used entries together with their records; a bound of zero
keeps everything. Instants are natural numbers. Each operation is meant to run
under one lock.
-/
namespace IdentityModel.TtlCache

variable {κ V : Type*}

/-- A cached value; without an expiry it never elapses. -/
structure Entry (V : Type*) where
  value : V
  expiresAt : Option ℕ
  lastAccess : ℕ

structure Cache (κ V : Type*) where
  entries : Dict κ (Entry V)
  lastRefresh : Dict κ ℕ
  accessCounter : ℕ

def Cache.new : Cache κ V := ⟨∅, ∅, 0⟩

def unexpired (expiresAt : Option ℕ) (now : ℕ) : Bool :=
  match expiresAt with
  | none => true
  | some at_ => now < at_

namespace Cache

variable [DecidableEq κ]

/-- Serve an unexpired entry and renew its tick. -/
def get (c : Cache κ V) (key : κ) (now : ℕ) : Cache κ V × Option V :=
  match c.entries.lookup key with
  | none => (c, none)
  | some e =>
      if unexpired e.expiresAt now then
        ({ c with
            entries := c.entries.insert key { e with lastAccess := c.accessCounter }
            accessCounter := c.accessCounter + 1 }, some e.value)
      else (c, none)

/-- Drop the least recently used entries beyond the bound. -/
def evictLru (bound : ℕ) (entries : Dict κ (Entry V)) : Dict κ (Entry V) × List κ :=
  if bound = 0 then (entries, []) else entries.evict (fun e => e.lastAccess) bound

/-- Store, evict, and prune the records of evicted keys. -/
def put (bound : ℕ) (c : Cache κ V) (key : κ) (value : V) (expiresAt : Option ℕ) : Cache κ V :=
  let kept := evictLru bound (c.entries.insert key ⟨value, expiresAt, c.accessCounter⟩)
  { entries := kept.1
    lastRefresh := c.lastRefresh.eraseAll kept.2
    accessCounter := c.accessCounter + 1 }

/-- Remove an entry; its record stays. -/
def invalidate (c : Cache κ V) (key : κ) : Cache κ V :=
  { c with entries := c.entries.erase key }

/-- Record a refresh, with the bound on the records. -/
def markRefresh (bound : ℕ) (c : Cache κ V) (key : κ) (now : ℕ) : Cache κ V :=
  let records : Dict κ ℕ := c.lastRefresh.insert key now
  { c with lastRefresh := if bound = 0 then records else (Dict.evict id bound records).1 }

/-- The key was refreshed less than `cooldown` ago. -/
def refreshThrottled (cooldown : ℕ) (c : Cache κ V) (key : κ) (now : ℕ) : Bool :=
  if cooldown = 0 then false
  else
    match c.lastRefresh.lookup key with
    | some last => now - last < cooldown
    | none => false

/-- What the cache holds under a key, recency aside. -/
def stored (c : Cache κ V) (key : κ) : Option (V × Option ℕ) :=
  (c.entries.lookup key).map fun e => (e.value, e.expiresAt)

/-- Recency ticks are handed out in order. -/
def TicksBelow (c : Cache κ V) : Prop :=
  ∀ key e, c.entries.lookup key = some e → e.lastAccess < c.accessCounter

/-- Nothing but `u` is cached or recorded. -/
def SingleKey (u : κ) (c : Cache κ V) : Prop :=
  (∀ k ∈ c.entries, k = u) ∧ ∀ k ∈ c.lastRefresh, k = u

end Cache

variable [DecidableEq κ] {c : Cache κ V} {key u : κ} {value held : V} {expiresAt exp : Option ℕ}
  {now bound : ℕ}

theorem stored_eq_some :
    c.stored key = some (value, expiresAt) ↔
      ∃ e, c.entries.lookup key = some e ∧ e.value = value ∧ e.expiresAt = expiresAt := by
  simp [Cache.stored]

/-- A lookup changes recency ticks only. -/
@[simp] theorem stored_get (c : Cache κ V) (key u : κ) (now : ℕ) :
    (c.get key now).1.stored u = c.stored u := by
  unfold Cache.get Cache.stored
  cases h : c.entries.lookup key with
  | none => rfl
  | some e =>
      by_cases hf : unexpired e.expiresAt now = true
      · by_cases hu : u = key
        · subst u
          simp [hf, h]
        · simp [hf, AList.lookup_insert_ne hu]
      · simp [hf]

@[simp] theorem stored_markRefresh (bound : ℕ) (c : Cache κ V) (key u : κ) (now : ℕ) :
    (c.markRefresh bound key now).stored u = c.stored u := rfl

theorem stored_invalidate (c : Cache κ V) (key u : κ) :
    (c.invalidate key).stored u = if u = key then none else c.stored u := by
  unfold Cache.invalidate Cache.stored
  by_cases hu : u = key
  · subst u
    simp
  · simp [hu, AList.lookup_erase_ne hu]

/-- A lookup serves what is stored, as long as it has not expired. -/
theorem get_snd (c : Cache κ V) (key : κ) (now : ℕ) :
    (c.get key now).2 =
      (c.stored key).bind fun p => if unexpired p.2 now then some p.1 else none := by
  unfold Cache.get Cache.stored
  cases c.entries.lookup key with
  | none => rfl
  | some e => by_cases hf : unexpired e.expiresAt now = true <;> simp [hf]

theorem get_eq_some (h : (c.get key now).2 = some value) :
    ∃ expiresAt, c.stored key = some (value, expiresAt) := by
  rw [get_snd, Option.bind_eq_some_iff] at h
  obtain ⟨⟨value', expiresAt⟩, hstored, hif⟩ := h
  split at hif
  · have hv : value' = value := Option.some.inj hif
    exact ⟨expiresAt, hv ▸ hstored⟩
  · cases hif

theorem get_of_unexpired (h : c.stored key = some (value, expiresAt))
    (hf : unexpired expiresAt now = true) : (c.get key now).2 = some value := by
  simp [get_snd, h, hf]

theorem lookup_put {e : Entry V} (h : (c.put bound key value exp).entries.lookup u = some e) :
    (c.entries.insert key ⟨value, exp, c.accessCounter⟩).lookup u = some e := by
  unfold Cache.put Cache.evictLru at h
  split at h
  · exact h
  · exact Dict.lookup_evict h

/-- After a store, an entry is the stored one or an older entry of another key. -/
theorem stored_put (h : (c.put bound key value exp).stored u = some (held, expiresAt)) :
    (u = key ∧ held = value) ∨ (u ≠ key ∧ c.stored u = some (held, expiresAt)) := by
  obtain ⟨e, hput, rfl, rfl⟩ := stored_eq_some.mp h
  obtain ⟨hu, he⟩ | ⟨hu, he⟩ := Dict.lookup_insert_eq_some.mp (lookup_put hput)
  · exact .inl ⟨hu, by rw [← he]⟩
  · exact .inr ⟨hu, stored_eq_some.mpr ⟨e, he, rfl, rfl⟩⟩

theorem ticksBelow_get (h : c.TicksBelow) (key : κ) (now : ℕ) : (c.get key now).1.TicksBelow := by
  unfold Cache.get
  split
  · exact h
  · split
    · intro k e he
      obtain ⟨-, rfl⟩ | ⟨-, he⟩ := Dict.lookup_insert_eq_some.mp he
      · exact Nat.lt_succ_self _
      · exact Nat.lt_succ_of_lt (h k e he)
    · exact h

theorem ticksBelow_invalidate (h : c.TicksBelow) (key : κ) : (c.invalidate key).TicksBelow :=
  fun k e he => h k e (Dict.lookup_erase_eq_some.mp he).2

theorem ticksBelow_put (h : c.TicksBelow) (bound : ℕ) (key : κ) (value : V)
    (expiresAt : Option ℕ) : (c.put bound key value expiresAt).TicksBelow := by
  intro k e he
  obtain ⟨-, rfl⟩ | ⟨-, he⟩ := Dict.lookup_insert_eq_some.mp (lookup_put he)
  · exact Nat.lt_succ_self _
  · exact Nat.lt_succ_of_lt (h k e he)

/-- A store keeps the value it stores. -/
theorem stored_put_self (h : c.TicksBelow) (bound : ℕ) (key : κ) (value : V)
    (expiresAt : Option ℕ) :
    (c.put bound key value expiresAt).stored key = some (value, expiresAt) := by
  refine stored_eq_some.mpr ⟨⟨value, expiresAt, c.accessCounter⟩, ?_, rfl, rfl⟩
  unfold Cache.put Cache.evictLru
  split
  · exact AList.lookup_insert _
  · rename_i hz
    refine Dict.lookup_evict_of_max (by omega) (AList.lookup_insert _) ?_
    intro k e hk he
    obtain ⟨hk', -⟩ | ⟨-, he⟩ := Dict.lookup_insert_eq_some.mp he
    · exact absurd hk' hk
    · exact h k e he

@[simp] theorem get_lastRefresh (c : Cache κ V) (key : κ) (now : ℕ) :
    (c.get key now).1.lastRefresh = c.lastRefresh := by
  unfold Cache.get
  split
  · rfl
  · split <;> rfl

/-- With one key in use, nothing is ever evicted. -/
theorem evictLru_single {d : Dict κ (Entry V)} (h : ∀ k ∈ d, k = u) :
    Cache.evictLru bound d = (d, []) := by
  unfold Cache.evictLru
  split
  · rfl
  · rename_i hz
    have h1 := Dict.size_le_one_of_keys h
    exact Dict.evict_of_size_le _ (by omega)

theorem mem_insert_single {ν : Type*} {d : Dict κ ν} {v : ν} (h : ∀ k ∈ d, k = u) :
    ∀ k ∈ d.insert u v, k = u := by
  intro k hk
  obtain rfl | hk := (AList.mem_insert _).mp hk
  · rfl
  · exact h k hk

theorem singleKey_get (h : c.SingleKey u) (now : ℕ) : (c.get u now).1.SingleKey u := by
  refine ⟨?_, by simpa using h.2⟩
  unfold Cache.get
  split
  · exact h.1
  · split
    · exact mem_insert_single h.1
    · exact h.1

theorem singleKey_invalidate (h : c.SingleKey u) (key : κ) : (c.invalidate key).SingleKey u :=
  ⟨fun k hk => h.1 k (AList.mem_erase.mp hk).2, h.2⟩

theorem put_single (h : c.SingleKey u) (bound : ℕ) (value : V) (expiresAt : Option ℕ) :
    (c.put bound u value expiresAt).lastRefresh = c.lastRefresh ∧
      (c.put bound u value expiresAt).SingleKey u := by
  have hk := mem_insert_single (v := ⟨value, expiresAt, c.accessCounter⟩) h.1
  simp only [Cache.put, evictLru_single hk]
  exact ⟨rfl, hk, h.2⟩

theorem markRefresh_single (h : c.SingleKey u) (bound now : ℕ) :
    (c.markRefresh bound u now).lastRefresh.lookup u = some now ∧
      (c.markRefresh bound u now).SingleKey u := by
  have hk := mem_insert_single (v := now) h.2
  have hrec : (c.markRefresh bound u now).lastRefresh = c.lastRefresh.insert u now := by
    simp only [Cache.markRefresh]
    split
    · rfl
    · rename_i hz
      have h1 := Dict.size_le_one_of_keys hk
      rw [Dict.evict_of_size_le id (by omega)]
  refine ⟨?_, h.1, ?_⟩
  · rw [hrec]
    exact AList.lookup_insert _
  · rw [hrec]
    exact hk

/-- An open check: no record, or one that is a cooldown old. -/
theorem not_throttled {cooldown : ℕ} (hc : 0 < cooldown)
    (h : c.refreshThrottled cooldown u now = false) :
    ∀ τ, c.lastRefresh.lookup u = some τ → τ + cooldown ≤ now := by
  intro τ hτ
  have hz : cooldown ≠ 0 := by omega
  simp only [Cache.refreshThrottled, hz, if_false, hτ, decide_eq_false_iff_not] at h
  omega

/-- After a store, what is held is what was stored, or was held before under another key. -/
theorem stored_put_cases (h : (c.put bound key value exp).stored u = some (held, expiresAt)) :
    (u = key ∧ held = value ∧ expiresAt = exp) ∨
      (u ≠ key ∧ c.stored u = some (held, expiresAt)) := by
  obtain ⟨e, hput, rfl, rfl⟩ := stored_eq_some.mp h
  obtain ⟨hu, rfl⟩ | ⟨hu, he⟩ := Dict.lookup_insert_eq_some.mp (lookup_put hput)
  · exact .inl ⟨hu, rfl, rfl⟩
  · exact .inr ⟨hu, stored_eq_some.mpr ⟨e, he, rfl, rfl⟩⟩

theorem mem_of_mem_get {k : κ} (h : k ∈ (c.get key now).1.entries) : k ∈ c.entries := by
  have hst : (c.get key now).1.stored k = c.stored k := stored_get c key k now
  obtain ⟨e, he⟩ := Option.isSome_iff_exists.mp (AList.lookup_isSome.mpr h)
  have hsome : (c.stored k).isSome := by
    rw [← hst, Cache.stored, he]
    rfl
  simpa [Cache.stored, AList.lookup_isSome] using hsome

theorem mem_of_mem_put {k : κ} (h : k ∈ (c.put bound key value exp).entries) : k = key ∨ k ∈ c.entries := by
  obtain ⟨e, he⟩ := Option.isSome_iff_exists.mp (AList.lookup_isSome.mpr h)
  obtain ⟨hk, -⟩ | ⟨-, hk⟩ := Dict.lookup_insert_eq_some.mp (lookup_put he)
  · exact .inl hk
  · exact .inr (Dict.mem_of_lookup hk)

theorem size_get_le (h : c.entries.size ≤ bound) (key : κ) (now : ℕ) :
    (c.get key now).1.entries.size ≤ bound := by
  unfold Cache.get
  split
  · exact h
  · rename_i e he
    split
    · show Dict.size (c.entries.insert key _) ≤ bound
      rw [Dict.size_insert_of_mem (Dict.mem_of_lookup he)]
      exact h
    · exact h

theorem size_put_le (hbound : bound ≠ 0) (c : Cache κ V) (key : κ) (value : V) (exp : Option ℕ) :
    (c.put bound key value exp).entries.size ≤ bound := by
  simp only [Cache.put, Cache.evictLru, if_neg hbound]
  exact Dict.size_evict_le _ _ _

/-- A store that stays within the bound changes nothing else. -/
theorem stored_put_of_fits
    (hfits : bound = 0 ∨
      Dict.size (c.entries.insert key ⟨value, exp, c.accessCounter⟩) ≤ bound) (u : κ) :
    (c.put bound key value exp).stored u = if u = key then some (value, exp) else c.stored u := by
  have hkept : (Cache.evictLru bound (c.entries.insert key ⟨value, exp, c.accessCounter⟩)).1 =
      c.entries.insert key ⟨value, exp, c.accessCounter⟩ := by
    unfold Cache.evictLru
    split
    · rfl
    · rw [Dict.evict_of_size_le _ (hfits.resolve_left ‹_›)]
  simp only [Cache.put, Cache.stored, hkept]
  split
  · rename_i hu
    rw [hu, AList.lookup_insert]
    rfl
  · rename_i hu
    rw [AList.lookup_insert_ne hu]

end IdentityModel.TtlCache
