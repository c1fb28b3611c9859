import IdentityModel.Runs
import IdentityModel.TtlCache

/-!
# Histories of bounded caches

The calls on one cache, in the order its lock admits them. Each is logged with
the keys that left the cache in it and with what it answered. From the log alone
one reads when a key was last used (stored, or served) and what the cache should
hold under it: the value of its last store, unless the key was invalidated or
left since. The cache holds exactly that, within its bound, and gives up the key
used least recently.

Recency ticks are unbounded, which a machine counter is as long as fewer calls
are made than it has values.
-/
namespace IdentityModel.TtlCache

open Runs

variable {κ V : Type*}

/-- The calls. Among records of one age `dropped` names those a map yields
first. -/
inductive Op (κ V : Type*)
  | get (key : κ)
  | put (key : κ) (value : V) (ttl : ℕ)
  | invalidate (key : κ)
  | markRefresh (key : κ) (dropped : List κ)

structure Call (κ V : Type*) where
  now : ℕ
  op : Op κ V

/-- A call that has run, the keys that left in it, and its answer. -/
structure Logged (κ V : Type*) where
  call : Call κ V
  left : List κ
  answer : Option V

/-- A cache and its log, newest first. -/
structure History (κ V : Type*) where
  cache : Cache κ V
  log : List (Logged κ V)

def History.new : History κ V := ⟨Cache.new, []⟩

section Definitions

variable [DecidableEq κ]

/-- Record a refresh and drop the records named, the oldest at their turn. -/
def Cache.markRefreshDropping (bound : ℕ) (c : Cache κ V) (key : κ) (now : ℕ) (dropped : List κ) :
    Option (Cache κ V) :=
  let records : Dict κ ℕ := c.lastRefresh.insert key now
  let kept := if bound = 0 then some records else Dict.dropLeast id bound dropped records
  kept.map fun records => { c with lastRefresh := records }

/-- One call; `expiry now ttl` is the end of a lifetime. -/
def call (expiry : ℕ → ℕ → Option ℕ) (bound : ℕ) (c : Cache κ V) (now : ℕ) :
    Op κ V → Option (Cache κ V × Option V)
  | .get key => some (c.get key now)
  | .put key value ttl => some (c.put bound key value (expiry now ttl), none)
  | .invalidate key => some (c.invalidate key, none)
  | .markRefresh key dropped =>
      (c.markRefreshDropping bound key now dropped).map fun c => (c, none)

/-- The keys of one cache that another has not. -/
def Cache.leaving (c c' : Cache κ V) : List κ := c.entries.keys.filter fun k => k ∉ c'.entries

/-- Run a call by the operations of a cache, and log it. -/
def History.step (run : Cache κ V → ℕ → Op κ V → Option (Cache κ V × Option V))
    (h : History κ V) (call : Call κ V) : Option (History κ V) :=
  (run h.cache call.now call.op).map fun r => ⟨r.1, ⟨call, h.cache.leaving r.1, r.2⟩ :: h.log⟩

/-- The call stored the key, or served it. -/
def Logged.uses (l : Logged κ V) (k : κ) : Bool :=
  match l.call.op with
  | .put key _ _ => key = k
  | .get key => key = k && l.answer.isSome
  | _ => false

/-- The time of the last use of a key: the number of calls up to it. -/
def lastUsed : List (Logged κ V) → κ → ℕ
  | [], _ => 0
  | l :: log, k => if l.uses k then log.length + 1 else lastUsed log k

/-- The last value stored under a key and its expiry, unless the key was
invalidated or left since. -/
def held (expiry : ℕ → ℕ → Option ℕ) : List (Logged κ V) → κ → Option (V × Option ℕ)
  | [], _ => none
  | l :: log, k =>
      match l.call.op with
      | .put key value ttl =>
          if k = key then some (value, expiry l.call.now ttl)
          else if k ∈ l.left then none
          else held expiry log k
      | .invalidate key => if k = key then none else held expiry log k
      | _ => held expiry log k

/-- What a held value comes to at an instant. -/
def servedAt (now : ℕ) (kept : Option (V × Option ℕ)) : Option V :=
  kept.bind fun p => if unexpired p.2 now then some p.1 else none

/-- The bounds are kept, a store is present, a key leaves when it is invalidated
or when a store evicts it, which takes the one used least recently and its
record, and a lookup answers what is held. -/
structure Regular (expiry : ℕ → ℕ → Option ℕ) (bound : ℕ) (h : History κ V) (at_ : Call κ V)
    (h' : History κ V) : Prop where
  entries_le : h'.cache.entries.size ≤ bound
  records_le : h'.cache.lastRefresh.size ≤ bound
  present : ∀ key value ttl, at_.op = .put key value ttl → key ∈ h'.cache.entries
  leaves : ∀ gone ∈ h.cache.entries, gone ∉ h'.cache.entries →
    at_.op = .invalidate gone ∨
      (∃ key value ttl, at_.op = .put key value ttl) ∧ gone ∉ h'.cache.lastRefresh ∧
        (∀ kept ∈ h'.cache.entries, lastUsed h'.log gone < lastUsed h'.log kept) ∧
        ∀ other ∈ h.cache.entries, other ∉ h'.cache.entries → other = gone
  answers : ∀ key, at_.op = .get key →
    (h'.log.head?.bind fun l => l.answer) = servedAt at_.now (held expiry h.log key)

/-- What the log says of the cache. -/
structure Consistent (expiry : ℕ → ℕ → Option ℕ) (bound : ℕ) (h : History κ V) : Prop where
  entries_le : h.cache.entries.size ≤ bound
  records_le : h.cache.lastRefresh.size ≤ bound
  stored_eq : ∀ k, h.cache.stored k = held expiry h.log k
  ticks_below : h.cache.TicksBelow
  recency : ∀ k k' e e', k ≠ k' → h.cache.entries.lookup k = some e →
    h.cache.entries.lookup k' = some e' → e.lastAccess ≤ e'.lastAccess →
      lastUsed h.log k < lastUsed h.log k'

end Definitions

variable [DecidableEq κ] {expiry : ℕ → ℕ → Option ℕ} {bound : ℕ} {c c' : Cache κ V}
  {h h' : History κ V} {at_ : Call κ V} {key k : κ} {value : V} {ttl now : ℕ}
  {log : List (Logged κ V)} {l : Logged κ V}

/-- The bound drops records in one of the orders a map may yield. -/
theorem markRefreshDropping_evict (bound : ℕ) (c : Cache κ V) (key : κ) (now : ℕ) :
    c.markRefreshDropping bound key now
        (Dict.evict id bound (c.lastRefresh.insert key now : Dict κ ℕ)).2 =
      some (c.markRefresh bound key now) := by
  unfold Cache.markRefreshDropping Cache.markRefresh
  by_cases hz : bound = 0
  · simp [hz]
  · simp [hz, Dict.dropLeast_evict]

theorem markRefreshDropping_spec {dropped : List κ}
    (hm : c.markRefreshDropping bound key now dropped = some c') :
    c'.entries = c.entries ∧ c'.accessCounter = c.accessCounter ∧
      (0 < bound → c'.lastRefresh.size ≤ bound) := by
  simp only [Cache.markRefreshDropping, Option.map_eq_some_iff] at hm
  obtain ⟨records, hrecords, rfl⟩ := hm
  refine ⟨rfl, rfl, fun hpos => ?_⟩
  rw [if_neg (by omega)] at hrecords
  exact Dict.size_dropLeast_le hrecords

theorem mem_leaving : k ∈ c.leaving c' ↔ k ∈ c.entries ∧ k ∉ c'.entries := by
  simp [Cache.leaving, AList.mem_keys]

theorem lastUsed_le (log : List (Logged κ V)) (k : κ) : lastUsed log k ≤ log.length := by
  induction log with
  | nil => exact le_rfl
  | cons l log ih =>
      unfold lastUsed
      rw [List.length_cons]
      split <;> omega

theorem mem_entries_iff_stored : k ∈ c.entries ↔ c.stored k ≠ none := by
  rw [← AList.lookup_isSome, Cache.stored]
  cases c.entries.lookup k <;> simp

/-- Entries order their keys as the log does. -/
def Ordered (log : List (Logged κ V)) (entries : Dict κ (Entry V)) : Prop :=
  ∀ k k' e e', k ≠ k' → entries.lookup k = some e → entries.lookup k' = some e' →
    e.lastAccess ≤ e'.lastAccess → lastUsed log k < lastUsed log k'

theorem ordered_of_not_uses {entries : Dict κ (Entry V)} (hno : ∀ k, l.uses k = false)
    (hord : Ordered log entries) : Ordered (l :: log) entries := by
  intro k k' e e' hne hk hk' hle
  simp only [lastUsed, hno]
  exact hord k k' e e' hne hk hk' hle

/-- A use puts its key behind the others, by tick and by log. -/
theorem ordered_use {entries : Dict κ (Entry V)} {counter : ℕ} {e₀ : Entry V}
    (huses : ∀ k, l.uses k = decide (key = k)) (htick : e₀.lastAccess = counter)
    (hbelow : ∀ k e, entries.lookup k = some e → e.lastAccess < counter)
    (hord : Ordered log entries) : Ordered (l :: log) (entries.insert key e₀) := by
  intro k k' e e' hne hk hk' hle
  obtain ⟨rfl, rfl⟩ | ⟨hkey, hk⟩ := Dict.lookup_insert_eq_some.mp hk
  · obtain ⟨rfl, -⟩ | ⟨-, hk'⟩ := Dict.lookup_insert_eq_some.mp hk'
    · exact absurd rfl hne
    · have hlt := hbelow k' e' hk'
      omega
  · have hold : lastUsed (l :: log) k = lastUsed log k := by
      simp [lastUsed, huses, Ne.symm hkey]
    obtain ⟨rfl, -⟩ | ⟨hkey', hk'⟩ := Dict.lookup_insert_eq_some.mp hk'
    · have hnew : lastUsed (l :: log) k' = log.length + 1 := by simp [lastUsed, huses]
      have hlen := lastUsed_le log k
      omega
    · have hold' : lastUsed (l :: log) k' = lastUsed log k' := by
        simp [lastUsed, huses, Ne.symm hkey']
      rw [hold, hold']
      exact hord k k' e e' hne hk hk' hle

theorem Ordered.sub {entries kept : Dict κ (Entry V)} (hord : Ordered log entries)
    (hsub : ∀ k e, kept.lookup k = some e → entries.lookup k = some e) : Ordered log kept :=
  fun k k' e e' hne hk hk' hle => hord k k' e e' hne (hsub k e hk) (hsub k' e' hk') hle

/-- The entries after a store, before it evicts. -/
def Cache.inserted (c : Cache κ V) (key : κ) (value : V) (expiresAt : Option ℕ) :
    Dict κ (Entry V) :=
  c.entries.insert key ⟨value, expiresAt, c.accessCounter⟩

theorem put_entries (hpos : 0 < bound) (c : Cache κ V) (key : κ) (value : V)
    (expiresAt : Option ℕ) :
    (c.put bound key value expiresAt).entries =
      (Dict.evict (fun e => e.lastAccess) bound (c.inserted key value expiresAt)).1 := by
  have hz : bound ≠ 0 := by omega
  simp [Cache.put, Cache.evictLru, hz, Cache.inserted]

theorem put_lastRefresh (hpos : 0 < bound) (c : Cache κ V) (key : κ) (value : V)
    (expiresAt : Option ℕ) :
    (c.put bound key value expiresAt).lastRefresh = c.lastRefresh.eraseAll
      (Dict.evict (fun e => e.lastAccess) bound (c.inserted key value expiresAt)).2 := by
  have hz : bound ≠ 0 := by omega
  simp [Cache.put, Cache.evictLru, hz, Cache.inserted]

theorem mem_inserted {expiresAt : Option ℕ} :
    k ∈ c.inserted key value expiresAt ↔ k = key ∨ k ∈ c.entries := AList.mem_insert _

section Stores

variable {expiresAt : Option ℕ}

theorem mem_put_self (hticks : c.TicksBelow) : key ∈ (c.put bound key value expiresAt).entries := by
  rw [mem_entries_iff_stored, stored_put_self hticks]
  exact Option.some_ne_none _

theorem lookup_put_entries (hne : k ≠ key) :
    (c.put bound key value expiresAt).entries.lookup k =
      if k ∈ c.leaving (c.put bound key value expiresAt) then none else c.entries.lookup k := by
  by_cases hleft : k ∈ c.leaving (c.put bound key value expiresAt)
  · rw [if_pos hleft]
    exact AList.lookup_eq_none.mpr (mem_leaving.mp hleft).2
  · rw [if_neg hleft]
    cases hput : (c.put bound key value expiresAt).entries.lookup k with
    | some e =>
        obtain ⟨rfl, -⟩ | ⟨-, he⟩ := Dict.lookup_insert_eq_some.mp (lookup_put hput)
        · exact absurd rfl hne
        · exact he.symm
    | none =>
        have hout : k ∉ (c.put bound key value expiresAt).entries := AList.lookup_eq_none.mp hput
        have hin : k ∉ c.entries := fun hin => hleft (mem_leaving.mpr ⟨hin, hout⟩)
        exact (AList.lookup_eq_none.mpr hin).symm

/-- A key that leaves in a store is evicted. -/
theorem mem_evicted (hpos : 0 < bound) (hin : k ∈ c.entries)
    (hout : k ∉ (c.put bound key value expiresAt).entries) :
    k ∈ (Dict.evict (fun e => e.lastAccess) bound (c.inserted key value expiresAt)).2 := by
  by_contra hkept
  rw [put_entries hpos] at hout
  have hlookup := Dict.lookup_evict_eq (fun e => e.lastAccess) bound
    (c.inserted key value expiresAt) k
  rw [if_neg hkept, AList.lookup_eq_none.mpr hout] at hlookup
  exact AList.lookup_eq_none.mp hlookup.symm (mem_inserted.mpr (.inr hin))

/-- A store that finds the bound kept evicts one key at most. -/
theorem evicted_unique (hsize : c.entries.size ≤ bound) {other : κ}
    (hk : k ∈ (Dict.evict (fun e => e.lastAccess) bound (c.inserted key value expiresAt)).2)
    (ho : other ∈ (Dict.evict (fun e => e.lastAccess) bound (c.inserted key value expiresAt)).2) :
    other = k := by
  have hinsert : (c.inserted key value expiresAt).size ≤ c.entries.size + 1 :=
    Dict.size_insert_le _ _ _
  have hlength := Dict.length_evict_le (fun e : Entry V => e.lastAccess) bound
    (c.inserted key value expiresAt)
  obtain ⟨a, ha⟩ := List.length_eq_one_iff.mp (le_antisymm (by omega) (List.length_pos_of_mem hk))
  rw [ha, List.mem_singleton] at hk ho
  rw [hk, ho]

end Stores

theorem Consistent.ordered (hc : Consistent expiry bound h) : Ordered h.log h.cache.entries :=
  hc.recency

theorem consistent_new (expiry : ℕ → ℕ → Option ℕ) (bound : ℕ) :
    Consistent expiry bound (History.new : History κ V) where
  entries_le := Nat.zero_le _
  records_le := Nat.zero_le _
  stored_eq _ := rfl
  ticks_below _ _ he := by cases he
  recency _ _ _ _ _ hk := by cases hk

/-- A lookup finds nothing live, or serves an entry and renews its tick. -/
theorem get_cases (c : Cache κ V) (key : κ) (now : ℕ) :
    c.get key now = (c, none) ∨ ∃ e, c.entries.lookup key = some e ∧
      c.get key now =
        ({ c with
            entries := c.entries.insert key { e with lastAccess := c.accessCounter }
            accessCounter := c.accessCounter + 1 }, some e.value) := by
  unfold Cache.get
  cases hkey : c.entries.lookup key with
  | none => exact .inl rfl
  | some e =>
      by_cases hlive : unexpired e.expiresAt now = true
      · exact .inr ⟨e, rfl, by simp [hlive]⟩
      · exact .inl (by simp [hlive])

theorem mem_get (c : Cache κ V) (key : κ) (now : ℕ) (k : κ) :
    k ∈ (c.get key now).1.entries ↔ k ∈ c.entries := by
  rw [mem_entries_iff_stored, mem_entries_iff_stored, stored_get]

theorem size_get (c : Cache κ V) (key : κ) (now : ℕ) :
    (c.get key now).1.entries.size = c.entries.size := by
  obtain hget | ⟨e, he, hget⟩ := get_cases c key now
  · rw [hget]
  · rw [hget]
    exact Dict.size_insert_of_mem (Dict.mem_of_lookup he) _

/-- A lookup renews its key if that is live, and answers what is held. -/
theorem step_get (hc : Consistent expiry bound h) {left : List κ} :
    let h' : History κ V := ⟨(h.cache.get key now).1,
      ⟨⟨now, .get key⟩, left, (h.cache.get key now).2⟩ :: h.log⟩
    Consistent expiry bound h' ∧ Regular expiry bound h ⟨now, .get key⟩ h' := by
  intro h'
  have hsize : h'.cache.entries.size ≤ bound := (size_get _ _ _).trans_le hc.entries_le
  have hrecords : h'.cache.lastRefresh.size ≤ bound := by
    show ((h.cache.get key now).1.lastRefresh).size ≤ bound
    rw [get_lastRefresh]
    exact hc.records_le
  have hord : Ordered h'.log h'.cache.entries := by
    obtain hget | ⟨e, -, hget⟩ := get_cases h.cache key now
    · simp only [h', hget]
      exact ordered_of_not_uses (fun k => by simp [Logged.uses]) hc.ordered
    · simp only [h', hget]
      exact ordered_use (fun k => by simp [Logged.uses]) rfl hc.ticks_below hc.ordered
  constructor
  · exact
      { entries_le := hsize
        records_le := hrecords
        stored_eq := fun k => (stored_get _ _ _ _).trans (hc.stored_eq k)
        ticks_below := ticksBelow_get hc.ticks_below key now
        recency := hord }
  · exact
      { entries_le := hsize
        records_le := hrecords
        present := by simp
        leaves := fun gone hin hout => absurd ((mem_get _ _ _ _).mpr hin) hout
        answers := by
          intro key' hop
          obtain rfl : key = key' := by simpa using hop
          show (h.cache.get key now).2 = _
          rw [get_snd, hc.stored_eq]
          rfl }

/-- A store evicts, if anything, the key used least recently. -/
theorem step_put (hpos : 0 < bound) (hc : Consistent expiry bound h) :
    let c' := h.cache.put bound key value (expiry now ttl)
    let h' : History κ V := ⟨c', ⟨⟨now, .put key value ttl⟩, h.cache.leaving c', none⟩ :: h.log⟩
    Consistent expiry bound h' ∧ Regular expiry bound h ⟨now, .put key value ttl⟩ h' := by
  intro c' h'
  have hinserted : Ordered h'.log (h.cache.inserted key value (expiry now ttl)) :=
    ordered_use (fun k => rfl) rfl hc.ticks_below hc.ordered
  have hentries : c'.entries = _ := put_entries hpos h.cache key value (expiry now ttl)
  have hrecord : c'.lastRefresh = _ := put_lastRefresh hpos h.cache key value (expiry now ttl)
  have hself : key ∈ c'.entries := mem_put_self hc.ticks_below
  have hsize : c'.entries.size ≤ bound := by
    rw [hentries]
    exact Dict.size_evict_le _ _ _
  have hrecords : c'.lastRefresh.size ≤ bound := by
    rw [hrecord]
    exact (Dict.size_eraseAll_le _ _).trans hc.records_le
  constructor
  · exact
      { entries_le := hsize
        records_le := hrecords
        stored_eq := by
          intro k
          by_cases hk : k = key
          · subst hk
            simpa [h', held] using stored_put_self hc.ticks_below bound k value (expiry now ttl)
          · have hold := hc.stored_eq k
            simp only [h', held, hk, if_false, ← hold]
            simp only [Cache.stored, c', lookup_put_entries hk]
            split <;> rfl
        ticks_below := ticksBelow_put hc.ticks_below bound key value _
        recency := hinserted.sub fun k e he => lookup_put he }
  · exact
      { entries_le := hsize
        records_le := hrecords
        present := by
          intro key' value' ttl' hop
          obtain ⟨rfl, -, -⟩ : key = key' ∧ value = value' ∧ ttl = ttl' := by simpa using hop
          exact hself
        leaves := by
          intro gone hin hout
          have hgone := mem_evicted hpos hin hout
          refine .inr ⟨⟨key, value, ttl, rfl⟩, ?_, ?_, ?_⟩
          · show gone ∉ c'.lastRefresh
            rw [hrecord, Dict.mem_eraseAll]
            exact fun hmem => hmem.1 hgone
          · intro kept hkept
            obtain ⟨e, he⟩ := Option.isSome_iff_exists.mp
              (AList.lookup_isSome.mpr (mem_inserted.mpr (.inr hin)))
            obtain ⟨e', he'⟩ := Option.isSome_iff_exists.mp (AList.lookup_isSome.mpr hkept)
            have hne : gone ≠ kept := by
              rintro rfl
              exact hout hkept
            have hkept' : (Dict.evict (fun e => e.lastAccess) bound
                (h.cache.inserted key value (expiry now ttl))).1.lookup kept = some e' := by
              rw [← hentries]
              exact he'
            exact hinserted gone kept e e' hne he (lookup_put he') (Dict.evict_least hgone he hkept')
          · intro other hin' hout'
            exact evicted_unique hc.entries_le hgone (mem_evicted hpos hin' hout')
        answers := by simp }

theorem step_invalidate (hc : Consistent expiry bound h) {left : List κ} :
    let h' : History κ V :=
      ⟨h.cache.invalidate key, ⟨⟨now, .invalidate key⟩, left, none⟩ :: h.log⟩
    Consistent expiry bound h' ∧ Regular expiry bound h ⟨now, .invalidate key⟩ h' := by
  intro h'
  have hsize : h'.cache.entries.size ≤ bound := by
    have herase : Dict.size (h.cache.entries.erase key) ≤ h.cache.entries.size := by
      rw [Dict.size_eq_keys, Dict.size_eq_keys, AList.keys_erase]
      exact List.length_erase_le
    exact herase.trans hc.entries_le
  constructor
  · exact
      { entries_le := hsize
        records_le := hc.records_le
        stored_eq := by
          intro k
          simp only [h', stored_invalidate, held, hc.stored_eq]
        ticks_below := ticksBelow_invalidate hc.ticks_below key
        recency := (ordered_of_not_uses (fun k => rfl) hc.ordered).sub fun k e he =>
          (Dict.lookup_erase_eq_some.mp he).2 }
  · exact
      { entries_le := hsize
        records_le := hc.records_le
        present := by simp
        leaves := by
          intro gone hin hout
          left
          by_contra hne
          refine hout (AList.mem_erase.mpr ⟨?_, hin⟩)
          rintro rfl
          exact hne rfl
        answers := by simp }

theorem step_markRefresh (hpos : 0 < bound) (hc : Consistent expiry bound h) {dropped left : List κ}
    (hm : h.cache.markRefreshDropping bound key now dropped = some c') :
    let h' : History κ V := ⟨c', ⟨⟨now, .markRefresh key dropped⟩, left, none⟩ :: h.log⟩
    Consistent expiry bound h' ∧ Regular expiry bound h ⟨now, .markRefresh key dropped⟩ h' := by
  intro h'
  obtain ⟨hentries, hcounter, hrecords⟩ := markRefreshDropping_spec hm
  have hsize : h'.cache.entries.size ≤ bound := by
    show c'.entries.size ≤ bound
    rw [hentries]
    exact hc.entries_le
  constructor
  · exact
      { entries_le := hsize
        records_le := hrecords hpos
        stored_eq := by
          intro k
          have hold := hc.stored_eq k
          simpa only [h', held, Cache.stored, hentries] using hold
        ticks_below := by
          intro k e he
          simp only [h', hentries, hcounter] at he ⊢
          exact hc.ticks_below k e he
        recency := by
          have hord := ordered_of_not_uses
            (l := ⟨⟨now, .markRefresh key dropped⟩, left, none⟩) (fun k => rfl) hc.ordered
          rw [← hentries] at hord
          exact hord }
  · exact
      { entries_le := hsize
        records_le := hrecords hpos
        present := by simp
        leaves := by
          intro gone hin hout
          simp only [h', hentries] at hout
          exact absurd hin hout
        answers := by simp }

theorem step_regular (hpos : 0 < bound) (hc : Consistent expiry bound h)
    (hstep : h.step (call expiry bound) at_ = some h') :
    Consistent expiry bound h' ∧ Regular expiry bound h at_ h' := by
  obtain ⟨now, op⟩ := at_
  simp only [History.step, Option.map_eq_some_iff] at hstep
  obtain ⟨⟨c', answer⟩, hcall, rfl⟩ := hstep
  cases op with
  | get key =>
      obtain ⟨rfl, rfl⟩ : (h.cache.get key now).1 = c' ∧ (h.cache.get key now).2 = answer := by
        simpa [call, Prod.ext_iff] using hcall
      exact step_get hc
  | put key value ttl =>
      obtain ⟨rfl, rfl⟩ : h.cache.put bound key value (expiry now ttl) = c' ∧ none = answer := by
        simpa [call] using hcall
      exact step_put hpos hc
  | invalidate key =>
      obtain ⟨rfl, rfl⟩ : h.cache.invalidate key = c' ∧ none = answer := by
        simpa [call] using hcall
      exact step_invalidate hc
  | markRefresh key dropped =>
      simp only [call, Option.map_eq_some_iff, Prod.mk.injEq] at hcall
      obtain ⟨c', hm, rfl, rfl⟩ := hcall
      exact step_markRefresh hpos hc hm

theorem consistent_run (hpos : 0 < bound) {calls : List (Call κ V)}
    (hrun : exec (History.step (call expiry bound)) History.new calls = some h) :
    Consistent expiry bound h :=
  exec_preserves (fun _ _ _ hc hstep => (step_regular hpos hc hstep).1)
    (consistent_new expiry bound) hrun

/-- Each call of a run from the empty cache is regular. -/
theorem run_regular (hpos : 0 < bound) {calls : List (Call κ V)}
    (hrun : exec (History.step (call expiry bound)) History.new calls = some h)
    (hstep : h.step (call expiry bound) at_ = some h') : Regular expiry bound h at_ h' :=
  (step_regular hpos (consistent_run hpos hrun) hstep).2

end IdentityModel.TtlCache
