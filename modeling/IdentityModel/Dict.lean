import Mathlib.Data.List.AList
import Mathlib.Data.List.MinMax
import Mathlib.Tactic

/-!
# Bounded dictionaries

Finite maps with unique keys, kept newest key first: `AList.insert` drops the
old position of a key and puts it in front, which is the pop-and-reinsert of an
insertion-ordered dictionary. Two ways to bound one are given: keep the newest
keys (`keepNewest`), and repeatedly drop the entry of least measure
(`evictLoop`), which is how a plain hash map with recency ticks does it.
-/
namespace IdentityModel

/-- A finite map with unique keys, newest first. -/
abbrev Dict (κ : Type*) (ν : Type*) := AList fun _ : κ => ν

namespace Dict

variable {κ ν : Type*}

def size (d : Dict κ ν) : ℕ := d.entries.length

theorem size_eq_keys (d : Dict κ ν) : d.size = d.keys.length := by
  simp [size, AList.keys, List.keys]

/-- Keep the `n` newest entries. -/
def keepNewest (n : ℕ) (d : Dict κ ν) : Dict κ ν :=
  ⟨d.entries.take n, d.nodupKeys.sublist (List.take_sublist n d.entries)⟩

/-- The keys `keepNewest n` drops, oldest first. -/
def beyond (n : ℕ) (d : Dict κ ν) : List κ := (d.keys.drop n).reverse

theorem keys_keepNewest (n : ℕ) (d : Dict κ ν) : (d.keepNewest n).keys = d.keys.take n := by
  simp [keepNewest, AList.keys, List.keys, List.map_take]

theorem size_keepNewest_le (n : ℕ) (d : Dict κ ν) : (d.keepNewest n).size ≤ n := by
  simp [size, keepNewest]

theorem mem_beyond {n : ℕ} {d : Dict κ ν} {k : κ} : k ∈ d.beyond n ↔ k ∈ d.keys.drop n := by
  simp [beyond]

theorem mem_keepNewest_or {n : ℕ} {d : Dict κ ν} {k : κ} (h : k ∈ d) :
    k ∈ d.keepNewest n ∨ k ∈ d.beyond n := by
  have hk : k ∈ d.keys.take n ++ d.keys.drop n := by
    rw [List.take_append_drop]
    exact h
  rw [AList.mem_keys, keys_keepNewest, mem_beyond]
  exact List.mem_append.mp hk

theorem mem_of_mem_keepNewest {n : ℕ} {d : Dict κ ν} {k : κ} (h : k ∈ d.keepNewest n) : k ∈ d := by
  rw [AList.mem_keys, keys_keepNewest] at h
  exact List.mem_of_mem_take h

theorem not_mem_keepNewest_of_beyond {n : ℕ} {d : Dict κ ν} {k : κ} (h : k ∈ d.beyond n) :
    k ∉ d.keepNewest n := by
  rw [mem_beyond] at h
  rw [AList.mem_keys, keys_keepNewest]
  intro ht
  have hn : (d.keys.take n ++ d.keys.drop n).Nodup := by
    rw [List.take_append_drop]
    exact d.keys_nodup
  exact (List.disjoint_of_nodup_append hn) ht h

/-- Pop the oldest entry. -/
def popOldest (d : Dict κ ν) : Dict κ ν :=
  ⟨d.entries.dropLast, d.nodupKeys.sublist (List.dropLast_sublist d.entries)⟩

/-- Pop the oldest entry while more than `n` are left; the popped keys come with
the rest, in order. Each round takes one unit of fuel. -/
def popLoop (n : ℕ) : ℕ → Dict κ ν → Dict κ ν × List κ
  | 0, d => (d, [])
  | fuel + 1, d =>
      if d.size ≤ n then (d, [])
      else
        let rest := popLoop n fuel d.popOldest
        (rest.1, d.keys.getLast?.toList ++ rest.2)

theorem keepNewest_of_size_le {n : ℕ} {d : Dict κ ν} (h : d.size ≤ n) : d.keepNewest n = d := by
  apply AList.ext
  exact List.take_of_length_le h

theorem beyond_of_size_le {n : ℕ} {d : Dict κ ν} (h : d.size ≤ n) : d.beyond n = [] := by
  rw [size_eq_keys] at h
  simp [beyond, List.drop_eq_nil_of_le h]

theorem keepNewest_popOldest {n : ℕ} {d : Dict κ ν} (h : n < d.size) :
    d.popOldest.keepNewest n = d.keepNewest n := by
  apply AList.ext
  show d.entries.dropLast.take n = d.entries.take n
  rw [List.dropLast_eq_take, List.take_take]
  congr 1
  have hlen : n < d.entries.length := h
  omega

theorem beyond_popOldest {n : ℕ} {d : Dict κ ν} (h : n < d.size) :
    d.beyond n = d.keys.getLast?.toList ++ d.popOldest.beyond n := by
  rw [size_eq_keys] at h
  have hkeys : d.popOldest.keys = d.keys.dropLast := by
    simp [popOldest, AList.keys, List.keys, List.map_dropLast]
  have hne : d.keys ≠ [] := by
    intro hnil
    simp [hnil] at h
  unfold beyond
  rw [hkeys, List.getLast?_eq_some_getLast hne]
  have hsplit : d.keys.drop n = d.keys.dropLast.drop n ++ [d.keys.getLast hne] := by
    conv_lhs => rw [← List.dropLast_append_getLast hne]
    rw [List.drop_append_of_le_length]
    rw [List.length_dropLast]
    omega
  rw [hsplit]
  simp

/-- The loop keeps the newest entries and pops the others, oldest first. -/
theorem popLoop_eq {n fuel : ℕ} {d : Dict κ ν} (h : d.size ≤ n + fuel) :
    popLoop n fuel d = (d.keepNewest n, d.beyond n) := by
  induction fuel generalizing d with
  | zero =>
      have h : d.size ≤ n := h
      rw [popLoop, keepNewest_of_size_le h, beyond_of_size_le h]
  | succ fuel ih =>
      unfold popLoop
      by_cases hsize : d.size ≤ n
      · rw [if_pos hsize, keepNewest_of_size_le hsize, beyond_of_size_le hsize]
      · have hpop : d.popOldest.size = d.size - 1 := List.length_dropLast
        have hlt : n < d.size := by omega
        rw [if_neg hsize, ih (by omega), keepNewest_popOldest hlt, beyond_popOldest hlt]

section Lookup

variable [DecidableEq κ]

/-- Move `k` to the front when it is present (`move_to_end`). -/
def touch (k : κ) (d : Dict κ ν) : Dict κ ν :=
  match d.lookup k with
  | some v => d.insert k v
  | none => d

theorem lookup_insert_eq_some {a k : κ} {b v : ν} {d : Dict κ ν} :
    (d.insert a b).lookup k = some v ↔ (k = a ∧ b = v) ∨ (k ≠ a ∧ d.lookup k = some v) := by
  by_cases h : k = a
  · subst k
    simp
  · simp [AList.lookup_insert_ne h, h]

theorem lookup_erase_eq_some {a k : κ} {v : ν} {d : Dict κ ν} :
    (d.erase a).lookup k = some v ↔ k ≠ a ∧ d.lookup k = some v := by
  by_cases h : k = a
  · subst k
    simp
  · simp [AList.lookup_erase_ne h, h]

theorem mem_of_lookup {k : κ} {v : ν} {d : Dict κ ν} (h : d.lookup k = some v) : k ∈ d :=
  AList.lookup_isSome.mp (by simp [h])

/-- A key above every one in use is free. -/
theorem lookup_eq_none_of_lt [Preorder κ] {d : Dict κ ν} {n : κ}
    (h : ∀ k v, d.lookup k = some v → k < n) : d.lookup n = none := by
  cases hd : d.lookup n with
  | none => rfl
  | some v => exact absurd (h n v hd) (lt_irrefl n)

@[simp] theorem lookup_touch (a k : κ) (d : Dict κ ν) : (d.touch a).lookup k = d.lookup k := by
  unfold touch
  cases h : d.lookup a with
  | none => rfl
  | some v =>
      by_cases hk : k = a
      · subst k
        simp [h]
      · simp [AList.lookup_insert_ne hk]

@[simp] theorem mem_touch (a k : κ) (d : Dict κ ν) : k ∈ d.touch a ↔ k ∈ d := by
  rw [← AList.lookup_isSome, ← AList.lookup_isSome, lookup_touch]

theorem keys_touch (a : κ) (d : Dict κ ν) :
    (d.touch a).keys = if a ∈ d then a :: d.keys.erase a else d.keys := by
  unfold touch
  cases h : d.lookup a with
  | none => simp [AList.lookup_eq_none.mp h]
  | some v => simp [mem_of_lookup h]

theorem lookup_keepNewest {n : ℕ} {d : Dict κ ν} {k : κ} {v : ν}
    (h : (d.keepNewest n).lookup k = some v) : d.lookup k = some v := by
  have hm : Sigma.mk k v ∈ (d.keepNewest n).entries := AList.mem_lookup_iff.mp h
  exact AList.mem_lookup_iff.mpr (List.mem_of_mem_take hm)

theorem lookup_keepNewest_eq (n : ℕ) (d : Dict κ ν) (k : κ) :
    (d.keepNewest n).lookup k = if k ∈ d.beyond n then none else d.lookup k := by
  by_cases hk : k ∈ d.beyond n
  · rw [if_pos hk]
    exact AList.lookup_eq_none.mpr (not_mem_keepNewest_of_beyond hk)
  · rw [if_neg hk]
    cases hl : (d.keepNewest n).lookup k with
    | some v => exact (lookup_keepNewest hl).symm
    | none =>
        symm
        rw [AList.lookup_eq_none]
        intro hmem
        obtain hkept | hgone := mem_keepNewest_or hmem
        · exact absurd hkept (AList.lookup_eq_none.mp hl)
        · exact hk hgone

/-- Erase every key of a list. -/
def eraseAll (ks : List κ) (d : Dict κ ν) : Dict κ ν := ks.foldl (fun m k => m.erase k) d

theorem mem_eraseAll {ks : List κ} {d : Dict κ ν} {k : κ} :
    k ∈ d.eraseAll ks ↔ k ∉ ks ∧ k ∈ d := by
  induction ks generalizing d with
  | nil => simp [eraseAll]
  | cons a ks ih =>
      have h : d.eraseAll (a :: ks) = eraseAll ks (d.erase a) := rfl
      rw [h, ih, AList.mem_erase]
      simp only [List.mem_cons, not_or]
      tauto

theorem lookup_eraseAll_of_not_mem {ks : List κ} {d : Dict κ ν} {k : κ} (h : k ∉ ks) :
    (d.eraseAll ks).lookup k = d.lookup k := by
  induction ks generalizing d with
  | nil => rfl
  | cons a ks ih =>
      have he : d.eraseAll (a :: ks) = eraseAll ks (d.erase a) := rfl
      rw [List.mem_cons, not_or] at h
      rw [he, ih h.2, AList.lookup_erase_ne h.1]

theorem size_eraseAll_le (ks : List κ) (d : Dict κ ν) : (d.eraseAll ks).size ≤ d.size := by
  induction ks generalizing d with
  | nil => exact le_rfl
  | cons a ks ih =>
      have he : d.eraseAll (a :: ks) = eraseAll ks (d.erase a) := rfl
      have hrest := ih (d.erase a)
      have ha : size (d.erase a) ≤ d.size := by
        rw [size_eq_keys, size_eq_keys, AList.keys_erase]
        exact List.length_erase_le
      rw [he]
      omega

/-- Insert every entry of a list, in order: the last one of a key stays. -/
def insertAll (es : List (κ × ν)) (d : Dict κ ν) : Dict κ ν :=
  es.foldl (fun m e => m.insert e.1 e.2) d

theorem lookup_insertAll (es : List (κ × ν)) (d : Dict κ ν) (k : κ) :
    (d.insertAll es).lookup k =
      ((es.findRev? fun e => e.1 = k).map Prod.snd).or (d.lookup k) := by
  induction es generalizing d with
  | nil => rfl
  | cons e es ih =>
      have h : d.insertAll (e :: es) = insertAll es (d.insert e.1 e.2) := rfl
      rw [h, ih]
      simp only [List.findRev?]
      cases es.findRev? fun e => e.1 = k with
      | some found => rfl
      | none =>
          by_cases hk : e.1 = k
          · subst hk
            simp
          · simp [hk, AList.lookup_insert_ne (Ne.symm hk)]

/-- Keep the entries whose key satisfies `p`. -/
def restrict (p : κ → Bool) (d : Dict κ ν) : Dict κ ν :=
  ⟨d.entries.filter fun e => p e.1, d.nodupKeys.sublist List.filter_sublist⟩

theorem lookup_restrict (p : κ → Bool) (d : Dict κ ν) (k : κ) :
    (d.restrict p).lookup k = if p k then d.lookup k else none := by
  ext v
  have h : v ∈ (d.restrict p).lookup k ↔ Sigma.mk k v ∈ (d.restrict p).entries :=
    AList.mem_lookup_iff
  have h' : v ∈ d.lookup k ↔ Sigma.mk k v ∈ d.entries := AList.mem_lookup_iff
  rw [← Option.mem_def, h]
  by_cases hk : p k = true
  · simp [restrict, hk, ← h']
  · simp [restrict, hk]

end Lookup

section Evict

variable [DecidableEq κ] {T : Type*} [LinearOrder T]

/-- Drop the entry of least `tick` until at most `bound` remain; the dropped
keys come with the rest, in order. -/
def evictLoop (tick : ν → T) (bound : ℕ) : ℕ → Dict κ ν → Dict κ ν × List κ
  | 0, d => (d, [])
  | fuel + 1, d =>
      if d.size ≤ bound then (d, [])
      else
        match d.entries.argmin fun e => tick e.2 with
        | none => (d, [])
        | some e =>
            let rest := evictLoop tick bound fuel (d.erase e.1)
            (rest.1, e.1 :: rest.2)

/-- A size-many number of rounds is always enough. -/
def evict (tick : ν → T) (bound : ℕ) (d : Dict κ ν) : Dict κ ν × List κ :=
  evictLoop tick bound d.size d

theorem evictLoop_of_size_le (tick : ν → T) {bound fuel : ℕ} {d : Dict κ ν}
    (h : d.size ≤ bound) : evictLoop tick bound fuel d = (d, []) := by
  cases fuel <;> simp [evictLoop, h]

theorem evict_of_size_le (tick : ν → T) {bound : ℕ} {d : Dict κ ν} (h : d.size ≤ bound) :
    evict tick bound d = (d, []) := evictLoop_of_size_le tick h

/-- Eviction only removes entries. -/
theorem lookup_evictLoop {tick : ν → T} {bound fuel : ℕ} {d : Dict κ ν} {k : κ} {v : ν}
    (h : (evictLoop tick bound fuel d).1.lookup k = some v) : d.lookup k = some v := by
  induction fuel generalizing d with
  | zero => exact h
  | succ fuel ih =>
      simp only [evictLoop] at h
      split at h
      · exact h
      · split at h
        · exact h
        · exact (lookup_erase_eq_some.mp (ih h)).2

theorem lookup_evict {tick : ν → T} {bound : ℕ} {d : Dict κ ν} {k : κ} {v : ν}
    (h : (evict tick bound d).1.lookup k = some v) : d.lookup k = some v := lookup_evictLoop h

end Evict

theorem size_le_one_of_keys [DecidableEq κ] {d : Dict κ ν} {u : κ} (h : ∀ k ∈ d, k = u) :
    d.size ≤ 1 := by
  rw [size_eq_keys]
  have hsub : d.keys ⊆ [u] := by
    intro k hk
    simp [h k hk]
  simpa using (d.keys_nodup.subperm hsub).length_le

section EvictMax

variable [DecidableEq κ] {T : Type*} [LinearOrder T] {tick : ν → T} {k : κ} {v : ν}

/-- The entry of least measure is not the one of greatest measure, unless it is
alone. -/
theorem argmin_ne_of_max {d : Dict κ ν} {e : Sigma fun _ : κ => ν} (hsize : 1 < d.size)
    (hk : d.lookup k = some v)
    (hmax : ∀ k' v', k' ≠ k → d.lookup k' = some v' → tick v' < tick v)
    (he : d.entries.argmin (fun e => tick e.2) = some e) : e.1 ≠ k := by
  intro hek
  have hother : ∃ k' ∈ d, k' ≠ k := by
    by_contra hall
    push Not at hall
    have h1 := size_le_one_of_keys hall
    omega
  obtain ⟨k', hk', hne⟩ := hother
  obtain ⟨v', hv'⟩ := Option.isSome_iff_exists.mp (AList.lookup_isSome.mpr hk')
  have hmem : Sigma.mk k' v' ∈ d.entries := AList.mem_lookup_iff.mp hv'
  have hle : tick e.2 ≤ tick v' := List.le_of_mem_argmin (f := fun e => tick e.2) hmem he
  have hev : d.lookup e.1 = some e.2 := AList.mem_lookup_iff.mpr (List.argmin_mem he)
  rw [hek, hk] at hev
  have hlt := hmax k' v' hne hv'
  rw [Option.some.inj hev] at hlt
  exact absurd hle (not_le.mpr hlt)

theorem lookup_evictLoop_of_max {bound : ℕ} (hbound : 1 ≤ bound) (fuel : ℕ) :
    ∀ {d : Dict κ ν}, d.lookup k = some v →
      (∀ k' v', k' ≠ k → d.lookup k' = some v' → tick v' < tick v) →
      (evictLoop tick bound fuel d).1.lookup k = some v := by
  induction fuel with
  | zero => exact fun hk _ => hk
  | succ fuel ih =>
      intro d hk hmax
      simp only [evictLoop]
      split
      · exact hk
      · rename_i hsize
        split
        · exact hk
        · rename_i e he
          have hne := argmin_ne_of_max (by omega) hk hmax he
          refine ih (by rw [AList.lookup_erase_ne (Ne.symm hne)]; exact hk) ?_
          intro k' v' hk' hv'
          exact hmax k' v' hk' (lookup_erase_eq_some.mp hv').2

/-- The entry of greatest measure survives an eviction that keeps anything. -/
theorem lookup_evict_of_max {bound : ℕ} {d : Dict κ ν} (hbound : 1 ≤ bound)
    (hk : d.lookup k = some v)
    (hmax : ∀ k' v', k' ≠ k → d.lookup k' = some v' → tick v' < tick v) :
    (evict tick bound d).1.lookup k = some v := lookup_evictLoop_of_max hbound d.size hk hmax

end EvictMax

section EvictOrder

variable [DecidableEq κ] {T : Type*} [LinearOrder T] {tick : ν → T} {bound : ℕ}

theorem size_erase_of_mem {d : Dict κ ν} {k : κ} (h : k ∈ d) :
    size (d.erase k) + 1 = d.size := by
  have hmem : k ∈ d.keys := h
  have hpos : 0 < d.keys.length := List.length_pos_of_mem hmem
  rw [size_eq_keys, size_eq_keys, AList.keys_erase, List.length_erase_of_mem hmem]
  omega

theorem size_insert_le (d : Dict κ ν) (k : κ) (v : ν) : size (d.insert k v) ≤ d.size + 1 := by
  rw [size_eq_keys, size_eq_keys, AList.keys_insert, List.length_cons]
  have h : (d.keys.erase k).length ≤ d.keys.length := List.length_erase_le
  omega

theorem mem_of_argmin {d : Dict κ ν} {e : Sigma fun _ : κ => ν}
    (h : (d.entries.argmin fun e => tick e.2) = some e) : d.lookup e.1 = some e.2 :=
  AList.mem_lookup_iff.mpr (List.argmin_mem h)

omit [DecidableEq κ] in
theorem argmin_ne_none {d : Dict κ ν} (h : 0 < d.size) :
    (d.entries.argmin fun e => tick e.2) ≠ none := by
  intro hnone
  rw [List.argmin_eq_none] at hnone
  have hzero : d.size = 0 := by simp [size, hnone]
  omega

theorem size_insert_of_mem {d : Dict κ ν} {k : κ} (h : k ∈ d) (v : ν) :
    size (d.insert k v) = d.size := by
  have hmem : k ∈ d.keys := h
  have hpos : 0 < d.keys.length := List.length_pos_of_mem hmem
  rw [size_eq_keys, size_eq_keys, AList.keys_insert, List.length_cons,
    List.length_erase_of_mem hmem]
  omega

/-- No more is dropped than is beyond the bound. -/
theorem length_evictLoop_le (tick : ν → T) (bound fuel : ℕ) (d : Dict κ ν) :
    (evictLoop tick bound fuel d).2.length ≤ d.size - bound := by
  induction fuel generalizing d with
  | zero => exact Nat.zero_le _
  | succ fuel ih =>
      simp only [evictLoop]
      split
      · exact Nat.zero_le _
      · split
        · exact Nat.zero_le _
        · rename_i e he
          have herase := size_erase_of_mem (mem_of_lookup (mem_of_argmin he))
          have hrest := ih (d.erase e.1)
          simp only [List.length_cons]
          omega

theorem size_evictLoop_le {fuel : ℕ} {d : Dict κ ν} (h : d.size ≤ bound + fuel) :
    (evictLoop tick bound fuel d).1.size ≤ bound := by
  induction fuel generalizing d with
  | zero => exact h
  | succ fuel ih =>
      simp only [evictLoop]
      split
      · assumption
      · rename_i hsize
        split
        · rename_i hnone
          exact absurd hnone (argmin_ne_none (by omega))
        · rename_i e he
          have herase := size_erase_of_mem (mem_of_lookup (mem_of_argmin he))
          exact ih (by omega)

theorem length_evict_le (tick : ν → T) (bound : ℕ) (d : Dict κ ν) :
    (evict tick bound d).2.length ≤ d.size - bound := length_evictLoop_le tick bound d.size d

theorem size_evict_le (tick : ν → T) (bound : ℕ) (d : Dict κ ν) :
    (evict tick bound d).1.size ≤ bound :=
  size_evictLoop_le (by omega)

theorem lookup_evictLoop_eq {fuel : ℕ} {d : Dict κ ν} (k : κ) :
    (evictLoop tick bound fuel d).1.lookup k =
      if k ∈ (evictLoop tick bound fuel d).2 then none else d.lookup k := by
  induction fuel generalizing d with
  | zero => simp [evictLoop]
  | succ fuel ih =>
      simp only [evictLoop]
      split
      · simp
      · split
        · simp
        · rename_i e he
          rw [ih]
          by_cases hk : k = e.1
          · subst hk
            simp
          · simp [hk, AList.lookup_erase_ne hk]

theorem lookup_evict_eq (tick : ν → T) (bound : ℕ) (d : Dict κ ν) (k : κ) :
    (evict tick bound d).1.lookup k = if k ∈ (evict tick bound d).2 then none else d.lookup k :=
  lookup_evictLoop_eq k

theorem evictLoop_least {fuel : ℕ} {d : Dict κ ν} {gone kept : κ} {v w : ν}
    (hgone : gone ∈ (evictLoop tick bound fuel d).2) (hv : d.lookup gone = some v)
    (hkept : (evictLoop tick bound fuel d).1.lookup kept = some w) : tick v ≤ tick w := by
  induction fuel generalizing d with
  | zero => simp [evictLoop] at hgone
  | succ fuel ih =>
      simp only [evictLoop] at hgone hkept
      split at hgone
      · cases hgone
      · rename_i hsize
        rw [if_neg hsize] at hkept
        split at hgone
        · cases hgone
        · rename_i e he
          simp only [he] at hkept
          have hin : d.lookup kept = some w :=
            (lookup_erase_eq_some.mp (lookup_evictLoop hkept)).2
          by_cases hg : gone = e.1
          · subst hg
            rw [mem_of_argmin he] at hv
            obtain rfl := Option.some.inj hv
            exact List.le_of_mem_argmin (f := fun e => tick e.2) (AList.mem_lookup_iff.mp hin) he
          · have hmem := (List.mem_cons.mp hgone).resolve_left hg
            exact ih hmem (by rw [AList.lookup_erase_ne hg]; exact hv) hkept

/-- What is dropped measures no more than what is kept. -/
theorem evict_least {d : Dict κ ν} {gone kept : κ} {v w : ν}
    (hgone : gone ∈ (evict tick bound d).2) (hv : d.lookup gone = some v)
    (hkept : (evict tick bound d).1.lookup kept = some w) : tick v ≤ tick w :=
  evictLoop_least hgone hv hkept

/-- Drop the listed keys, each of which has to be one of least measure at its
turn, until at most `bound` remain. -/
def dropLeast (tick : ν → T) (bound : ℕ) : List κ → Dict κ ν → Option (Dict κ ν)
  | [], d => if d.size ≤ bound then some d else none
  | k :: ks, d =>
      match d.lookup k with
      | none => none
      | some v =>
          if bound < d.size ∧ ∀ e ∈ d.entries, tick v ≤ tick e.2 then
            dropLeast tick bound ks (d.erase k)
          else none

theorem size_dropLeast_le {ks : List κ} {d d' : Dict κ ν}
    (h : dropLeast tick bound ks d = some d') : d'.size ≤ bound := by
  induction ks generalizing d with
  | nil =>
      simp only [dropLeast, Option.ite_none_right_eq_some, Option.some.injEq] at h
      obtain ⟨hsize, rfl⟩ := h
      exact hsize
  | cons k ks ih =>
      simp only [dropLeast] at h
      split at h
      · cases h
      · split at h
        · exact ih h
        · cases h

theorem dropLeast_evictLoop {fuel : ℕ} {d : Dict κ ν} (hfuel : d.size ≤ bound + fuel) :
    dropLeast tick bound (evictLoop tick bound fuel d).2 d =
      some (evictLoop tick bound fuel d).1 := by
  induction fuel generalizing d with
  | zero => simp [evictLoop, dropLeast, show d.size ≤ bound from hfuel]
  | succ fuel ih =>
      simp only [evictLoop]
      split
      · rename_i hsize
        simp [dropLeast, hsize]
      · rename_i hsize
        split
        · rename_i hnone
          exact absurd hnone (argmin_ne_none (by omega))
        · rename_i e he
          have hmem := mem_of_argmin he
          have herase := size_erase_of_mem (mem_of_lookup hmem)
          have hleast : ∀ e' ∈ d.entries, tick e.2 ≤ tick e'.2 := fun e' he' =>
            List.le_of_mem_argmin (f := fun e => tick e.2) he' he
          simp only [dropLeast, hmem]
          rw [if_pos ⟨by omega, hleast⟩]
          exact ih (by omega)

/-- The loop drops keys in one of the orders allowed. -/
theorem dropLeast_evict (tick : ν → T) (bound : ℕ) (d : Dict κ ν) :
    dropLeast tick bound (evict tick bound d).2 d = some (evict tick bound d).1 :=
  dropLeast_evictLoop (by omega)

end EvictOrder

end Dict

end IdentityModel
