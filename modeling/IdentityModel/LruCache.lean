import IdentityModel.Dict

/-!
# Least recently used caches

A bounded dictionary under touches, writes, drops and clears. A write inserts
its entry as the newest and evicts the oldest ones beyond the bound; a touch of
a present key makes it the newest. Over the history of operations, the position
of a key is the time of its last use, and a write evicts the keys whose last use
is oldest.
-/
namespace IdentityModel.LruCache

variable {κ ν : Type*} [DecidableEq κ]

inductive Op (κ ν : Type*)
  | touch (k : κ)
  | write (k : κ) (v : ν)
  | drop (k : κ)
  | clear

def apply (bound : ℕ) (d : Dict κ ν) : Op κ ν → Dict κ ν
  | .touch k => d.touch k
  | .write k v => Dict.keepNewest bound (d.insert k v)
  | .drop k => d.erase k
  | .clear => ∅

/-- The cache after a history, newest operation first, from empty. -/
def run (bound : ℕ) : List (Op κ ν) → Dict κ ν
  | [] => ∅
  | op :: h => apply bound (run bound h) op

/-- The operation writes or touches the key. -/
def Op.uses : Op κ ν → κ → Bool
  | .touch k, k' => k = k'
  | .write k _, k' => k = k'
  | .drop _, _ => false
  | .clear, _ => false

/-- The time of the last use of a key: the number of operations up to it. -/
def lastUse : List (Op κ ν) → κ → ℕ
  | [], _ => 0
  | op :: h, k => if op.uses k then h.length + 1 else lastUse h k

/-- Newer keys were used later. -/
def Recency (h : List (Op κ ν)) (d : Dict κ ν) : Prop :=
  d.keys.Pairwise fun newer older => lastUse h older < lastUse h newer

theorem lastUse_le (h : List (Op κ ν)) (k : κ) : lastUse h k ≤ h.length := by
  induction h with
  | nil => exact le_rfl
  | cons op h ih =>
      unfold lastUse
      rw [List.length_cons]
      split <;> omega

theorem lastUse_cons_of_not_uses {op : Op κ ν} {k : κ} (hno : op.uses k = false)
    (h : List (Op κ ν)) : lastUse (op :: h) k = lastUse h k := by
  simp [lastUse, hno]

theorem lastUse_cons_of_uses {op : Op κ ν} {k : κ} (huse : op.uses k = true)
    (h : List (Op κ ν)) : lastUse (op :: h) k = h.length + 1 := by
  simp [lastUse, huse]

/-- Keys the operation does not use keep their order. -/
theorem pairwise_of_not_uses {op : Op κ ν} {h : List (Op κ ν)} {keys : List κ}
    (hno : ∀ k ∈ keys, op.uses k = false)
    (hord : keys.Pairwise fun newer older => lastUse h older < lastUse h newer) :
    keys.Pairwise fun newer older => lastUse (op :: h) older < lastUse (op :: h) newer := by
  refine hord.imp_of_mem fun {a b} ha hb hlt => ?_
  rw [lastUse_cons_of_not_uses (hno a ha), lastUse_cons_of_not_uses (hno b hb)]
  exact hlt

/-- A key used now goes in front of the others. -/
theorem pairwise_cons_used {op : Op κ ν} {h : List (Op κ ν)} {k : κ} {keys : List κ}
    (huse : op.uses k = true) (hno : ∀ k' ∈ keys, op.uses k' = false)
    (hord : keys.Pairwise fun newer older => lastUse h older < lastUse h newer) :
    (k :: keys).Pairwise fun newer older => lastUse (op :: h) older < lastUse (op :: h) newer := by
  refine List.Pairwise.cons ?_ (pairwise_of_not_uses hno hord)
  intro k' hk'
  rw [lastUse_cons_of_uses huse, lastUse_cons_of_not_uses (hno k' hk')]
  have hle := lastUse_le h k'
  omega

theorem ne_of_mem_erase {d : Dict κ ν} {k k' : κ} (h : k' ∈ d.keys.erase k) : k ≠ k' :=
  fun heq => ((List.Nodup.mem_erase_iff d.keys_nodup).mp h).1 heq.symm

/-- Inserting an entry by an operation that uses its key, and no other. -/
theorem recency_insert {op : Op κ ν} {h : List (Op κ ν)} {d : Dict κ ν} {k : κ} (v : ν)
    (huse : ∀ k', op.uses k' = decide (k = k')) (hord : Recency h d) :
    Recency (op :: h) (d.insert k v) := by
  unfold Recency
  rw [AList.keys_insert]
  apply pairwise_cons_used (by simp [huse])
  · intro k' hk'
    simpa [huse] using ne_of_mem_erase hk'
  · exact List.Pairwise.sublist List.erase_sublist hord

/-- The keys of a cache are ordered by their last use. -/
theorem recency_run (bound : ℕ) (h : List (Op κ ν)) : Recency h (run bound h) := by
  induction h with
  | nil => exact List.Pairwise.nil
  | cons op h ih =>
      cases op with
      | touch k =>
          show Recency _ ((run bound h).touch k)
          unfold Dict.touch
          cases hl : (run bound h).lookup k with
          | some v => exact recency_insert v (fun _ => rfl) ih
          | none =>
              refine pairwise_of_not_uses (fun k' hk' => ?_) ih
              have hne : k ≠ k' := by
                rintro rfl
                exact AList.lookup_eq_none.mp hl hk'
              simpa [Op.uses] using hne
      | write k v =>
          have hins : Recency (Op.write k v :: h) ((run bound h).insert k v) :=
            recency_insert v (fun _ => rfl) ih
          show (Dict.keepNewest bound ((run bound h).insert k v)).keys.Pairwise _
          rw [Dict.keys_keepNewest]
          exact List.Pairwise.sublist (List.take_sublist _ _) hins
      | drop k =>
          show ((run bound h).erase k).keys.Pairwise _
          rw [AList.keys_erase]
          exact pairwise_of_not_uses (fun _ _ => rfl)
            (List.Pairwise.sublist List.erase_sublist ih)
      | clear => exact List.Pairwise.nil

theorem size_touch (k : κ) (d : Dict κ ν) : (d.touch k).size = d.size := by
  rw [Dict.size_eq_keys, Dict.size_eq_keys, Dict.keys_touch]
  by_cases hk : k ∈ d
  · have hmem : k ∈ d.keys := hk
    have hpos : 0 < d.keys.length := List.length_pos_of_mem hmem
    rw [if_pos hk, List.length_cons, List.length_erase_of_mem hmem]
    omega
  · rw [if_neg hk]

theorem size_run_le (bound : ℕ) (h : List (Op κ ν)) : (run bound h).size ≤ bound := by
  induction h with
  | nil => exact Nat.zero_le _
  | cons op h ih =>
      cases op with
      | touch k =>
          show ((run bound h).touch k).size ≤ bound
          rw [size_touch]
          exact ih
      | write k v => exact Dict.size_keepNewest_le _ _
      | drop k =>
          show Dict.size ((run bound h).erase k) ≤ bound
          rw [Dict.size_eq_keys, AList.keys_erase]
          rw [Dict.size_eq_keys] at ih
          exact (List.length_erase_le).trans ih
      | clear => exact Nat.zero_le _

/-- What holds of every value written holds of every value held. -/
theorem forall_lookup_run {P : ν → Prop} {bound : ℕ} {h : List (Op κ ν)}
    (hP : ∀ k v, .write k v ∈ h → P v) {k : κ} {v : ν} (hk : (run bound h).lookup k = some v) :
    P v := by
  induction h generalizing k v with
  | nil => cases hk
  | cons op h ih =>
      have ih' : ∀ k v, (run bound h).lookup k = some v → P v := fun k v hkv =>
        ih (fun k' v' hmem => hP k' v' (List.mem_cons_of_mem _ hmem)) hkv
      cases op with
      | touch a =>
          have hk : ((run bound h).touch a).lookup k = some v := hk
          rw [Dict.lookup_touch] at hk
          exact ih' k v hk
      | write a b =>
          have hk := Dict.lookup_keepNewest hk
          obtain ⟨-, rfl⟩ | ⟨-, hk⟩ := Dict.lookup_insert_eq_some.mp hk
          · exact hP a _ (List.mem_cons_self ..)
          · exact ih' k v hk
      | drop a => exact ih' k v (Dict.lookup_erase_eq_some.mp hk).2
      | clear => cases hk

/-- A written key is present. -/
theorem mem_of_write {bound : ℕ} (hb : 0 < bound) (k : κ) (v : ν) (d : Dict κ ν) :
    k ∈ apply bound d (.write k v) := by
  show k ∈ Dict.keepNewest bound (d.insert k v)
  rw [AList.mem_keys, Dict.keys_keepNewest, AList.keys_insert]
  obtain ⟨n, rfl⟩ := Nat.exists_eq_succ_of_ne_zero (by omega : bound ≠ 0)
  simp

/-- A write evicts the keys whose last use is oldest: each of them is older than
each key that stays. -/
theorem evicted_older {bound : ℕ} {h : List (Op κ ν)} {k : κ} {v : ν} {gone kept : κ}
    (hgone : gone ∈ Dict.beyond bound ((run bound h).insert k v))
    (hkept : kept ∈ run bound (.write k v :: h)) :
    lastUse (.write k v :: h) gone < lastUse (.write k v :: h) kept := by
  have hord : Recency (.write k v :: h) ((run bound h).insert k v) :=
    recency_insert v (fun _ => rfl) (recency_run bound h)
  unfold Recency at hord
  rw [← List.take_append_drop bound (AList.keys _), List.pairwise_append] at hord
  have hkept : kept ∈ (Dict.keepNewest bound ((run bound h).insert k v)).keys := hkept
  rw [Dict.keys_keepNewest] at hkept
  exact hord.2.2 kept hkept gone (Dict.mem_beyond.mp hgone)

end IdentityModel.LruCache
