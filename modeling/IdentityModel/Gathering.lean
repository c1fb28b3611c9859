import Mathlib.Data.List.Nodup
import Mathlib.Tactic

/-!
# Gathering

A list grows by those items of another one that are admitted to what is there already. A guard that
looks at nothing but an item and whether its key is there takes the same items in every order; a
guard that looks at more may take others, and what it keeps is an invariant of what has been gathered.
-/
namespace IdentityModel.Gathering

variable {α κ : Type*}

/-- The items are offered from the left. -/
def gather (admits : List α → α → Bool) : List α → List α → List α
  | kept, [] => kept
  | kept, x :: xs => gather admits (if admits kept x then kept ++ [x] else kept) xs

section Guard

variable {admits : List α → α → Bool} {kept xs : List α}

/-- An offer is taken at the end or changes nothing. -/
theorem gather_cons_cases (admits : List α → α → Bool) (kept : List α) (x : α) (xs : List α) :
    (admits kept x = true ∧ gather admits kept (x :: xs) = gather admits (kept ++ [x]) xs) ∨
      (admits kept x = false ∧ gather admits kept (x :: xs) = gather admits kept xs) := by
  cases h : admits kept x with
  | true => exact .inl ⟨rfl, by simp [gather, h]⟩
  | false => exact .inr ⟨rfl, by simp [gather, h]⟩

/-- What each offer taken keeps, all of them keep. -/
theorem gather_keeps {motive : List α → Prop} (hstart : motive kept)
    (hstep : ∀ held, ∀ x ∈ xs, motive held → admits held x = true → motive (held ++ [x])) :
    motive (gather admits kept xs) := by
  induction xs generalizing kept with
  | nil => exact hstart
  | cons x xs ih =>
      have hrest := fun held y hy => hstep held y (List.mem_cons_of_mem x hy)
      obtain ⟨hadmits, hnext⟩ | ⟨-, hnext⟩ := gather_cons_cases admits kept x xs
      · rw [hnext]
        exact ih (hstep kept x List.mem_cons_self hstart hadmits) hrest
      · rw [hnext]
        exact ih hstart hrest

/-- What was there stays in front, and what is added was offered, in its order, and admitted. -/
theorem gather_eq_append (admits : List α → α → Bool) (kept xs : List α) :
    ∃ added, added.Sublist xs ∧ (∀ x ∈ added, ∃ held, admits held x = true) ∧
      gather admits kept xs = kept ++ added := by
  induction xs generalizing kept with
  | nil => exact ⟨[], List.Sublist.slnil, by simp, (List.append_nil kept).symm⟩
  | cons x xs ih =>
      obtain ⟨hadmits, hnext⟩ | ⟨-, hnext⟩ := gather_cons_cases admits kept x xs
      · obtain ⟨added, hsub, hall, heq⟩ := ih (kept ++ [x])
        have hadded : ∀ y ∈ x :: added, ∃ held, admits held y = true := by
          intro y hy
          obtain rfl | hy := List.mem_cons.mp hy
          · exact ⟨kept, hadmits⟩
          · exact hall y hy
        exact ⟨x :: added, hsub.cons_cons x, hadded, by rw [hnext, heq, List.append_assoc]; rfl⟩
      · obtain ⟨added, hsub, hall, heq⟩ := ih kept
        exact ⟨added, hsub.cons x, hall, by rw [hnext, heq]⟩

theorem prefix_gather (admits : List α → α → Bool) (kept xs : List α) :
    kept <+: gather admits kept xs := by
  obtain ⟨added, -, -, heq⟩ := gather_eq_append admits kept xs
  exact ⟨added, heq.symm⟩

/-- An item that is left out was refused at some point. -/
theorem mem_gather_or_refused (admits : List α → α → Bool) (kept : List α) {x : α} (hx : x ∈ xs) :
    x ∈ gather admits kept xs ∨ ∃ held, held <+: gather admits kept xs ∧ admits held x = false := by
  induction xs generalizing kept with
  | nil => cases hx
  | cons y xs ih =>
      obtain ⟨-, hnext⟩ | ⟨hrefused, hnext⟩ := gather_cons_cases admits kept y xs
      · rw [hnext]
        obtain rfl | hx := List.mem_cons.mp hx
        · have hlast : x ∈ kept ++ [x] := List.mem_append_right kept (List.mem_singleton.mpr rfl)
          exact .inl ((prefix_gather admits (kept ++ [x]) xs).subset hlast)
        · exact ih _ hx
      · rw [hnext]
        obtain rfl | hx := List.mem_cons.mp hx
        · exact .inr ⟨kept, prefix_gather admits kept xs, hrefused⟩
        · exact ih _ hx

end Guard

section Keyed

variable [DecidableEq κ] {admits : List α → α → Bool} {key : α → κ} {fits : α → Bool}

/-- The guard takes an item that fits and whose key is not there. -/
def LooksFor (key : α → κ) (fits : α → Bool) (admits : List α → α → Bool) : Prop :=
  ∀ kept x, admits kept x = (fits x && decide (key x ∉ kept.map key))

/-- Items with distinct keys are taken when they fit and their key was not there before. -/
theorem gather_eq_filter (h : LooksFor key fits admits) (kept : List α) {xs : List α}
    (hnodup : (xs.map key).Nodup) :
    gather admits kept xs = kept ++ xs.filter fun x => fits x && decide (key x ∉ kept.map key) := by
  induction xs generalizing kept with
  | nil => simp [gather]
  | cons x xs ih =>
      obtain ⟨hx, hxs⟩ := List.nodup_cons.mp hnodup
      obtain ⟨hadmits, hnext⟩ | ⟨hrefused, hnext⟩ := gather_cons_cases admits kept x xs
      · rw [h] at hadmits
        have hrest : (xs.filter fun y => fits y && decide (key y ∉ (kept ++ [x]).map key)) =
            xs.filter fun y => fits y && decide (key y ∉ kept.map key) := by
          apply List.filter_congr
          intro y hy
          have hne : key y ≠ key x := fun heq => hx (heq ▸ List.mem_map_of_mem hy)
          simp [hne]
        rw [hnext, ih _ hxs, hrest, List.filter_cons, if_pos hadmits, List.append_assoc]
        rfl
      · rw [h] at hrefused
        rw [hnext, ih _ hxs, List.filter_cons, if_neg (by rw [hrefused]; decide)]

/-- The order of the offers decides nothing but the order of what is added. -/
theorem gather_perm (h : LooksFor key fits admits) (kept : List α) {xs ys : List α}
    (hnodup : (xs.map key).Nodup) (hperm : xs.Perm ys) :
    (gather admits kept xs).Perm (gather admits kept ys) := by
  rw [gather_eq_filter h kept hnodup,
    gather_eq_filter h kept ((hperm.map key).nodup_iff.mp hnodup)]
  exact (hperm.filter _).append_left kept

end Keyed

section Assignment

variable {ν : Type*} [DecidableEq κ] {fields : List (κ × ν)} {k : κ} {v : ν} {f : κ × ν}

/-- A key is assigned where it stands, or at the end. -/
def assign (fields : List (κ × ν)) (k : κ) (v : ν) : List (κ × ν) :=
  if k ∈ fields.map Prod.fst then fields.map fun f => if f.1 = k then (k, v) else f
  else fields ++ [(k, v)]

theorem assign_of_not_mem (h : k ∉ fields.map Prod.fst) : assign fields k v = fields ++ [(k, v)] := if_neg h

theorem mem_assign_self : (k, v) ∈ assign fields k v := by
  unfold assign
  split
  · rename_i hk
    obtain ⟨f, hf, rfl⟩ := List.mem_map.mp hk
    exact List.mem_map.mpr ⟨f, hf, if_pos rfl⟩
  · exact List.mem_append_right _ (List.mem_singleton_self _)

theorem mem_assign (h : f ∈ assign fields k v) : f = (k, v) ∨ f ∈ fields := by
  unfold assign at h
  split at h
  · obtain ⟨g, hg, rfl⟩ := List.mem_map.mp h
    split
    · exact .inl rfl
    · exact .inr hg
  · obtain hf | hf := List.mem_append.mp h
    · exact .inr hf
    · exact .inl (List.mem_singleton.mp hf)

/-- The other keys keep their values. -/
theorem mem_assign_of_ne (hf : f ∈ fields) (hk : f.1 ≠ k) : f ∈ assign fields k v := by
  unfold assign
  split
  · exact List.mem_map.mpr ⟨f, hf, if_neg hk⟩
  · exact List.mem_append_left _ hf

theorem nodup_assign (h : (fields.map Prod.fst).Nodup) : ((assign fields k v).map Prod.fst).Nodup := by
  unfold assign
  split
  · have hkeys : (fields.map fun f => if f.1 = k then (k, v) else f).map Prod.fst = fields.map Prod.fst := by
      rw [List.map_map]
      refine List.map_congr_left fun f _ => ?_
      rw [Function.comp_apply]
      split
      · rename_i hk
        exact hk.symm
      · rfl
    rwa [hkeys]
  · rename_i hk
    rw [List.map_append, List.map_singleton]
    refine List.nodup_append.mpr ⟨h, List.nodup_singleton k, ?_⟩
    rintro key hkey _ hother rfl
    obtain rfl := List.mem_singleton.mp hother
    exact hk hkey

end Assignment

end IdentityModel.Gathering
