import IdentityModel.Dict
import IdentityModel.Forms
import Mathlib.Data.List.Sort

/-!
# Forms as maps

A form under construction maps each name to its values, in the order they were added. It is written
out name by name, the names sorted, so that only the map counts and not how it came about.
-/
namespace IdentityModel

/-- A form: the values of each name. -/
abbrev Values := Dict String (List String)

namespace Values

/-- The value replaces those of its name. -/
def set (form : Values) (name value : String) : Values := form.insert name [value]

/-- The value comes after those of its name. -/
def add (form : Values) (name value : String) : Values :=
  form.insert name ((form.lookup name).getD [] ++ [value])

/-- The names, sorted. -/
def names (form : Values) : List String := form.keys.mergeSort (· ≤ ·)

/-- Names and values as they are written. -/
def fields (form : Values) : List (String × String) :=
  form.names.flatMap fun name => ((form.lookup name).getD []).map fun value => (name, value)

/-- The form as text. -/
def encode (form : Values) : String := Forms.urlencode form.fields

section Lookup

variable {form form' : Values} {name other value : String}

theorem lookup_set : (form.set name value).lookup other =
    if other = name then some [value] else form.lookup other := by
  by_cases h : other = name
  · rw [h, if_pos rfl]
    exact AList.lookup_insert form
  · rw [if_neg h]
    exact AList.lookup_insert_ne h

theorem lookup_add : (form.add name value).lookup other =
    if other = name then some ((form.lookup name).getD [] ++ [value]) else form.lookup other := by
  by_cases h : other = name
  · rw [h, if_pos rfl]
    exact AList.lookup_insert form
  · rw [if_neg h]
    exact AList.lookup_insert_ne h

theorem lookup_addAll (values : List String) :
    (values.foldl (fun form value => form.add name value) form).lookup other =
      if other = name ∧ values ≠ [] then some ((form.lookup name).getD [] ++ values)
      else form.lookup other := by
  induction values generalizing form with
  | nil => simp
  | cons value values ih =>
      rw [List.foldl_cons, ih, lookup_add, lookup_add, if_pos rfl]
      by_cases h : other = name
      · by_cases hvalues : values = [] <;> simp [h, hvalues]
      · simp [h]

end Lookup

section Written

variable {form form' : Values} {name : String}

/-- Names and values are those of the map. -/
theorem fields_filter (form : Values) (name : String) :
    (form.fields.filter fun field => field.1 = name) =
      ((form.lookup name).getD []).map fun value => (name, value) := by
  have hall (names : List String) (hnodup : names.Nodup) (g : String → List String) :
      ((names.flatMap fun other => (g other).map fun value => (other, value)).filter
        fun field => field.1 = name) = if name ∈ names then (g name).map fun value => (name, value) else [] := by
    induction names with
    | nil => rfl
    | cons other names ih =>
        obtain ⟨hother, hrest⟩ := List.nodup_cons.mp hnodup
        rw [List.flatMap_cons, List.filter_append, ih hrest]
        by_cases h : other = name
        · subst h
          have hsame : (((g other).map fun value => (other, value)).filter fun field => field.1 = other) =
              (g other).map fun value => (other, value) := by
            rw [List.filter_eq_self]
            intro field hfield
            obtain ⟨value, -, rfl⟩ := List.mem_map.mp hfield
            exact decide_eq_true rfl
          rw [hsame, if_neg hother, if_pos List.mem_cons_self, List.append_nil]
        · have hnone : (((g other).map fun value => (other, value)).filter fun field => field.1 = name) =
              [] := by
            rw [List.filter_eq_nil_iff]
            intro field hfield
            obtain ⟨value, -, rfl⟩ := List.mem_map.mp hfield
            simpa using h
          rw [hnone, List.nil_append]
          simp [Ne.symm h]
  have hnames : form.names.Nodup := (List.mergeSort_perm _ _).nodup_iff.mpr form.keys_nodup
  rw [fields, hall form.names hnames]
  by_cases hname : name ∈ form.names
  · rw [if_pos hname]
  · have hnone : form.lookup name = none := by
      rw [AList.lookup_eq_none, AList.mem_keys]
      intro hmem
      exact hname ((List.mergeSort_perm _ _).mem_iff.mpr hmem)
    rw [if_neg hname, hnone]
    rfl

/-- A form is written the same whatever it was made from. -/
theorem fields_congr (h : ∀ name, form.lookup name = form'.lookup name) : form.fields = form'.fields := by
  have hmem (name : String) : name ∈ form.keys ↔ name ∈ form'.keys := by
    rw [← AList.mem_keys, ← AList.mem_keys, ← AList.lookup_isSome, ← AList.lookup_isSome, h]
  have hperm : form.keys.Perm form'.keys :=
    (List.perm_ext_iff_of_nodup form.keys_nodup form'.keys_nodup).mpr hmem
  have hnames : form.names = form'.names := by
    apply List.Perm.eq_of_pairwise' (r := (· ≤ ·))
    · exact List.pairwise_mergeSort' _ _
    · exact List.pairwise_mergeSort' _ _
    · exact ((List.mergeSort_perm _ _).trans hperm).trans (List.mergeSort_perm _ _).symm
  simp only [fields, hnames, h]

end Written

/-- A form holds the values of a table, and no names besides. -/
def Shows (form : Values) (table : List (String × List String)) : Prop :=
  ∀ name, form.lookup name = (table.lookup name).filter fun values => values ≠ []

namespace Shows

variable {form : Values} {table : List (String × List String)} {name value : String}

theorem empty : Shows ∅ [] := fun _ => rfl

theorem not_mem (h : form.Shows table) (hname : name ∉ table.map Prod.fst) :
    form.lookup name = none ∧ table.lookup name = none := by
  have htable : table.lookup name = none := by
    rw [List.lookup_eq_none_iff]
    intro row hrow
    have hne : name ≠ row.1 := fun heq => hname (heq ▸ List.mem_map_of_mem hrow)
    simpa using hne
  rw [h name, htable]
  exact ⟨rfl, rfl⟩

/-- Values under a new name make a new row. -/
theorem append {form' : Values} {values : List String} (h : form.Shows table)
    (hname : name ∉ table.map Prod.fst)
    (hform : ∀ other, form'.lookup other =
      if other = name ∧ values ≠ [] then some values else form.lookup other) :
    form'.Shows (table ++ [(name, values)]) := by
  intro other
  obtain ⟨hnone, htable⟩ := h.not_mem hname
  rw [hform, List.lookup_append]
  by_cases heq : other = name
  · subst heq
    rw [htable, hnone]
    by_cases hvalues : values = [] <;> simp [hvalues, Option.filter]
  · have hbeq : (other == name) = false := beq_false_of_ne heq
    rw [h other]
    simp [heq, hbeq, List.lookup_cons]

theorem set (h : form.Shows table) (name value : String) (hname : name ∉ table.map Prod.fst) :
    (form.set name value).Shows (table ++ [(name, [value])]) := by
  apply h.append hname
  intro other
  rw [lookup_set]
  simp

theorem setIf {c : Prop} [Decidable c] (h : form.Shows table) (name value : String)
    (hname : name ∉ table.map Prod.fst) :
    (if c then form.set name value else form).Shows (table ++ [(name, if c then [value] else [])]) := by
  apply h.append hname
  intro other
  by_cases hc : c
  · rw [if_pos hc, if_pos hc, lookup_set]
    simp
  · rw [if_neg hc, if_neg hc]
    simp

/-- A row without values adds nothing. -/
theorem absent (h : form.Shows table) (name : String) (hname : name ∉ table.map Prod.fst) :
    form.Shows (table ++ [(name, [])]) := by
  apply h.append hname
  simp

theorem addAll (h : form.Shows table) (name : String) (values : List String)
    (hname : name ∉ table.map Prod.fst) :
    (values.foldl (fun form value => form.add name value) form).Shows (table ++ [(name, values)]) := by
  apply h.append hname
  intro other
  rw [lookup_addAll, (h.not_mem hname).1]
  rfl

end Shows

end Values

end IdentityModel
