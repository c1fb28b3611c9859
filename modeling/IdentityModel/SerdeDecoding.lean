import IdentityModel.Json
import IdentityModel.Results

/-!
# Structs derived for serde

How the code that `serde` derives for a struct with a flattened map reads an object. A member goes to the
field of that very name, which may come once, and the members without a field are kept in the map. A
field that is absent has its default, or is missed.
-/
namespace IdentityModel

/-- A struct: its fields in order with their names, how a member is read into one, and what holds of one
that is absent: its default, and whether it has to be there after all. -/
structure SerdeShape (F : Type) where
  fields : List F
  name : F → String
  Value : F → Type
  read : (f : F) → Json → Except String (Value f)
  zero : (f : F) → Value f
  required : F → Bool

namespace SerdeShape

variable {F : Type}

/-- What the fields hold. -/
abbrev Record (s : SerdeShape F) := (f : F) → s.Value f

/-- The fields are all there, and their names tell them apart. -/
structure Lawful (s : SerdeShape F) : Prop where
  complete : ∀ f, f ∈ s.fields
  distinct : ∀ f g, s.name f = s.name g → f = g

def fieldOf (s : SerdeShape F) (name : String) : Option F := s.fields.find? fun f => s.name f = name

/-- How many members a field has. -/
def count (s : SerdeShape F) (f : F) (ms : List (String × Json)) : ℕ := ms.countP fun m => m.1 = s.name f

/-- A member that can be read into its field. -/
def Reads (s : SerdeShape F) (m : String × Json) : Prop :=
  ∀ f, s.fieldOf m.1 = some f → (s.read f m.2).isOk = true

/-- What the members give to a field. -/
def given (s : SerdeShape F) (f : F) (j : Json) : Option (s.Value f) :=
  (j.member? (s.name f)).bind fun value => (s.read f value).toOption

/-- The flattened map. -/
def rest (s : SerdeShape F) (ms : List (String × Json)) : Dict String Json :=
  (Dict.insertAll ms ∅).restrict fun name => (s.fieldOf name).isNone

variable {s : SerdeShape F} {f : F} {m : String × Json} {ms : List (String × Json)}

theorem name_fieldOf {name : String} (h : s.fieldOf name = some f) : s.name f = name := by
  simpa using List.find?_some h

theorem fieldOf_name (hs : s.Lawful) (f : F) : s.fieldOf (s.name f) = some f := by
  unfold fieldOf
  cases hfind : s.fields.find? fun g => s.name g = s.name f with
  | none =>
      have hno := List.find?_eq_none.mp hfind f (hs.complete f)
      simp at hno
  | some g =>
      have hg : s.name g = s.name f := by simpa using List.find?_some hfind
      rw [hs.distinct g f hg]

theorem fieldOf_eq_none (hs : s.Lawful) {name : String} : s.fieldOf name = none ↔ ∀ f, s.name f ≠ name := by
  unfold fieldOf
  rw [List.find?_eq_none]
  simp [hs.complete]

theorem member?_cons (name : String) (m : String × Json) (ms : List (String × Json)) :
    (Json.obj (m :: ms)).member? name =
      ((Json.obj ms).member? name).or (if m.1 = name then some m.2 else none) := by
  unfold Json.member?
  simp only [Json.members, List.findRev?]
  cases ms.findRev? _ with
  | some found => rfl
  | none => by_cases hname : m.1 = name <;> simp [hname]

theorem member?_eq_none : (Json.obj ms).member? (s.name f) = none ↔ s.count f ms = 0 := by
  unfold Json.member?
  rw [List.findRev?_eq_find?_reverse, Option.map_eq_none_iff, List.find?_eq_none, count, List.countP_eq_zero]
  simp [Json.members]

theorem count_cons (f : F) (m : String × Json) (ms : List (String × Json)) :
    s.count f (m :: ms) = s.count f ms + if m.1 = s.name f then 1 else 0 := by
  unfold count
  rw [List.countP_cons]
  simp

/-- The member of a field that has no other. -/
theorem member?_of_once (honce : s.count f ms ≤ 1) (hm : m ∈ ms) (hname : m.1 = s.name f) :
    (Json.obj ms).member? (s.name f) = some m.2 := by
  induction ms with
  | nil => cases hm
  | cons first ms ih =>
      rw [member?_cons]
      rw [count_cons] at honce
      obtain rfl | hm := List.mem_cons.mp hm
      · rw [if_pos hname] at honce ⊢
        rw [member?_eq_none.mpr (by omega), Option.none_or]
      · rw [ih (by omega) hm, Option.some_or]

/-- Where no field has two members, only the last one of each name matters. -/
theorem reads_iff (hs : s.Lawful) (honce : ∀ f, s.count f ms ≤ 1) :
    (∀ m ∈ ms, s.Reads m) ↔
      ∀ f value, (Json.obj ms).member? (s.name f) = some value → (s.read f value).isOk = true := by
  constructor
  · intro hall f value hvalue
    exact hall _ (Json.mem_of_member? hvalue) f (fieldOf_name hs f)
  · intro hlast m hm f hf
    exact hlast f m.2 (member?_of_once (honce f) hm (name_fieldOf hf).symm)

/-- What the members leave in the fields, if no field gets a second one. -/
structure Left (s : SerdeShape F) (held : (f : F) → Option (s.Value f)) (ms : List (String × Json))
    (held' : (f : F) → Option (s.Value f)) : Prop where
  reads : ∀ m ∈ ms, s.Reads m
  once : ∀ f, s.count f ms ≤ 1
  free : ∀ f, held f ≠ none → s.count f ms = 0
  left : ∀ f, held' f = (held f).or (s.given f (.obj ms))

theorem left_cons_none (hs : s.Lawful) {held held' : (f : F) → Option (s.Value f)}
    (hnone : s.fieldOf m.1 = none) : s.Left held (m :: ms) held' ↔ s.Left held ms held' := by
  have hother (f : F) : m.1 ≠ s.name f := Ne.symm ((fieldOf_eq_none hs).mp hnone f)
  have hcount (f : F) : s.count f (m :: ms) = s.count f ms := by
    rw [count_cons, if_neg (hother f), add_zero]
  have hreads : s.Reads m := by
    intro f hf
    rw [hnone] at hf
    cases hf
  have hgiven (f : F) : s.given f (.obj (m :: ms)) = s.given f (.obj ms) := by
    unfold given
    rw [member?_cons, if_neg (hother f), Option.or_none]
  constructor
  · intro h
    exact ⟨fun x hx => h.reads x (List.mem_cons_of_mem m hx), fun f => hcount f ▸ h.once f,
      fun f hf => hcount f ▸ h.free f hf, fun f => hgiven f ▸ h.left f⟩
  · intro h
    exact ⟨List.forall_mem_cons.mpr ⟨hreads, h.reads⟩, fun f => (hcount f).symm ▸ h.once f,
      fun f hf => (hcount f).symm ▸ h.free f hf, fun f => (hgiven f).symm ▸ h.left f⟩

theorem given_of_reads (hs : s.Lawful) (hreads : ∀ m ∈ ms, s.Reads m) (f : F) :
    s.given f (.obj ms) = none ↔ s.count f ms = 0 := by
  constructor
  · intro h
    cases hmember : (Json.obj ms).member? (s.name f) with
    | none => exact member?_eq_none.mp hmember
    | some value =>
        have hok := hreads _ (Json.mem_of_member? hmember) f (fieldOf_name hs f)
        obtain ⟨v, hv⟩ := Results.exists_of_isOk hok
        rw [given, hmember, Option.bind_some, hv] at h
        cases h
  · intro h
    rw [given, member?_eq_none.mpr h]
    rfl

theorem lookup_rest (hs : s.Lawful) (ms : List (String × Json)) (name : String) :
    (s.rest ms).lookup name =
      if name ∈ s.fields.map s.name then none else (Json.obj ms).member? name := by
  have hknown : (s.fieldOf name).isNone = true ↔ name ∉ s.fields.map s.name := by
    rw [Option.isNone_iff_eq_none, fieldOf_eq_none hs]
    simp [hs.complete]
  rw [rest, Dict.lookup_restrict, Json.lookup_insertAll]
  by_cases hname : name ∈ s.fields.map s.name
  · rw [if_neg fun h => hknown.mp h hname, if_pos hname]
  · rw [if_pos (hknown.mpr hname), if_neg hname]

section Members

variable [DecidableEq F]

/-- Read one member into its field, which must be free. -/
def take (s : SerdeShape F) (held : (f : F) → Option (s.Value f)) (m : String × Json) :
    Except String ((f : F) → Option (s.Value f)) :=
  match s.fieldOf m.1 with
  | none => .ok held
  | some f =>
      if (held f).isSome = true then .error ("duplicate field `" ++ s.name f ++ "`")
      else (s.read f m.2).map fun v => Function.update held f (some v)

def takeAll (s : SerdeShape F) (held : (f : F) → Option (s.Value f)) :
    List (String × Json) → Except String ((f : F) → Option (s.Value f))
  | [] => .ok held
  | m :: ms => (s.take held m).bind fun held => s.takeAll held ms

/-- Read all members, and then see what is missing. -/
def fill (s : SerdeShape F) (ms : List (String × Json)) : Except String s.Record :=
  match s.takeAll (fun _ => none) ms with
  | .error e => .error e
  | .ok held =>
      match s.fields.find? fun f => s.required f && (held f).isNone with
      | some f => .error ("missing field `" ++ s.name f ++ "`")
      | none => .ok fun f => (held f).getD (s.zero f)

theorem take_eq_ok {held held' : (f : F) → Option (s.Value f)} :
    s.take held m = .ok held' ↔ (s.fieldOf m.1 = none ∧ held' = held) ∨
      ∃ f v, s.fieldOf m.1 = some f ∧ held f = none ∧ s.read f m.2 = .ok v ∧
        held' = Function.update held f (some v) := by
  unfold take
  cases hfield : s.fieldOf m.1 with
  | none => simp [eq_comm]
  | some g =>
      cases hheld : held g with
      | some w => simp [hheld]
      | none =>
          cases hread : s.read g m.2 with
          | error e => simp [hheld, hread, Except.map]
          | ok v => simp [hheld, hread, Except.map, eq_comm]

theorem left_cons_some (hs : s.Lawful) {held held' : (f : F) → Option (s.Value f)} {g : F}
    (hfield : s.fieldOf m.1 = some g) :
    s.Left held (m :: ms) held' ↔ held g = none ∧ ∃ v, s.read g m.2 = .ok v ∧
      s.Left (Function.update held g (some v)) ms held' := by
  have hname : m.1 = s.name g := (name_fieldOf hfield).symm
  have hcount (f : F) (hf : f ≠ g) : s.count f (m :: ms) = s.count f ms := by
    rw [count_cons, if_neg fun h => hf (hs.distinct f g (h.symm.trans hname)), add_zero]
  have hgiven (f : F) (hf : f ≠ g) : s.given f (.obj (m :: ms)) = s.given f (.obj ms) := by
    unfold given
    rw [member?_cons, if_neg fun h => hf (hs.distinct f g (h.symm.trans hname)), Option.or_none]
  have hown : s.count g (m :: ms) = s.count g ms + 1 := by rw [count_cons, if_pos hname]
  have hreads : s.Reads m ↔ (s.read g m.2).isOk = true := by simp [Reads, hfield]
  constructor
  · intro h
    have hzero : s.count g ms = 0 := by
      have := h.once g
      omega
    have hfree : held g = none := by
      by_contra hheld
      have := h.free g hheld
      omega
    obtain ⟨v, hv⟩ := Results.exists_of_isOk (hreads.mp (h.reads m List.mem_cons_self))
    refine ⟨hfree, v, hv, fun x hx => h.reads x (List.mem_cons_of_mem m hx), fun f => ?_, fun f hf => ?_,
      fun f => ?_⟩
    · by_cases hfg : f = g
      · subst hfg
        omega
      · exact hcount f hfg ▸ h.once f
    · by_cases hfg : f = g
      · subst hfg
        exact hzero
      · rw [Function.update_of_ne hfg] at hf
        exact hcount f hfg ▸ h.free f hf
    · by_cases hfg : f = g
      · subst hfg
        rw [h.left f, hfree, Function.update_self, given, member?_cons, member?_eq_none.mpr hzero,
          if_pos hname, Option.none_or, Option.none_or, Option.bind_some, hv]
        rfl
      · rw [Function.update_of_ne hfg, h.left f, hgiven f hfg]
  · rintro ⟨hfree, v, hv, h⟩
    have hzero : s.count g ms = 0 := h.free g (by simp)
    refine ⟨List.forall_mem_cons.mpr ⟨hreads.mpr (by rw [hv]; rfl), h.reads⟩, fun f => ?_, fun f hf => ?_,
      fun f => ?_⟩
    · by_cases hfg : f = g
      · subst hfg
        omega
      · exact (hcount f hfg).symm ▸ h.once f
    · by_cases hfg : f = g
      · subst hfg
        exact absurd hfree hf
      · rw [hcount f hfg]
        exact h.free f (by rwa [Function.update_of_ne hfg])
    · by_cases hfg : f = g
      · subst hfg
        rw [h.left f, hfree, Function.update_self, given, given, member?_cons, member?_eq_none.mpr hzero,
          if_pos hname, Option.none_or, Option.none_or, Option.bind_some, hv]
        rfl
      · rw [h.left f, Function.update_of_ne hfg, hgiven f hfg]

theorem takeAll_eq_ok (hs : s.Lawful) {held held' : (f : F) → Option (s.Value f)} :
    s.takeAll held ms = .ok held' ↔ s.Left held ms held' := by
  induction ms generalizing held with
  | nil =>
      constructor
      · intro h
        obtain rfl := Except.ok.inj h
        exact ⟨by simp, fun f => Nat.zero_le 1, fun f _ => rfl, fun f => (Option.or_none).symm⟩
      · intro h
        exact congrArg Except.ok (funext fun f => ((h.left f).trans Option.or_none).symm)
  | cons m ms ih =>
      have hbind : s.takeAll held (m :: ms) = .ok held' ↔
          ∃ mid, s.take held m = .ok mid ∧ s.takeAll mid ms = .ok held' := Results.bind_eq_ok
      simp only [hbind, take_eq_ok, ih]
      cases hfield : s.fieldOf m.1 with
      | none =>
          rw [left_cons_none hs hfield]
          simp
      | some g =>
          rw [left_cons_some hs hfield]
          constructor
          · rintro ⟨mid, ⟨hno, -⟩ | ⟨f, v, hf, hfree, hv, rfl⟩, h⟩
            · cases hno
            · obtain rfl := Option.some.inj hf
              exact ⟨hfree, v, hv, h⟩
          · rintro ⟨hfree, v, hv, h⟩
            exact ⟨_, .inr ⟨g, v, rfl, hfree, hv, rfl⟩, h⟩

/-- A struct is filled when every member of a field can be read and is the only one, and no field that
has to be there is missing; each field holds what its member gave. -/
theorem fill_eq_ok (hs : s.Lawful) {r : s.Record} :
    s.fill ms = .ok r ↔ (∀ m ∈ ms, s.Reads m) ∧ (∀ f, s.count f ms ≤ 1) ∧
      (∀ f, s.required f = true → s.count f ms ≠ 0) ∧
        r = fun f => (s.given f (.obj ms)).getD (s.zero f) := by
  have hleft : ∀ held, s.takeAll (fun _ => none) ms = .ok held ↔ (∀ m ∈ ms, s.Reads m) ∧
      (∀ f, s.count f ms ≤ 1) ∧ held = fun f => s.given f (.obj ms) := by
    intro held
    rw [takeAll_eq_ok hs]
    constructor
    · intro h
      exact ⟨h.reads, h.once, funext fun f => (h.left f).trans Option.none_or⟩
    · rintro ⟨hreads, honce, rfl⟩
      exact ⟨hreads, honce, fun f hf => absurd rfl hf, fun f => Option.none_or.symm⟩
  unfold fill
  cases htake : s.takeAll (fun _ => none) ms with
  | error e =>
      have hnot : ∀ held, ¬ s.takeAll (fun _ => none) ms = .ok held := by simp [htake]
      constructor
      · intro h
        cases h
      · rintro ⟨hreads, honce, -, -⟩
        exact absurd ((hleft _).mpr ⟨hreads, honce, rfl⟩) (hnot _)
  | ok held =>
      obtain ⟨hreads, honce, rfl⟩ := (hleft held).mp htake
      rw [and_iff_right hreads, and_iff_right honce]
      dsimp only
      have hmissing : (s.fields.find? fun f => s.required f && (s.given f (.obj ms)).isNone) = none ↔
          ∀ f, s.required f = true → s.count f ms ≠ 0 := by
        rw [List.find?_eq_none]
        simp [hs.complete, given_of_reads hs hreads]
      cases hfind : s.fields.find? fun f => s.required f && (s.given f (.obj ms)).isNone with
      | none =>
          rw [and_iff_right (hmissing.mp hfind)]
          constructor
          · intro h
            exact (Except.ok.inj h).symm
          · rintro rfl
            rfl
      | some f =>
          rw [hfind] at hmissing
          constructor
          · intro h
            cases h
          · rintro ⟨hpresent, -⟩
            cases hmissing.mpr hpresent

end Members

end SerdeShape

end IdentityModel
