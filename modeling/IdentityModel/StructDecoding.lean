import IdentityModel.Json

/-!
# Structs filled from JSON

How `encoding/json` fills a struct. A member goes to the field whose name it has, or else to one
whose name it folds to, so a field can be written several times: it ends up with what the last
member with a value for it gave. A value of another type is reported at the end, and only the first
one is; what a method of the field's type refuses ends the decoding.
-/
namespace IdentityModel

/-- Why a member cannot be decoded. -/
structure DecodeError where
  text : String
  /-- It comes from a method of the field's type. -/
  fatal : Bool

/-- A struct: its fields in order, with the names in their tags, and how a member is decoded into
one of them. The decoding fails, leaves the field as it is, or gives a new value. -/
structure StructShape (F : Type) where
  fields : List F
  name : F → String
  fold : String → List Char
  Value : F → Type
  zero : (f : F) → Value f
  decode : (f : F) → Json → Except DecodeError (Option (Value f))

namespace StructShape

variable {F : Type}

/-- What the fields hold. -/
abbrev Record (s : StructShape F) := (f : F) → s.Value f

/-- The field a member of that name is decoded into. -/
def fieldOf (s : StructShape F) (name : String) : Option F :=
  match s.fields.find? fun f => s.name f = name with
  | some f => some f
  | none => s.fields.find? fun f => s.fold (s.name f) = s.fold name

/-- The fields are all there, and their names tell them apart. -/
structure Lawful (s : StructShape F) : Prop where
  complete : ∀ f, f ∈ s.fields
  distinct : ∀ f g, s.name f = s.name g → f = g

/-- The value a member gives to a field, if it gives it one. -/
def carries (s : StructShape F) (f : F) (j : Json) : Option (s.Value f) :=
  (s.decode f j).toOption.join

theorem fieldOf_name {s : StructShape F} (hs : s.Lawful) (f : F) : s.fieldOf (s.name f) = some f := by
  unfold fieldOf
  cases hfind : s.fields.find? fun g => s.name g = s.name f with
  | none =>
      have hno := List.find?_eq_none.mp hfind f (hs.complete f)
      simp at hno
  | some g =>
      have hg : s.name g = s.name f := by simpa using List.find?_some hfind
      rw [hs.distinct g f hg]

theorem carries_of_decode {s : StructShape F} {f : F} {v : Option (s.Value f)} {j : Json}
    (h : s.decode f j = .ok v) : s.carries f j = v := by
  rw [carries, h]
  rfl

/-- A member that can be decoded into the field it goes to. -/
def Decodes (s : StructShape F) (m : String × Json) : Prop :=
  ∀ f, s.fieldOf m.1 = some f → (s.decode f m.2).isOk = true

/-- No member comes twice, and none goes to a field under another spelling of its name. -/
structure Plain (s : StructShape F) (j : Json) : Prop where
  nodup : (j.members.map Prod.fst).Nodup
  spelled : ∀ m ∈ j.members, ∀ f, s.fieldOf m.1 = some f → m.1 = s.name f

theorem Plain.member {s : StructShape F} {f : F} {m : String × Json} {j : Json} (h : s.Plain j)
    (hm : m ∈ j.members) (hf : s.fieldOf m.1 = some f) : j.member? (s.name f) = some m.2 := by
  rw [← h.spelled m hm f hf]
  exact Json.member?_eq_some h.nodup hm

/-- Of a plain document, only the members of the fields' own names matter. -/
theorem Plain.decodes_iff {s : StructShape F} (hs : s.Lawful) {j : Json} (h : s.Plain j) :
    (∀ m ∈ j.members, s.Decodes m) ↔
      ∀ f value, j.member? (s.name f) = some value → (s.decode f value).isOk = true := by
  constructor
  · intro hall f value hvalue
    exact hall _ (Json.mem_of_member? hvalue) f (fieldOf_name hs f)
  · intro hexact m hm f hf
    exact hexact f m.2 (h.member hm hf)

variable [DecidableEq F]

/-- Decode one member; the first error that is not fatal is kept. -/
def take (s : StructShape F) (acc : s.Record × Option String) (m : String × Json) :
    Except String (s.Record × Option String) :=
  match s.fieldOf m.1 with
  | none => .ok acc
  | some f =>
      match s.decode f m.2 with
      | .ok none => .ok acc
      | .ok (some v) => .ok (Function.update acc.1 f v, acc.2)
      | .error e => if e.fatal then .error e.text else .ok (acc.1, acc.2.or (some e.text))

def takeAll (s : StructShape F) (acc : s.Record × Option String) :
    List (String × Json) → Except String (s.Record × Option String)
  | [] => .ok acc
  | m :: ms => (s.take acc m).bind fun acc => s.takeAll acc ms

/-- Decode all members, from the zero values on. -/
def fill (s : StructShape F) (ms : List (String × Json)) : Except String s.Record :=
  match s.takeAll (s.zero, none) ms with
  | .ok (r, none) => .ok r
  | .ok (_, some e) => .error e
  | .error e => .error e

/-- `json.Unmarshal` into the struct; `unexpected` is the error of a document that is no object. -/
def unmarshal (s : StructShape F) (unexpected : Json → String) : Json → Except String s.Record
  | .obj ms => s.fill ms
  | .null => .ok s.zero
  | j => .error (unexpected j)

/-- The last member that goes to the field and gives it a value. -/
def lastCarrier (s : StructShape F) (f : F) (ms : List (String × Json)) : Option (String × Json) :=
  ms.findRev? fun m => s.fieldOf m.1 = some f && (s.carries f m.2).isSome

/-- What the members leave in a field. -/
def value (s : StructShape F) (f : F) (ms : List (String × Json)) : s.Value f :=
  ((s.lastCarrier f ms).bind fun m => s.carries f m.2).getD (s.zero f)

variable {s : StructShape F} {f : F} {m : String × Json} {ms : List (String × Json)}

/-- A member that is taken changes one field, to the value that it carries for it, or none. -/
theorem take_cases {acc acc' : s.Record × Option String} (h : s.take acc m = .ok acc') :
    (acc'.1 = acc.1 ∧ ∀ f, s.fieldOf m.1 = some f → s.carries f m.2 = none) ∨
      ∃ f v, s.fieldOf m.1 = some f ∧ s.carries f m.2 = some v ∧ acc'.1 = Function.update acc.1 f v := by
  unfold take at h
  split at h
  · rename_i hfield
    cases h
    exact .inl ⟨rfl, by simp [hfield]⟩
  · rename_i g hfield
    split at h
    · rename_i hd
      cases h
      refine .inl ⟨rfl, fun f hf => ?_⟩
      obtain rfl := Option.some.inj (hfield.symm.trans hf)
      exact carries_of_decode hd
    · rename_i v hd
      cases h
      exact .inr ⟨g, v, hfield, carries_of_decode hd, rfl⟩
    · rename_i e hd
      split at h
      · cases h
      · cases h
        refine .inl ⟨rfl, fun f hf => ?_⟩
        obtain rfl := Option.some.inj (hfield.symm.trans hf)
        rw [carries, hd]
        rfl

theorem take_get {acc acc' : s.Record × Option String} (h : s.take acc m = .ok acc') (f : F) :
    acc'.1 f = if s.fieldOf m.1 = some f then (s.carries f m.2).getD (acc.1 f) else acc.1 f := by
  obtain ⟨hacc, hnone⟩ | ⟨g, v, hfield, hv, hacc⟩ := take_cases h
  · rw [hacc]
    split
    · rename_i hf
      rw [hnone f hf]
      rfl
    · rfl
  · rw [hacc, hfield]
    by_cases hg : g = f
    · subst hg
      simp [hv]
    · rw [if_neg (fun h => hg (Option.some.inj h)), Function.update_of_ne (Ne.symm hg)]

/-- No error is kept of a member just where it can be decoded. -/
theorem take_clean (acc : s.Record × Option String) (m : String × Json) :
    (∃ r, s.take acc m = .ok (r, none)) ↔ acc.2 = none ∧ s.Decodes m := by
  obtain ⟨held, error⟩ := acc
  unfold take Decodes
  cases hfield : s.fieldOf m.1 with
  | none => simp
  | some g =>
      cases hd : s.decode g m.2 with
      | error e =>
          obtain ⟨text, fatal⟩ := e
          cases fatal <;> simp [hd, Except.isOk, Except.toBool]
      | ok v => cases v <;> simp [hd, Except.isOk, Except.toBool]

theorem carrier_spec (h : s.lastCarrier f ms = some m) :
    s.fieldOf m.1 = some f ∧ (∃ v, s.carries f m.2 = some v) ∧ m ∈ ms := by
  unfold lastCarrier at h
  rw [List.findRev?_eq_find?_reverse] at h
  have hfound := List.find?_some h
  simp only [Bool.and_eq_true, decide_eq_true_eq] at hfound
  exact ⟨hfound.1, Option.isSome_iff_exists.mp hfound.2,
    List.mem_reverse.mp (List.mem_of_find?_eq_some h)⟩

theorem lastCarrier_cons (m : String × Json) (ms : List (String × Json)) :
    s.lastCarrier f (m :: ms) = (s.lastCarrier f ms).or
      (if s.fieldOf m.1 = some f ∧ (s.carries f m.2).isSome = true then some m else none) := by
  unfold lastCarrier
  rw [List.findRev?]
  cases ms.findRev? _ with
  | some found => rfl
  | none =>
      by_cases hfield : s.fieldOf m.1 = some f
      · cases (s.carries f m.2).isSome <;> simp [hfield]
      · simp [hfield]

theorem takeAll_ok {acc acc' : s.Record × Option String} (h : s.takeAll acc ms = .ok acc') (f : F) :
    acc'.1 f = ((s.lastCarrier f ms).bind fun m => s.carries f m.2).getD (acc.1 f) := by
  induction ms generalizing acc with
  | nil =>
      obtain rfl := Except.ok.inj h
      rfl
  | cons m ms ih =>
      rw [takeAll] at h
      cases htake : s.take acc m with
      | error e =>
          rw [htake] at h
          cases h
      | ok mid =>
          rw [htake] at h
          rw [ih h, take_get htake, lastCarrier_cons]
          cases hlast : s.lastCarrier f ms with
          | some found =>
              obtain ⟨-, ⟨v, hv⟩, -⟩ := carrier_spec hlast
              simp [hv]
          | none =>
              by_cases hfield : s.fieldOf m.1 = some f
              · cases hc : s.carries f m.2 <;> simp [hfield, hc]
              · simp [hfield]

theorem takeAll_clean (ms : List (String × Json)) (acc : s.Record × Option String) :
    (∃ r, s.takeAll acc ms = .ok (r, none)) ↔ acc.2 = none ∧ ∀ m ∈ ms, s.Decodes m := by
  induction ms generalizing acc with
  | nil =>
      obtain ⟨held, error⟩ := acc
      simp [takeAll]
  | cons m ms ih =>
      rw [List.forall_mem_cons, ← and_assoc, ← take_clean, takeAll]
      constructor
      · rintro ⟨r, h⟩
        cases htake : s.take acc m with
        | error e =>
            rw [htake] at h
            cases h
        | ok mid =>
            rw [htake] at h
            obtain ⟨hnone, hall⟩ := (ih mid).mp ⟨r, h⟩
            obtain ⟨held, error⟩ := mid
            obtain rfl : error = none := hnone
            exact ⟨⟨held, rfl⟩, hall⟩
      · rintro ⟨⟨held, htake⟩, hall⟩
        rw [htake]
        exact (ih (held, none)).mpr ⟨rfl, hall⟩

/-- A struct is filled when every member can be decoded where it goes; each field holds what the
last member with a value for it gave. -/
theorem fill_eq_ok {r : s.Record} :
    s.fill ms = .ok r ↔ (∀ m ∈ ms, s.Decodes m) ∧ r = fun f => s.value f ms := by
  have hclean := takeAll_clean ms (s.zero, none)
  have hfill : s.fill ms = .ok r ↔ s.takeAll (s.zero, none) ms = .ok (r, none) := by
    unfold fill
    split
    · rename_i held htake
      rw [htake]
      simp
    · rename_i held e htake
      rw [htake]
      simp
    · rename_i e htake
      rw [htake]
      simp
  rw [hfill]
  constructor
  · intro h
    exact ⟨(hclean.mp ⟨r, h⟩).2, funext fun f => takeAll_ok h f⟩
  · rintro ⟨hall, rfl⟩
    obtain ⟨held, hheld⟩ := hclean.mpr ⟨rfl, hall⟩
    rw [hheld, show held = fun f => s.value f ms from funext fun f => takeAll_ok hheld f]

/-- What the last member of the field's own name gives it. -/
def exactValue (s : StructShape F) (f : F) (j : Json) : s.Value f :=
  ((j.member? (s.name f)).bind fun value => s.carries f value).getD (s.zero f)

/-- For every field, the last member that carries a value for it under any spelling shows the value of
the field's own name, as far as `view` looks. -/
def Settled (s : StructShape F) {β : F → Type} (view : (f : F) → s.Value f → β f) (j : Json) : Prop :=
  ∀ f m v, s.lastCarrier f j.members = some m → s.carries f m.2 = some v →
    view f v = view f (s.exactValue f j)

theorem exactValue_of_no_carrier (hs : s.Lawful) {j : Json} (h : s.lastCarrier f j.members = none) :
    s.exactValue f j = s.zero f := by
  unfold exactValue
  cases hmember : j.member? (s.name f) with
  | none => rfl
  | some value =>
      unfold lastCarrier at h
      rw [List.findRev?_eq_find?_reverse, List.find?_eq_none] at h
      have hno := h _ (List.mem_reverse.mpr (Json.mem_of_member? hmember))
      have hnone : s.carries f value = none := by simpa [fieldOf_name hs] using hno
      rw [Option.bind_some, hnone]
      rfl

/-- The fields show the values of their own names when no later spelling shows others. -/
theorem settled_iff (hs : s.Lawful) {β : F → Type} (view : (f : F) → s.Value f → β f) {j : Json} :
    (∀ f, view f (s.value f j.members) = view f (s.exactValue f j)) ↔ s.Settled view j := by
  refine forall_congr' fun f => ?_
  unfold value
  cases hlast : s.lastCarrier f j.members with
  | none => simp [exactValue_of_no_carrier hs hlast]
  | some m =>
      obtain ⟨-, ⟨v, hv⟩, -⟩ := carrier_spec hlast
      rw [Option.bind_some, hv, Option.getD_some]
      constructor
      · intro h m' v' hm' hv'
        obtain rfl := Option.some.inj hm'
        obtain rfl := Option.some.inj (hv.symm.trans hv')
        exact h
      · intro h
        exact h m v rfl hv

theorem Plain.settled {j : Json} (h : s.Plain j) {β : F → Type} (view : (f : F) → s.Value f → β f) :
    s.Settled view j := by
  intro f m v hlast hv
  obtain ⟨hfield, -, hmem⟩ := carrier_spec hlast
  rw [exactValue, h.member hmem hfield, Option.bind_some, hv]
  rfl

end StructShape

end IdentityModel
