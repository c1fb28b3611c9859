import IdentityModel.Dict

/-!
# JSON documents

A document as its text denotes it: objects keep their members in document order
and may repeat a name, and numbers keep their digits. What names mean to a
decoder (duplicates, letter case) is left to the decoder.
-/
namespace IdentityModel

abbrev Digit := Fin 10

instance neZero_digits : NeZero (10 : ℕ) := ⟨Nat.succ_ne_zero 9⟩

/-- The value of a run of decimal digits. -/
def digitsValue (digits : List Digit) : ℕ := digits.foldl (fun acc d => 10 * acc + d.val) 0

def digitChar (d : Digit) : Char := Char.ofNat ('0'.toNat + d.val)

/-- The exponent of a number literal, as written. -/
structure Exponent where
  upper : Bool
  /-- An explicit sign: `true` for minus. -/
  sign : Option Bool
  digits : List Digit
  nonempty : digits ≠ []
  deriving DecidableEq

/-- A number literal. Its digits before the point start with a zero only when
that is all of them; no digits after the point means no point. -/
structure Number where
  negative : Bool
  whole : List Digit
  fraction : List Digit
  exponent : Option Exponent
  nonempty : whole ≠ []
  noLeadingZero : whole = [0] ∨ whole.head? ≠ some 0
  deriving DecidableEq

namespace Number

theorem one_nonempty : ([1] : List Digit) ≠ [] := List.cons_ne_nil 1 []

theorem one_noLeadingZero : ([1] : List Digit) = [0] ∨ ([1] : List Digit).head? ≠ some 0 :=
  .inr (by decide)

def exponentValue (n : Number) : ℤ :=
  match n.exponent with
  | none => 0
  | some e => if e.sign = some true then -digitsValue e.digits else digitsValue e.digits

/-- The rational a literal denotes. -/
def value (n : Number) : ℚ :=
  let significand : ℚ := digitsValue (n.whole ++ n.fraction)
  (if n.negative then -significand else significand) *
    10 ^ (n.exponentValue - n.fraction.length)

def exponentText (e : Exponent) : List Char :=
  (if e.upper then 'E' else 'e') ::
    ((match e.sign with
      | none => []
      | some true => ['-']
      | some false => ['+']) ++ e.digits.map digitChar)

/-- The literal itself. -/
def text (n : Number) : String :=
  String.ofList ((if n.negative then ['-'] else []) ++ n.whole.map digitChar ++
    (if n.fraction = [] then [] else '.' :: n.fraction.map digitChar) ++
    (n.exponent.map exponentText).getD [])

end Number

/-- A JSON document. -/
inductive Json
  | null
  | bool (b : Bool)
  | num (n : Number)
  | str (s : String)
  | arr (elems : List Json)
  | obj (members : List (String × Json))

namespace Json

/-- The members of an object; nothing else has members. -/
def members : Json → List (String × Json)
  | .obj ms => ms
  | _ => []

/-- The last member of that very name. -/
def member? (name : String) (j : Json) : Option Json :=
  (j.members.findRev? fun m => m.1 = name).map Prod.snd

def str? : Json → Option String
  | .str s => some s
  | _ => none

theorem str?_eq_some {j : Json} {s : String} (h : j.str? = some s) : j = .str s := by
  cases j with
  | str t =>
      cases h
      rfl
  | _ => cases h

/-- The last member of that name, or `null`. -/
def get (j : Json) (name : String) : Json := (j.member? name).getD .null

theorem mem_of_member? {j value : Json} {name : String} (h : j.member? name = some value) :
    (name, value) ∈ j.members := by
  unfold member? at h
  rw [List.findRev?_eq_find?_reverse, Option.map_eq_some_iff] at h
  obtain ⟨m, hm, rfl⟩ := h
  have hname : m.1 = name := by simpa using List.find?_some hm
  rw [← hname]
  exact List.mem_reverse.mp (List.mem_of_find?_eq_some hm)

/-- With distinct names a member is the one found under its name. -/
theorem member?_eq_some {j : Json} (hnodup : (j.members.map Prod.fst).Nodup) {m : String × Json}
    (hm : m ∈ j.members) : j.member? m.1 = some m.2 := by
  unfold member?
  rw [List.findRev?_eq_find?_reverse]
  cases hfind : j.members.reverse.find? fun n => n.1 = m.1 with
  | none =>
      have hno := List.find?_eq_none.mp hfind m (List.mem_reverse.mpr hm)
      simp at hno
  | some n =>
      have hn : n ∈ j.members := List.mem_reverse.mp (List.mem_of_find?_eq_some hfind)
      have hname : n.1 = m.1 := by simpa using List.find?_some hfind
      rw [List.inj_on_of_nodup_map hnodup hn hm hname]
      rfl

/-- A map filled with the members holds the last one of each name. -/
theorem lookup_insertAll (members : List (String × Json)) (name : String) :
    (Dict.insertAll members ∅ : Dict String Json).lookup name = (obj members).member? name := by
  simp [Dict.lookup_insertAll, member?, Json.members]

mutual

/-- Whether two documents are the same, in the order and the digits of their texts. -/
def decEq : (a b : Json) → Decidable (a = b)
  | .null, .null => isTrue rfl
  | .bool a, .bool b => decidable_of_iff (a = b) (by simp)
  | .num a, .num b => decidable_of_iff (a = b) (by simp)
  | .str a, .str b => decidable_of_iff (a = b) (by simp)
  | .arr as, .arr bs =>
      match decEqElems as bs with
      | isTrue h => isTrue (by rw [h])
      | isFalse h => isFalse (by simpa using h)
  | .obj ms, .obj ns =>
      match decEqMembers ms ns with
      | isTrue h => isTrue (by rw [h])
      | isFalse h => isFalse (by simpa using h)
  | .null, .bool _ | .null, .num _ | .null, .str _ | .null, .arr _ | .null, .obj _
  | .bool _, .null | .bool _, .num _ | .bool _, .str _ | .bool _, .arr _ | .bool _, .obj _
  | .num _, .null | .num _, .bool _ | .num _, .str _ | .num _, .arr _ | .num _, .obj _
  | .str _, .null | .str _, .bool _ | .str _, .num _ | .str _, .arr _ | .str _, .obj _
  | .arr _, .null | .arr _, .bool _ | .arr _, .num _ | .arr _, .str _ | .arr _, .obj _
  | .obj _, .null | .obj _, .bool _ | .obj _, .num _ | .obj _, .str _ | .obj _, .arr _ =>
      isFalse nofun

def decEqElems : (as bs : List Json) → Decidable (as = bs)
  | [], [] => isTrue rfl
  | a :: as, b :: bs =>
      match decEq a b, decEqElems as bs with
      | isTrue h, isTrue h' => isTrue (by rw [h, h'])
      | isFalse h, _ => isFalse fun heq => h (List.cons.inj heq).1
      | _, isFalse h => isFalse fun heq => h (List.cons.inj heq).2
  | [], _ :: _ | _ :: _, [] => isFalse nofun

def decEqMembers : (ms ns : List (String × Json)) → Decidable (ms = ns)
  | [], [] => isTrue rfl
  | (m, a) :: ms, (n, b) :: ns =>
      match decEq a b, decEqMembers ms ns with
      | isTrue h, isTrue h' => decidable_of_iff (m = n) (by simp [h, h'])
      | isFalse h, _ => isFalse fun heq => h (Prod.mk.inj (List.cons.inj heq).1).2
      | _, isFalse h => isFalse fun heq => h (List.cons.inj heq).2
  | [], _ :: _ | _ :: _, [] => isFalse nofun

end

instance : DecidableEq Json := decEq

mutual

/-- How deep arrays and objects are nested. -/
def depth : Json → ℕ
  | .arr elems => depthElems elems + 1
  | .obj members => depthMembers members + 1
  | _ => 0

def depthElems : List Json → ℕ
  | [] => 0
  | j :: js => max (depth j) (depthElems js)

def depthMembers : List (String × Json) → ℕ
  | [] => 0
  | (_, j) :: ms => max (depth j) (depthMembers ms)

end

mutual

/-- The document and every document inside it. -/
def parts : Json → List Json
  | .arr elems => .arr elems :: partsElems elems
  | .obj members => .obj members :: partsMembers members
  | j => [j]

def partsElems : List Json → List Json
  | [] => []
  | j :: js => parts j ++ partsElems js

def partsMembers : List (String × Json) → List Json
  | [] => []
  | (_, j) :: ms => parts j ++ partsMembers ms

end

/-- No object repeats a member name. -/
def DistinctNames (j : Json) : Prop := ∀ part ∈ j.parts, (part.members.map Prod.fst).Nodup

theorem mem_parts_self (j : Json) : j ∈ j.parts := by
  cases j <;> simp [parts]

theorem parts_elem {j : Json} {elems : List Json} (h : j ∈ elems) : parts j ⊆ partsElems elems := by
  induction elems with
  | nil => cases h
  | cons k ks ih =>
      rw [partsElems]
      obtain rfl | hmem := List.mem_cons.mp h
      · exact List.subset_append_left _ _
      · exact List.Subset.trans (ih hmem) (List.subset_append_right _ _)

theorem parts_member {m : String × Json} {members : List (String × Json)} (h : m ∈ members) :
    parts m.2 ⊆ partsMembers members := by
  induction members with
  | nil => cases h
  | cons n ns ih =>
      rw [partsMembers]
      obtain rfl | hmem := List.mem_cons.mp h
      · exact List.subset_append_left _ _
      · exact List.Subset.trans (ih hmem) (List.subset_append_right _ _)

theorem DistinctNames.members {j : Json} (h : j.DistinctNames) : (j.members.map Prod.fst).Nodup :=
  h j (mem_parts_self j)

theorem DistinctNames.elem {j : Json} {elems : List Json} (h : (arr elems).DistinctNames)
    (hj : j ∈ elems) : j.DistinctNames := by
  intro part hpart
  exact h part (List.mem_cons_of_mem _ (parts_elem hj hpart))

theorem DistinctNames.member {m : String × Json} {members : List (String × Json)}
    (h : (obj members).DistinctNames) (hm : m ∈ members) : m.2.DistinctNames := by
  intro part hpart
  exact h part (List.mem_cons_of_mem _ (parts_member hm hpart))

end Json

end IdentityModel
