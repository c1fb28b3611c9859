import IdentityModel.Json

/-!
# JSON values

What a document comes to in a program: a tree with scalars at its leaves, whose objects have one
member of a name, in the order of the names. Which scalars there are is up to the program, and so
is when two of them are equal; two values are equal when they have one shape and equal scalars at
each place.
-/
namespace IdentityModel

/-- A value over a type of scalars. -/
inductive Value (σ : Type)
  | scalar (s : σ)
  | arr (elems : List (Value σ))
  | obj (members : List (String × Value σ))

namespace Value

variable {σ τ : Type}

mutual

/-- Replace the scalars. -/
def map (f : σ → τ) : Value σ → Value τ
  | .scalar s => .scalar (f s)
  | .arr elems => .arr (mapElems f elems)
  | .obj members => .obj (mapMembers f members)

def mapElems (f : σ → τ) : List (Value σ) → List (Value τ)
  | [] => []
  | v :: vs => map f v :: mapElems f vs

def mapMembers (f : σ → τ) : List (String × Value σ) → List (String × Value τ)
  | [] => []
  | (name, v) :: ms => (name, map f v) :: mapMembers f ms

end

mutual

/-- The scalars of two values that stand at the same places, if the values have one shape. -/
def aligned : Value σ → Value τ → Option (List (σ × τ))
  | .scalar s, .scalar t => some [(s, t)]
  | .arr vs, .arr ws => alignedElems vs ws
  | .obj ms, .obj ns => alignedMembers ms ns
  | .scalar _, .arr _ | .scalar _, .obj _ | .arr _, .scalar _ | .arr _, .obj _ | .obj _, .scalar _
  | .obj _, .arr _ => none

def alignedElems : List (Value σ) → List (Value τ) → Option (List (σ × τ))
  | [], [] => some []
  | v :: vs, w :: ws =>
      match aligned v w, alignedElems vs ws with
      | some ps, some qs => some (ps ++ qs)
      | _, _ => none
  | [], _ :: _ | _ :: _, [] => none

def alignedMembers : List (String × Value σ) → List (String × Value τ) → Option (List (σ × τ))
  | [], [] => some []
  | (m, v) :: ms, (n, w) :: ns =>
      match aligned v w, alignedMembers ms ns with
      | some ps, some qs => if m = n then some (ps ++ qs) else none
      | _, _ => none
  | [], _ :: _ | _ :: _, [] => none

end

/-- Equality of values, given that of scalars. -/
def equalBy (eq : σ → τ → Bool) (v : Value σ) (w : Value τ) : Bool :=
  (aligned v w).any fun ps => ps.all fun p => eq p.1 p.2

theorem equalBy_iff {eq : σ → τ → Bool} {v : Value σ} {w : Value τ} :
    equalBy eq v w = true ↔ ∃ ps, aligned v w = some ps ∧ ∀ p ∈ ps, eq p.1 p.2 = true := by
  unfold equalBy
  cases aligned v w with
  | none => simp
  | some ps => simp

theorem equalBy_of_aligned {eq : σ → τ → Bool} {v : Value σ} {w : Value τ} {ps : List (σ × τ)}
    (h : aligned v w = some ps) : equalBy eq v w = true ↔ ∀ p ∈ ps, eq p.1 p.2 = true := by
  rw [equalBy, h, Option.any_some, List.all_eq_true]

section Equality

mutual

theorem eq_of_aligned : ∀ {v w : Value σ} {ps : List (σ × σ)}, aligned v w = some ps →
    (∀ p ∈ ps, p.1 = p.2) → v = w
  | .scalar s, .scalar t, ps, h, heq => by
      obtain rfl := Option.some.inj h
      exact congrArg scalar (heq (s, t) List.mem_cons_self)
  | .arr vs, .arr ws, _, h, heq => by rw [eq_of_alignedElems h heq]
  | .obj ms, .obj ns, _, h, heq => by rw [eq_of_alignedMembers h heq]
  | .scalar _, .arr _, _, h, _ | .scalar _, .obj _, _, h, _ | .arr _, .scalar _, _, h, _
  | .arr _, .obj _, _, h, _ | .obj _, .scalar _, _, h, _ | .obj _, .arr _, _, h, _ => nomatch h

theorem eq_of_alignedElems : ∀ {vs ws : List (Value σ)} {ps : List (σ × σ)},
    alignedElems vs ws = some ps → (∀ p ∈ ps, p.1 = p.2) → vs = ws
  | [], [], _, _, _ => rfl
  | v :: vs, w :: ws, ps, h, heq => by
      rw [alignedElems] at h
      split at h
      · next qs rs hhead htail =>
          obtain rfl := Option.some.inj h
          rw [eq_of_aligned hhead fun p hp => heq p (List.mem_append_left _ hp),
            eq_of_alignedElems htail fun p hp => heq p (List.mem_append_right _ hp)]
      · cases h
  | [], _ :: _, _, h, _ | _ :: _, [], _, h, _ => nomatch h

theorem eq_of_alignedMembers : ∀ {ms ns : List (String × Value σ)} {ps : List (σ × σ)},
    alignedMembers ms ns = some ps → (∀ p ∈ ps, p.1 = p.2) → ms = ns
  | [], [], _, _, _ => rfl
  | (m, v) :: ms, (n, w) :: ns, ps, h, heq => by
      rw [alignedMembers] at h
      split at h
      · next qs rs hhead htail =>
          split at h
          · next hname =>
              obtain rfl := Option.some.inj h
              rw [hname, eq_of_aligned hhead fun p hp => heq p (List.mem_append_left _ hp),
                eq_of_alignedMembers htail fun p hp => heq p (List.mem_append_right _ hp)]
          · cases h
      · cases h
  | [], _ :: _, _, h, _ | _ :: _, [], _, h, _ => nomatch h

end

mutual

theorem aligned_self : ∀ v : Value σ, ∃ ps, aligned v v = some ps ∧ ∀ p ∈ ps, p.1 = p.2
  | .scalar s => ⟨[(s, s)], rfl, by simp⟩
  | .arr vs => alignedElems_self vs
  | .obj ms => alignedMembers_self ms

theorem alignedElems_self : ∀ vs : List (Value σ),
    ∃ ps, alignedElems vs vs = some ps ∧ ∀ p ∈ ps, p.1 = p.2
  | [] => ⟨[], rfl, by simp⟩
  | v :: vs => by
      obtain ⟨ps, hps, heq⟩ := aligned_self v
      obtain ⟨qs, hqs, heq'⟩ := alignedElems_self vs
      refine ⟨ps ++ qs, by rw [alignedElems, hps, hqs], ?_⟩
      exact List.forall_mem_append.mpr ⟨heq, heq'⟩

theorem alignedMembers_self : ∀ ms : List (String × Value σ),
    ∃ ps, alignedMembers ms ms = some ps ∧ ∀ p ∈ ps, p.1 = p.2
  | [] => ⟨[], rfl, by simp⟩
  | (name, v) :: ms => by
      obtain ⟨ps, hps, heq⟩ := aligned_self v
      obtain ⟨qs, hqs, heq'⟩ := alignedMembers_self ms
      refine ⟨ps ++ qs, by simp only [alignedMembers, hps, hqs, if_true], ?_⟩
      exact List.forall_mem_append.mpr ⟨heq, heq'⟩

end

/-- Where equal scalars are the same, equal values are. -/
theorem equalBy_eq [DecidableEq σ] {v w : Value σ} :
    equalBy (fun s t => decide (s = t)) v w = true ↔ v = w := by
  rw [equalBy_iff]
  constructor
  · rintro ⟨ps, hps, heq⟩
    exact eq_of_aligned hps fun p hp => of_decide_eq_true (heq p hp)
  · rintro rfl
    obtain ⟨ps, hps, heq⟩ := aligned_self v
    exact ⟨ps, hps, fun p hp => decide_eq_true (heq p hp)⟩

end Equality

section Map

variable {σ' τ' : Type} (f : σ → σ') (g : τ → τ')

mutual

/-- Replacing scalars keeps the shape. -/
theorem aligned_map : ∀ (v : Value σ) (w : Value τ),
    aligned (v.map f) (w.map g) = (aligned v w).map (List.map (Prod.map f g))
  | .scalar _, .scalar _ => rfl
  | .arr vs, .arr ws => alignedElems_map vs ws
  | .obj ms, .obj ns => alignedMembers_map ms ns
  | .scalar _, .arr _ | .scalar _, .obj _ | .arr _, .scalar _ | .arr _, .obj _ | .obj _, .scalar _
  | .obj _, .arr _ => rfl

theorem alignedElems_map : ∀ (vs : List (Value σ)) (ws : List (Value τ)),
    alignedElems (mapElems f vs) (mapElems g ws) =
      (alignedElems vs ws).map (List.map (Prod.map f g))
  | [], [] => rfl
  | v :: vs, w :: ws => by
      rw [mapElems, mapElems, alignedElems, alignedElems, aligned_map v w, alignedElems_map vs ws]
      cases aligned v w <;> cases alignedElems vs ws <;> simp
  | [], _ :: _ | _ :: _, [] => rfl

theorem alignedMembers_map : ∀ (ms : List (String × Value σ)) (ns : List (String × Value τ)),
    alignedMembers (mapMembers f ms) (mapMembers g ns) =
      (alignedMembers ms ns).map (List.map (Prod.map f g))
  | [], [] => rfl
  | (m, v) :: ms, (n, w) :: ns => by
      rw [mapMembers, mapMembers, alignedMembers, alignedMembers, aligned_map v w,
        alignedMembers_map ms ns]
      by_cases hname : m = n
      · cases aligned v w <;> cases alignedMembers ms ns <;> simp [hname]
      · cases aligned v w <;> cases alignedMembers ms ns <;> simp [hname]
  | [], _ :: _ | _ :: _, [] => rfl

end

theorem equalBy_map {eq : σ' → τ' → Bool} (v : Value σ) (w : Value τ) :
    equalBy eq (v.map f) (w.map g) = equalBy (fun s t => eq (f s) (g t)) v w := by
  unfold equalBy
  rw [aligned_map]
  cases aligned v w with
  | none => rfl
  | some ps => simp [Function.comp_def]

end Map

/-- A member that comes later takes the place of one of its name. -/
def insertMember (name : String) (v : Value σ) :
    List (String × Value σ) → List (String × Value σ)
  | [] => [(name, v)]
  | (n, w) :: ms =>
      if name < n then (name, v) :: (n, w) :: ms
      else if name = n then (n, v) :: ms
      else (n, w) :: insertMember name v ms

def ofMembers (ms : List (String × Value σ)) : List (String × Value σ) :=
  ms.foldl (fun acc m => insertMember m.1 m.2 acc) []

end Value

/-- The scalars of JSON, over a type of numbers. -/
inductive Scalar (ν : Type)
  | null
  | bool (b : Bool)
  | num (n : ν)
  | str (s : String)
  deriving DecidableEq

def Scalar.map {ν μ : Type} (f : ν → μ) : Scalar ν → Scalar μ
  | .null => .null
  | .bool b => .bool b
  | .num n => .num (f n)
  | .str s => .str s

namespace Json

mutual

/-- The value of a document; its numbers are literals. -/
def read : Json → Value (Scalar Number)
  | .null => .scalar .null
  | .bool b => .scalar (.bool b)
  | .num n => .scalar (.num n)
  | .str s => .scalar (.str s)
  | .arr elems => .arr (readElems elems)
  | .obj members => .obj (Value.ofMembers (readMembers members))

def readElems : List Json → List (Value (Scalar Number))
  | [] => []
  | j :: js => read j :: readElems js

def readMembers : List (String × Json) → List (String × Value (Scalar Number))
  | [] => []
  | (name, j) :: ms => (name, read j) :: readMembers ms

end

/-- Scalars of one type and, for numbers, of exactly the same value. -/
def sameScalar : Scalar Number → Scalar Number → Bool
  | .null, .null => true
  | .bool a, .bool b => a = b
  | .num m, .num n => m.value = n.value
  | .str s, .str t => s = t
  | _, _ => false

/-- Exact equality of the values of documents. -/
def same (a b : Json) : Bool := a.read.equalBy sameScalar b.read

example : same (.obj [("a", .null), ("b", .arr []), ("a", .bool true)])
    (.obj [("b", .arr []), ("a", .bool true)]) = true := by decide

end Json

end IdentityModel
