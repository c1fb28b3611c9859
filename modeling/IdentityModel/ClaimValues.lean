import IdentityModel.GoKeySet
import IdentityModel.IdTokens
import IdentityModel.JsonValue

/-!
# Required claim values in Python and Go

`require_claim_value` of `core/claims_validation.py` and `RequireClaimValue` of
`go/pkg/jwt/claims_validation.go`. Python compares what the two documents were decoded to, where
`True` is 1; Go decodes both again, where every number is a `float64`. Either is exact equality of
the two documents unless scalars at the same place are confused.
-/
namespace IdentityModel.ClaimValues

open Combinators

namespace Py

open IdTokens.Py renaming Num → PyNum

/-- Equality of numbers, exact between `int` and `float`; a float that is no number equals none. -/
def numEq (a b : PyNum) : Bool := a.exact = b.exact && a.exact ≠ .nan

/-- The number a scalar is; a `bool` is an `int`. -/
def number : Scalar PyNum → Option PyNum
  | .bool b => some (.int (if b then 1 else 0))
  | .num n => some n
  | _ => none

/-- `==` of scalars. -/
def scalarEq : Scalar PyNum → Scalar PyNum → Bool
  | .null, .null => true
  | .str a, .str b => a = b
  | s, t =>
      match number s, number t with
      | some a, some b => numEq a b
      | _, _ => false

/-- What a document is decoded to. -/
def decode (j : Json) : Value (Scalar PyNum) := j.read.map (Scalar.map PyNum.ofLiteral)

/-- `require_claim_value`; `reprs` is what `!r` prints of the name and of the value. -/
def requireClaimValue (reprs : String × String) (name : String) (value : Json) :
    Combinators.Py.ClaimsValidator Json := fun claims =>
  let reject := .error (.claimsValidationError
    ("claim " ++ reprs.1 ++ " must equal " ++ reprs.2) (some name))
  match claims.member? name with
  | none => reject
  | some claim => if (decode claim).equalBy scalarEq (decode value) then .ok () else reject

end Py

namespace Go

open GoKeySet (maxNestingDepth)
open Scopes.Go (beyondFloat overflows)

/-- A scalar as `encoding/json` decodes it; a number out of range leaves nil. -/
def scalar : Scalar Number → Scalar ℚ
  | .null => .null
  | .bool b => .bool b
  | .num n =>
      match Float64.ofRat n.value with
      | .finite q => .num q
      | _ => .null
  | .str s => .str s

/-- A text that `json.Unmarshal` reports an error for: it is nested too deeply, or a number is out
of range. -/
def Refused (j : Json) : Prop := maxNestingDepth < j.depth ∨ overflows j = true

instance (j : Json) : Decidable (Refused j) := inferInstanceAs (Decidable (_ ∨ _))

/-- What `json.Unmarshal` leaves in an `any`, also where it reports an error: nothing is decoded of
a text nested too deeply. -/
def unmarshal (j : Json) : Value (Scalar ℚ) :=
  if maxNestingDepth < j.depth then .scalar .null else j.read.map scalar

/-- `reflect.DeepEqual`. -/
def deepEqual (v w : Value (Scalar ℚ)) : Bool := v.equalBy (fun s t => decide (s = t)) w

/-- `RequireClaimValue`; `marshaled` is what `json.Marshal` makes of the value, and `texts` the
name under `%q` and the value under `%v`. -/
def requireClaimValue (texts : String × String) (name : String) (marshaled : Except String Json) :
    Combinators.Go.ClaimsValidator GoClaims.Claims := fun claims =>
  let reject := some (.claimsValidation ("claim " ++ texts.1 ++ " must equal " ++ texts.2) name)
  match claims.getClaim name with
  | none => reject
  | some raw =>
      match marshaled with
      | .error _ => reject
      | .ok value =>
          if Refused raw then reject
          else if deepEqual (unmarshal raw) (unmarshal value) then none
          else reject

end Go

/-- Values of one shape that a program confuses: scalars that differ are equal there and the others
are too, or all scalars are the same but some are not equal there. -/
inductive Mistaken (blurs splits : Scalar Number → Scalar Number → Prop)
    (v w : Value (Scalar Number)) : Prop
  | blurred {ps : List (Scalar Number × Scalar Number)} (haligned : v.aligned w = some ps)
      (hall : ∀ p ∈ ps, (Json.sameScalar p.1 p.2 = true ∧ ¬ splits p.1 p.2) ∨ blurs p.1 p.2)
      (hsome : ∃ p ∈ ps, blurs p.1 p.2)
  | split {ps : List (Scalar Number × Scalar Number)} (haligned : v.aligned w = some ps)
      (hall : ∀ p ∈ ps, Json.sameScalar p.1 p.2 = true) (hsome : ∃ p ∈ ps, splits p.1 p.2)

/-- What an equality of scalars makes of those that differ, and of those that are the same. -/
structure Confuses (eq : Scalar Number → Scalar Number → Bool)
    (blurs splits : Scalar Number → Scalar Number → Prop) : Prop where
  eq_iff : ∀ s t, eq s t = true ↔ (Json.sameScalar s t = true ∧ ¬ splits s t) ∨ blurs s t
  differ : ∀ {s t}, blurs s t → Json.sameScalar s t = false

section Agreement

variable {eq : Scalar Number → Scalar Number → Bool}
  {blurs splits : Scalar Number → Scalar Number → Prop} {v w : Value (Scalar Number)}

/-- Only values of one shape are confused. -/
theorem not_mistaken (h : v.aligned w = none) : ¬ Mistaken blurs splits v w := by
  rintro (⟨haligned, -, -⟩ | ⟨haligned, -, -⟩)
  · rw [h] at haligned
    cases haligned
  · rw [h] at haligned
    cases haligned

theorem mistaken_iff {ps : List (Scalar Number × Scalar Number)} (h : v.aligned w = some ps) :
    Mistaken blurs splits v w ↔
      ((∀ p ∈ ps, (Json.sameScalar p.1 p.2 = true ∧ ¬ splits p.1 p.2) ∨ blurs p.1 p.2) ∧
        ∃ p ∈ ps, blurs p.1 p.2) ∨
      (∀ p ∈ ps, Json.sameScalar p.1 p.2 = true) ∧ ∃ p ∈ ps, splits p.1 p.2 := by
  constructor
  · rintro (⟨haligned, hall, hsome⟩ | ⟨haligned, hall, hsome⟩)
    · obtain rfl := Option.some.inj (h.symm.trans haligned)
      exact .inl ⟨hall, hsome⟩
    · obtain rfl := Option.some.inj (h.symm.trans haligned)
      exact .inr ⟨hall, hsome⟩
  · rintro (⟨hall, hsome⟩ | ⟨hall, hsome⟩)
    · exact .blurred h hall hsome
    · exact .split h hall hsome

/-- The equality of a program is the exact one where nothing is confused. -/
theorem equalBy_agree (h : Confuses eq blurs splits) (v w : Value (Scalar Number)) :
    (v.equalBy eq w = true ↔ v.equalBy Json.sameScalar w = true) ↔ ¬ Mistaken blurs splits v w := by
  cases haligned : v.aligned w with
  | none =>
      have hnone (eq : Scalar Number → Scalar Number → Bool) : v.equalBy eq w = false := by
        rw [Value.equalBy, haligned, Option.any_none]
      simp [hnone, not_mistaken haligned]
  | some ps =>
      rw [Value.equalBy_of_aligned haligned, Value.equalBy_of_aligned haligned,
        mistaken_iff haligned]
      simp only [h.eq_iff]
      constructor
      · rintro hagree (⟨hall, p, hp, hblurs⟩ | ⟨hall, p, hp, hsplits⟩)
        · have hsame := hagree.mp hall p hp
          rw [h.differ hblurs] at hsame
          cases hsame
        · obtain ⟨-, hkept⟩ | hblurs := hagree.mpr hall p hp
          · exact hkept hsplits
          · have hsame := hall p hp
            rw [h.differ hblurs] at hsame
            cases hsame
      · intro hkept
        constructor
        · intro hall p hp
          obtain ⟨hsame, -⟩ | hblurs := hall p hp
          · exact hsame
          · exact absurd (.inl ⟨hall, p, hp, hblurs⟩) hkept
        · intro hall p hp
          exact .inl ⟨hall p hp, fun hsplits => hkept (.inr ⟨hall, p, hp, hsplits⟩)⟩

end Agreement

namespace Py

open IdTokens.Py renaming Num → PyNum

/-- Scalars that are equal in Python though they differ: a boolean beside the number it is, or
numbers that are read as equal ones. -/
@[mk_iff]
inductive Blurs : Scalar Number → Scalar Number → Prop
  | truth {b : Bool} {n : Number} (h : (PyNum.ofLiteral n).exact = .finite (if b then 1 else 0)) :
      Blurs (.bool b) (.num n)
  | number {b : Bool} {n : Number} (h : (PyNum.ofLiteral n).exact = .finite (if b then 1 else 0)) :
      Blurs (.num n) (.bool b)
  | rounding {m n : Number} (hdiffer : m.value ≠ n.value)
      (h : (PyNum.ofLiteral m).exact = (PyNum.ofLiteral n).exact) : Blurs (.num m) (.num n)

/-- Numbers of one value that are not equal in Python: one is read exactly and the other rounded. -/
@[mk_iff]
inductive Splits : Scalar Number → Scalar Number → Prop
  | rounding {m n : Number} (hsame : m.value = n.value)
      (h : (PyNum.ofLiteral m).exact ≠ (PyNum.ofLiteral n).exact) : Splits (.num m) (.num n)

theorem ofRat_ne_nan (q : ℚ) : Float64.ofRat q ≠ .nan := by
  unfold Float64.ofRat
  split
  · nofun
  · dsimp only
    split <;> nofun

theorem exact_ne_nan (n : Number) : (PyNum.ofLiteral n).exact ≠ .nan := by
  unfold PyNum.ofLiteral
  split
  · nofun
  · exact ofRat_ne_nan n.value

theorem ofLiteral_numEq (n : Number) (a : PyNum) :
    numEq (.ofLiteral n) a = true ↔ (PyNum.ofLiteral n).exact = a.exact := by
  simp [numEq, exact_ne_nan]

theorem numEq_ofLiteral (a : PyNum) (n : Number) :
    numEq a (.ofLiteral n) = true ↔ a.exact = (PyNum.ofLiteral n).exact := by
  rw [numEq, Bool.and_eq_true, decide_eq_true_iff, decide_eq_true_iff]
  constructor
  · rintro ⟨h, -⟩
    exact h
  · intro h
    exact ⟨h, by rw [h]; exact exact_ne_nan n⟩

theorem confuses : Confuses
    (fun s t => scalarEq (s.map PyNum.ofLiteral) (t.map PyNum.ofLiteral)) Blurs Splits where
  eq_iff s t := by
    cases s with
    | null =>
        cases t <;> simp [blurs_iff, splits_iff, scalarEq, number, Scalar.map, Json.sameScalar]
    | str a =>
        cases t <;> simp [blurs_iff, splits_iff, scalarEq, number, Scalar.map, Json.sameScalar]
    | bool b =>
        cases t with
        | bool c =>
            cases b <;> cases c <;>
              simp [blurs_iff, splits_iff, scalarEq, number, Scalar.map, Json.sameScalar, numEq,
                PyNum.exact]
        | num n =>
            simp only [scalarEq, number, Scalar.map, Json.sameScalar, numEq_ofLiteral]
            cases b <;> simp [blurs_iff, PyNum.exact, eq_comm]
        | _ => simp [blurs_iff, splits_iff, scalarEq, number, Scalar.map, Json.sameScalar]
    | num m =>
        cases t with
        | bool c =>
            simp only [scalarEq, number, Scalar.map, Json.sameScalar, ofLiteral_numEq]
            cases c <;> simp [blurs_iff, PyNum.exact]
        | num n =>
            simp only [scalarEq, number, Scalar.map, Json.sameScalar, ofLiteral_numEq]
            by_cases hvalue : m.value = n.value <;> simp [blurs_iff, splits_iff, hvalue]
        | _ => simp [blurs_iff, splits_iff, scalarEq, number, Scalar.map, Json.sameScalar]
  differ h := by
    cases h with
    | truth h => rfl
    | number h => rfl
    | rounding hdiffer h => simpa [Json.sameScalar] using hdiffer

end Py

namespace Go

open Scopes.Go (beyondFloat)

/-- Scalars that are equal in Go though they differ: numbers that are rounded to the same float, or
both of them out of range, and null beside a number out of range. -/
@[mk_iff]
inductive Blurs : Scalar Number → Scalar Number → Prop
  | rounding {m n : Number} (hdiffer : m.value ≠ n.value) (h : scalar (.num m) = scalar (.num n)) :
      Blurs (.num m) (.num n)
  | beyond {n : Number} (h : beyondFloat n = true) : Blurs .null (.num n)
  | null {n : Number} (h : beyondFloat n = true) : Blurs (.num n) .null

@[simp] theorem scalar_null : scalar .null = .null := rfl

@[simp] theorem scalar_bool (b : Bool) : scalar (.bool b) = .bool b := rfl

@[simp] theorem scalar_str (s : String) : scalar (.str s) = .str s := rfl

/-- A number is decoded to nil when it is out of range. -/
theorem scalar_num (n : Number) : scalar (.num n) = .null ∧ beyondFloat n = true ∨
    ∃ q, scalar (.num n) = .num q ∧ beyondFloat n = false := by
  cases h : Float64.ofRat n.value <;> simp [scalar, beyondFloat, h]

@[simp] theorem scalar_num_eq_null (n : Number) : scalar (.num n) = .null ↔ beyondFloat n = true := by
  obtain ⟨h, hbeyond⟩ | ⟨q, h, hbeyond⟩ := scalar_num n <;> simp [h, hbeyond]

@[simp] theorem scalar_num_ne_bool (n : Number) (b : Bool) : scalar (.num n) ≠ .bool b := by
  obtain ⟨h, -⟩ | ⟨q, h, -⟩ := scalar_num n <;> simp [h]

@[simp] theorem scalar_num_ne_str (n : Number) (s : String) : scalar (.num n) ≠ .str s := by
  obtain ⟨h, -⟩ | ⟨q, h, -⟩ := scalar_num n <;> simp [h]

theorem scalar_num_congr {m n : Number} (h : m.value = n.value) :
    scalar (.num m) = scalar (.num n) := by
  simp only [scalar, h]

theorem confuses : Confuses (fun s t => decide (scalar s = scalar t)) Blurs fun _ _ => False where
  eq_iff s t := by
    rw [decide_eq_true_iff]
    cases s with
    | num m =>
        cases t with
        | num n =>
            by_cases hvalue : m.value = n.value
            · simp [blurs_iff, Json.sameScalar, hvalue, scalar_num_congr hvalue]
            · simp [blurs_iff, Json.sameScalar, hvalue]
        | _ => simp [blurs_iff, Json.sameScalar]
    | _ =>
        cases t with
        | num n =>
            rw [eq_comm]
            simp [blurs_iff, Json.sameScalar]
        | _ => simp [blurs_iff, Json.sameScalar]
  differ h := by
    cases h with
    | rounding hdiffer h => simpa [Json.sameScalar] using hdiffer
    | beyond h => rfl
    | null h => rfl

end Go

/-- The claim is present, and exactly equal to a value. -/
def HasValue (claims : Json) (name : String) (value : Json) : Prop :=
  ∃ raw, claims.member? name = some raw ∧ raw.same value = true

theorem exists_some_agree {α : Type} {o : Option α} {p q : α → Prop} :
    ((∃ a, o = some a ∧ p a) ↔ ∃ a, o = some a ∧ q a) ↔ ∀ a, o = some a → (p a ↔ q a) := by
  cases o <;> simp

namespace Py

open IdTokens.Py renaming Num → PyNum

theorem requireClaimValue_eq_ok {reprs : String × String} {name : String} {value claims : Json} :
    requireClaimValue reprs name value claims = .ok () ↔
      ∃ raw, claims.member? name = some raw ∧
        (decode raw).equalBy scalarEq (decode value) = true := by
  unfold requireClaimValue
  cases claims.member? name with
  | none => simp
  | some raw => simp

/-- A claim is accepted exactly if it has the value. -/
def Law (reprs : String × String) (claims : Json) (name : String) (value : Json) : Prop :=
  requireClaimValue reprs name value claims = .ok () ↔ HasValue claims name value

theorem law_iff {reprs : String × String} {claims : Json} {name : String} {value : Json} :
    Law reprs claims name value ↔ ∀ raw, claims.member? name = some raw →
      ¬ Mistaken Blurs Splits raw.read value.read := by
  unfold Law HasValue
  rw [requireClaimValue_eq_ok, exists_some_agree]
  refine forall_congr' fun raw => imp_congr_right fun _ => ?_
  rw [decode, decode, Value.equalBy_map]
  exact equalBy_agree confuses raw.read value.read

end Py

namespace Go

open GoKeySet (maxNestingDepth)
open Scopes.Go (beyondFloat overflows)

/-- Whether a claim that is present is accepted. -/
def Accepted (raw value : Json) : Prop :=
  ¬ Refused raw ∧ deepEqual (unmarshal raw) (unmarshal value) = true

theorem requireClaimValue_eq_none {texts : String × String} {name : String} {value : Json}
    {c : GoClaims.Claims} : requireClaimValue texts name (.ok value) c = none ↔
      ∃ raw, c.getClaim name = some raw ∧ Accepted raw value := by
  unfold requireClaimValue Accepted
  cases c.getClaim name with
  | none => simp
  | some raw =>
      by_cases hraw : Refused raw
      · simp [hraw]
      · simp [hraw]

/-- A claim and an expected value that are judged wrongly: a claim that cannot be decoded, though
it is the same; an expected value nested too deeply, which is decoded to nil; or values that are
confused. -/
inductive Misjudged (raw value : Json) : Prop
  | refused (hraw : Refused raw) (hsame : raw.same value = true)
  | deepNull (hraw : raw = .null) (hdeep : maxNestingDepth < value.depth)
  | deepSame (hdeep : maxNestingDepth < value.depth) (hsame : raw.same value = true)
  | blurred (hraw : ¬ Refused raw) (hdeep : value.depth ≤ maxNestingDepth)
      (h : Mistaken Blurs (fun _ _ => False) raw.read value.read)

theorem same_null {value : Json} (h : Json.same .null value = true) : value = .null := by
  cases value with
  | null => rfl
  | _ => simp [Json.same, Json.read, Value.equalBy, Value.aligned, Json.sameScalar] at h

/-- Only null is decoded to nil. -/
theorem map_scalar_eq_null {raw : Json} (h : ¬ Refused raw) :
    raw.read.map scalar = .scalar .null ↔ raw = .null := by
  cases raw with
  | num n =>
      have hrange : beyondFloat n = false := by
        by_contra hbeyond
        exact h (.inr (by simpa [overflows] using hbeyond))
      simp [Json.read, Value.map, hrange]
  | _ => simp [Json.read, Value.map]

section Judged

variable {raw value : Json}

theorem Refused.ne_null (h : Refused raw) : raw ≠ .null := by
  rintro rfl
  obtain h | h := h
  · simp [Json.depth] at h
  · simp [overflows] at h

theorem unmarshal_of_not_refused (h : ¬ Refused raw) : unmarshal raw = raw.read.map scalar :=
  if_neg fun hdeep => h (.inl hdeep)

/-- A claim that cannot be decoded is not accepted, also where it is the same. -/
theorem judged_refused (hraw : Refused raw) :
    (Accepted raw value ↔ raw.same value = true) ↔ ¬ Misjudged raw value := by
  have hnot : ¬ Accepted raw value := fun h => h.1 hraw
  have hmisjudged : Misjudged raw value ↔ raw.same value = true := by
    constructor
    · rintro (⟨-, hsame⟩ | ⟨hnull, -⟩ | ⟨-, hsame⟩ | ⟨h, -, -⟩)
      · exact hsame
      · exact absurd hnull hraw.ne_null
      · exact hsame
      · exact absurd hraw h
    · exact .refused hraw
  rw [hmisjudged, iff_false_left hnot]

/-- Beside an expected value that is nested too deeply, null is accepted and nothing else. -/
theorem judged_deep (hraw : ¬ Refused raw) (hdeep : maxNestingDepth < value.depth) :
    (Accepted raw value ↔ raw.same value = true) ↔ ¬ Misjudged raw value := by
  have haccepted : Accepted raw value ↔ raw = .null := by
    have hvalue : unmarshal value = .scalar .null := if_pos hdeep
    rw [Accepted, unmarshal_of_not_refused hraw, hvalue, deepEqual, Value.equalBy_eq,
      map_scalar_eq_null hraw]
    exact and_iff_right hraw
  have hmisjudged : Misjudged raw value ↔ raw = .null ∨ raw.same value = true := by
    constructor
    · rintro (⟨h, -⟩ | ⟨hnull, -⟩ | ⟨-, hsame⟩ | ⟨-, hshallow, -⟩)
      · exact absurd h hraw
      · exact .inl hnull
      · exact .inr hsame
      · omega
    · rintro (hnull | hsame)
      · exact .deepNull hnull hdeep
      · exact .deepSame hdeep hsame
  have hdiffer : raw = .null → ¬ raw.same value = true := by
    rintro rfl hsame
    obtain rfl := same_null hsame
    simp [Json.depth] at hdeep
  rw [haccepted, hmisjudged]
  tauto

/-- Where both can be decoded, the numbers are compared as floats. -/
theorem judged_shallow (hraw : ¬ Refused raw) (hdeep : ¬ maxNestingDepth < value.depth) :
    (Accepted raw value ↔ raw.same value = true) ↔ ¬ Misjudged raw value := by
  have haccepted : Accepted raw value ↔
      raw.read.equalBy (fun s t => decide (scalar s = scalar t)) value.read = true := by
    have hvalue : unmarshal value = value.read.map scalar := if_neg hdeep
    rw [Accepted, unmarshal_of_not_refused hraw, hvalue, deepEqual, Value.equalBy_map]
    exact and_iff_right hraw
  have hmisjudged : Misjudged raw value ↔
      Mistaken Blurs (fun _ _ => False) raw.read value.read := by
    constructor
    · rintro (⟨h, -⟩ | ⟨-, h⟩ | ⟨h, -⟩ | ⟨-, -, hmistaken⟩)
      · exact absurd h hraw
      · exact absurd h hdeep
      · exact absurd h hdeep
      · exact hmistaken
    · exact .blurred hraw (not_lt.mp hdeep)
  rw [haccepted, hmisjudged]
  exact equalBy_agree confuses raw.read value.read

/-- When a claim that is present is judged right. -/
theorem judged_iff (raw value : Json) :
    (Accepted raw value ↔ raw.same value = true) ↔ ¬ Misjudged raw value := by
  by_cases hraw : Refused raw
  · exact judged_refused hraw
  · by_cases hdeep : maxNestingDepth < value.depth
    · exact judged_deep hraw hdeep
    · exact judged_shallow hraw hdeep

end Judged

/-- A claim of a payload is accepted exactly if it has the value. -/
def Law (texts : String × String) (c : GoClaims.Claims) (claims : Json) (name : String)
    (value : Json) : Prop :=
  requireClaimValue texts name (.ok value) c = none ↔ HasValue claims name value

theorem getClaim_eq {fmt : GoClaims.Fmt} {c : GoClaims.Claims} {claims : Json}
    (h : GoClaims.parseClaims fmt claims = .ok c) (name : String) :
    c.getClaim name = claims.member? name := by
  obtain ⟨d, all, -, hall, rfl⟩ := GoClaims.parseClaims_ok h
  exact GoClaims.unmarshalMap_lookup hall name

theorem law_iff {texts : String × String} {fmt : GoClaims.Fmt} {c : GoClaims.Claims} {claims : Json}
    (h : GoClaims.parseClaims fmt claims = .ok c) {name : String} {value : Json} :
    Law texts c claims name value ↔ ∀ raw, claims.member? name = some raw →
      ¬ Misjudged raw value := by
  unfold Law HasValue
  rw [requireClaimValue_eq_none, getClaim_eq h, exists_some_agree]
  exact forall_congr' fun raw => imp_congr_right fun _ => judged_iff raw value

end Go

/-- Each accepts exactly the claims that are present with exactly the value, unless scalars are
confused. -/
theorem claim_values_equal_iff (texts : String × String) (claims : Json) (name : String)
    (value : Json) :
    (Py.Law texts claims name value ↔ ∀ raw, claims.member? name = some raw →
      ¬ Mistaken Py.Blurs Py.Splits raw.read value.read) ∧
    ∀ fmt c, GoClaims.parseClaims fmt claims = .ok c →
      (Go.Law texts c claims name value ↔ ∀ raw, claims.member? name = some raw →
        ¬ Go.Misjudged raw value) :=
  ⟨Py.law_iff, fun _ _ h => Go.law_iff h⟩

/-- The literal of a positive integer. -/
def literal (d : Digit) (ds : List Digit) (h : d ≠ 0) : Number :=
  ⟨false, d :: ds, [], none, List.cons_ne_nil d ds, .inr (by simpa using h)⟩

def one : Number := literal 1 [] (by decide)

/-- 2^53 and the next integer. -/
def twoTo53 : Number := literal 9 [0, 0, 7, 1, 9, 9, 2, 5, 4, 7, 4, 0, 9, 9, 2] (by decide)

def nextAccount : Number := literal 9 [0, 0, 7, 1, 9, 9, 2, 5, 4, 7, 4, 0, 9, 9, 3] (by decide)

def confusedClaims : Json := .obj [("admin", .bool true), ("account", .num nextAccount)]

/-- In Python `true` passes for 1, and in Go one large account number for another. -/
theorem values_confused :
    (Py.requireClaimValue ("'admin'", "1") "admin" (.num one) confusedClaims = .ok () ∧
      ¬ HasValue confusedClaims "admin" (.num one)) ∧
    ∃ c, GoClaims.parseClaims ⟨id, fun _ => ""⟩ confusedClaims = .ok c ∧
      Go.requireClaimValue ("\"account\"", "9007199254740992") "account" (.ok (.num twoTo53)) c =
        none ∧
      ¬ HasValue confusedClaims "account" (.num twoTo53) := by
  obtain ⟨c, hc⟩ := Results.exists_of_isOk
    (show (GoClaims.parseClaims ⟨id, fun _ => ""⟩ confusedClaims).isOk = true by decide +kernel)
  refine ⟨⟨Py.requireClaimValue_eq_ok.mpr ⟨.bool true, rfl, by decide +kernel⟩, ?_⟩, c, hc, ?_, ?_⟩
  · rintro ⟨raw, hraw, hsame⟩
    obtain rfl : Json.bool true = raw := Option.some.inj hraw
    cases hsame
  · have haccepted : Go.Accepted (.num nextAccount) (.num twoTo53) :=
      ⟨by decide +kernel, by decide +kernel⟩
    exact Go.requireClaimValue_eq_none.mpr ⟨_, (Go.getClaim_eq hc _).trans rfl, haccepted⟩
  · rintro ⟨raw, hraw, hsame⟩
    obtain rfl : Json.num nextAccount = raw := Option.some.inj hraw
    have hdiffer : Json.same (.num nextAccount) (.num twoTo53) = false := by decide +kernel
    rw [hdiffer] at hsame
    cases hsame

def plainClaims : Json := .obj [("role", .str "admin"), ("sub", .str "alice")]

/-- Strings are not confused. -/
theorem roles_judged :
    Py.Law ("'role'", "'admin'") plainClaims "role" (.str "admin") ∧
    ∃ c, GoClaims.parseClaims ⟨id, fun _ => ""⟩ plainClaims = .ok c ∧
      Go.Law ("'role'", "'admin'") c plainClaims "role" (.str "admin") := by
  obtain ⟨c, hc⟩ := Results.exists_of_isOk
    (show (GoClaims.parseClaims ⟨id, fun _ => ""⟩ plainClaims).isOk = true by decide +kernel)
  obtain ⟨hpy, hgo⟩ :=
    claim_values_equal_iff ("'role'", "'admin'") plainClaims "role" (.str "admin")
  have hrole : ∀ raw, plainClaims.member? "role" = some raw → raw = .str "admin" :=
    fun raw hraw => (Option.some.inj hraw).symm
  refine ⟨hpy.mpr fun raw hraw => ?_, c, hc, (hgo _ c hc).mpr fun raw hraw => ?_⟩
  · obtain rfl := hrole raw hraw
    rintro (⟨haligned, -, p, hp, hblurs⟩ | ⟨haligned, -, p, hp, hsplits⟩)
    · obtain rfl := Option.some.inj haligned
      obtain rfl := List.mem_singleton.mp hp
      cases hblurs
    · obtain rfl := Option.some.inj haligned
      obtain rfl := List.mem_singleton.mp hp
      cases hsplits
  · obtain rfl := hrole raw hraw
    have hdecoded : ¬ Go.Refused (.str "admin") := by decide
    have hdepth : ¬ GoKeySet.maxNestingDepth < (Json.str "admin").depth := by decide
    rintro (⟨h, -⟩ | ⟨h, -⟩ | ⟨h, -⟩ | ⟨-, -, hmistaken⟩)
    · exact hdecoded h
    · cases h
    · exact hdepth h
    · obtain ⟨haligned, -, p, hp, hblurs⟩ | ⟨-, -, p, -, hsplits⟩ := hmistaken
      · obtain rfl := Option.some.inj haligned
        obtain rfl := List.mem_singleton.mp hp
        cases hblurs
      · exact hsplits

end IdentityModel.ClaimValues
