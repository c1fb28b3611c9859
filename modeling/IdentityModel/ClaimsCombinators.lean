import IdentityModel.Policies

/-!
# Claims validator combinators in Python, Go and Rust

`combine_claims_validators` of `core/claims_validation.py`,
`CombineClaimsValidators` of `go/pkg/jwt/claims_validation.go` and
`combine_claims_validators` of `rust/src/jwt/claims_validation.rs`, over any type
of claims. A Python validator returns or raises, a Go validator returns an error
or nil, a Rust validator returns a `Result`. In each a rejection is the error of
one type: an exception of class `ClaimsValidationError`, an error with a
`*ClaimsValidationError` in its tree, the variant `ClaimsValidation`.
-/
namespace IdentityModel.Combinators

open Policies

/-- What a rejection tells, in any of the three languages. -/
structure Rejection where
  reason : String
  claim : Option String
  deriving DecidableEq, Repr

/-- The rejection of an any-of that nothing accepted. -/
def aggregated (reasons : List String) : String :=
  "no validator accepted the claims: " ++ "; ".intercalate reasons

def aggregate (rejections : List Rejection) : Rejection :=
  ⟨aggregated (rejections.map Rejection.reason), none⟩

variable {C : Type}

namespace Py

/-- What a validator raises: a `ClaimsValidationError`, of a subclass too, or
anything else. -/
inductive Raised
  | claimsValidationError (reason : String) (claim : Option String)
  | other (type_ message : String)
  deriving DecidableEq, Repr

abbrev ClaimsValidator (C : Type) := C → Except Raised Unit

/-- The `ValueError`s of `combine_claims_validators`. -/
inductive ValueError
  | require (got : String)
  | noValidators
  deriving DecidableEq, Repr

def validateAll (claims : C) : List (ClaimsValidator C) → Except Raised Unit
  | [] => .ok ()
  | validator :: rest =>
      match validator claims with
      | .ok () => validateAll claims rest
      | .error exc => .error exc

def validateAny (claims : C) (reasons : List String) : List (ClaimsValidator C) → Except Raised Unit
  | [] => .error (.claimsValidationError (aggregated reasons) none)
  | validator :: rest =>
      match validator claims with
      | .error (.claimsValidationError reason _) => validateAny claims (reasons ++ [reason]) rest
      | .error exc => .error exc
      | .ok () => .ok ()

def combineClaimsValidators (validators : List (ClaimsValidator C)) (require : String) :
    Except ValueError (ClaimsValidator C) :=
  if require ≠ "all" ∧ require ≠ "any" then .error (.require require)
  else if require = "any" ∧ validators = [] then .error .noValidators
  else
    .ok fun claims =>
      if require = "all" then validateAll claims validators else validateAny claims [] validators

/-- What a validator comes to. -/
def outcome : Except Raised Unit → Outcome Rejection Raised
  | .ok () => .accept
  | .error (.claimsValidationError reason claim) => .reject ⟨reason, claim⟩
  | .error exc => .fail exc

end Py

namespace Go

/-- An error: a `*ClaimsValidationError`, or another one and what it wraps. -/
inductive Error
  | claimsValidation (reason claim : String)
  | other (text : String) (wrapped : List Error)

mutual

/-- `errors.As` for a `*ClaimsValidationError`: the first one in the tree. -/
def Error.asClaimsValidation : Error → Option (String × String)
  | .claimsValidation reason claim => some (reason, claim)
  | .other _ wrapped => firstClaimsValidation wrapped

def firstClaimsValidation : List Error → Option (String × String)
  | [] => none
  | err :: rest => err.asClaimsValidation.or (firstClaimsValidation rest)

end

/-- `ValidateClaims`; no error is nil. -/
abbrev ClaimsValidator (C : Type) := C → Option Error

/-- The errors of `CombineClaimsValidators`. -/
inductive CombineError
  | mode (got : String)
  | noValidators (mode : String)
  deriving DecidableEq, Repr

def combineAll : String := "all"

def combineAny : String := "any"

def validateAll (claims : C) : List (ClaimsValidator C) → Option Error
  | [] => none
  | v :: rest =>
      match v claims with
      | some err => some err
      | none => validateAll claims rest

def validateAny (claims : C) (reasons : List String) : List (ClaimsValidator C) → Option Error
  | [] => some (.claimsValidation (aggregated reasons) "")
  | v :: rest =>
      match v claims with
      | none => none
      | some err =>
          match err.asClaimsValidation with
          | none => some err
          | some cve => validateAny claims (reasons ++ [cve.1]) rest

def combineClaimsValidators (validators : List (ClaimsValidator C)) (mode : String) :
    Except CombineError (ClaimsValidator C) :=
  if mode ≠ combineAll ∧ mode ≠ combineAny then .error (.mode mode)
  else if mode = combineAny ∧ validators = [] then .error (.noValidators combineAny)
  else
    .ok fun claims =>
      if mode = combineAll then validateAll claims validators else validateAny claims [] validators

def outcome : Option Error → Outcome Rejection Error
  | none => .accept
  | some err =>
      match err.asClaimsValidation with
      | some cve => .reject ⟨cve.1, if cve.2 = "" then none else some cve.2⟩
      | none => .fail err

end Go

namespace Rust

/-- `IdentityError`. -/
inductive IdentityError
  | http (message : String)
  | deserialization (message : String)
  | validation (message : String)
  | idTokenValidation (message : String)
  | claimsValidation (reason : String) (claim : Option String)
  | dpopVerification (field : Option String) (reason : String)
  | configuration (message : String)
  | keyNotFound (kid : String)
  | tokenEndpoint (error : String) (description errorUri : Option String) (status : ℕ)
  | userInfo (status : ℕ) (wwwAuthenticate : Option String) (body : String)
  deriving DecidableEq, Repr

abbrev ClaimsValidator (C : Type) := C → Except IdentityError Unit

inductive CombineMode
  | all
  | any
  deriving DecidableEq, Repr

def validateAll (claims : C) : List (ClaimsValidator C) → Except IdentityError Unit
  | [] => .ok ()
  | member :: rest =>
      match member claims with
      | .error err => .error err
      | .ok () => validateAll claims rest

def validateAny (claims : C) (reasons : List String) :
    List (ClaimsValidator C) → Except IdentityError Unit
  | [] => .error (.claimsValidation (aggregated reasons) none)
  | member :: rest =>
      match member claims with
      | .ok () => .ok ()
      | .error (.claimsValidation reason _) => validateAny claims (reasons ++ [reason]) rest
      | .error other => .error other

/-- `CombinedValidator`. -/
structure CombinedValidator (C : Type) where
  members : List (ClaimsValidator C)
  mode : CombineMode

def CombinedValidator.validate (v : CombinedValidator C) (claims : C) : Except IdentityError Unit :=
  match v.mode with
  | .all => validateAll claims v.members
  | .any => validateAny claims [] v.members

def combineClaimsValidators (validators : List (ClaimsValidator C)) (mode : CombineMode) :
    Except IdentityError (CombinedValidator C) :=
  if mode = .any ∧ validators = [] then
    .error (.configuration ("combine_claims_validators(Any) needs at least one validator; an empty "
      ++ "any-of set rejects every token"))
  else .ok ⟨validators, mode⟩

/-- A combination, boxed to be a member of another. -/
def combineBoxed (mode : CombineMode) (validators : List (ClaimsValidator C)) :
    Except IdentityError (ClaimsValidator C) :=
  (combineClaimsValidators validators mode).map CombinedValidator.validate

def outcome : Except IdentityError Unit → Outcome Rejection IdentityError
  | .ok () => .accept
  | .error (.claimsValidation reason claim) => .reject ⟨reason, claim⟩
  | .error other => .fail other

end Rust

namespace Py

theorem outcome_validateAll (claims : C) (vs : List (ClaimsValidator C)) :
    outcome (validateAll claims vs) = allOf (vs.map fun v => outcome (v claims)) := by
  induction vs with
  | nil => rfl
  | cons v vs ih =>
      simp only [validateAll, List.map_cons]
      match hv : v claims with
      | .ok () => exact ih
      | .error (.claimsValidationError _ _) => exact (allOf_cons_of_ne (by simp [outcome])).symm
      | .error (.other _ _) => exact (allOf_cons_of_ne (by simp [outcome])).symm

theorem outcome_validateAny (claims : C) (vs : List (ClaimsValidator C)) (sofar : List Rejection) :
    outcome (validateAny claims (sofar.map Rejection.reason) vs) =
      anyOf aggregate (sofar.map Outcome.reject ++ vs.map fun v => outcome (v claims)) := by
  induction vs generalizing sofar with
  | nil =>
      rw [List.map_nil, List.append_nil, anyOf_rejects]
      rfl
  | cons v vs ih =>
      simp only [validateAny, List.map_cons]
      match hv : v claims with
      | .ok () => exact (anyOf_rejects_cons sofar rfl).symm
      | .error (.claimsValidationError reason claim) =>
          have hrest := ih (sofar ++ [⟨reason, claim⟩])
          simpa [outcome] using hrest
      | .error (.other _ _) => exact (anyOf_rejects_cons sofar rfl).symm

theorem combine_sound : Sound (fun (v : ClaimsValidator C) claims => outcome (v claims)) aggregate
    (fun vs => combineClaimsValidators vs "all") (fun vs => combineClaimsValidators vs "any") where
  all vs := by
    refine ⟨fun claims => validateAll claims vs, by simp [combineClaimsValidators], ?_⟩
    exact fun claims => outcome_validateAll claims vs
  any v₀ vs := by
    refine ⟨fun claims => validateAny claims [] (v₀ :: vs), by simp [combineClaimsValidators], ?_⟩
    exact fun claims => outcome_validateAny claims (v₀ :: vs) []

end Py

namespace Go

theorem outcome_validateAll (claims : C) (vs : List (ClaimsValidator C)) :
    outcome (validateAll claims vs) = allOf (vs.map fun v => outcome (v claims)) := by
  induction vs with
  | nil => rfl
  | cons v vs ih =>
      simp only [validateAll, List.map_cons]
      match hv : v claims with
      | none => exact ih
      | some err =>
          refine (allOf_cons_of_ne ?_).symm
          simp only [outcome]
          split <;> simp

theorem outcome_validateAny (claims : C) (vs : List (ClaimsValidator C)) (sofar : List Rejection) :
    outcome (validateAny claims (sofar.map Rejection.reason) vs) =
      anyOf aggregate (sofar.map Outcome.reject ++ vs.map fun v => outcome (v claims)) := by
  induction vs generalizing sofar with
  | nil =>
      rw [List.map_nil, List.append_nil, anyOf_rejects]
      rfl
  | cons v vs ih =>
      simp only [validateAny, List.map_cons]
      match hv : v claims with
      | none => exact (anyOf_rejects_cons sofar rfl).symm
      | some err =>
          cases has : err.asClaimsValidation with
          | none =>
              simp only [outcome, has]
              exact (anyOf_rejects_cons sofar rfl).symm
          | some cve =>
              have hrest := ih (sofar ++ [⟨cve.1, if cve.2 = "" then none else some cve.2⟩])
              simpa [outcome, has] using hrest

theorem combine_sound : Sound (fun (v : ClaimsValidator C) claims => outcome (v claims)) aggregate
    (fun vs => combineClaimsValidators vs combineAll)
    (fun vs => combineClaimsValidators vs combineAny) where
  all vs := by
    refine ⟨fun claims => validateAll claims vs,
      by simp [combineClaimsValidators, combineAll, combineAny], ?_⟩
    exact fun claims => outcome_validateAll claims vs
  any v₀ vs := by
    refine ⟨fun claims => validateAny claims [] (v₀ :: vs),
      by simp [combineClaimsValidators, combineAll, combineAny], ?_⟩
    exact fun claims => outcome_validateAny claims (v₀ :: vs) []

end Go

namespace Rust

theorem outcome_validateAll (claims : C) (vs : List (ClaimsValidator C)) :
    outcome (validateAll claims vs) = allOf (vs.map fun v => outcome (v claims)) := by
  induction vs with
  | nil => rfl
  | cons v vs ih =>
      simp only [validateAll, List.map_cons]
      match hv : v claims with
      | .ok () => exact ih
      | .error err =>
          refine (allOf_cons_of_ne ?_).symm
          cases err <;> simp [outcome]

theorem outcome_validateAny (claims : C) (vs : List (ClaimsValidator C)) (sofar : List Rejection) :
    outcome (validateAny claims (sofar.map Rejection.reason) vs) =
      anyOf aggregate (sofar.map Outcome.reject ++ vs.map fun v => outcome (v claims)) := by
  induction vs generalizing sofar with
  | nil =>
      rw [List.map_nil, List.append_nil, anyOf_rejects]
      rfl
  | cons v vs ih =>
      simp only [validateAny, List.map_cons]
      match hv : v claims with
      | .ok () => exact (anyOf_rejects_cons sofar rfl).symm
      | .error err =>
          by_cases hcve : ∃ reason claim, err = .claimsValidation reason claim
          · obtain ⟨reason, claim, rfl⟩ := hcve
            have hrest := ih (sofar ++ [⟨reason, claim⟩])
            simpa [outcome] using hrest
          · have hfail : outcome (.error err) = .fail err := by
              cases err <;> simp_all [outcome]
            rw [hfail, anyOf_rejects_cons sofar rfl]
            cases err <;> simp_all [outcome]

theorem combine_sound : Sound (fun (v : ClaimsValidator C) claims => outcome (v claims)) aggregate
    (combineBoxed .all) (combineBoxed .any) where
  all vs := by
    refine ⟨fun claims => validateAll claims vs, by simp [combineBoxed, combineClaimsValidators,
      Except.map, funext_iff, CombinedValidator.validate], ?_⟩
    exact fun claims => outcome_validateAll claims vs
  any v₀ vs := by
    refine ⟨fun claims => validateAny claims [] (v₀ :: vs), by simp [combineBoxed,
      combineClaimsValidators, Except.map, funext_iff, CombinedValidator.validate], ?_⟩
    exact fun claims => outcome_validateAny claims (v₀ :: vs) []

end Rust

variable {ι : Type}

/-- A tree is built in Python, and its validator means the tree. -/
def PyMeans (p : Policy ι) (leaf : ι → Py.ClaimsValidator C) : Prop :=
  ∃ v, p.build (fun vs => Py.combineClaimsValidators vs "all")
      (fun vs => Py.combineClaimsValidators vs "any") leaf = .ok v ∧
    ∀ claims, Py.outcome (v claims) = p.eval aggregate fun i => Py.outcome (leaf i claims)

def GoMeans (p : Policy ι) (leaf : ι → Go.ClaimsValidator C) : Prop :=
  ∃ v, p.build (fun vs => Go.combineClaimsValidators vs Go.combineAll)
      (fun vs => Go.combineClaimsValidators vs Go.combineAny) leaf = .ok v ∧
    ∀ claims, Go.outcome (v claims) = p.eval aggregate fun i => Go.outcome (leaf i claims)

def RustMeans (p : Policy ι) (leaf : ι → Rust.ClaimsValidator C) : Prop :=
  ∃ v, p.build (Rust.combineBoxed .all) (Rust.combineBoxed .any) leaf = .ok v ∧
    ∀ claims, Rust.outcome (v claims) = p.eval aggregate fun i => Rust.outcome (leaf i claims)

/-- The reference evaluation: first non-acceptance for all-of, first
non-rejection for any-of, and nothing of the details decides. -/
structure Reference (ρ ε : Type) (aggregate : List ρ → ρ) : Prop where
  all_accept : ∀ outcomes : List (Outcome ρ ε),
    allOf outcomes = .accept ↔ ∀ o ∈ outcomes, o = .accept
  all_first : ∀ (outcomes : List (Outcome ρ ε)) o, o ≠ .accept →
    (allOf outcomes = o ↔
      ∃ before after, outcomes = before ++ o :: after ∧ ∀ b ∈ before, b = .accept)
  any_accept : ∀ outcomes : List (Outcome ρ ε), anyOf aggregate outcomes = .accept ↔
    ∃ before after, outcomes = before ++ .accept :: after ∧ ∀ b ∈ before, b.isReject = true
  any_fail : ∀ (outcomes : List (Outcome ρ ε)) error, anyOf aggregate outcomes = .fail error ↔
    ∃ before after, outcomes = before ++ .fail error :: after ∧ ∀ b ∈ before, b.isReject = true
  any_reject : ∀ outcomes : List (Outcome ρ ε),
    (anyOf aggregate outcomes).isReject = true ↔ ∀ o ∈ outcomes, o.isReject = true

theorem reference (ρ ε : Type) (aggregate : List ρ → ρ) : Reference ρ ε aggregate where
  all_accept _ := allOf_eq_accept
  all_first _ _ hne := allOf_eq_of_ne hne
  any_accept _ := anyOf_eq_of_not_reject rfl
  any_fail _ _ := anyOf_eq_of_not_reject rfl
  any_reject _ := anyOf_isReject

/-- Every tree is built and means its reference evaluation in each language, so
leaves with the same verdicts give the same verdict in all three. -/
theorem combinators_mean_the_same (p : Policy ι) :
    (∀ C (leaf : ι → Py.ClaimsValidator C), PyMeans p leaf) ∧
    (∀ C (leaf : ι → Go.ClaimsValidator C), GoMeans p leaf) ∧
    (∀ C (leaf : ι → Rust.ClaimsValidator C), RustMeans p leaf) ∧
    (∀ ε, Reference Rejection ε aggregate) ∧
    ∀ ε (leaf : ι → Outcome Rejection ε) verdicts, (∀ i, (leaf i).verdict = verdicts i) →
      (p.eval aggregate leaf).verdict = p.verdict verdicts := by
  refine ⟨fun C leaf => ?_, fun C leaf => ?_, fun C leaf => ?_, fun ε => reference _ ε aggregate, ?_⟩
  · exact build_eval Py.combine_sound leaf p
  · exact build_eval Go.combine_sound leaf p
  · exact build_eval Rust.combine_sound leaf p
  · exact fun ε leaf verdicts h => eval_verdict aggregate h p

end IdentityModel.Combinators
