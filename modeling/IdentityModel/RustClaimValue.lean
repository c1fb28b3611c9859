import IdentityModel.Binary64
import IdentityModel.JsonValue
import IdentityModel.RustClaims

/-!
# A required claim value in Rust

`require_claim_value` and `claim_value` of `rust/src/jwt/claims_validation.rs`. The registered
claims are read into typed fields and made values again from there, so a value that was read with
a loss is compared as another one: a fraction of a second is cut off, and an audience that is null
is an empty one.
-/
namespace IdentityModel.RustClaims

open Combinators.Rust (IdentityError)
open Results

/-- `serde_json::Number`: an integer that is not negative, the negative integer `-n-1`, or a
float. -/
inductive SerdeNumber
  | posInt (n : ℕ)
  | negInt (n : ℕ)
  | float (f : ℚ)
  deriving DecidableEq, Repr

namespace SerdeNumber

/-- What `serde_json` makes of a literal: an integer if it is one and has 64 bits, otherwise the
float it reads. The negative zero is a float. -/
def ofLiteral (float : Number → ℚ) (n : Number) : SerdeNumber :=
  let size := digitsValue n.whole
  if n.fraction = [] ∧ n.exponent = none then
    if n.negative = true then
      if 0 < size ∧ size ≤ 2 ^ 63 then .negInt (size - 1) else .float (float n)
    else if size < 2 ^ 64 then .posInt size
    else .float (float n)
  else .float (float n)

def asI64 : SerdeNumber → Option ℤ
  | .posInt n => if n < 2 ^ 63 then some n else none
  | .negInt n => some (Int.negSucc n)
  | .float _ => none

/-- The nearest float of an integer. -/
def rounded (i : ℤ) : Option ℚ :=
  match Float64.ofRat i with
  | .finite f => some f
  | _ => none

def asF64 : SerdeNumber → Option ℚ
  | .posInt n => rounded n
  | .negInt n => rounded (Int.negSucc n)
  | .float f => some f

/-- `From<i64>`. -/
def fromI64 : ℤ → SerdeNumber
  | .ofNat n => .posInt n
  | .negSucc n => .negInt n

end SerdeNumber

/-- The libraries of the crate, given how literals of floats are read. -/
def serdeLibrary (float : Number → ℚ) (debug : String → String) : Library where
  asI64 n := (SerdeNumber.ofLiteral float n).asI64
  asF64 n := (SerdeNumber.ofLiteral float n).asF64
  debug := debug

/-- `serde_json::Value`. -/
abbrev SerdeValue := Value (Scalar SerdeNumber)

namespace SerdeValue

/-- The value a document is parsed to. -/
def ofJson (float : Number → ℚ) (j : Json) : SerdeValue :=
  j.read.map (Scalar.map (SerdeNumber.ofLiteral float))

/-- `PartialEq`. -/
def eq (v w : SerdeValue) : Bool := v.equalBy (fun s t => decide (s = t)) w

def string (s : String) : SerdeValue := .scalar (.str s)

def number (n : SerdeNumber) : SerdeValue := .scalar (.num n)

/-- An array of strings. -/
def strings (ss : List String) : SerdeValue := .arr (ss.map string)

end SerdeValue

/-- `claim_value`. -/
def claimValue (float : Number → ℚ) (claims : Claims) (name : String) : Option SerdeValue :=
  match claims.get name with
  | some value => some (SerdeValue.ofJson float value)
  | none =>
      if name = "iss" then claims.issuer.map SerdeValue.string
      else if name = "sub" then claims.subject.map SerdeValue.string
      else if name = "jti" then claims.id.map SerdeValue.string
      else if name = "nonce" then claims.nonce.map SerdeValue.string
      else if name = "azp" then claims.authorizedParty.map SerdeValue.string
      else if name = "exp" then claims.expiry.map fun i => SerdeValue.number (.fromI64 i)
      else if name = "nbf" then claims.notBefore.map fun i => SerdeValue.number (.fromI64 i)
      else if name = "iat" then claims.issuedAt.map fun i => SerdeValue.number (.fromI64 i)
      else if name = "aud" ∧ claims.has "aud" = true then
        some (SerdeValue.strings claims.audience)
      else none

def requireClaimValue (float : Number → ℚ) (display : SerdeValue → String) (name : String)
    (expected : SerdeValue) : Combinators.Rust.ClaimsValidator Claims := fun claims =>
  let matches_ := claims.has name && (claimValue float claims name).any fun v => v.eq expected
  if matches_ then .ok ()
  else
    .error (.claimsValidation ("claim '" ++ name ++ "' must equal " ++ display expected)
      (some name))

/-- The claims that are dates. -/
def dateClaims : List String := ["exp", "nbf", "iat"]

/-- A number, when it was a date. -/
def SerdeNumber.truncated : SerdeNumber → SerdeNumber
  | .float f => .fromI64 (Float64.truncate f)
  | n => n

/-- The value a member comes to when it is read as a claim and made a value again. -/
def rebuilt (float : Number → ℚ) (name : String) (raw : Json) : SerdeValue :=
  match raw with
  | .num n =>
      if name ∈ dateClaims then SerdeValue.number (SerdeNumber.ofLiteral float n).truncated
      else SerdeValue.ofJson float raw
  | .null => if name = "aud" then SerdeValue.strings [] else SerdeValue.ofJson float raw
  | .str s => if name = "aud" then SerdeValue.strings [s] else SerdeValue.ofJson float raw
  | _ => SerdeValue.ofJson float raw

section Read

variable {float : Number → ℚ} {debug : String → String} {map : Map} {c : Claims} {name : String}

theorem rounded_eq_some {i : ℤ} {f : ℚ} (h : SerdeNumber.rounded i = some f) :
    Float64.ofRat i = .finite f := by
  unfold SerdeNumber.rounded at h
  split at h
  · next g hfinite =>
      obtain rfl := Option.some.inj h
      exact hfinite
  · cases h

/-- An integer beyond 63 bits is no date. -/
theorem rounded_large {n : ℕ} (hlow : 2 ^ 63 ≤ n) {f : ℚ} (h : SerdeNumber.rounded n = some f) :
    (maxNumericDate : ℚ) < |f| := by
  have hlow' : (2 : ℚ) ^ 63 ≤ ((n : ℤ) : ℚ) := by exact_mod_cast hlow
  have hf := Float64.two_pow_le_of_ofRat hlow' (rounded_eq_some h)
  calc (maxNumericDate : ℚ) < 2 ^ 63 := by norm_num [maxNumericDate]
    _ ≤ f := hf
    _ ≤ |f| := le_abs_self f

/-- A date is read from an integer as it is, and from a float without its fraction. -/
theorem numericDate_num {n : Number} {secs : ℤ}
    (h : numericDate (serdeLibrary float debug) name (.num n) = .ok secs) :
    (SerdeNumber.ofLiteral float n).truncated = .fromI64 secs := by
  simp only [numericDate, serdeLibrary] at h
  cases hn : SerdeNumber.ofLiteral float n with
  | posInt m =>
      simp only [hn, SerdeNumber.asI64] at h
      by_cases hsmall : m < 2 ^ 63
      · simp only [hsmall, if_true] at h
        split at h
        · cases h
        · obtain rfl := Except.ok.inj h
          rfl
      · simp only [hsmall, if_false, SerdeNumber.asF64] at h
        split at h
        · cases h
        · next f hf =>
            rw [if_pos (rounded_large (by omega) hf)] at h
            cases h
  | negInt m =>
      simp only [hn, SerdeNumber.asI64] at h
      split at h
      · cases h
      · obtain rfl := Except.ok.inj h
        rfl
  | float f =>
      simp only [hn, SerdeNumber.asI64, SerdeNumber.asF64] at h
      split at h
      · cases h
      · obtain rfl := Except.ok.inj h
        rfl

theorem ofJson_str (s : String) : SerdeValue.ofJson float (.str s) = SerdeValue.string s := rfl

theorem ofJson_strings (ss : List String) :
    SerdeValue.ofJson float (.arr (ss.map Json.str)) = SerdeValue.strings ss := by
  have helems : Value.mapElems (Scalar.map (SerdeNumber.ofLiteral float))
      (Json.readElems (ss.map Json.str)) = ss.map SerdeValue.string := by
    induction ss with
    | nil => rfl
    | cons s ss ih =>
        rw [List.map_cons, List.map_cons, Json.readElems, Value.mapElems, ih]
        rfl
  exact congrArg Value.arr helems

/-- A value of any other claim is read as it is. -/
theorem rebuilt_plain (hdate : name ∉ dateClaims) (haud : name ≠ "aud") (raw : Json) :
    rebuilt float name raw = SerdeValue.ofJson float raw := by
  cases raw <;> simp [rebuilt, hdate, haud]

section Fields

variable {o : Option Json}

theorem string_field (h : IsStringOrAbsent o) (hdate : name ∉ dateClaims) (haud : name ≠ "aud") :
    (o.bind Json.str?).map SerdeValue.string = o.map (rebuilt float name) := by
  cases o with
  | none => rfl
  | some raw =>
      obtain ⟨s, rfl⟩ := h raw rfl
      rw [Option.map_some, rebuilt_plain hdate haud, ofJson_str]
      rfl

theorem date_field (h : IsDateOrAbsent (serdeLibrary float debug) name o)
    (hname : name ∈ dateClaims) :
    ((dateOf (serdeLibrary float debug) name o).map fun i => SerdeValue.number (.fromI64 i)) =
      o.map (rebuilt float name) := by
  cases o with
  | none => rfl
  | some raw =>
      obtain ⟨secs, hsecs⟩ := h raw rfl
      simp only [dateOf, Option.bind_some, hsecs, Except.toOption, Option.map_some]
      cases raw with
      | num n => simp only [rebuilt, hname, if_true, numericDate_num hsecs]
      | _ => simp [numericDate] at hsecs

theorem audience_field {raw : Json} (h : IsAudience (some raw)) :
    SerdeValue.strings (audienceOf (some raw)) = rebuilt float "aud" raw := by
  obtain rfl | ⟨s, rfl⟩ | ⟨ss, rfl⟩ := h raw rfl
  · rfl
  · rfl
  · rw [audienceOf, filterMap_str?]
    exact (ofJson_strings ss).symm

end Fields

theorem claimsOf_has (lib : Library) (map : Map) (name : String) :
    (claimsOf lib map).has name = (map.lookup name).isSome := by
  rw [Bool.eq_iff_iff, AList.lookup_isSome]
  exact decide_eq_true_iff

/-- What is compared is the member, made a value again. -/
theorem claimValue_eq {payload : Json}
    (h : Claims.fromValue (serdeLibrary float debug) payload = .ok c) (name : String) :
    claimValue float c name = (payload.member? name).map (rebuilt float name) := by
  obtain ⟨members, rfl, shaped, rfl⟩ := fromValue_ok.mp h
  rw [← Json.lookup_insertAll]
  obtain ⟨map, hmap⟩ : ∃ map : Map, map = Dict.insertAll members ∅ := ⟨_, rfl⟩
  rw [← hmap] at shaped ⊢
  by_cases hname : name ∈ modelledClaims
  · have hget : (claimsOf (serdeLibrary float debug) map).get name = none := by
      simp only [Claims.get, claimsOf, Dict.lookup_restrict]
      rw [if_neg (by simpa using hname)]
    simp only [modelledClaims, List.mem_cons, List.not_mem_nil, or_false] at hname
    obtain rfl | rfl | rfl | rfl | rfl | rfl | rfl | rfl | rfl := hname
    all_goals simp only [claimValue, hget, String.reduceEq, if_true, if_false, true_and]
    · exact string_field shaped.iss (by decide) (by decide)
    · exact string_field shaped.sub (by decide) (by decide)
    · rw [claimsOf_has]
      have hshape := shaped.aud
      cases haud : map.lookup "aud" with
      | none => rfl
      | some raw =>
          rw [haud] at hshape
          have haudience : (claimsOf (serdeLibrary float debug) map).audience =
              audienceOf (some raw) := by rw [← haud]; rfl
          rw [Option.isSome_some, if_pos rfl, haudience, audience_field hshape, Option.map_some]
    · exact date_field shaped.exp (by decide)
    · exact date_field shaped.nbf (by decide)
    · exact date_field shaped.iat (by decide)
    · exact string_field shaped.jti (by decide) (by decide)
    · exact string_field shaped.nonce (by decide) (by decide)
    · exact string_field shaped.azp (by decide) (by decide)
  · have hdate : name ∉ dateClaims := fun hmem =>
      hname ((by decide : ∀ n ∈ dateClaims, n ∈ modelledClaims) name hmem)
    have haud : name ≠ "aud" := by
      rintro rfl
      exact hname (by decide)
    rw [claimValue, claimsOf_get hname]
    cases hlookup : map.lookup name with
    | some raw => rw [Option.map_some, rebuilt_plain hdate haud]
    | none =>
        simp only [modelledClaims, List.mem_cons, List.not_mem_nil, or_false, not_or] at hname
        simp [hname]

/-- A claim is accepted when the member, made a value again, is the expected one. -/
theorem requireClaimValue_eq_ok {payload : Json} {display : SerdeValue → String}
    {expected : SerdeValue} (h : Claims.fromValue (serdeLibrary float debug) payload = .ok c) :
    requireClaimValue float display name expected c = .ok () ↔
      ∃ raw, payload.member? name = some raw ∧ rebuilt float name raw = expected := by
  have hhas : c.has name = (payload.member? name).isSome := by
    obtain ⟨members, rfl, -, rfl⟩ := fromValue_ok.mp h
    rw [claimsOf_has, Json.lookup_insertAll]
  simp only [requireClaimValue, claimValue_eq h name, hhas]
  cases payload.member? name with
  | none => simp
  | some raw =>
      by_cases heq : rebuilt float name raw = expected
      · simp [heq, SerdeValue.eq, Value.equalBy_eq]
      · have hne : SerdeValue.eq (rebuilt float name raw) expected = false := by
          rw [Bool.eq_false_iff]
          exact fun htrue => heq (Value.equalBy_eq.mp htrue)
        simp [heq, hne]

/-- The payload has the claim with the expected value; a string audience may be wrapped. -/
def Equals (float : Number → ℚ) (payload : Json) (name : String) (expected : SerdeValue) : Prop :=
  ∃ raw, payload.member? name = some raw ∧ (SerdeValue.ofJson float raw = expected ∨
    name = "aud" ∧ ∃ s, raw = .str s ∧ SerdeValue.strings [s] = expected)

/-- The claim loses something when it is read, and the expected value is what is left: a date that
is written as a float, beside its whole seconds, or a null audience beside the empty array. -/
inductive Lossy (float : Number → ℚ) (payload : Json) (name : String) (expected : SerdeValue) : Prop
  | date {n : Number} {f : ℚ} (hname : name ∈ dateClaims)
      (hraw : payload.member? name = some (.num n)) (hfloat : .ofLiteral float n = SerdeNumber.float f)
      (hleft : SerdeValue.number (.fromI64 (Float64.truncate f)) = expected)
  | audience (hname : name = "aud") (hraw : payload.member? name = some .null)
      (hleft : SerdeValue.strings [] = expected)

/-- A claim is only accepted with the expected value, exactly if it is not a lossy one. -/
theorem claim_value_fail_closed {payload : Json}
    (h : Claims.fromValue (serdeLibrary float debug) payload = .ok c)
    (display : SerdeValue → String) (name : String) (expected : SerdeValue) :
    (requireClaimValue float display name expected c = .ok () →
      Equals float payload name expected) ↔ ¬ Lossy float payload name expected := by
  rw [requireClaimValue_eq_ok h]
  constructor
  · rintro hclosed (⟨hname, hraw, hfloat, hleft⟩ | ⟨rfl, hraw, hleft⟩)
    · rename_i n f
      have hrebuilt : rebuilt float name (.num n) = expected := by
        simp only [rebuilt, hname, if_true, hfloat, ← hleft]
        rfl
      obtain ⟨raw, hraw', heq | ⟨-, s, rfl, -⟩⟩ := hclosed ⟨_, hraw, hrebuilt⟩
      · rw [hraw] at hraw'
        obtain rfl := Option.some.inj hraw'
        have hnumbers : SerdeNumber.float f = .fromI64 (Float64.truncate f) := by
          rw [← hleft] at heq
          rw [← hfloat]
          exact Scalar.num.inj (Value.scalar.inj heq)
        cases htruncate : Float64.truncate f with
        | ofNat i => simp [htruncate, SerdeNumber.fromI64] at hnumbers
        | negSucc i => simp [htruncate, SerdeNumber.fromI64] at hnumbers
      · rw [hraw] at hraw'
        cases hraw'
    · obtain ⟨raw, hraw', heq | ⟨-, s, rfl, -⟩⟩ := hclosed ⟨_, hraw, hleft⟩
      · rw [hraw] at hraw'
        obtain rfl := Option.some.inj hraw'
        rw [← hleft] at heq
        cases heq
      · rw [hraw] at hraw'
        cases hraw'
  · rintro hkept ⟨raw, hraw, hrebuilt⟩
    refine ⟨raw, hraw, ?_⟩
    cases raw with
    | null =>
        by_cases haud : name = "aud"
        · simp only [rebuilt, haud, if_true] at hrebuilt
          exact absurd (.audience haud hraw hrebuilt) hkept
        · simp only [rebuilt, haud, if_false] at hrebuilt
          exact .inl hrebuilt
    | str s =>
        by_cases haud : name = "aud"
        · simp only [rebuilt, haud, if_true] at hrebuilt
          exact .inr ⟨haud, s, rfl, hrebuilt⟩
        · simp only [rebuilt, haud, if_false] at hrebuilt
          exact .inl hrebuilt
    | num n =>
        by_cases hname : name ∈ dateClaims
        · simp only [rebuilt, hname, if_true] at hrebuilt
          cases hn : SerdeNumber.ofLiteral float n with
          | float f =>
              rw [hn] at hrebuilt
              exact absurd (.date hname hraw hn hrebuilt) hkept
          | _ => exact .inl ((congrArg SerdeValue.number (by rw [hn]; rfl)).trans hrebuilt)
        · simp only [rebuilt, hname, if_false] at hrebuilt
          exact .inl hrebuilt
    | _ => exact .inl hrebuilt

end Read

/-- The literal `1.5`. -/
def oneAndAHalf : Number where
  negative := false
  whole := [1]
  fraction := [5]
  exponent := none
  nonempty := Number.one_nonempty
  noLeadingZero := Number.one_noLeadingZero

/-- The literal `1`. -/
def one : Number where
  negative := false
  whole := [1]
  fraction := []
  exponent := none
  nonempty := Number.one_nonempty
  noLeadingZero := Number.one_noLeadingZero

def fractionPayload : Json := .obj [("iat", .num oneAndAHalf)]

theorem date_rebuilt_one : rebuilt Number.value "iat" (.num one) = SerdeValue.number (.posInt 1) := by
  have hdate : "iat" ∈ dateClaims := by decide
  have hone : SerdeNumber.ofLiteral Number.value one = .posInt 1 := by decide
  simp only [rebuilt, hdate, if_true, hone]
  rfl

/-- A token issued at 1.5 passes for one issued at 1. -/
theorem fraction_forgotten :
    ∃ c, Claims.fromValue (serdeLibrary Number.value id) fractionPayload = .ok c ∧
      requireClaimValue Number.value (fun _ => "1") "iat" (SerdeValue.number (.posInt 1)) c = .ok () ∧
      ¬ Equals Number.value fractionPayload "iat" (SerdeValue.number (.posInt 1)) := by
  obtain ⟨c, hc⟩ := exists_of_isOk
    (show (Claims.fromValue (serdeLibrary Number.value id) fractionPayload).isOk = true by
      decide +kernel)
  have hdate : "iat" ∈ dateClaims := by decide
  have hfloat : SerdeNumber.ofLiteral Number.value oneAndAHalf = .float (3 / 2) := by
    decide +kernel
  have htruncate : Float64.truncate (3 / 2) = 1 := by decide +kernel
  have hraw : fractionPayload.member? "iat" = some (.num oneAndAHalf) := rfl
  refine ⟨c, hc, (requireClaimValue_eq_ok hc).mpr ⟨_, hraw, ?_⟩, ?_⟩
  · simp only [rebuilt, hdate, if_true, hfloat, SerdeNumber.truncated, htruncate]
    rfl
  · rintro ⟨raw, hraw', heq | ⟨-, s, rfl, -⟩⟩
    · rw [hraw] at hraw'
      obtain rfl := Option.some.inj hraw'
      have hnumbers := Scalar.num.inj (Value.scalar.inj heq)
      rw [hfloat] at hnumbers
      cases hnumbers
    · rw [hraw] at hraw'
      cases hraw'

def wholePayload : Json := .obj [("iat", .num one), ("aud", .str "api")]

/-- A token issued at 1 is accepted for the integer, and it is equal to it. -/
theorem whole_second_equal :
    ∃ c, Claims.fromValue (serdeLibrary Number.value id) wholePayload = .ok c ∧
      requireClaimValue Number.value (fun _ => "1") "iat" (SerdeValue.number (.posInt 1)) c = .ok () ∧
      Equals Number.value wholePayload "iat" (SerdeValue.number (.posInt 1)) := by
  obtain ⟨c, hc⟩ := exists_of_isOk
    (show (Claims.fromValue (serdeLibrary Number.value id) wholePayload).isOk = true by
      decide +kernel)
  have haccepted : requireClaimValue Number.value (fun _ => "1") "iat"
      (SerdeValue.number (.posInt 1)) c = .ok () :=
    (requireClaimValue_eq_ok hc).mpr ⟨_, rfl, date_rebuilt_one⟩
  have hone : SerdeNumber.ofLiteral Number.value one = .posInt 1 := by decide
  refine ⟨c, hc, haccepted, (claim_value_fail_closed hc _ _ _).mpr ?_ haccepted⟩
  rintro (⟨-, hraw, hfloat, -⟩ | ⟨haud, -, -⟩)
  · obtain rfl : one = _ := Json.num.inj (Option.some.inj hraw)
    rw [hone] at hfloat
    cases hfloat
  · exact absurd haud (by decide)

end IdentityModel.RustClaims
