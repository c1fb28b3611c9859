import IdentityModel.IdTokens
import IdentityModel.RustClaimValue
import IdentityModel.RustKeySet

/-!
# The times of a token in Rust

What the checks of `exp`, `nbf` and `auth_time` come to when these are integer literals, from the
document to the verdict: the reading of `numeric_date_claim` and `numeric_seconds`, and the saturating
sums of `Claims::validate` and `validate_id_token_claims`. A literal that is no integer of 64 bits is
read as a float, or refused with its document when it has none.
-/
namespace IdentityModel.RustClaims

open Combinators.Rust (IdentityError)
open Results

/-- What `serde_json` makes of the literals that are no integers of 64 bits: those it refuses, and the
float of the others. -/
structure FloatReader where
  refuses : Number → Bool
  float : Number → ℚ

namespace FloatReader

mutual

/-- A document with a literal that is refused. -/
def refusesIn (r : FloatReader) : Json → Bool
  | .num n => r.refuses n
  | .arr elems => r.refusesElem elems
  | .obj members => r.refusesMember members
  | _ => false

def refusesElem (r : FloatReader) : List Json → Bool
  | [] => false
  | j :: js => r.refusesIn j || r.refusesElem js

def refusesMember (r : FloatReader) : List (String × Json) → Bool
  | [] => false
  | (_, j) :: ms => r.refusesIn j || r.refusesMember ms

end

variable {r : FloatReader}

theorem refusesMember_eq_false {members : List (String × Json)} (h : r.refusesMember members = false)
    {m : String × Json} (hm : m ∈ members) : r.refusesIn m.2 = false := by
  induction members with
  | nil => cases hm
  | cons other members ih =>
      obtain ⟨name, j⟩ := other
      rw [refusesMember, Bool.or_eq_false_iff] at h
      obtain rfl | hm := List.mem_cons.mp hm
      · exact h.1
      · exact ih h.2 hm

theorem refuses_of_member {payload : Json} {name : String} {n : Number} (h : r.refusesIn payload = false)
    (hn : payload.member? name = some (.num n)) : r.refuses n = false := by
  have hmem := Json.mem_of_member? hn
  cases payload with
  | obj members => exact refusesMember_eq_false h hmem
  | _ => cases hmem

/-- `serde_json` makes a value of the document: it is not nested too deeply, and no literal is refused. -/
def Readable (r : FloatReader) (body : Json) : Prop :=
  body.depth < RustKeySet.recursionLimit ∧ r.refusesIn body = false

instance (r : FloatReader) (body : Json) : Decidable (r.Readable body) :=
  inferInstanceAs (Decidable (_ ∧ _))

end FloatReader

/-- A literal without a point or an exponent. -/
def IsInteger (n : Number) : Prop := n.fraction = [] ∧ n.exponent = none

/-- The integer it denotes. -/
def integer (n : Number) : ℤ :=
  if n.negative then -(digitsValue n.whole : ℤ) else digitsValue n.whole

/-- How integers are read as floats: a refused one is great, a zero is zero, and one that does not
fit in 64 bits stays beyond those of 63. -/
structure FloatReader.ReadsIntegers (r : FloatReader) : Prop where
  refused : ∀ n, IsInteger n → r.refuses n = true → 2 ^ 63 ≤ |integer n|
  zero : ∀ n, IsInteger n → integer n = 0 → r.float n = 0
  high : ∀ n, IsInteger n → r.refuses n = false → 2 ^ 64 ≤ integer n → 2 ^ 63 ≤ r.float n
  low : ∀ n, IsInteger n → r.refuses n = false → integer n < -2 ^ 63 → r.float n ≤ -2 ^ 63

/-- What stays the same over a run: the readings of the libraries, the options and the clock. -/
structure Setting where
  reader : FloatReader
  debug : String → String
  /-- The error for a document that cannot be read. -/
  malformed : String
  /-- The debug form of a list of audiences. -/
  audiences : List String → String
  opts : ValidationOptions
  nowUnix : ℤ

namespace Setting

def lib (s : Setting) : Library := serdeLibrary s.reader.float s.debug

/-- The document is read, then made claims. -/
def decode (s : Setting) (payload : Json) : Except IdentityError Claims :=
  if s.reader.Readable payload then Claims.fromValue s.lib payload
  else .error (.validation ("signature verification failed: " ++ s.malformed))

/-- `validate_token` after the signature, without the injected validator. -/
def validateToken (s : Setting) (payload : Json) : Except IdentityError Claims := do
  let claims ← s.decode payload
  match claims.validate s.lib (s.audiences claims.audience) s.opts s.nowUnix with
  | some e => .error e
  | none => .ok claims

end Setting

/-- A date that is read, is there if it has to be, and stands the check of its time. -/
structure DatePasses (s : Setting) (payload : Json) (name : String) (required : Bool)
    (timely : ℤ → Prop) : Prop where
  read : ∀ n, payload.member? name = some (.num n) → s.reader.refuses n = false
  date : IsDateOrAbsent s.lib name (payload.member? name)
  present : required = true → dateOf s.lib name (payload.member? name) ≠ none
  timely : ∀ secs, dateOf s.lib name (payload.member? name) = some secs → timely secs

/-- The check of `exp`. -/
def ExpPasses (s : Setting) (payload : Json) : Prop :=
  DatePasses s payload "exp" s.opts.requireExp fun exp => saturate (s.nowUnix - skewSecs s.opts) < exp

/-- The check of `nbf`. -/
def NbfPasses (s : Setting) (payload : Json) : Prop :=
  DatePasses s payload "nbf" s.opts.requireNbf fun nbf => nbf ≤ saturate (s.nowUnix + skewSecs s.opts)

/-- All the checks that do not look at these two, nor at the clock. -/
structure OthersPass (s : Setting) (payload : Json) : Prop where
  object : ∃ members, payload = .obj members
  read : s.reader.Readable payload
  issShape : IsStringOrAbsent (payload.member? "iss")
  subShape : IsStringOrAbsent (payload.member? "sub")
  audShape : IsAudience (payload.member? "aud")
  iatShape : IsDateOrAbsent s.lib "iat" (payload.member? "iat")
  jtiShape : IsStringOrAbsent (payload.member? "jti")
  nonceShape : IsStringOrAbsent (payload.member? "nonce")
  azpShape : IsStringOrAbsent (payload.member? "azp")
  iat : dateOf s.lib "iat" (payload.member? "iat") ≠ none
  iss : ∀ e, s.opts.expectedIssuer = some e → ((payload.member? "iss").bind Json.str?).getD "" = e
  aud : ∀ e, s.opts.expectedAudience = some e → e ∈ audienceOf (payload.member? "aud") ∧
    (∀ azp, (payload.member? "azp").bind Json.str? = some azp → azp = e) ∧
    ((payload.member? "azp").bind Json.str? = none → (audienceOf (payload.member? "aud")).length ≤ 1)
  nonce : ∀ e, s.opts.expectedNonce = some e → (payload.member? "nonce").bind Json.str? = some e
  required : ∀ claim ∈ s.opts.requiredClaims, (payload.member? claim).any isMeaningfulValue = true

theorem claimsOf_meaningful {lib : Library} {map : Map} {claim : String} :
    claim ∈ (claimsOf lib map).meaningful ↔ (map.lookup claim).any isMeaningfulValue = true := by
  rw [claimsOf, List.mem_filter]
  constructor
  · rintro ⟨-, hvalue⟩
    exact hvalue
  · intro hvalue
    refine ⟨?_, hvalue⟩
    rw [← AList.mem_keys, ← AList.lookup_isSome]
    exact Option.isSome_of_any hvalue

/-- A token is accepted when both dates pass and all else does. -/
theorem validateToken_ok_iff (s : Setting) (payload : Json) :
    (∃ c, s.validateToken payload = .ok c) ↔
      OthersPass s payload ∧ ExpPasses s payload ∧ NbfPasses s payload := by
  have hvalidate (c : Claims) : s.validateToken payload = .ok c ↔
      s.decode payload = .ok c ∧ c.Passes s.opts s.nowUnix := by
    rw [Setting.validateToken, bind_eq_ok, ← @validate_eq_none_iff s.lib c s.opts s.nowUnix
      (s.audiences c.audience)]
    constructor
    · rintro ⟨c', hdecode, hresult⟩
      split at hresult
      · cases hresult
      · next hpass =>
          obtain rfl := Except.ok.inj hresult
          exact ⟨hdecode, hpass⟩
    · rintro ⟨hdecode, hpass⟩
      exact ⟨c, hdecode, by rw [hpass]⟩
  have hdecode (c : Claims) : s.decode payload = .ok c ↔
      s.reader.Readable payload ∧ Claims.fromValue s.lib payload = .ok c := by
    rw [Setting.decode]
    split_ifs with hread
    · exact (and_iff_right hread).symm
    · simp [hread]
  simp only [hvalidate, hdecode, fromValue_ok]
  constructor
  · rintro ⟨c, ⟨hread, members, rfl, hshaped, rfl⟩, hpass⟩
    obtain ⟨hiss, hsub, haud, hexp, hnbf, hiat, hjti, hnonce, hazp⟩ := hshaped
    obtain ⟨piat, pexp, pfresh, pnbf, pstarted, piss, paud, pnonce, preq⟩ := hpass
    simp only [claimsOf_meaningful] at preq
    simp only [Json.lookup_insertAll, claimsOf] at *
    have hreads (name : String) (n : Number) (hn : (Json.obj members).member? name = some (.num n)) :=
      FloatReader.refuses_of_member hread.2 hn
    exact ⟨⟨⟨members, rfl⟩, hread, hiss, hsub, haud, hiat, hjti, hnonce, hazp, piat, piss, paud, pnonce, preq⟩,
      ⟨hreads "exp", hexp, pexp, pfresh⟩, ⟨hreads "nbf", hnbf, pnbf, pstarted⟩⟩
  · rintro ⟨hothers, hexp, hnbf⟩
    obtain ⟨members, rfl⟩ := hothers.object
    refine ⟨_, ⟨hothers.read, members, rfl, ?_, rfl⟩, ?_⟩
    · constructor <;> rw [Json.lookup_insertAll]
      · exact hothers.issShape
      · exact hothers.subShape
      · exact hothers.audShape
      · exact hexp.date
      · exact hnbf.date
      · exact hothers.iatShape
      · exact hothers.jtiShape
      · exact hothers.nonceShape
      · exact hothers.azpShape
    · constructor
      case required =>
        intro claim hclaim
        rw [claimsOf_meaningful, Json.lookup_insertAll]
        exact hothers.required claim hclaim
      all_goals simp only [claimsOf, Json.lookup_insertAll]
      · exact hothers.iat
      · exact hexp.present
      · exact hexp.timely
      · exact hnbf.present
      · exact hnbf.timely
      · exact hothers.iss
      · exact hothers.aud
      · exact hothers.nonce

section Literals

variable {s : Setting} {n : Number} {name : String}

/-- An integer of 64 bits is read as it is, a zero at least as zero, and any other one is read as a
float on its side of those of 63 bits. -/
theorem integer_reading (hr : s.reader.ReadsIntegers) (hn : IsInteger n) (hread : s.reader.refuses n = false) :
    (s.lib.asI64 n = some (integer n) ∧ -2 ^ 63 ≤ integer n ∧ integer n < 2 ^ 63) ∨
    (s.lib.asI64 n = none ∧ ∃ x, s.lib.asF64 n = some x ∧
      (integer n = 0 ∧ x = 0 ∨ 2 ^ 63 ≤ integer n ∧ 2 ^ 63 ≤ x ∨ integer n < -2 ^ 63 ∧ x ≤ -2 ^ 63)) := by
  have hfloat (h : SerdeNumber.ofLiteral s.reader.float n = .float (s.reader.float n)) :
      s.lib.asI64 n = none ∧ s.lib.asF64 n = some (s.reader.float n) := by
    simp only [Setting.lib, serdeLibrary, h, SerdeNumber.asI64, SerdeNumber.asF64, and_self]
  have hcases := @SerdeNumber.ofLiteral.eq_1 s.reader.float n
  rw [if_pos ⟨hn.1, hn.2⟩] at hcases
  by_cases hneg : n.negative = true
  · have hint : integer n = -(digitsValue n.whole : ℤ) := by rw [integer, if_pos hneg]
    rw [if_pos hneg] at hcases
    by_cases hsize : 0 < digitsValue n.whole ∧ digitsValue n.whole ≤ 2 ^ 63
    · rw [if_pos hsize] at hcases
      have hsucc : Int.negSucc (digitsValue n.whole - 1) = integer n := by omega
      have hread : s.lib.asI64 n = some (integer n) := by
        simp only [Setting.lib, serdeLibrary, hcases, SerdeNumber.asI64, hsucc]
      exact .inl ⟨hread, by omega, by omega⟩
    · rw [if_neg hsize] at hcases
      obtain ⟨hi, hf⟩ := hfloat hcases
      refine .inr ⟨hi, _, hf, ?_⟩
      by_cases hzero : digitsValue n.whole = 0
      · have hz : integer n = 0 := by omega
        exact .inl ⟨hz, hr.zero n hn hz⟩
      · have hlow : integer n < -2 ^ 63 := by omega
        exact .inr (.inr ⟨hlow, hr.low n hn hread hlow⟩)
  · have hint : integer n = (digitsValue n.whole : ℤ) := by rw [integer, if_neg hneg]
    rw [if_neg hneg] at hcases
    by_cases hsize : digitsValue n.whole < 2 ^ 64
    · rw [if_pos hsize] at hcases
      by_cases hsmall : digitsValue n.whole < 2 ^ 63
      · have hread : s.lib.asI64 n = some (integer n) := by
          simp only [Setting.lib, serdeLibrary, hcases, SerdeNumber.asI64, if_pos hsmall, hint]
        exact .inl ⟨hread, by omega, by omega⟩
      · have hlow : (2 : ℚ) ^ 63 ≤ (integer n : ℚ) := by
          have : (2 : ℤ) ^ 63 ≤ integer n := by omega
          exact_mod_cast this
        have hhigh : 2 * (integer n : ℚ) + 1 < 2 ^ 1024 := by
          have hbelow : integer n < 2 ^ 64 := by omega
          have hdouble : 2 * (integer n : ℚ) + 1 < 2 ^ 66 := by
            exact_mod_cast (by omega : 2 * integer n + 1 < 2 ^ 66)
          exact hdouble.trans (pow_lt_pow_right₀ (by norm_num) (by norm_num))
        obtain ⟨x, hx, -⟩ := Float64.ofRat_of_nonneg (le_trans (by norm_num) hlow) hhigh
        have hi : s.lib.asI64 n = none := by
          simp only [Setting.lib, serdeLibrary, hcases, SerdeNumber.asI64, if_neg hsmall]
        have hf : s.lib.asF64 n = some x := by
          simp only [Setting.lib, serdeLibrary, hcases, SerdeNumber.asF64, ← hint, SerdeNumber.rounded, hx]
        exact .inr ⟨hi, x, hf, .inr (.inl ⟨by omega, Float64.two_pow_le_of_ofRat hlow hx⟩)⟩
    · rw [if_neg hsize] at hcases
      obtain ⟨hi, hf⟩ := hfloat hcases
      have hhigh : 2 ^ 64 ≤ integer n := by omega
      exact .inr ⟨hi, _, hf, .inr (.inl ⟨by omega, hr.high n hn hread hhigh⟩)⟩

/-- A date is the integer itself, or out of range. -/
theorem numericDate_integer (hr : s.reader.ReadsIntegers) (hn : IsInteger n) (hread : s.reader.refuses n = false) :
    numericDate s.lib name (.num n) = if maxNumericDate < |integer n| then
      .error (claimErr s.lib name "numeric date is out of range") else .ok (integer n) := by
  have hbound : maxNumericDate = 2 ^ 53 := rfl
  obtain ⟨hi, -, -⟩ | ⟨hi, x, hf, ⟨hz, rfl⟩ | ⟨hhigh, hx⟩ | ⟨hlow, hx⟩⟩ := integer_reading hr hn hread
  · simp only [numericDate, hi]
  · simp [numericDate, hi, hf, hz, hbound]
  · have hout : maxNumericDate < |integer n| := by
      rw [hbound, abs_of_nonneg (by omega)]
      omega
    have hout' : (maxNumericDate : ℚ) < |x| := by
      refine lt_of_lt_of_le ?_ (hx.trans (le_abs_self x))
      norm_num [hbound]
    simp only [numericDate, hi, hf, if_pos hout, if_pos hout']
  · have hout : maxNumericDate < |integer n| := by
      rw [hbound, abs_of_neg (by omega)]
      omega
    have hout' : (maxNumericDate : ℚ) < |x| := by
      refine lt_of_lt_of_le ?_ ((le_neg.mp hx).trans (neg_le_abs x))
      norm_num [hbound]
    simp only [numericDate, hi, hf, if_pos hout, if_pos hout']

/-- Seconds are the nearest integer of 64 bits. -/
theorem numericSeconds_integer (hr : s.reader.ReadsIntegers) (hn : IsInteger n)
    (hread : s.reader.refuses n = false) :
    IdTokens.Rust.numericSeconds s.lib (.num n) = some (saturate (integer n)) := by
  obtain ⟨hi, hlow, hhigh⟩ | ⟨hi, x, hf, hx⟩ := integer_reading hr hn hread
  · simp only [IdTokens.Rust.numericSeconds, hi, Option.some.injEq]
    rw [saturate]
    omega
  · simp only [IdTokens.Rust.numericSeconds, hi, hf, Option.map_some, Option.some.injEq]
    obtain ⟨hz, rfl⟩ | ⟨hhigh, hx⟩ | ⟨hlow, hx⟩ := hx
    · rw [hz]
      rfl
    · have htrunc : 2 ^ 63 ≤ Float64.truncate x := by
        rw [Float64.truncate, if_pos (le_trans (by norm_num) hx), Int.le_floor]
        exact_mod_cast hx
      simp only [saturate]
      omega
    · have htrunc : Float64.truncate x ≤ -2 ^ 63 := by
        have hneg : ¬0 ≤ x := not_le.mpr (lt_of_le_of_lt hx (by norm_num))
        rw [Float64.truncate, if_neg hneg, Int.ceil_le]
        exact_mod_cast hx
      simp only [saturate]
      omega

/-- A date passes when it is in range and in time. -/
theorem datePasses_integer {payload : Json} {required : Bool} {timely : ℤ → Prop} (hr : s.reader.ReadsIntegers)
    (hn : IsInteger n) (hmember : payload.member? name = some (.num n)) :
    DatePasses s payload name required timely ↔ |integer n| ≤ 2 ^ 53 ∧ timely (integer n) := by
  have hbound : maxNumericDate = 2 ^ 53 := rfl
  constructor
  · intro h
    have hread := h.read n hmember
    have hdate := @numericDate_integer s n name hr hn hread
    obtain ⟨secs, hsecs⟩ := h.date _ hmember
    by_cases hout : maxNumericDate < |integer n|
    · rw [hdate, if_pos hout] at hsecs
      cases hsecs
    · rw [if_neg hout] at hdate
      exact ⟨by omega, h.timely _ (by rw [hmember, dateOf, Option.bind_some, hdate]; rfl)⟩
  · rintro ⟨hrange, htimely⟩
    have hread : s.reader.refuses n = false := by
      rw [← Bool.not_eq_true]
      intro hrefused
      have := hr.refused n hn hrefused
      omega
    have hdate : numericDate s.lib name (.num n) = .ok (integer n) := by
      rw [numericDate_integer hr hn hread, if_neg (by omega)]
    have hof : dateOf s.lib name (payload.member? name) = some (integer n) := by
      rw [hmember, dateOf, Option.bind_some, hdate]
      rfl
    constructor
    · intro m hm
      rw [hmember] at hm
      cases hm
      exact hread
    · intro j hj
      rw [hmember] at hj
      cases hj
      exact ⟨_, hdate⟩
    · intro _ hnone
      rw [hof] at hnone
      cases hnone
    · intro secs hsecs
      rw [hof] at hsecs
      cases hsecs
      exact htimely

theorem skewSecs_of_seconds {opts : ValidationOptions} {skew : ℕ} (hskew : opts.clockSkew = skew * 10 ^ 9)
    (hs : skew < 2 ^ 63) : skewSecs opts = skew := by
  have hsecs : opts.clockSkew / 1000000000 = skew := by omega
  rw [skewSecs, hsecs, saturate]
  omega

theorem expPasses_integer {payload : Json} {skew : ℕ} (hr : s.reader.ReadsIntegers) (hn : IsInteger n)
    (hmember : payload.member? "exp" = some (.num n)) (hskew : s.opts.clockSkew = skew * 10 ^ 9)
    (hs : skew < 2 ^ 63) (hnow : 0 ≤ s.nowUnix) (hnow' : s.nowUnix < 2 ^ 63) :
    ¬ExpPasses s payload ↔ 2 ^ 53 < |integer n| ∨ integer n ≤ s.nowUnix - skew := by
  rw [ExpPasses, datePasses_integer hr hn hmember, skewSecs_of_seconds hskew hs, saturate]
  omega

theorem nbfPasses_integer {payload : Json} {skew : ℕ} (hr : s.reader.ReadsIntegers) (hn : IsInteger n)
    (hmember : payload.member? "nbf" = some (.num n)) (hskew : s.opts.clockSkew = skew * 10 ^ 9)
    (hs : skew < 2 ^ 63) (hnow : 0 ≤ s.nowUnix) :
    ¬NbfPasses s payload ↔ 2 ^ 53 < |integer n| ∨ s.nowUnix + skew < integer n := by
  have := le_abs_self (integer n)
  rw [NbfPasses, datePasses_integer hr hn hmember, skewSecs_of_seconds hskew hs, saturate]
  omega

/-- The claims of a document that was read have its other members. -/
theorem decode_get {payload : Json} {c : Claims} (h : s.decode payload = .ok c) (hname : name ∉ modelledClaims) :
    s.reader.Readable payload ∧ c.get name = payload.member? name := by
  rw [Setting.decode] at h
  split_ifs at h with hread
  obtain ⟨members, rfl, -, rfl⟩ := fromValue_ok.mp h
  exact ⟨hread, by rw [claimsOf_get hname, Json.lookup_insertAll]⟩

/-- The check of `auth_time`, the leeway in nanoseconds. -/
theorem checkAuthTime_integer {c : Claims} {options : IdTokens.Rust.Options} {maxAge : ℤ}
    (hr : s.reader.ReadsIntegers) (hn : IsInteger n) (hread : s.reader.refuses n = false)
    (hget : c.get "auth_time" = some (.num n)) (hmax : options.maxAge = some maxAge) (hpos : 0 ≤ maxAge)
    (hsum : maxAge * 10 ^ 9 + options.leeway < (2 ^ 63 - 1) * 10 ^ 9) (hnow : 0 ≤ options.now)
    (hnow' : options.now < 2 ^ 63) :
    (∃ e, IdTokens.Rust.checkAuthTime s.lib c options = .error e) ↔
      maxAge * 10 ^ 9 + options.leeway < (options.now - integer n) * 10 ^ 9 := by
  have hleeway : saturate (options.leeway / 1000000000 : ℕ) = (options.leeway / 1000000000 : ℕ) := by
    rw [saturate]
    omega
  have hbudget : saturate (maxAge + (options.leeway / 1000000000 : ℕ)) =
      maxAge + (options.leeway / 1000000000 : ℕ) := by
    rw [saturate]
    omega
  -- past either end the difference stays on its side of the budget
  have hverdict : maxAge + (options.leeway / 1000000000 : ℕ) <
      saturate (options.now - saturate (integer n)) ↔
        maxAge * 10 ^ 9 + options.leeway < (options.now - integer n) * 10 ^ 9 := by
    simp only [saturate]
    omega
  simp only [IdTokens.Rust.checkAuthTime, hmax, hget, Option.bind_some, numericSeconds_integer hr hn hread,
    hleeway, hbudget]
  rw [← hverdict]
  split_ifs with hold
  · exact iff_of_true ⟨_, rfl⟩ hold
  · refine iff_of_false ?_ hold
    rintro ⟨e, he⟩
    cases he

/-- The verdicts on times are those of the integers. -/
theorem times_exact (s : Setting) (payload : Json) (skew : ℕ) (hr : s.reader.ReadsIntegers)
    (hskew : s.opts.clockSkew = skew * 10 ^ 9) (hs : skew < 2 ^ 63) (hnow : 0 ≤ s.nowUnix)
    (hnow' : s.nowUnix < 2 ^ 63) :
    ((∃ c, s.validateToken payload = .ok c) ↔ OthersPass s payload ∧ ExpPasses s payload ∧ NbfPasses s payload) ∧
    (∀ n, IsInteger n → payload.member? "exp" = some (.num n) →
      (¬ExpPasses s payload ↔ 2 ^ 53 < |integer n| ∨ integer n ≤ s.nowUnix - skew)) ∧
    (∀ n, IsInteger n → payload.member? "nbf" = some (.num n) →
      (¬NbfPasses s payload ↔ 2 ^ 53 < |integer n| ∨ s.nowUnix + skew < integer n)) ∧
    ∀ n c (options : IdTokens.Rust.Options) maxAge, IsInteger n →
      payload.member? "auth_time" = some (.num n) → s.decode payload = .ok c →
      options.maxAge = some maxAge → 0 ≤ maxAge →
      maxAge * 10 ^ 9 + options.leeway < (2 ^ 63 - 1) * 10 ^ 9 → 0 ≤ options.now → options.now < 2 ^ 63 →
      ((∃ e, IdTokens.Rust.checkAuthTime s.lib c options = .error e) ↔
        maxAge * 10 ^ 9 + options.leeway < (options.now - integer n) * 10 ^ 9) := by
  refine ⟨validateToken_ok_iff s payload, ?_, ?_, ?_⟩
  · intro n hn hmember
    exact expPasses_integer hr hn hmember hskew hs hnow hnow'
  · intro n hn hmember
    exact nbfPasses_integer hr hn hmember hskew hs hnow
  · intro n c options maxAge hn hmember hdecode hmax hpos hsum hstart hend
    have hname : "auth_time" ∉ modelledClaims := by decide
    obtain ⟨hread, hget⟩ := decode_get hdecode hname
    exact checkAuthTime_integer hr hn (FloatReader.refuses_of_member hread.2 hmember) (hget.trans hmember) hmax
      hpos hsum hstart hend

/-- Literals below the overflow threshold are read as what they denote. -/
def sampleReader : FloatReader where
  refuses n := decide (2 ^ 1024 ≤ |n.value|)
  float n := n.value

theorem value_integer (hn : IsInteger n) : n.value = integer n := by
  obtain ⟨hfraction, hexponent⟩ := hn
  simp only [Number.value, Number.exponentValue, hfraction, hexponent, List.append_nil, integer]
  split_ifs <;> simp

theorem sampleReader_readsIntegers : sampleReader.ReadsIntegers where
  refused n hn h := by
    have hvalue : (2 : ℚ) ^ 1024 ≤ |(integer n : ℚ)| := by
      rw [← value_integer hn]
      exact of_decide_eq_true h
    have hpow : (2 : ℚ) ^ 63 ≤ 2 ^ 1024 := pow_le_pow_right₀ (by norm_num) (by norm_num)
    exact_mod_cast hpow.trans hvalue
  zero n hn h := by
    have hfloat : sampleReader.float n = integer n := value_integer hn
    rw [hfloat, h]
    rfl
  high n hn _ h := by
    have hfloat : sampleReader.float n = integer n := value_integer hn
    have hbig : (2 : ℤ) ^ 63 ≤ integer n := by omega
    rw [hfloat]
    exact_mod_cast hbig
  low n hn _ h := by
    have hfloat : sampleReader.float n = integer n := value_integer hn
    rw [hfloat]
    exact_mod_cast h.le

/-- `-18446744073709551616`. -/
def farPast : Number where
  negative := true
  whole := [1, 8, 4, 4, 6, 7, 4, 4, 0, 7, 3, 7, 0, 9, 5, 5, 1, 6, 1, 6]
  fraction := []
  exponent := none
  nonempty := by decide
  noLeadingZero := .inr (by decide)

/-- The clock of a token whose skew is the greatest there is. -/
def sampleSetting : Setting where
  reader := sampleReader
  debug text := "\"" ++ text ++ "\""
  malformed := "invalid JSON"
  audiences _ := "[]"
  opts := { clockSkew := (2 ^ 63 - 1) * 10 ^ 9 }
  nowUnix := 2 ^ 63 - 1

def farPayload : Json := .obj [("auth_time", .num farPast)]

theorem farPayload_decodes : ∃ c, sampleSetting.decode farPayload = .ok c := by
  have hvalue : farPast.value = -18446744073709551616 := value_integer ⟨rfl, rfl⟩
  have hread : sampleReader.refuses farPast = false := by
    have hpow : (2 : ℚ) ^ 65 < 2 ^ 1024 := pow_lt_pow_right₀ (by norm_num) (by norm_num)
    apply decide_eq_false
    rw [hvalue, abs_neg, abs_of_pos (by norm_num), not_le]
    exact lt_trans (by norm_num) hpow
  have hreadable : sampleSetting.reader.Readable farPayload :=
    ⟨by decide, (Bool.or_false _).trans hread⟩
  refine ⟨_, (if_pos hreadable).trans (fromValue_ok.mpr ⟨_, rfl, ?_, rfl⟩)⟩
  constructor
  all_goals intro j hj
  all_goals cases hj

/-- Literals beyond 64 bits are judged by what they denote. -/
theorem times_exact_sample :
    ¬ExpPasses sampleSetting (.obj [("exp", .num farPast)]) ∧
      ∃ c, sampleSetting.decode farPayload = .ok c ∧
        ∃ e, IdTokens.Rust.checkAuthTime sampleSetting.lib c
          { maxAge := some (2 ^ 62), leeway := 0, now := 0 } = .error e := by
  have hinteger : integer farPast = -18446744073709551616 := rfl
  have hrun (payload : Json) := times_exact sampleSetting payload (2 ^ 63 - 1) sampleReader_readsIntegers rfl
    (by norm_num) (by norm_num [sampleSetting]) (by norm_num [sampleSetting])
  obtain ⟨-, hexp, -, -⟩ := hrun (.obj [("exp", .num farPast)])
  obtain ⟨-, -, -, hauth⟩ := hrun farPayload
  obtain ⟨c, hdecode⟩ := farPayload_decodes
  refine ⟨(hexp farPast ⟨rfl, rfl⟩ rfl).mpr (.inl ?_), c, hdecode,
    (hauth farPast c { maxAge := some (2 ^ 62), leeway := 0, now := 0 } (2 ^ 62) ⟨rfl, rfl⟩ rfl hdecode rfl
      (by norm_num) (by norm_num) (by norm_num) (by norm_num)).mpr ?_⟩
  · rw [hinteger]
    norm_num
  · rw [hinteger]
    norm_num

end Literals

end IdentityModel.RustClaims
