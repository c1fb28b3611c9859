import IdentityModel.IdTokens
import IdentityModel.Results

/-!
# Three validators of one profile

The ID token checks of the three languages over one claims object, one header
algorithm and one choice of options. Each accepts what a relation without a
language, the profile, describes, as far as its types go: Go accepts exactly the
profile, Rust those of its tokens whose registered claims have the types of
`Claims`, Python those whose expected values are ASCII.
-/
namespace IdentityModel.IdTokens

open Results
open RustClaims (Library Shaped IsStringOrAbsent saturate)

/-- The options of a caller, times in whole seconds. Python takes the clock and the
leeway as floats or as integers. -/
structure Options where
  clientId : Option String := none
  nonce : Option String := none
  accessToken : Option String := none
  code : Option String := none
  maxAge : Option ℤ := none
  leeway : ℕ := 0
  now : ℤ
  floatLeeway : Bool := true
  floatNow : Bool := true

namespace Options

def number (asFloat : Bool) (i : ℤ) : Py.Num := if asFloat then .float (.finite i) else .int i

def py (opts : Options) : Py.Options where
  clientId := opts.clientId
  nonce := opts.nonce
  accessToken := opts.accessToken
  code := opts.code
  maxAge := opts.maxAge
  leeway := number opts.floatLeeway opts.leeway
  now := number opts.floatNow opts.now

def go (opts : Options) : Go.Config where
  clientID := opts.clientId.getD ""
  nonce := opts.nonce
  accessToken := opts.accessToken
  code := opts.code
  maxAge := opts.maxAge.map fun secs => secs * 1000000000
  leeway := opts.leeway * 1000000000
  now := opts.now * 1000000000

def rust (opts : Options) : Rust.Options where
  clientId := opts.clientId
  nonce := opts.nonce
  accessToken := opts.accessToken
  code := opts.code
  maxAge := opts.maxAge
  leeway := opts.leeway * 1000000000
  now := opts.now

end Options

section Accepts

variable (digest : Digest) (claims : ClaimMap) (alg : Option String) (opts : Options)

def pyAccepts (repr : String → String) : Prop :=
  Py.validateIdTokenClaims digest repr claims alg opts.py = .ok ()

/-- An absent algorithm is the empty text in Go. -/
def goAccepts (fmt : GoClaims.Fmt) : Prop :=
  Go.validateProfile digest fmt claims (alg.getD "") opts.go = .ok ()

def rustAccepts (lib : Library) : Prop :=
  ∃ c, RustClaims.Claims.fromMap lib claims = .ok c ∧
    Rust.validateIdTokenClaims digest lib c alg opts.rust = .ok ()

end Accepts

/-- More than one audience. -/
def Several (claims : ClaimMap) : Prop :=
  ∃ elems, claims.lookup "aud" = some (.arr elems) ∧ 1 < elems.length

/-- A number no more than `maxAge` and the leeway before the clock. -/
def Recent (claims : ClaimMap) (opts : Options) (maxAge : ℤ) : Prop :=
  ∃ n, claims.lookup "auth_time" = some (.num n) ∧ opts.now - n.value ≤ maxAge + opts.leeway

/-- The hash a token binds a value with. -/
def bindingHash (digest : Digest) (alg : Option String) (value : String) : Option String :=
  (shaFor (GoJwks.trimSpace (alg.getD ""))).map fun sha => leftHalf (digest sha (octets value))

/-- The claim is the binding hash of a value. -/
def Binds (digest : Digest) (claims : ClaimMap) (alg : Option String) (name value : String) : Prop :=
  ∃ hash, bindingHash digest alg value = some hash ∧ claims.lookup name = some (.str hash)

/-- A token with the ID token profile. -/
structure Profile (digest : Digest) (claims : ClaimMap) (alg : Option String) (opts : Options) :
    Prop where
  sub : ∃ s, claims.lookup "sub" = some (.str s) ∧ s ≠ ""
  party : Several claims → ∃ s, claims.lookup "azp" = some (.str s) ∧ s ≠ ""
  azp : ∀ e, opts.clientId = some e →
    claims.lookup "azp" = none ∨ claims.lookup "azp" = some .null ∨ claims.lookup "azp" = some (.str e)
  nonce : ∀ e, opts.nonce = some e → claims.lookup "nonce" = some (.str e)
  authTime : ∀ e, opts.maxAge = some e → Recent claims opts e
  atHash : ∀ e, opts.accessToken = some e → Binds digest claims alg "at_hash" e
  cHash : ∀ e, opts.code = some e → Binds digest claims alg "c_hash" e

/-- What the three are given: a client id that is not empty, times and durations the
languages can hold, a clock Go reads exactly, and an `auth_time`, if it is a number, that
is an integer and read as such. -/
structure InDomain (lib : Library) (claims : ClaimMap) (opts : Options) : Prop where
  clientId : opts.clientId ≠ some ""
  now : |opts.now| < 2 ^ 53
  leeway : (opts.leeway : ℤ) * 1000000000 < 2 ^ 63
  maxAge : ∀ e, opts.maxAge = some e → |e| * 1000000000 < 2 ^ 63
  clock : opts.maxAge ≠ none → Go.nowSec (opts.now * 1000000000) = .finite opts.now
  authTime : ∀ n, claims.lookup "auth_time" = some (.num n) → ∃ k : ℤ, n.value = k ∧ |k| < 2 ^ 53 ∧
    (lib.asI64 n = some k ∨ lib.asI64 n = none ∧ lib.asF64 n = some k)

/-- None of the four separators that are space in Python alone. -/
def PlainAlg (alg : Option String) : Prop :=
  ∀ a, alg = some a → ∀ c ∈ a.toList, ¬ (0x1C ≤ c.toNat ∧ c.toNat ≤ 0x1F)

/-- The values the token is bound to are ASCII. -/
structure AsciiInputs (opts : Options) : Prop where
  nonce : ∀ e, opts.nonce = some e → isAscii e = true
  accessToken : ∀ e, opts.accessToken = some e → isAscii e = true
  code : ∀ e, opts.code = some e → isAscii e = true

/-- The subject is text if it is there, and so is the party, if its text is not compared. -/
structure TextParties (claims : ClaimMap) (opts : Options) : Prop where
  sub : IsStringOrAbsent (claims.lookup "sub")
  azp : opts.clientId = none → Several claims →
    claims.lookup "azp" = some .null ∨ IsStringOrAbsent (claims.lookup "azp")

variable {digest : Digest} {claims : ClaimMap} {alg : Option String} {opts : IdTokens.Options}
  {lib : Library} {fmt : GoClaims.Fmt} {repr : String → String}

/-- The bounds of the domain leave room for sums. -/
theorem small_of_duration {m : ℤ} (h : |m| * 1000000000 < 2 ^ 63) : |m| < 2 ^ 34 := by
  have := abs_nonneg m
  omega

theorem InDomain.small_leeway (hdomain : InDomain lib claims opts) : |(opts.leeway : ℤ)| < 2 ^ 34 :=
  small_of_duration (by simpa using hdomain.leeway)

theorem InDomain.small_sum (hdomain : InDomain lib claims opts) {m : ℤ} (hm : |m| < 2 ^ 34) :
    |m + opts.leeway| ≤ 2 ^ 52 := by
  have hl := hdomain.small_leeway
  have := abs_add_le m opts.leeway
  omega

/-- With an integer under the claim, what is recent is a comparison of integers. -/
theorem recent_iff_of_num {m k : ℤ} {n : Number} (hn : claims.lookup "auth_time" = some (.num n))
    (hk : n.value = k) : Recent claims opts m ↔ ¬ m + opts.leeway < opts.now - k := by
  have hle : (opts.now : ℚ) - n.value ≤ m + opts.leeway ↔ ¬ m + opts.leeway < opts.now - k := by
    rw [hk, not_lt]
    exact_mod_cast Iff.rfl
  simp only [Recent, hn, Option.some.injEq, Json.num.injEq, exists_eq_left', hle]

theorem not_recent_of_no_num {m : ℤ} (hnone : ∀ n, claims.lookup "auth_time" ≠ some (.num n)) :
    ¬ Recent claims opts m := by
  rintro ⟨n, hn, -⟩
  exact hnone n hn

namespace Py.Num

/-- The number is this integer. -/
def Is (x : Num) (i : ℤ) : Prop := x = .int i ∨ x = .float (.finite i)

theorem is_number (asFloat : Bool) (i : ℤ) : (Options.number asFloat i).Is i := by
  cases asFloat with
  | true => exact .inr rfl
  | false => exact .inl rfl

theorem ofLiteral_is {n : Number} {k : ℤ} (hn : n.value = k) (hk : |k| ≤ 2 ^ 53) :
    (ofLiteral n).Is k := by
  unfold ofLiteral
  rw [hn]
  split_ifs
  · left
    rw [Int.floor_intCast]
  · right
    rw [Float64.ofRat_intCast hk]

theorem Is.toFloat {x : Num} {i : ℤ} (h : x.Is i) (hi : |i| ≤ 2 ^ 53) : x.toFloat = .finite i := by
  obtain rfl | rfl := h
  · exact Float64.ofRat_intCast hi
  · rfl

theorem Is.exact {x : Num} {i : ℤ} (h : x.Is i) : x.exact = .finite i := by
  obtain rfl | rfl := h <;> rfl

theorem Is.add {x : Num} {i m : ℤ} (h : x.Is i) (hm : |m| ≤ 2 ^ 53)
    (hsum : |m + i| ≤ 2 ^ 53) : ((Num.int m).add x).Is (m + i) := by
  obtain rfl | rfl := h
  · exact .inl rfl
  · right
    have hfloat : (Num.int m).toFloat = .finite m := Is.toFloat (.inl rfl) hm
    simp only [Num.add, hfloat, Float64.add]
    rw [← Float64.ofRat_intCast hsum]
    push_cast
    rfl

/-- A difference is greater than a small integer when the integers say so, although
it may be rounded. -/
theorem lt_sub {x y : Num} {i k m : ℤ} (hx : x.Is i) (hy : y.Is k) (hi : |i| < 2 ^ 53)
    (hk : |k| < 2 ^ 53) (hm : |m| ≤ 2 ^ 52) :
    Float64.lt (.finite m) (x.sub y).exact = decide (m < i - k) := by
  have hrounded : Float64.lt (.finite m) (Float64.sub x.toFloat y.toFloat) = decide (m < i - k) := by
    rw [hx.toFloat hi.le, hy.toFloat hk.le]
    have hd : |i - k| < 2 ^ 54 := by
      rw [abs_lt] at *
      omega
    have hcast : (i : ℚ) + -(k : ℚ) = ((i - k : ℤ) : ℚ) := by push_cast; ring
    simp only [Float64.sub, Float64.neg, Float64.add]
    rw [hcast]
    exact Float64.lt_ofRat_intCast hd hm
  obtain rfl | rfl := hx
  · obtain rfl | rfl := hy
    · simp only [Num.sub, Num.exact, Float64.lt, Int.cast_lt]
    · exact hrounded
  · exact hrounded

end Py.Num

namespace Go

theorem durationSeconds_mul {m : ℤ} (hm : |m| ≤ 2 ^ 53) :
    durationSeconds (m * 1000000000) = .finite m := by
  have hdiv : (m * 1000000000).tdiv 1000000000 = m := Int.mul_tdiv_cancel m (by norm_num)
  have hmod : (m * 1000000000).tmod 1000000000 = 0 := Int.mul_tmod_left m 1000000000
  have hzero : (Float64.ofRat ((0 : ℤ) : ℚ)).div 1000000000 = .finite 0 := by
    simp [Float64.ofRat, Float64.div]
  simp only [durationSeconds, hdiv, hmod, hzero, Float64.ofRat_intCast hm, Float64.add, add_zero]

/-- The clock is exact while the nanoseconds fit in a mantissa, whose last bits are
those of a power of ten. -/
theorem nowSec_mul {now : ℤ} (h : |now| * 5 ^ 9 < 2 ^ 53) :
    nowSec (now * 1000000000) = .finite now := by
  have hwrap : unixNano (now * 1000000000) = now * 1000000000 := by
    unfold unixNano
    apply Int.bmod_eq_of_le
    · rw [← sub_nonneg]
      obtain ⟨h1, h2⟩ := abs_lt.mp (show |now| < 4611686019 by omega)
      norm_num
      omega
    · obtain ⟨h1, h2⟩ := abs_lt.mp (show |now| < 4611686019 by omega)
      norm_num
      omega
  have hk : |now * 5 ^ 9| < 2 ^ 53 := by
    rw [abs_mul]
    exact h
  have hcast : ((now * 1000000000 : ℤ) : ℚ) = ((now * 5 ^ 9 : ℤ) : ℚ) * 2 ^ 9 := by
    push_cast
    ring
  have hdiv : ((now * 5 ^ 9 : ℤ) : ℚ) * 2 ^ 9 / 1000000000 = now := by
    push_cast
    ring
  have hsmall : |now| ≤ 2 ^ 53 := by
    have := abs_nonneg now
    omega
  simp only [nowSec, hwrap, hcast, Float64.ofRat_mul_two_pow hk (by norm_num : 9 ≤ 64), Float64.div,
    hdiv, Float64.ofRat_intCast hsmall]

end Go

theorem saturate_of_mem {i : ℤ} (hlo : -2 ^ 63 ≤ i) (hhi : i < 2 ^ 63) : saturate i = i := by
  unfold saturate
  omega

theorem isMultiple_iff : isMultiple (claims.lookup "aud") = true ↔ Several claims := by
  unfold Several isMultiple
  split
  · rename_i elems helems
    simp [helems]
  · rename_i hother
    simp only [Bool.false_eq_true, false_iff, not_exists, not_and]
    intro elems helems
    exact absurd helems (hother elems)

namespace Go

theorem textOf_ne_empty {v : Option Json} : textOf v ≠ "" ↔ ∃ s, v = some (.str s) ∧ s ≠ "" := by
  unfold textOf
  split
  · simp
  · rename_i hv
    simp only [ne_eq, not_true_eq_false, false_iff, not_exists, not_and]
    intro s hs
    exact absurd hs (hv s)

theorem checkSub_ok : checkSub claims = .ok () ↔ ∃ s, claims.lookup "sub" = some (.str s) ∧ s ≠ "" := by
  rw [← textOf_ne_empty]
  unfold checkSub
  split_ifs with h <;> simp [h]

theorem checkBinding_ok {name expected reason message : String} :
    checkBinding claims name expected reason message = .ok () ↔
      claims.lookup name = some (.str expected) := by
  unfold checkBinding
  split
  · rename_i actual hactual
    rw [hactual]
    split_ifs with h <;> simp [h]
  · rename_i hnone
    simp only [reduceCtorEq, false_iff]
    exact hnone expected

theorem checkNonce_ok {nonce : Option String} : checkNonce claims nonce = .ok () ↔
    ∀ e, nonce = some e → claims.lookup "nonce" = some (.str e) := by
  cases nonce with
  | none => simp [checkNonce]
  | some e => simp [checkNonce, checkBinding_ok]

theorem validateAZP_ok (hclient : opts.clientId ≠ some "") :
    validateAZP claims (opts.clientId.getD "") = .ok () ↔
      (Several claims → ∃ s, claims.lookup "azp" = some (.str s) ∧ s ≠ "") ∧
        ∀ e, opts.clientId = some e → claims.lookup "azp" = none ∨ claims.lookup "azp" = some .null ∨
          claims.lookup "azp" = some (.str e) := by
  have hparty : (∃ s, claims.lookup "azp" = some (.str s) ∧ s ≠ "") ↔
      ((claims.lookup "azp").isNone || isNil (claims.lookup "azp") ||
        textOf (claims.lookup "azp") == "") = false := by
    rw [← textOf_ne_empty]
    cases hazp : claims.lookup "azp" with
    | none => simp [textOf]
    | some j => cases j <;> simp [textOf, isNil]
  have hazp : (∀ e, opts.clientId = some e → claims.lookup "azp" = none ∨
      claims.lookup "azp" = some .null ∨ claims.lookup "azp" = some (.str e)) ↔
      ((claims.lookup "azp").isSome && !isNil (claims.lookup "azp") &&
        opts.clientId.getD "" != "" && textOf (claims.lookup "azp") != opts.clientId.getD "") = false := by
    cases hid : opts.clientId with
    | none => simp
    | some e =>
        have he : e ≠ "" := by
          rintro rfl
          exact hclient hid
        cases hazp : claims.lookup "azp" with
        | none => simp
        | some j => cases j <;> simp [textOf, isNil, he, he.symm]
  rw [hparty, hazp, ← isMultiple_iff]
  unfold validateAZP
  simp only
  split_ifs with h1 h2
  · obtain ⟨hseveral, hfalsy⟩ := Bool.and_eq_true_iff.mp h1
    simp only [false_iff, not_and]
    intro hnot
    rw [hnot hseveral] at hfalsy
    cases hfalsy
  · simp only [false_iff, not_and]
    intro _ hnot
    rw [hnot] at h2
    cases h2
  · simp only [true_iff]
    constructor
    · intro hseveral
      rw [hseveral, Bool.true_and] at h1
      exact Bool.eq_false_of_not_eq_true h1
    · exact Bool.eq_false_of_not_eq_true h2

theorem checkAuthTime_ok (hdomain : InDomain lib claims opts) :
    checkAuthTime claims opts.go = .ok () ↔ ∀ e, opts.maxAge = some e → Recent claims opts e := by
  unfold checkAuthTime Options.go
  cases hage : opts.maxAge with
  | none => simp
  | some m =>
      simp only [Option.map_some, Option.some.injEq, forall_eq', validateAuthTime]
      have hm := small_of_duration (hdomain.maxAge m hage)
      have hl := hdomain.small_leeway
      have hsum := hdomain.small_sum hm
      split
      · rename_i n hn
        obtain ⟨k, hk, hsmall, -⟩ := hdomain.authTime n hn
        have hallowed : (durationSeconds (m * 1000000000)).add
            (durationSeconds (opts.leeway * 1000000000)) = .finite ((m + opts.leeway : ℤ) : ℚ) := by
          rw [durationSeconds_mul (by omega), durationSeconds_mul (by omega)]
          rw [← Float64.ofRat_intCast (hsum.trans (by norm_num))]
          push_cast
          rfl
        have hage : Float64.lt (.finite ((m + opts.leeway : ℤ) : ℚ))
            ((nowSec (opts.now * 1000000000)).sub (Float64.ofRat n.value)) =
              decide (m + opts.leeway < opts.now - k) := by
          rw [hdomain.clock (by simp [hage]), hk]
          exact Py.Num.lt_sub (x := .float (.finite opts.now)) (y := .float (Float64.ofRat k)) (.inr rfl)
            (.inr (congrArg _ (Float64.ofRat_intCast hsmall.le))) hdomain.now hsmall hsum
        simp only [hallowed, hage, recent_iff_of_num hn hk, decide_eq_true_eq]
        split_ifs with h
        · simp only [h, not_true_eq_false]
        · simp only [h, not_false_eq_true]
      · rename_i hnone
        simp only [reduceCtorEq, false_iff]
        exact not_recent_of_no_num hnone

theorem leftHalfHash_ok {value hash : String} :
    leftHalfHash digest fmt value (alg.getD "") = .ok hash ↔ bindingHash digest alg value = some hash := by
  unfold leftHalfHash bindingHash
  simp only
  split_ifs with h
  · rw [h]
    simp [show shaFor "" = none from rfl]
  · cases shaFor (GoJwks.trimSpace (alg.getD "")) <;> simp

theorem checkHash_ok {name reason message : String} {value : Option String} :
    checkHash digest fmt claims (alg.getD "") name reason message value = .ok () ↔
      ∀ e, value = some e → Binds digest claims alg name e := by
  cases value with
  | none => simp [checkHash]
  | some e =>
      have hhash : ∀ hash, bindingHash digest alg e = some hash ↔
          leftHalfHash digest fmt e (alg.getD "") = .ok hash := fun _ => leftHalfHash_ok.symm
      simp only [checkHash, Option.some.injEq, forall_eq', Binds, hhash]
      cases leftHalfHash digest fmt e (alg.getD "") <;> simp [checkBinding_ok]

end Go

/-- Go accepts exactly the tokens with the profile. -/
theorem goAccepts_iff (hdomain : InDomain lib claims opts) :
    goAccepts digest claims alg opts fmt ↔ Profile digest claims alg opts := by
  simp only [goAccepts, Go.validateProfile, check_eq_ok, Go.checkSub_ok,
    show opts.go.clientID = opts.clientId.getD "" from rfl, Go.validateAZP_ok hdomain.clientId,
    Go.checkNonce_ok, Go.checkAuthTime_ok hdomain, Go.checkAtHash, Go.checkCHash, Go.checkHash_ok]
  constructor
  · rintro ⟨hsub, ⟨hparty, hazp⟩, hnonce, htime, hat, hc⟩
    exact ⟨hsub, hparty, hazp, hnonce, htime, hat, hc⟩
  · intro h
    exact ⟨h.sub, ⟨h.party, h.azp⟩, h.nonce, h.authTime, h.atHash, h.cHash⟩

theorem bind_str?_eq_some {v : Option Json} {s : String} :
    v.bind Json.str? = some s ↔ v = some (.str s) := by
  constructor
  · intro h
    obtain ⟨j, rfl, hj⟩ := Option.bind_eq_some_iff.mp h
    rw [Json.str?_eq_some hj]
  · rintro rfl
    rfl

namespace Rust

open RustClaims (claimsOf claimsOf_get audienceOf IsAudience)

theorem checkSub_ok : checkSub (claimsOf lib claims) = .ok () ↔
    ∃ s, claims.lookup "sub" = some (.str s) ∧ s ≠ "" := by
  have hsub : (claimsOf lib claims).subject = (claims.lookup "sub").bind Json.str? := rfl
  simp only [checkSub, hsub, ← bind_str?_eq_some]
  cases (claims.lookup "sub").bind Json.str? <;> simp

theorem audience_length (h : IsAudience (claims.lookup "aud")) :
    1 < (audienceOf (claims.lookup "aud")).length ↔ Several claims := by
  unfold Several
  cases haud : claims.lookup "aud" with
  | none => simp [audienceOf]
  | some j =>
      obtain rfl | ⟨s, rfl⟩ | ⟨auds, rfl⟩ := h j haud
      · simp [audienceOf]
      · simp [audienceOf]
      · simp only [audienceOf, RustClaims.filterMap_str?, Option.some.injEq, Json.arr.injEq,
          exists_eq_left', List.length_map]

theorem checkAzp_ok (hshaped : Shaped lib claims) :
    checkAzp (claimsOf lib claims) opts.clientId = .ok () ↔
      (Several claims → ∃ s, claims.lookup "azp" = some (.str s) ∧ s ≠ "") ∧
        ∀ e, opts.clientId = some e → claims.lookup "azp" = none ∨ claims.lookup "azp" = some .null ∨
          claims.lookup "azp" = some (.str e) := by
  have haud : (claimsOf lib claims).audience = audienceOf (claims.lookup "aud") := rfl
  have hparty : (claimsOf lib claims).authorizedParty = (claims.lookup "azp").bind Json.str? := rfl
  have hlen := audience_length hshaped.aud
  simp only [checkAzp]
  rw [haud, hparty]
  obtain hazp | ⟨s, hazp⟩ : claims.lookup "azp" = none ∨ ∃ s, claims.lookup "azp" = some (.str s) := by
    cases hazp : claims.lookup "azp" with
    | none => exact .inl rfl
    | some j =>
        obtain ⟨s, rfl⟩ := hshaped.azp j hazp
        exact .inr ⟨s, rfl⟩
  · rw [hazp]
    split_ifs with h1 h2
    · simp [hlen.mp h1.1]
    · simp [azpDiffers] at h2
    · have hsingle : ¬ Several claims := fun h => h1 ⟨hlen.mpr h, by simp⟩
      simp [hsingle]
  · rw [hazp]
    split_ifs with h1 h2
    · have hs : s = "" := by simpa [Json.str?] using h1.2
      simp [hlen.mp h1.1, hs]
    · obtain ⟨e, he⟩ : ∃ e, opts.clientId = some e := by
        cases hid : opts.clientId with
        | none => simp [azpDiffers, hid] at h2
        | some e => exact ⟨e, rfl⟩
      have hne : s ≠ e := by simpa [azpDiffers, he, Json.str?] using h2
      simp [he, hne]
    · have hs : Several claims → s ≠ "" := by
        rintro h rfl
        exact h1 ⟨hlen.mpr h, by simp [Json.str?]⟩
      have he : ∀ e, opts.clientId = some e → s = e := by
        intro e he
        simpa [azpDiffers, he, Json.str?] using h2
      simpa using ⟨hs, he⟩

theorem checkBinding_ok {actual : Option String} {expected message : String} :
    checkBinding actual expected message = .ok () ↔ actual = some expected := by
  unfold checkBinding
  split_ifs with h <;> simp [h]

theorem checkNonce_ok {nonce : Option String} : checkNonce (claimsOf lib claims) nonce = .ok () ↔
    ∀ e, nonce = some e → claims.lookup "nonce" = some (.str e) := by
  have hnonce : (claimsOf lib claims).nonce = (claims.lookup "nonce").bind Json.str? := rfl
  cases nonce with
  | none => simp [checkNonce]
  | some e => simp [checkNonce, checkBinding_ok, hnonce, bind_str?_eq_some]

theorem numericSeconds_num {n : Number} {k : ℤ} (hk : |k| < 2 ^ 53)
    (h : lib.asI64 n = some k ∨ lib.asI64 n = none ∧ lib.asF64 n = some (k : ℚ)) :
    numericSeconds lib (.num n) = some k := by
  simp only [numericSeconds]
  obtain h | ⟨hint, hfloat⟩ := h
  · rw [h]
  · obtain ⟨h1, h2⟩ := abs_lt.mp hk
    simp only [hint, hfloat, Option.map_some, Float64.truncate_intCast]
    rw [saturate_of_mem (by omega) (by omega)]

theorem checkAuthTime_ok (hdomain : InDomain lib claims opts) :
    checkAuthTime lib (claimsOf lib claims) opts.rust = .ok () ↔
      ∀ e, opts.maxAge = some e → Recent claims opts e := by
  have hget : (claimsOf lib claims).get "auth_time" = claims.lookup "auth_time" :=
    claimsOf_get (by decide)
  simp only [checkAuthTime, hget, Options.rust]
  cases hage : opts.maxAge with
  | none => simp
  | some m =>
      simp only [Option.some.injEq, forall_eq']
      have hm := small_of_duration (hdomain.maxAge m hage)
      have hl := hdomain.small_leeway
      by_cases hnum : ∃ n, claims.lookup "auth_time" = some (.num n)
      · obtain ⟨n, hn⟩ := hnum
        obtain ⟨k, hk, hsmall, hread⟩ := hdomain.authTime n hn
        obtain ⟨hk1, hk2⟩ := abs_lt.mp hsmall
        obtain ⟨hm1, hm2⟩ := abs_lt.mp hm
        obtain ⟨hl1, hl2⟩ := abs_lt.mp hl
        obtain ⟨hn1, hn2⟩ := abs_lt.mp hdomain.now
        have hsecs : opts.leeway * 1000000000 / 1000000000 = opts.leeway :=
          Nat.mul_div_cancel _ (by norm_num)
        simp only [hn, Option.bind_some, numericSeconds_num hsmall hread, hsecs,
          recent_iff_of_num hn hk]
        rw [saturate_of_mem (i := opts.leeway) (by omega) (by omega), saturate_of_mem (by omega) (by omega),
          saturate_of_mem (by omega) (by omega)]
        split_ifs with h
        · simp only [h, not_true_eq_false]
        · simp only [h, not_false_eq_true]
      · have hnone : (claims.lookup "auth_time").bind (numericSeconds lib) = none := by
          cases hlookup : claims.lookup "auth_time" with
          | none => rfl
          | some j =>
              cases j with
              | num n => exact absurd ⟨n, hlookup⟩ hnum
              | _ => rfl
        simp only [hnone, reduceCtorEq, false_iff]
        exact not_recent_of_no_num (not_exists.mp hnum)

theorem leftHalfHash_ok {value hash : String} :
    leftHalfHash digest lib value alg = .ok hash ↔ bindingHash digest alg value = some hash := by
  unfold leftHalfHash digestForAlg bindingHash
  simp only
  split_ifs with h
  · rw [h]
    simp [show shaFor "" = none from rfl, Except.map]
  · cases shaFor (GoJwks.trimSpace (alg.getD "")) <;> simp [Except.map]

theorem getStr_eq_some {name text : String} (hname : name ∉ RustClaims.modelledClaims) :
    (claimsOf lib claims).getStr name = some text ↔ claims.lookup name = some (.str text) := by
  rw [RustClaims.Claims.getStr, claimsOf_get hname, bind_str?_eq_some]

theorem checkHash_ok {name message : String} {value : Option String}
    (hname : name ∉ RustClaims.modelledClaims) :
    checkHash digest lib (claimsOf lib claims) alg name message value = .ok () ↔
      ∀ e, value = some e → Binds digest claims alg name e := by
  cases value with
  | none => simp [checkHash]
  | some e =>
      have hhash : ∀ hash, bindingHash digest alg e = some hash ↔
          leftHalfHash digest lib e alg = .ok hash := fun _ => leftHalfHash_ok.symm
      simp only [checkHash, Option.some.injEq, forall_eq', Binds, hhash]
      cases leftHalfHash digest lib e alg <;> simp [checkBinding_ok, getStr_eq_some hname]

end Rust

/-- Rust accepts the tokens with the profile that it can decode. -/
theorem rustAccepts_iff (hdomain : InDomain lib claims opts) :
    rustAccepts digest claims alg opts lib ↔ Profile digest claims alg opts ∧ Shaped lib claims := by
  simp only [rustAccepts, RustClaims.fromMap_ok, Rust.validateIdTokenClaims, check_eq_ok]
  constructor
  · rintro ⟨c, ⟨hshaped, rfl⟩, hsub, hparty, hnonce, htime, hat, hc⟩
    rw [Rust.checkSub_ok] at hsub
    rw [show opts.rust.clientId = opts.clientId from rfl, Rust.checkAzp_ok hshaped] at hparty
    rw [Rust.checkNonce_ok] at hnonce
    rw [Rust.checkAuthTime_ok hdomain] at htime
    rw [Rust.checkAtHash, Rust.checkHash_ok (by decide)] at hat
    rw [Rust.checkCHash, Rust.checkHash_ok (by decide)] at hc
    exact ⟨⟨hsub, hparty.1, hparty.2, hnonce, htime, hat, hc⟩, hshaped⟩
  · rintro ⟨h, hshaped⟩
    exact ⟨_, ⟨hshaped, rfl⟩, Rust.checkSub_ok.mpr h.sub, (Rust.checkAzp_ok hshaped).mpr ⟨h.party, h.azp⟩,
      Rust.checkNonce_ok.mpr h.nonce, (Rust.checkAuthTime_ok hdomain).mpr h.authTime,
      (Rust.checkHash_ok (by decide)).mpr h.atHash, (Rust.checkHash_ok (by decide)).mpr h.cHash⟩

namespace Py

/-- For a text, truth is that it is there and not empty. -/
theorem truthy_iff {v : Option Json} (h : v = some .null ∨ IsStringOrAbsent v) :
    truthy v = true ↔ ∃ s, v = some (.str s) ∧ s ≠ "" := by
  obtain rfl | h := h
  · simp [truthy, IdentityModel.Py.isTruthy]
  · cases v with
    | none => simp [truthy]
    | some j =>
        obtain ⟨s, rfl⟩ := h j rfl
        simp [truthy, IdentityModel.Py.isTruthy]

theorem checkSub_ok (h : IsStringOrAbsent (claims.lookup "sub")) :
    checkSub claims = .ok () ↔ ∃ s, claims.lookup "sub" = some (.str s) ∧ s ≠ "" := by
  rw [← truthy_iff (.inr h)]
  unfold checkSub
  split_ifs with htruthy <;> simp [htruthy]

theorem azpDiffers_eq_false {azp : Option Json} {clientId : Option String} :
    azpDiffers azp clientId = false ↔
      ∀ e, clientId = some e → azp = none ∨ azp = some .null ∨ azp = some (.str e) := by
  cases clientId with
  | none =>
      cases azp with
      | none => simp [azpDiffers]
      | some j => cases j <;> simp [azpDiffers]
  | some e =>
      cases azp with
      | none => simp [azpDiffers]
      | some j => cases j <;> simp [azpDiffers]

theorem checkAzp_ok (htext : TextParties claims opts) :
    checkAzp claims opts.clientId = .ok () ↔
      (Several claims → ∃ s, claims.lookup "azp" = some (.str s) ∧ s ≠ "") ∧
        ∀ e, opts.clientId = some e → claims.lookup "azp" = none ∨ claims.lookup "azp" = some .null ∨
          claims.lookup "azp" = some (.str e) := by
  have hchecks : checkAzp claims opts.clientId = .ok () ↔
      (Several claims → truthy (claims.lookup "azp") = true) ∧
        azpDiffers (claims.lookup "azp") opts.clientId = false := by
    rw [← isMultiple_iff]
    unfold checkAzp
    split_ifs with h1 h2
    · obtain ⟨hseveral, hfalsy⟩ := Bool.and_eq_true_iff.mp h1
      simp only [false_iff, not_and]
      intro htruthy
      rw [htruthy hseveral] at hfalsy
      cases hfalsy
    · simp [h2]
    · simp only [true_iff]
      refine ⟨fun hseveral => ?_, Bool.eq_false_of_not_eq_true h2⟩
      rw [hseveral, Bool.true_and, Bool.not_eq_true', Bool.not_eq_false] at h1
      exact h1
  rw [hchecks, azpDiffers_eq_false]
  refine and_congr_left fun hazp => imp_congr_right fun hseveral => truthy_iff ?_
  cases hid : opts.clientId with
  | none => exact htext.azp hid hseveral
  | some e =>
      obtain h | h | h := hazp e hid
      · exact .inr (by simp [IsStringOrAbsent, h])
      · exact .inl h
      · exact .inr (by simp [IsStringOrAbsent, h])

theorem checkBinding_ok {name expected mismatch : String} :
    checkBinding claims name expected mismatch = .ok () ↔
      isAscii expected = true ∧ claims.lookup name = some (.str expected) := by
  unfold checkBinding
  cases hlookup : claims.lookup name with
  | none => simp
  | some j =>
      cases j with
      | str actual =>
          simp only [hashesEqual]
          by_cases hascii : (isAscii actual && isAscii expected) = true
          · rw [if_pos hascii]
            by_cases heq : actual = expected
            · subst heq
              simpa using hascii
            · simp [heq]
          · rw [if_neg hascii]
            simp only [reduceCtorEq, Option.some.injEq, Json.str.injEq, false_iff, not_and]
            rintro hexpected rfl
            simp [hexpected] at hascii
      | _ => simp

theorem checkNonce_ok {nonce : Option String} : checkNonce claims nonce = .ok () ↔
    (∀ e, nonce = some e → isAscii e = true) ∧
      ∀ e, nonce = some e → claims.lookup "nonce" = some (.str e) := by
  cases nonce with
  | none => simp [checkNonce]
  | some e => simp [checkNonce, checkBinding_ok]

theorem checkAuthTime_ok (hdomain : InDomain lib claims opts) :
    checkAuthTime claims opts.py = .ok () ↔ ∀ e, opts.maxAge = some e → Recent claims opts e := by
  have hnow : opts.py.now.Is opts.now := Num.is_number opts.floatNow opts.now
  have hleeway : opts.py.leeway.Is opts.leeway := Num.is_number opts.floatLeeway opts.leeway
  have hmax : opts.py.maxAge = opts.maxAge := rfl
  simp only [checkAuthTime, hmax]
  cases hage : opts.maxAge with
  | none => simp
  | some m =>
      simp only [Option.some.injEq, forall_eq']
      have hm := small_of_duration (hdomain.maxAge m hage)
      have hsum := hdomain.small_sum hm
      split
      · rename_i n hn
        obtain ⟨k, hk, hsmall, -⟩ := hdomain.authTime n hn
        have hallowed := (hleeway.add (m := m) (by omega) (hsum.trans (by norm_num))).exact
        have hstale : (opts.py.now.sub (.ofLiteral n)).gt ((Num.int m).add opts.py.leeway) =
            decide (m + opts.leeway < opts.now - k) := by
          rw [Num.gt, hallowed]
          exact Num.lt_sub hnow (Num.ofLiteral_is hk hsmall.le) hdomain.now hsmall hsum
        simp only [hstale, recent_iff_of_num hn hk, decide_eq_true_eq]
        split_ifs with h
        · simp only [h, not_true_eq_false]
        · simp only [h, not_false_eq_true]
      · rename_i hnone
        simp only [reduceCtorEq, false_iff]
        exact not_recent_of_no_num hnone

theorem isAscii_leftHalf (d : List UInt8) : isAscii (leftHalf d) = true := by
  simpa [isAscii, leftHalf] using Base64.encodeUrl_ascii (d.take (d.length / 2))

theorem dropWhile_congr {p q : Char → Bool} {l : List Char} (h : ∀ c ∈ l, p c = q c) :
    l.dropWhile p = l.dropWhile q := by
  induction l with
  | nil => rfl
  | cons c l ih =>
      rw [List.dropWhile_cons, List.dropWhile_cons, h c List.mem_cons_self,
        ih fun d hd => h d (List.mem_cons_of_mem c hd)]

theorem strip_eq {alg : Option String} (halg : PlainAlg alg) :
    strip (alg.getD "") = GoJwks.trimSpace (alg.getD "") := by
  have hsame : ∀ c ∈ (alg.getD "").toList, Scopes.Py.isSpace c = GoJwks.isSpace c := by
    intro c hc
    cases alg with
    | none => simp at hc
    | some a => exact Scopes.isSpace_congr (halg a rfl c hc)
  unfold strip GoJwks.trimSpace
  rw [dropWhile_congr hsame, dropWhile_congr]
  intro c hc
  exact hsame c ((List.dropWhile_sublist _).mem (List.mem_reverse.mp hc))

theorem hashForAlg_ok {sha : Sha} (halg : PlainAlg alg) :
    hashForAlg repr alg = .ok sha ↔ shaFor (GoJwks.trimSpace (alg.getD "")) = some sha := by
  have hempty : shaFor (strip "") = none := rfl
  rw [← strip_eq halg]
  cases alg with
  | none => simp [hashForAlg, hempty]
  | some a =>
      simp only [hashForAlg, Option.getD_some]
      split_ifs with ha
      · simp [ha, hempty]
      · cases shaFor (strip a) <;> simp

theorem leftHalfHash_ok {value field hash : String} (halg : PlainAlg alg) :
    leftHalfHash digest repr value alg field = .ok hash ↔
      isAscii value = true ∧ bindingHash digest alg value = some hash := by
  have hsha : ∀ sha, shaFor (GoJwks.trimSpace (alg.getD "")) = some sha ↔
      hashForAlg repr alg = .ok sha := fun _ => (hashForAlg_ok halg).symm
  simp only [leftHalfHash, bindingHash, Option.map_eq_some_iff, hsha]
  cases hashForAlg repr alg with
  | error e => simp
  | ok sha => by_cases hascii : isAscii value = true <;> simp [hascii]

theorem checkHash_ok {name field mismatch : String} {value : Option String} (halg : PlainAlg alg) :
    checkHash digest repr claims alg name field mismatch value = .ok () ↔
      (∀ e, value = some e → isAscii e = true) ∧
        ∀ e, value = some e → Binds digest claims alg name e := by
  cases value with
  | none => simp [checkHash]
  | some e =>
      simp only [checkHash, Option.some.injEq, forall_eq', Binds]
      cases hhash : leftHalfHash digest repr e alg field with
      | error error =>
          simp only [reduceCtorEq, false_iff, not_and, not_exists]
          intro hascii hash hbinding
          have hok : leftHalfHash digest repr e alg field = .ok hash :=
            (leftHalfHash_ok halg).mpr ⟨hascii, hbinding⟩
          rw [hhash] at hok
          cases hok
      | ok expected =>
          obtain ⟨hascii, hbinding⟩ := (leftHalfHash_ok halg).mp hhash
          obtain ⟨sha, -, rfl⟩ := Option.map_eq_some_iff.mp hbinding
          simp [checkBinding_ok, hascii, hbinding, isAscii_leftHalf]

end Py

/-- Python accepts the tokens with the profile whose inputs are ASCII. -/
theorem pyAccepts_iff (hdomain : InDomain lib claims opts) (halg : PlainAlg alg)
    (htext : TextParties claims opts) :
    pyAccepts digest claims alg opts repr ↔ Profile digest claims alg opts ∧ AsciiInputs opts := by
  simp only [pyAccepts, Py.validateIdTokenClaims, check_eq_ok, Py.checkSub_ok htext.sub,
    show opts.py.clientId = opts.clientId from rfl, Py.checkAzp_ok htext, Py.checkNonce_ok,
    Py.checkAuthTime_ok hdomain, Py.checkAtHash, Py.checkCHash, Py.checkHash_ok halg]
  constructor
  · rintro ⟨hsub, ⟨hparty, hazp⟩, ⟨hasciiNonce, hnonce⟩, htime, ⟨hasciiToken, hat⟩, hasciiCode, hc⟩
    exact ⟨⟨hsub, hparty, hazp, hnonce, htime, hat, hc⟩, hasciiNonce, hasciiToken, hasciiCode⟩
  · rintro ⟨h, hascii⟩
    exact ⟨h.sub, ⟨h.party, h.azp⟩, ⟨hascii.nonce, h.nonce⟩, h.authTime,
      ⟨hascii.accessToken, h.atHash⟩, hascii.code, h.cHash⟩

/-- Claims of the right types give the texts Python and Go compare. -/
theorem textParties_of_shaped (h : Shaped lib claims) : TextParties claims opts :=
  ⟨h.sub, fun _ _ => .inr h.azp⟩

/-- Rust accepts what Go accepts and it can decode, Python what Go accepts with ASCII
inputs, if subject and party are text; and on decodable claims with ASCII inputs all
three agree. -/
theorem id_token_profiles_agree (hdomain : InDomain lib claims opts) (halg : PlainAlg alg) :
    (rustAccepts digest claims alg opts lib ↔
      goAccepts digest claims alg opts fmt ∧ Shaped lib claims) ∧
    (TextParties claims opts → (pyAccepts digest claims alg opts repr ↔
      goAccepts digest claims alg opts fmt ∧ AsciiInputs opts)) ∧
    (Shaped lib claims → AsciiInputs opts →
      (pyAccepts digest claims alg opts repr ↔ goAccepts digest claims alg opts fmt) ∧
      (rustAccepts digest claims alg opts lib ↔ goAccepts digest claims alg opts fmt)) := by
  rw [goAccepts_iff hdomain, rustAccepts_iff hdomain]
  refine ⟨Iff.rfl, fun htext => pyAccepts_iff hdomain halg htext, fun hshaped hascii => ?_⟩
  rw [pyAccepts_iff hdomain halg (textParties_of_shaped hshaped)]
  exact ⟨and_iff_left hascii, and_iff_left hshaped⟩

/-- The octets of SHA-256 of `abc`. -/
def sampleDigest : Digest := fun _ _ =>
  [0xba, 0x78, 0x16, 0xbf, 0x8f, 0x01, 0xcf, 0xea, 0x41, 0x41, 0x40, 0xde, 0x5d, 0xae, 0x22, 0x23,
    0xb0, 0x03, 0x61, 0xa3, 0x96, 0x17, 0x7a, 0x9c, 0xb4, 0x10, 0xff, 0x61, 0xf2, 0x00, 0x15, 0xad]

def sampleNumber : Number where
  negative := false
  whole := [1, 7, 0, 0]
  fraction := []
  exponent := none
  nonempty := by decide
  noLeadingZero := by decide

def sampleClaims : ClaimMap := Dict.insertAll
  [("sub", .str "ada"), ("aud", .arr [.str "app", .str "api"]), ("azp", .str "app"),
    ("nonce", .str "n-0S6"), ("auth_time", .num sampleNumber),
    ("at_hash", .str "ungWv48Bz-pBQUDeXa4iIw")] ∅

def sampleOptions : IdTokens.Options where
  clientId := some "app"
  nonce := some "n-0S6"
  accessToken := some "abc"
  maxAge := some 300
  leeway := 10
  now := 2000

def sampleFmt : GoClaims.Fmt where
  quote s := "\"" ++ s ++ "\""
  float _ := "2000"

theorem sample_inDomain : InDomain RustClaims.plainLibrary sampleClaims sampleOptions where
  clientId := by decide
  now := by decide
  leeway := by decide
  maxAge := by
    intro e he
    obtain rfl : e = 300 := by simpa [sampleOptions] using he.symm
    norm_num
  clock _ := Go.nowSec_mul (by decide)
  authTime := by
    intro n hn
    obtain rfl : n = sampleNumber := by
      have hlookup : sampleClaims.lookup "auth_time" = some (.num sampleNumber) := rfl
      rw [hlookup] at hn
      cases hn
      rfl
    refine ⟨1700, by decide +kernel, by decide, .inl (by decide +kernel)⟩

theorem id_token_profiles_agree_sample :
    goAccepts sampleDigest sampleClaims (some "RS256") sampleOptions sampleFmt ∧
    rustAccepts sampleDigest sampleClaims (some "RS256") sampleOptions RustClaims.plainLibrary ∧
    pyAccepts sampleDigest sampleClaims (some "RS256") sampleOptions id := by
  have hgo : goAccepts sampleDigest sampleClaims (some "RS256") sampleOptions sampleFmt := by
    have hok : (Go.validateProfile sampleDigest sampleFmt sampleClaims "RS256" sampleOptions.go).isOk =
        true := by decide +kernel
    obtain ⟨⟨⟩, h⟩ := exists_of_isOk hok
    exact h
  have halg : PlainAlg (some "RS256") := by
    intro a ha
    obtain rfl := Option.some.inj ha
    have hplain : ("RS256".toList.all fun c => ¬ (0x1C ≤ c.toNat ∧ c.toNat ≤ 0x1F)) = true := by
      decide
    exact fun c hc => of_decide_eq_true (List.all_eq_true.mp hplain c hc)
  have hshaped : Shaped RustClaims.plainLibrary sampleClaims := by
    have hdecoded : (RustClaims.Claims.fromMap RustClaims.plainLibrary sampleClaims).isOk = true := rfl
    obtain ⟨c, hc⟩ := exists_of_isOk hdecoded
    exact (RustClaims.fromMap_ok.mp hc).1
  have hascii : AsciiInputs sampleOptions := by
    refine ⟨?_, ?_, ?_⟩ <;> intro e he <;> cases he <;> decide
  obtain ⟨hpy, hrust⟩ := (id_token_profiles_agree sample_inDomain halg).2.2 hshaped hascii
  exact ⟨hgo, hrust.mpr hgo, hpy.mpr hgo⟩

/-- The tokens of two subjects: one with a token id that is a number, one with a nonce
that is not ASCII. -/
def numberedClaims : ClaimMap := Dict.insertAll [("sub", .str "ada"), ("jti", .num sampleNumber)] ∅

def accentedClaims : ClaimMap := Dict.insertAll [("sub", .str "ada"), ("nonce", .str "née")] ∅

theorem id_token_profiles_differ :
    (pyAccepts sampleDigest numberedClaims none { now := 2000 } id ∧
      goAccepts sampleDigest numberedClaims none { now := 2000 } sampleFmt ∧
      ¬ rustAccepts sampleDigest numberedClaims none { now := 2000 } RustClaims.plainLibrary) ∧
    (goAccepts sampleDigest accentedClaims none { nonce := some "née", now := 2000 } sampleFmt ∧
      rustAccepts sampleDigest accentedClaims none { nonce := some "née", now := 2000 }
        RustClaims.plainLibrary ∧
      ¬ pyAccepts sampleDigest accentedClaims none { nonce := some "née", now := 2000 } id) := by
  refine ⟨⟨rfl, rfl, ?_⟩, rfl, ⟨_, rfl, rfl⟩, ?_⟩
  · rintro ⟨c, hc, -⟩
    have hjti := (RustClaims.fromMap_ok.mp hc).1.jti (.num sampleNumber) rfl
    simp at hjti
  · intro h
    cases h

end IdentityModel.IdTokens
