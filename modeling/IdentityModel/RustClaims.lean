import IdentityModel.ClaimsCombinators
import IdentityModel.Dict
import IdentityModel.Json
import IdentityModel.Results

/-!
# The claims of a JWT in Rust

`rust/src/jwt/claims.rs`. A payload arrives as a `serde_json::Value`: a document
whose objects keep one member of a name, the last one. A number is an integer of
64 bits or a finite float; which of the two `serde_json` makes of a literal, and
with what value, is left to it.
-/
namespace IdentityModel.RustClaims

open Combinators.Rust (IdentityError)
open Results

/-- What the crate takes from its libraries: the two readings of a number, and
the debug form of a string. -/
structure Library where
  asI64 : Number → Option ℤ
  asF64 : Number → Option ℚ
  debug : String → String

/-- Integer literals of 64 bits are read as integers, others by their value. -/
def plainLibrary : Library where
  asI64 n :=
    if n.fraction = [] ∧ n.exponent = none ∧ |n.value| < 2 ^ 63 then some ⌊n.value⌋ else none
  asF64 n := some n.value
  debug s := "\"" ++ s ++ "\""

/-- `claim_err`. -/
def claimErr (lib : Library) (claim reason : String) : IdentityError :=
  .validation ("claim " ++ lib.debug claim ++ " invalid: " ++ reason)

def maxNumericDate : ℤ := 2 ^ 53

/-- The members of a `Value::Object`. -/
abbrev Map := Dict String Json

def stringClaim (lib : Library) (map : Map) (name : String) :
    Except IdentityError (Option String) :=
  match map.lookup name with
  | none => .ok none
  | some (.str s) => .ok (some s)
  | some _ => .error (claimErr lib name "must be a string")

/-- The number a date is read from, when it is one. -/
def numericDate (lib : Library) (name : String) : Json → Except IdentityError ℤ
  | .num n =>
      match lib.asI64 n with
      | some secs =>
          if maxNumericDate < |secs| then
            .error (claimErr lib name "numeric date is out of range")
          else .ok secs
      | none =>
          match lib.asF64 n with
          | none => .error (claimErr lib name "must be a numeric date")
          | some secs =>
              if (maxNumericDate : ℚ) < |secs| then
                .error (claimErr lib name "numeric date is out of range")
              else .ok (if 0 ≤ secs then ⌊secs⌋ else ⌈secs⌉)
  | _ => .error (claimErr lib name "must be a numeric date")

def numericDateClaim (lib : Library) (map : Map) (name : String) :
    Except IdentityError (Option ℤ) :=
  match map.lookup name with
  | none => .ok none
  | some value => (numericDate lib name value).map some

/-- The loop of `Audience::from_value` over an array. -/
def audienceItems (lib : Library) : List Json → Except IdentityError (List String)
  | [] => .ok []
  | .str s :: items => (audienceItems lib items).map fun rest => s :: rest
  | _ :: _ => .error (claimErr lib "aud" "array must contain only strings")

/-- `Audience::from_value`. -/
def audienceFromValue (lib : Library) : Json → Except IdentityError (List String)
  | .null => .ok []
  | .str s => .ok [s]
  | .arr items => audienceItems lib items
  | _ => .error (claimErr lib "aud" "must be a string or array of strings")

/-- The `aud` member; without one the audience is empty. -/
def audienceClaim (lib : Library) (map : Map) : Except IdentityError (List String) :=
  match map.lookup "aud" with
  | some v => audienceFromValue lib v
  | none => .ok []

/-- `is_meaningful_value`. -/
def isMeaningfulValue : Json → Bool
  | .null => false
  | .str s => s ≠ ""
  | .arr a => !a.isEmpty
  | .obj o => !o.isEmpty
  | _ => true

/-- `MODELLED_CLAIMS`. -/
def modelledClaims : List String :=
  ["iss", "sub", "aud", "exp", "nbf", "iat", "jti", "nonce", "azp"]

/-- `Claims`. -/
structure Claims where
  issuer : Option String
  subject : Option String
  audience : List String
  expiry : Option ℤ
  notBefore : Option ℤ
  issuedAt : Option ℤ
  id : Option String
  nonce : Option String
  authorizedParty : Option String
  extra : Map
  present : List String
  meaningful : List String

namespace Claims

def fromMap (lib : Library) (map : Map) : Except IdentityError Claims := do
  let issuer ← stringClaim lib map "iss"
  let subject ← stringClaim lib map "sub"
  let audience ← audienceClaim lib map
  let expiry ← numericDateClaim lib map "exp"
  let notBefore ← numericDateClaim lib map "nbf"
  let issuedAt ← numericDateClaim lib map "iat"
  let id ← stringClaim lib map "jti"
  let nonce ← stringClaim lib map "nonce"
  let authorizedParty ← stringClaim lib map "azp"
  return {
    issuer, subject, audience, expiry, notBefore, issuedAt, id, nonce, authorizedParty
    extra := map.restrict fun name => name ∉ modelledClaims
    present := map.keys
    meaningful := map.keys.filter fun name => (map.lookup name).any isMeaningfulValue }

/-- `Claims::from_value`, which `from_json` calls. -/
def fromValue (lib : Library) : Json → Except IdentityError Claims
  | .obj members => fromMap lib (Dict.insertAll members ∅)
  | _ => .error (.deserialization "JWT claims payload is not a JSON object")

def has (c : Claims) (claim : String) : Bool := claim ∈ c.present

/-- An unmodelled claim. -/
def get (c : Claims) (claim : String) : Option Json := c.extra.lookup claim

def getStr (c : Claims) (claim : String) : Option String := (c.get claim).bind Json.str?

end Claims

/-- The options `validate` reads; the skew in nanoseconds. -/
structure ValidationOptions where
  expectedIssuer : Option String := none
  expectedAudience : Option String := none
  expectedNonce : Option String := none
  clockSkew : ℕ := 0
  requiredClaims : List String := []
  requireExp : Bool := true
  requireNbf : Bool := false

/-- The nearest 64-bit integer. -/
def saturate (i : ℤ) : ℤ := max (-2 ^ 63) (min i (2 ^ 63 - 1))

/-- `Duration::as_secs` as an `i64`. -/
def skewSecs (opts : ValidationOptions) : ℤ := saturate (opts.clockSkew / 1000000000 : ℕ)

namespace Claims

/-- The expiry check. -/
def expError (lib : Library) (c : Claims) (opts : ValidationOptions) (nowUnix : ℤ) :
    Option IdentityError :=
  match c.expiry with
  | none => if opts.requireExp then some (claimErr lib "exp" "required claim is missing") else none
  | some exp =>
      if exp ≤ saturate (nowUnix - skewSecs opts) then
        some (claimErr lib "exp" ("token expired at " ++ toString exp ++ " (now " ++
          toString nowUnix ++ ", skew " ++ toString (skewSecs opts) ++ "s)"))
      else none

/-- The not-before check. -/
def nbfError (lib : Library) (c : Claims) (opts : ValidationOptions) (nowUnix : ℤ) :
    Option IdentityError :=
  match c.notBefore with
  | none => if opts.requireNbf then some (claimErr lib "nbf" "required claim is missing") else none
  | some nbf =>
      if saturate (nowUnix + skewSecs opts) < nbf then
        some (claimErr lib "nbf" "token is not yet valid")
      else none

def issError (lib : Library) (c : Claims) (opts : ValidationOptions) : Option IdentityError :=
  opts.expectedIssuer.bind fun expected =>
    let actual := c.issuer.getD ""
    if actual ≠ expected then
      some (claimErr lib "iss" ("expected " ++ lib.debug expected ++ ", got " ++ lib.debug actual))
    else none

/-- The audience and authorized-party checks; `audiences` is the debug form of
the token's own. -/
def audError (lib : Library) (audiences : String) (c : Claims) (opts : ValidationOptions) :
    Option IdentityError :=
  opts.expectedAudience.bind fun expected =>
    if expected ∉ c.audience then
      some (claimErr lib "aud" ("does not contain expected audience " ++ lib.debug expected ++
        " (token audiences: " ++ audiences ++ ")"))
    else
      match c.authorizedParty with
      | some azp =>
          if azp ≠ expected then
            some (claimErr lib "azp" ("authorized party " ++ lib.debug azp ++
              " does not match client " ++ lib.debug expected))
          else none
      | none =>
          if 1 < c.audience.length then
            some (claimErr lib "azp" "token with multiple audiences must carry an azp claim")
          else none

def nonceError (lib : Library) (c : Claims) (opts : ValidationOptions) : Option IdentityError :=
  opts.expectedNonce.bind fun expected =>
    match c.nonce with
    | none => some (claimErr lib "nonce" "required nonce claim is missing")
    | some actual =>
        if actual ≠ expected then
          some (claimErr lib "nonce" "nonce does not match expected value")
        else none

def requiredError (lib : Library) (c : Claims) (opts : ValidationOptions) : Option IdentityError :=
  (opts.requiredClaims.find? fun claim => claim ∉ c.meaningful).map fun claim =>
    claimErr lib claim "required claim is missing or empty"

/-- `Claims::validate`; `none` is success. -/
def validate (lib : Library) (audiences : String) (c : Claims) (opts : ValidationOptions)
    (nowUnix : ℤ) : Option IdentityError :=
  if c.issuedAt = none then some (claimErr lib "iat" "required claim is missing")
  else
    ((((c.expError lib opts nowUnix).or (c.nbfError lib opts nowUnix)).or (c.issError lib opts)).or
      (c.audError lib audiences opts)).or ((c.nonceError lib opts).or (c.requiredError lib opts))

end Claims

variable {lib : Library} {map : Map} {c : Claims} {name : String}

/-- What `validate` lets pass. -/
structure Claims.Passes (c : Claims) (opts : ValidationOptions) (nowUnix : ℤ) : Prop where
  iat : c.issuedAt ≠ none
  exp : opts.requireExp = true → c.expiry ≠ none
  fresh : ∀ exp, c.expiry = some exp → saturate (nowUnix - skewSecs opts) < exp
  nbf : opts.requireNbf = true → c.notBefore ≠ none
  started : ∀ nbf, c.notBefore = some nbf → nbf ≤ saturate (nowUnix + skewSecs opts)
  iss : ∀ e, opts.expectedIssuer = some e → c.issuer.getD "" = e
  aud : ∀ e, opts.expectedAudience = some e → e ∈ c.audience ∧
    (∀ azp, c.authorizedParty = some azp → azp = e) ∧
    (c.authorizedParty = none → c.audience.length ≤ 1)
  nonce : ∀ e, opts.expectedNonce = some e → c.nonce = some e
  required : ∀ claim ∈ opts.requiredClaims, claim ∈ c.meaningful

section Checks

variable {opts : ValidationOptions} {nowUnix : ℤ} {audiences : String}

theorem expError_eq_none : c.expError lib opts nowUnix = none ↔
    (opts.requireExp = true → c.expiry ≠ none) ∧
      ∀ exp, c.expiry = some exp → saturate (nowUnix - skewSecs opts) < exp := by
  unfold Claims.expError
  cases c.expiry <;> simp

theorem nbfError_eq_none : c.nbfError lib opts nowUnix = none ↔
    (opts.requireNbf = true → c.notBefore ≠ none) ∧
      ∀ nbf, c.notBefore = some nbf → nbf ≤ saturate (nowUnix + skewSecs opts) := by
  unfold Claims.nbfError
  cases c.notBefore <;> simp

theorem issError_eq_none : c.issError lib opts = none ↔
    ∀ e, opts.expectedIssuer = some e → c.issuer.getD "" = e := by
  unfold Claims.issError
  cases opts.expectedIssuer <;> simp

theorem audError_eq_none : c.audError lib audiences opts = none ↔
    ∀ e, opts.expectedAudience = some e → e ∈ c.audience ∧
      (∀ azp, c.authorizedParty = some azp → azp = e) ∧
      (c.authorizedParty = none → c.audience.length ≤ 1) := by
  unfold Claims.audError
  cases opts.expectedAudience with
  | none => simp
  | some e =>
      by_cases he : e ∈ c.audience
      · cases c.authorizedParty <;> simp [he]
      · simp [he]

theorem nonceError_eq_none : c.nonceError lib opts = none ↔
    ∀ e, opts.expectedNonce = some e → c.nonce = some e := by
  unfold Claims.nonceError
  cases opts.expectedNonce with
  | none => simp
  | some e => cases c.nonce <;> simp

theorem requiredError_eq_none : c.requiredError lib opts = none ↔
    ∀ claim ∈ opts.requiredClaims, claim ∈ c.meaningful := by
  simp [Claims.requiredError]

theorem validate_eq_none_iff :
    c.validate lib audiences opts nowUnix = none ↔ c.Passes opts nowUnix := by
  unfold Claims.validate
  by_cases hiat : c.issuedAt = none
  · rw [if_pos hiat]
    constructor
    · intro h
      cases h
    · intro h
      exact absurd hiat h.iat
  · simp only [if_neg hiat, Option.or_eq_none_iff, expError_eq_none, nbfError_eq_none,
      issError_eq_none, audError_eq_none, nonceError_eq_none, requiredError_eq_none]
    constructor
    · rintro ⟨⟨⟨⟨⟨hexp, hfresh⟩, hnbf, hstarted⟩, hiss⟩, haud⟩, hnonce, hreq⟩
      exact ⟨hiat, hexp, hfresh, hnbf, hstarted, hiss, haud, hnonce, hreq⟩
    · rintro ⟨-, hexp, hfresh, hnbf, hstarted, hiss, haud, hnonce, hreq⟩
      exact ⟨⟨⟨⟨⟨hexp, hfresh⟩, hnbf, hstarted⟩, hiss⟩, haud⟩, hnonce, hreq⟩

end Checks

/-- Absent, or a string. -/
def IsStringOrAbsent (value : Option Json) : Prop := ∀ j, value = some j → ∃ s, j = .str s

theorem stringClaim_ok {o : Option String} :
    stringClaim lib map name = .ok o ↔
      IsStringOrAbsent (map.lookup name) ∧ o = (map.lookup name).bind Json.str? := by
  unfold stringClaim IsStringOrAbsent
  cases map.lookup name with
  | none => simp [eq_comm]
  | some j => cases j <;> simp [Json.str?, eq_comm]

theorem numericDateClaim_ok {o : Option ℤ} :
    numericDateClaim lib map name = .ok o ↔
      match map.lookup name with
      | none => o = none
      | some j => ∃ secs, numericDate lib name j = .ok secs ∧ o = some secs := by
  unfold numericDateClaim
  cases map.lookup name with
  | none => simp [eq_comm]
  | some j =>
      simp only [map_eq_ok]
      exact exists_congr fun secs => and_congr_right fun _ => eq_comm

theorem audienceItems_ok {items : List Json} {auds : List String} :
    audienceItems lib items = .ok auds ↔ items = auds.map Json.str := by
  induction items generalizing auds with
  | nil => simp [audienceItems, eq_comm]
  | cons item items ih =>
      cases item with
      | str s =>
          rw [audienceItems, map_eq_ok]
          constructor
          · rintro ⟨rest, hrest, rfl⟩
            rw [ih.mp hrest, List.map_cons]
          · intro he
            cases auds with
            | nil => simp at he
            | cons a as =>
                simp only [List.map_cons, List.cons.injEq, Json.str.injEq] at he
                exact ⟨as, ih.mpr he.2, by rw [he.1]⟩
      | _ => cases auds <;> simp [audienceItems]

/-- An audience: nothing, a string, or an array of strings. -/
def IsAudience (value : Option Json) : Prop :=
  ∀ j, value = some j → j = .null ∨ (∃ s, j = .str s) ∨ ∃ auds : List String, j = .arr (auds.map Json.str)

/-- The audiences of such a value. -/
def audienceOf : Option Json → List String
  | some (.str s) => [s]
  | some (.arr items) => items.filterMap Json.str?
  | _ => []

theorem filterMap_str? (auds : List String) : (auds.map Json.str).filterMap Json.str? = auds := by
  induction auds with
  | nil => rfl
  | cons a as ih => simpa [Json.str?] using ih

theorem audienceClaim_ok {auds : List String} :
    audienceClaim lib map = .ok auds ↔
      IsAudience (map.lookup "aud") ∧ auds = audienceOf (map.lookup "aud") := by
  unfold IsAudience audienceClaim
  cases map.lookup "aud" with
  | none => simp [audienceOf, eq_comm]
  | some j =>
      cases j with
      | arr items =>
          simp only [audienceFromValue, audienceItems_ok, audienceOf]
          constructor
          · rintro rfl
            exact ⟨by simp, (filterMap_str? auds).symm⟩
          · rintro ⟨hitems, rfl⟩
            obtain ⟨auds, hauds⟩ : ∃ auds : List String, Json.arr items = .arr (auds.map Json.str) := by
              simpa using hitems
            obtain rfl := Json.arr.inj hauds
            rw [filterMap_str?]
      | _ => simp [audienceFromValue, audienceOf, eq_comm]

/-- Absent, or a date. -/
def IsDateOrAbsent (lib : Library) (name : String) (value : Option Json) : Prop :=
  ∀ j, value = some j → ∃ secs, numericDate lib name j = .ok secs

/-- The seconds of such a value. -/
def dateOf (lib : Library) (name : String) (value : Option Json) : Option ℤ :=
  value.bind fun j => (numericDate lib name j).toOption

theorem numericDateClaim_ok_iff {o : Option ℤ} :
    numericDateClaim lib map name = .ok o ↔
      IsDateOrAbsent lib name (map.lookup name) ∧ o = dateOf lib name (map.lookup name) := by
  rw [numericDateClaim_ok]
  unfold IsDateOrAbsent dateOf
  cases map.lookup name with
  | none => simp
  | some j => cases hj : numericDate lib name j <;> simp [hj, Except.toOption]

/-- A payload whose members have the shapes of the registered claims. -/
structure Shaped (lib : Library) (map : Map) : Prop where
  iss : IsStringOrAbsent (map.lookup "iss")
  sub : IsStringOrAbsent (map.lookup "sub")
  aud : IsAudience (map.lookup "aud")
  exp : IsDateOrAbsent lib "exp" (map.lookup "exp")
  nbf : IsDateOrAbsent lib "nbf" (map.lookup "nbf")
  iat : IsDateOrAbsent lib "iat" (map.lookup "iat")
  jti : IsStringOrAbsent (map.lookup "jti")
  nonce : IsStringOrAbsent (map.lookup "nonce")
  azp : IsStringOrAbsent (map.lookup "azp")

/-- The claims of such a payload. -/
def claimsOf (lib : Library) (map : Map) : Claims where
  issuer := (map.lookup "iss").bind Json.str?
  subject := (map.lookup "sub").bind Json.str?
  audience := audienceOf (map.lookup "aud")
  expiry := dateOf lib "exp" (map.lookup "exp")
  notBefore := dateOf lib "nbf" (map.lookup "nbf")
  issuedAt := dateOf lib "iat" (map.lookup "iat")
  id := (map.lookup "jti").bind Json.str?
  nonce := (map.lookup "nonce").bind Json.str?
  authorizedParty := (map.lookup "azp").bind Json.str?
  extra := map.restrict fun name => name ∉ modelledClaims
  present := map.keys
  meaningful := map.keys.filter fun name => (map.lookup name).any isMeaningfulValue

/-- A payload is decoded when its members have the right shapes. -/
theorem fromMap_ok : Claims.fromMap lib map = .ok c ↔ Shaped lib map ∧ c = claimsOf lib map := by
  simp only [Claims.fromMap, bind_eq_ok, stringClaim_ok, numericDateClaim_ok_iff,
    audienceClaim_ok]
  constructor
  · rintro ⟨_, ⟨hiss, rfl⟩, _, ⟨hsub, rfl⟩, _, ⟨haud, rfl⟩, _, ⟨hexp, rfl⟩, _, ⟨hnbf, rfl⟩, _,
      ⟨hiat, rfl⟩, _, ⟨hjti, rfl⟩, _, ⟨hnonce, rfl⟩, _, ⟨hazp, rfl⟩, hc⟩
    exact ⟨⟨hiss, hsub, haud, hexp, hnbf, hiat, hjti, hnonce, hazp⟩, (Except.ok.inj hc).symm⟩
  · rintro ⟨h, rfl⟩
    exact ⟨_, ⟨h.iss, rfl⟩, _, ⟨h.sub, rfl⟩, _, ⟨h.aud, rfl⟩, _, ⟨h.exp, rfl⟩, _, ⟨h.nbf, rfl⟩, _,
      ⟨h.iat, rfl⟩, _, ⟨h.jti, rfl⟩, _, ⟨h.nonce, rfl⟩, _, ⟨h.azp, rfl⟩, rfl⟩

/-- A decoded payload is an object. -/
theorem fromValue_ok {payload : Json} :
    Claims.fromValue lib payload = .ok c ↔ ∃ members, payload = .obj members ∧
      Shaped lib (Dict.insertAll members ∅) ∧ c = claimsOf lib (Dict.insertAll members ∅) := by
  cases payload <;> simp [Claims.fromValue, fromMap_ok]

/-- An unmodelled claim is the member of that name. -/
theorem claimsOf_get (hname : name ∉ modelledClaims) :
    (claimsOf lib map).get name = map.lookup name := by
  simp only [Claims.get, claimsOf, Dict.lookup_restrict]
  rw [if_pos (by simpa using hname)]

end IdentityModel.RustClaims
