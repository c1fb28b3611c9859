import IdentityModel.Dict
import IdentityModel.Json
import IdentityModel.Binary64
import IdentityModel.Results

/-!
# The claims of a JWT in Go

`go/pkg/jwt/claims.go`. A payload is decoded twice by `encoding/json`: into the
fields of `Claims`, where a member matches a field whose name it folds to, and
into a map, where names match exactly. A scan for duplicate names comes first.
The payload is the document its text denotes, so the errors of the JSON grammar
do not appear; raw members are documents too.

`encoding/json` decodes on after a value of a wrong type and reports the first such
error; an error of an `UnmarshalJSON` method ends it. A `null` leaves a string field
as it is and resets the audience and the dates.
-/
namespace IdentityModel.GoClaims

/-- The library formatting that error texts use: `%q` of a string and `%v` of a
`float64`. -/
structure Fmt where
  quote : String → String
  float : ℚ → String

/-- The word `encoding/json` has for a value in its type errors. -/
def kind : Json → String
  | .null => "null"
  | .bool _ => "bool"
  | .num _ => "number"
  | .str _ => "string"
  | .arr _ => "array"
  | .obj _ => "object"

/-- The text of `UnmarshalTypeError`. -/
def typeError (value goType : String) : String :=
  "json: cannot unmarshal " ++ value ++ " into Go value of type " ++ goType

/-- The same, inside a field of `Claims`. -/
def fieldError (value field goType : String) : String :=
  "json: cannot unmarshal " ++ value ++ " into Go struct field Claims." ++ field ++
    " of type " ++ goType

/-- The modelled claims. -/
inductive Field
  | iss | sub | aud | exp | nbf | iat | jti | nonce
  deriving DecidableEq, Repr

namespace Field

def all : List Field := [.iss, .sub, .aud, .exp, .nbf, .iat, .jti, .nonce]

/-- The JSON name in the field's tag. -/
def name : Field → String
  | .iss => "iss"
  | .sub => "sub"
  | .aud => "aud"
  | .exp => "exp"
  | .nbf => "nbf"
  | .iat => "iat"
  | .jti => "jti"
  | .nonce => "nonce"

/-- The type of a field: a string, an audience (a slice that may be nil), or a
pointer to a time in nanoseconds since the epoch. -/
abbrev Value : Field → Type
  | .iss | .sub | .jti | .nonce => String
  | .aud => Option (List String)
  | .exp | .nbf | .iat => Option ℤ

/-- The zero value of a field. -/
def zero : (f : Field) → f.Value
  | .iss | .sub | .jti | .nonce => ""
  | .aud => none
  | .exp | .nbf | .iat => none

/-- The field's type has an `UnmarshalJSON` method. -/
def hasMethod : Field → Bool
  | .iss | .sub | .jti | .nonce => false
  | .aud | .exp | .nbf | .iat => true

end Field

def maxNumericDate : ℚ := 2 ^ 53

/-- `NumericDate.UnmarshalJSON`, behind the pointer that a `null` resets. -/
def unmarshalNumericDate (fmt : Fmt) : Json → Except String (Option ℤ)
  | .null => .ok none
  | .num n =>
      match Float64.ofRat n.value with
      | .finite f =>
          if maxNumericDate < f ∨ f < -maxNumericDate then
            .error ("numeric date " ++ fmt.float f ++ " is out of range")
          else
            let sec := Float64.truncate f
            match Float64.ofRat ((f - sec) * 1000000000) with
            | .finite nsec => .ok (some (sec * 1000000000 + Float64.roundAway nsec))
            | _ => .ok (some (sec * 1000000000))
      | _ => .error ("numeric date: " ++ typeError ("number " ++ n.text) "float64")
  | j => .error ("numeric date: " ++ typeError (kind j) "float64")

/-- The string an element of an `aud` array holds. -/
def asString : Json → Option String
  | .str s => some s
  | _ => none

def isNull : Json → Bool
  | .null => true
  | _ => false

def notString (text : String) : String := "audience: must be a string or array of strings: " ++ text

/-- `Audience.UnmarshalJSON`. -/
def unmarshalAudience : Json → Except String (Option (List String))
  | .null => .ok none
  | .str s => .ok (some [s])
  | .arr elems =>
      match elems.find? fun e => (asString e).isNone && !isNull e with
      | some e => .error (notString (typeError (kind e) "string"))
      | none =>
          if elems.any isNull then .error "audience: array contains a null element"
          else .ok (some (elems.filterMap asString))
  | j => .error (notString (typeError (kind j) "[]*string"))

/-- A string field; `none` leaves it as it is. -/
def unmarshalString (field : String) : Json → Except String (Option String)
  | .str s => .ok (some s)
  | .null => .ok none
  | j => .error (fieldError (kind j) field "string")

/-- The decoding of a member into a field: an error, nothing, or a new value. -/
def decodeField (fmt : Fmt) : (f : Field) → Json → Except String (Option f.Value)
  | .iss, j => unmarshalString "iss" j
  | .sub, j => unmarshalString "sub" j
  | .jti, j => unmarshalString "jti" j
  | .nonce, j => unmarshalString "nonce" j
  | .aud, j => (unmarshalAudience j).map some
  | .exp, j => (unmarshalNumericDate fmt j).map some
  | .nbf, j => (unmarshalNumericDate fmt j).map some
  | .iat, j => (unmarshalNumericDate fmt j).map some

/-- `Claims`; `extra` and `all` are maps that may be nil. -/
structure Claims where
  issuer : String := ""
  subject : String := ""
  audience : Option (List String) := none
  expiry : Option ℤ := none
  notBefore : Option ℤ := none
  issuedAt : Option ℤ := none
  id : String := ""
  nonce : String := ""
  extra : Option (Dict String Json) := none
  all : Option (Dict String Json) := none

namespace Claims

def get (c : Claims) : (f : Field) → f.Value
  | .iss => c.issuer
  | .sub => c.subject
  | .aud => c.audience
  | .exp => c.expiry
  | .nbf => c.notBefore
  | .iat => c.issuedAt
  | .jti => c.id
  | .nonce => c.nonce

def set (c : Claims) : (f : Field) → f.Value → Claims
  | .iss, v => { c with issuer := v }
  | .sub, v => { c with subject := v }
  | .aud, v => { c with audience := v }
  | .exp, v => { c with expiry := v }
  | .nbf, v => { c with notBefore := v }
  | .iat, v => { c with issuedAt := v }
  | .jti, v => { c with id := v }
  | .nonce, v => { c with nonce := v }

@[simp] theorem get_set_self (c : Claims) (f : Field) (v : f.Value) : (c.set f v).get f = v := by
  cases f <;> rfl

theorem get_set_ne (c : Claims) {f g : Field} (h : g ≠ f) (v : f.Value) :
    (c.set f v).get g = c.get g := by
  cases f <;> cases g <;> first | rfl | exact absurd rfl h

/-- `Claims.GetClaim`. -/
def getClaim (c : Claims) (claim : String) : Option Json := c.all.bind fun all => all.lookup claim

/-- `Claims.Has`. -/
def has (c : Claims) (claim : String) : Bool := (c.getClaim claim).isSome

/-- A claim as `Extra` holds it. -/
def getExtra (c : Claims) (claim : String) : Option Json :=
  c.extra.bind fun extra => extra.lookup claim

end Claims

/-- `foldRune` of `encoding/json`: the least rune that folds to the same one. The
fold classes with an ASCII letter are the two cases of each letter, the long s
with `s` and the Kelvin sign with `k`; a rune of any other class has no ASCII
letter as its fold and is left as it is. -/
def foldRune (c : Char) : Char :=
  if 'a' ≤ c ∧ c ≤ 'z' then Char.ofNat (c.toNat - 32)
  else if c.toNat = 0x17F then 'S'
  else if c.toNat = 0x212A then 'K'
  else c

def foldName (name : String) : List Char := name.toList.map foldRune

/-- The field a member of that name is decoded into: by its exact name, else by
its folded one. -/
def fieldOf (name : String) : Option Field :=
  match Field.all.find? fun f => f.name = name with
  | some f => some f
  | none => Field.all.find? fun f => foldName f.name = foldName name

/-- Decode one member into the claims; the first error of a wrong type is kept, one of a method is
returned. -/
def decodeMember (fmt : Fmt) (acc : Claims × Option String) (m : String × Json) :
    Except String (Claims × Option String) :=
  match fieldOf m.1 with
  | none => .ok acc
  | some f =>
      match decodeField fmt f m.2 with
      | .ok none => .ok acc
      | .ok (some v) => .ok (acc.1.set f v, acc.2)
      | .error e => if f.hasMethod then .error e else .ok (acc.1, acc.2.or (some e))

/-- `json.Unmarshal` into `Claims`. -/
def unmarshalClaims (fmt : Fmt) : Json → Except String Claims
  | .obj ms =>
      match ms.foldlM (decodeMember fmt) ({}, none) with
      | .ok (c, none) => .ok c
      | .ok (_, some e) => .error e
      | .error e => .error e
  | .null => .ok {}
  | j => .error (typeError (kind j) "jwt.Claims")

/-- `json.Unmarshal` into a map of raw messages. -/
def unmarshalMap : Json → Except String (Option (Dict String Json))
  | .obj ms => .ok (some (Dict.insertAll ms ∅))
  | .null => .ok none
  | j => .error (typeError (kind j) "map[string]json.RawMessage")

/-- The loop of `duplicateTopLevelKey`: it stops at the first name seen before. -/
def scanKeys (seen : List String) : List (String × Json) → String
  | [] => ""
  | m :: ms => if m.1 ∈ seen then m.1 else scanKeys (m.1 :: seen) ms

/-- `duplicateTopLevelKey`; the empty string stands for no duplicate. -/
def duplicateTopLevelKey (payload : Json) : String := scanKeys [] payload.members

/-- `MalformedTokenError`. -/
structure MalformedTokenError where
  reason : String
  deriving DecidableEq, Repr

def isModelled (name : String) : Bool := Field.all.any fun f => f.name = name

/-- The claims of `all` that have no field; nil when there are none. -/
def extraOf (all : Option (Dict String Json)) : Option (Dict String Json) :=
  let extra := (all.getD ∅).restrict fun name => !isModelled name
  if 0 < extra.size then some extra else none

def parseClaims (fmt : Fmt) (payload : Json) : Except MalformedTokenError Claims :=
  let dup := duplicateTopLevelKey payload
  if dup ≠ "" then .error ⟨"duplicate claim " ++ fmt.quote dup⟩
  else
    match unmarshalClaims fmt payload with
    | .error e => .error ⟨"decode claims: " ++ e⟩
    | .ok c =>
        match unmarshalMap payload with
        | .error e => .error ⟨"decode claims object: " ++ e⟩
        | .ok all => .ok { c with all := all, extra := extraOf all }

/-- The settings `validate` reads; times and durations in nanoseconds. -/
structure Config where
  now : ℤ
  clockSkew : ℤ := 0
  expectedIssuer : String := ""
  expectedAudience : String := ""
  expectedNonce : String := ""
  nonceSet : Bool := false
  requiredClaims : List String := []

/-- `ClaimValidationError`. -/
structure ClaimValidationError where
  claim : String
  reason : String
  deriving DecidableEq, Repr

def requiredMissing (claim : String) : ClaimValidationError := ⟨claim, "required claim is missing"⟩

/-- `Claims.validate`; `none` is success. -/
def Claims.validate (fmt : Fmt) (c : Claims) (cfg : Config) : Option ClaimValidationError :=
  if c.issuedAt = none then some (requiredMissing "iat")
  else
    match c.expiry with
    | none => some (requiredMissing "exp")
    | some exp =>
        if exp ≤ cfg.now - cfg.clockSkew then some ⟨"exp", "token has expired"⟩
        else if c.notBefore.any fun nbf => cfg.now + cfg.clockSkew < nbf then
          some ⟨"nbf", "token is not yet valid"⟩
        else if cfg.expectedIssuer ≠ "" ∧ c.issuer ≠ cfg.expectedIssuer then
          some ⟨"iss", "expected " ++ fmt.quote cfg.expectedIssuer ++ ", got " ++ fmt.quote c.issuer⟩
        else if cfg.expectedAudience ≠ "" ∧ cfg.expectedAudience ∉ c.audience.getD [] then
          some ⟨"aud", "does not contain expected audience " ++ fmt.quote cfg.expectedAudience⟩
        else if cfg.nonceSet = true ∧ c.nonce ≠ cfg.expectedNonce then
          some ⟨"nonce", "nonce does not match expected value"⟩
        else (cfg.requiredClaims.find? fun claim => !c.has claim).map requiredMissing

/-- What `validate` lets pass. -/
structure Claims.Passes (c : Claims) (cfg : Config) : Prop where
  iat : c.issuedAt ≠ none
  exp : ∃ exp, c.expiry = some exp ∧ cfg.now - cfg.clockSkew < exp
  nbf : ∀ nbf, c.notBefore = some nbf → nbf ≤ cfg.now + cfg.clockSkew
  iss : cfg.expectedIssuer ≠ "" → c.issuer = cfg.expectedIssuer
  aud : cfg.expectedAudience ≠ "" → cfg.expectedAudience ∈ c.audience.getD []
  nonce : cfg.nonceSet = true → c.nonce = cfg.expectedNonce
  required : ∀ claim ∈ cfg.requiredClaims, c.has claim = true

theorem validate_eq_none_iff {fmt : Fmt} {c : Claims} {cfg : Config} :
    c.validate fmt cfg = none ↔ c.Passes cfg := by
  constructor
  · intro h
    unfold Claims.validate at h
    have hiat : c.issuedAt ≠ none := by
      intro hnone
      rw [if_pos hnone] at h
      cases h
    rw [if_neg hiat] at h
    cases hexp : c.expiry with
    | none => simp [hexp] at h
    | some exp =>
        simp only [hexp] at h
        split_ifs at h with hlate hnbf hiss haud hnonce
        refine ⟨hiat, ⟨exp, hexp, by omega⟩, ?_, ?_, ?_, ?_, ?_⟩
        · intro nbf hn
          by_contra hlt
          exact hnbf (by simpa [hn] using hlt)
        · exact fun hne => by_contra fun hdiff => hiss ⟨hne, hdiff⟩
        · exact fun hne => by_contra fun hdiff => haud ⟨hne, hdiff⟩
        · exact fun hset => by_contra fun hdiff => hnonce ⟨hset, hdiff⟩
        · simpa using h
  · rintro ⟨hiat, ⟨exp, hexp, hlt⟩, hnbf, hiss, haud, hnonce, hreq⟩
    have hfresh : ¬ exp ≤ cfg.now - cfg.clockSkew := by omega
    have hbefore : ¬ (c.notBefore.any fun nbf => cfg.now + cfg.clockSkew < nbf) = true := by
      cases hn : c.notBefore with
      | none => simp
      | some nbf => simpa using hnbf nbf hn
    have hreq' : (cfg.requiredClaims.find? fun claim => !c.has claim) = none := by
      simpa using hreq
    unfold Claims.validate
    rw [if_neg hiat]
    simp only [hexp]
    rw [if_neg hfresh, if_neg hbefore, if_neg (by tauto), if_neg (by tauto), if_neg (by tauto),
      hreq', Option.map_none]

section Views

variable {fmt : Fmt} {payload : Json} {c : Claims}

/-- The value a member gives to a field, if it gives it one. -/
def carries (fmt : Fmt) (f : Field) (j : Json) : Option f.Value :=
  match decodeField fmt f j with
  | .ok v => v
  | .error _ => none

/-- The decoding of the member whose name is exactly that of the field; the zero
value when there is none. -/
def exactValue (fmt : Fmt) (f : Field) (payload : Json) : f.Value :=
  ((payload.member? f.name).bind fun j => carries fmt f j).getD f.zero

/-- The last member that matches the field and gives it a value. -/
def lastCarrier (fmt : Fmt) (f : Field) (ms : List (String × Json)) : Option (String × Json) :=
  ms.findRev? fun m => fieldOf m.1 = some f && (carries fmt f m.2).isSome

theorem fieldOf_name (f : Field) : fieldOf f.name = some f := by cases f <;> decide

theorem decodeMember_get {acc acc' : Claims × Option String} {m : String × Json}
    (h : decodeMember fmt acc m = .ok acc') (f : Field) :
    acc'.1.get f =
      if fieldOf m.1 = some f then (carries fmt f m.2).getD (acc.1.get f) else acc.1.get f := by
  unfold decodeMember at h
  cases hf : fieldOf m.1 with
  | none =>
      rw [hf] at h
      rw [← Except.ok.inj h]
      rfl
  | some g =>
      rw [hf] at h
      dsimp only at h
      by_cases hg : g = f
      · subst hg
        cases hd : decodeField fmt g m.2 with
        | error e =>
            rw [hd] at h
            dsimp only at h
            split_ifs at h
            rw [← Except.ok.inj h]
            simp [carries, hd]
        | ok v =>
            rw [hd] at h
            cases v <;> rw [← Except.ok.inj h] <;> simp [carries, hd]
      · have hne : ¬ some g = some f := fun h => hg (Option.some.inj h)
        rw [if_neg hne]
        cases hd : decodeField fmt g m.2 with
        | error e =>
            rw [hd] at h
            dsimp only at h
            split_ifs at h
            rw [← Except.ok.inj h]
        | ok v =>
            rw [hd] at h
            cases v with
            | none => rw [← Except.ok.inj h]
            | some v =>
                rw [← Except.ok.inj h]
                exact Claims.get_set_ne _ (Ne.symm hg) v

/-- A field ends up with the value of the last member that gives it one. -/
theorem decodeMembers_get {ms : List (String × Json)} {acc acc' : Claims × Option String}
    (h : ms.foldlM (decodeMember fmt) acc = .ok acc') (f : Field) :
    acc'.1.get f = ((lastCarrier fmt f ms).bind fun m => carries fmt f m.2).getD (acc.1.get f) := by
  induction ms generalizing acc with
  | nil =>
      rw [← Except.ok.inj h]
      rfl
  | cons m ms ih =>
      rw [List.foldlM_cons] at h
      obtain ⟨mid, hmid, hrest⟩ := Results.bind_eq_ok.mp h
      rw [ih hrest, decodeMember_get hmid]
      unfold lastCarrier
      rw [List.findRev?]
      cases hlast : ms.findRev? _ with
      | some found =>
          have hfound : (carries fmt f found.2).isSome = true := by
            have h := List.find?_some ((List.findRev?_eq_find?_reverse ..).symm.trans hlast)
            simp only [Bool.and_eq_true] at h
            exact h.2
          obtain ⟨v, hv⟩ := Option.isSome_iff_exists.mp hfound
          simp [hv]
      | none =>
          by_cases hf : fieldOf m.1 = some f
          · cases hc : carries fmt f m.2 <;> simp [hf, hc]
          · simp [hf]

theorem unmarshalClaims_get (h : unmarshalClaims fmt payload = .ok c) (f : Field) :
    c.get f = ((lastCarrier fmt f payload.members).bind fun m => carries fmt f m.2).getD f.zero := by
  cases payload with
  | null =>
      cases h
      cases f <;> rfl
  | obj ms =>
      simp only [unmarshalClaims] at h
      cases hd : ms.foldlM (decodeMember fmt) ({}, none) with
      | error e =>
          rw [hd] at h
          cases h
      | ok acc =>
          obtain ⟨d, err⟩ := acc
          have hfold := decodeMembers_get hd f
          rw [hd] at h
          cases err with
          | some e => cases h
          | none =>
              cases h
              rw [show c.get f = _ from hfold]
              cases f <;> rfl
  | _ => cases h

theorem unmarshalMap_lookup {all : Option (Dict String Json)} (h : unmarshalMap payload = .ok all)
    (name : String) : (all.bind fun d => d.lookup name) = payload.member? name := by
  cases payload with
  | null =>
      cases h
      rfl
  | obj ms =>
      cases h
      exact Json.lookup_insertAll ms name
  | _ => cases h

theorem extraOf_lookup (all : Option (Dict String Json)) (name : String) :
    ((extraOf all).bind fun d => d.lookup name) =
      if isModelled name then none else all.bind fun d => d.lookup name := by
  have hres := Dict.lookup_restrict (fun name => !isModelled name) (all.getD ∅) name
  have hall : (all.getD ∅).lookup name = all.bind fun d => d.lookup name := by
    cases all <;> rfl
  unfold extraOf
  by_cases hsize : 0 < ((all.getD ∅).restrict fun name => !isModelled name).size
  · simp only [hsize, if_true]
    show ((all.getD ∅).restrict fun name => !isModelled name).lookup name = _
    rw [hres, hall]
    cases isModelled name <;> rfl
  · simp only [hsize, if_false]
    have hempty : ((all.getD ∅).restrict fun name => !isModelled name).entries = [] :=
      List.eq_nil_of_length_eq_zero (Nat.eq_zero_of_not_pos hsize)
    have hnone : ((all.getD ∅).restrict fun name => !isModelled name).lookup name = none := by
      show List.dlookup name _ = none
      rw [hempty]
      rfl
    rw [hnone, hall] at hres
    cases hm : isModelled name with
    | true => rfl
    | false => simpa [hm] using hres

/-- An accepted payload: what its claims hold. -/
theorem parseClaims_ok (h : parseClaims fmt payload = .ok c) :
    ∃ d all, unmarshalClaims fmt payload = .ok d ∧ unmarshalMap payload = .ok all ∧
      c = { d with all := all, extra := extraOf all } := by
  unfold parseClaims at h
  simp only at h
  split at h
  · cases h
  · cases hd : unmarshalClaims fmt payload with
    | error e => simp [hd] at h
    | ok d =>
        cases ha : unmarshalMap payload with
        | error e => simp [hd, ha] at h
        | ok all =>
            simp only [hd, ha, Except.ok.injEq] at h
            exact ⟨d, all, rfl, rfl, h.symm⟩

/-- The claims whose fields are all decoded from the members of their exact names. -/
def exactClaims (fmt : Fmt) (payload : Json) : Claims where
  issuer := exactValue fmt .iss payload
  subject := exactValue fmt .sub payload
  audience := exactValue fmt .aud payload
  expiry := exactValue fmt .exp payload
  notBefore := exactValue fmt .nbf payload
  issuedAt := exactValue fmt .iat payload
  id := exactValue fmt .jti payload
  nonce := exactValue fmt .nonce payload
  all := (unmarshalMap payload).toOption.join

theorem exactClaims_get (f : Field) : (exactClaims fmt payload).get f = exactValue fmt f payload := by
  cases f <;> rfl

/-- `validate` reads the fields and the presence of names. -/
theorem validate_congr {d : Claims} (hget : ∀ f, c.get f = d.get f)
    (hhas : ∀ name, c.has name = d.has name) (cfg : Config) :
    c.validate fmt cfg = d.validate fmt cfg := by
  have hiss : c.issuer = d.issuer := hget .iss
  have haud : c.audience = d.audience := hget .aud
  have hexp : c.expiry = d.expiry := hget .exp
  have hnbf : c.notBefore = d.notBefore := hget .nbf
  have hiat : c.issuedAt = d.issuedAt := hget .iat
  have hnonce : c.nonce = d.nonce := hget .nonce
  simp only [Claims.validate, hiss, haud, hexp, hnbf, hiat, hnonce, hhas]

/-- Every view of a claim is the member of its exact name: the modelled field, the
raw accessors, `Extra`, and the claims `validate` decides on. -/
structure ViewsAgree (fmt : Fmt) (payload : Json) (c : Claims) : Prop where
  fields : ∀ f, c.get f = exactValue fmt f payload
  raw : ∀ name, c.getClaim name = payload.member? name
  present : ∀ name, c.has name = (payload.member? name).isSome
  extra : ∀ name, c.getExtra name = if isModelled name then none else payload.member? name
  validated : ∀ cfg, c.validate fmt cfg = (exactClaims fmt payload).validate fmt cfg

/-- For every modelled claim, the last member that matches its name in any
spelling and carries a value decodes to the value of the exact spelling. -/
def Undisputed (fmt : Fmt) (payload : Json) : Prop :=
  ∀ f m, lastCarrier fmt f payload.members = some m →
    carries fmt f m.2 = some (exactValue fmt f payload)

/-- Without a carrier the exact member carries nothing either. -/
theorem exactValue_of_no_carrier {f : Field} (h : lastCarrier fmt f payload.members = none) :
    exactValue fmt f payload = f.zero := by
  unfold exactValue Json.member?
  cases hm : payload.members.findRev? fun m => m.1 = f.name with
  | none => rfl
  | some m =>
      rw [List.findRev?_eq_find?_reverse] at hm
      have hname : m.1 = f.name := by simpa using List.find?_some hm
      have hmem : m ∈ payload.members := List.mem_reverse.mp (List.mem_of_find?_eq_some hm)
      unfold lastCarrier at h
      rw [List.findRev?_eq_find?_reverse, List.find?_eq_none] at h
      have hno := h m (List.mem_reverse.mpr hmem)
      have hnone : carries fmt f m.2 = none := by simpa [hname, fieldOf_name] using hno
      simp [hnone]

theorem get_eq_exact_iff (h : parseClaims fmt payload = .ok c) (f : Field) :
    c.get f = exactValue fmt f payload ↔
      ∀ m, lastCarrier fmt f payload.members = some m →
        carries fmt f m.2 = some (exactValue fmt f payload) := by
  obtain ⟨d, all, hd, -, rfl⟩ := parseClaims_ok h
  have hget : ({ d with all := all, extra := extraOf all } : Claims).get f = d.get f := by
    cases f <;> rfl
  rw [hget, unmarshalClaims_get hd]
  cases hlast : lastCarrier fmt f payload.members with
  | none => simp [exactValue_of_no_carrier hlast]
  | some m =>
      have hcar : (carries fmt f m.2).isSome = true := by
        have hp := List.find?_some ((List.findRev?_eq_find?_reverse ..).symm.trans hlast)
        simp only [Bool.and_eq_true] at hp
        exact hp.2
      obtain ⟨v, hv⟩ := Option.isSome_iff_exists.mp hcar
      simp [hv]

/-- Distinct names, and no respelling of a modelled one, leave nothing to dispute. -/
theorem undisputed_of_exact_names
    (hnodup : (payload.members.map Prod.fst).Nodup)
    (hexact : ∀ m ∈ payload.members, ∀ f, fieldOf m.1 = some f → m.1 = f.name) :
    Undisputed fmt payload := by
  intro f m hlast
  unfold lastCarrier at hlast
  rw [List.findRev?_eq_find?_reverse] at hlast
  have hmem : m ∈ payload.members := List.mem_reverse.mp (List.mem_of_find?_eq_some hlast)
  have hp := List.find?_some hlast
  simp only [Bool.and_eq_true, decide_eq_true_eq] at hp
  have hname := hexact m hmem f hp.1
  obtain ⟨v, hv⟩ := Option.isSome_iff_exists.mp hp.2
  have hfound : payload.members.findRev? (fun n => n.1 = f.name) = some m := by
    rw [List.findRev?_eq_find?_reverse]
    cases hfind : payload.members.reverse.find? fun n => n.1 = f.name with
    | none =>
        have hno := List.find?_eq_none.mp hfind m (List.mem_reverse.mpr hmem)
        simp [hname] at hno
    | some n =>
        have hn : n ∈ payload.members := List.mem_reverse.mp (List.mem_of_find?_eq_some hfind)
        have hnname : n.1 = f.name := by simpa using List.find?_some hfind
        exact congrArg some (List.inj_on_of_nodup_map hnodup hn hmem (hnname.trans hname.symm))
  rw [hv, exactValue, Json.member?, hfound]
  simp [hv]

/-- The views of an accepted payload agree exactly when no spelling disputes a
modelled claim. -/
theorem claim_views_agree_iff (h : parseClaims fmt payload = .ok c) :
    ViewsAgree fmt payload c ↔ Undisputed fmt payload := by
  constructor
  · intro hviews f m hm
    exact (get_eq_exact_iff h f).mp (hviews.fields f) m hm
  · intro hund
    have hfields : ∀ f, c.get f = exactValue fmt f payload :=
      fun f => (get_eq_exact_iff h f).mpr (hund f)
    obtain ⟨d, all, -, hall, rfl⟩ := parseClaims_ok h
    have hraw : ∀ name, (all.bind fun m => m.lookup name) = payload.member? name :=
      unmarshalMap_lookup hall
    refine ⟨hfields, hraw, fun name => congrArg Option.isSome (hraw name), fun name => ?_,
      fun cfg => validate_congr ?_ ?_ cfg⟩
    · show ((extraOf all).bind fun m => m.lookup name) = _
      rw [extraOf_lookup, hraw]
    · intro f
      rw [hfields f, exactClaims_get]
    · intro name
      simp [Claims.has, Claims.getClaim, exactClaims, hall, Except.toOption]

/-- Distinct exact names: an issuer and an audience. -/
def plainPayload : Json :=
  .obj [("iss", .str "https://idp"), ("aud", .arr [.str "api"]), ("scope", .str "read")]

theorem claim_views_agree_plain :
    ∃ c, parseClaims ⟨id, fun _ => ""⟩ plainPayload = .ok c ∧
      ViewsAgree ⟨id, fun _ => ""⟩ plainPayload c := by
  have hok : (parseClaims ⟨id, fun _ => ""⟩ plainPayload).isOk = true := by decide
  cases hc : parseClaims ⟨id, fun _ => ""⟩ plainPayload with
  | error e => simp [hc, Except.isOk, Except.toBool] at hok
  | ok c =>
      refine ⟨c, rfl, (claim_views_agree_iff hc).mpr (undisputed_of_exact_names (by decide) ?_)⟩
      intro m hm f hf
      simp only [plainPayload, Json.members, List.mem_cons, List.not_mem_nil, or_false] at hm
      obtain rfl | rfl | rfl := hm <;> revert hf <;> cases f <;> decide

/-- A second spelling of the issuer, after the first. -/
def respelledPayload : Json := .obj [("iss", .str "good"), ("ISS", .str "evil")]

/-- The respelled payload is accepted with the issuer `evil`, while `GetClaim`
returns `good`. -/
theorem second_spelling_overrides :
    ¬ ∀ (fmt : Fmt) (payload : Json) (c : Claims), parseClaims fmt payload = .ok c →
      ViewsAgree fmt payload c := by
  intro h
  have hiss : ((parseClaims ⟨id, fun _ => ""⟩ respelledPayload).toOption.map Claims.issuer) =
      some "evil" := by decide
  cases hc : parseClaims ⟨id, fun _ => ""⟩ respelledPayload with
  | error e => simp [hc, Except.toOption] at hiss
  | ok c =>
      have hevil : c.issuer = "evil" := by simpa [hc, Except.toOption] using hiss
      have hgood : c.issuer = exactValue ⟨id, fun _ => ""⟩ .iss respelledPayload :=
        (h _ _ c hc).fields .iss
      rw [hevil] at hgood
      exact absurd hgood (by decide)

end Views

end IdentityModel.GoClaims
