import IdentityModel.ClaimsParity
import IdentityModel.FlexibleSeconds
import IdentityModel.Introspections

/-!
# Introspection responses in Go and Rust

Both languages read the same response in a body that both go along with, unless a date is written as the
negative zero, which only Go takes, or some member is respelled: Go then lets the last spelling of a
name decide, and Rust the last member of that very name.
-/
namespace IdentityModel.Introspections

open Results
open Combinators.Rust (IdentityError)
open GoExtras (InRange Runtime extraOf lookup_extraOf storedOrder toAny)
open FlexibleSeconds (NegativeZero asI64_negativeZero asI64_ofLiteral)
open RustClaims (FloatReader Map SerdeNumber SerdeValue)

/-- What a caller sees in a field. -/
abbrev Seen : Field → Type
  | .active => Bool
  | .exp | .iat | .nbf => ℤ
  | .aud => List String
  | .scope | .clientId | .username | .tokenType | .sub | .iss | .jti => String

/-- A nil audience is an empty one. -/
def Go.seen : (f : Field) → Go.Value f → Seen f
  | .active, b => b
  | .exp, i => i.toInt
  | .iat, i => i.toInt
  | .nbf, i => i.toInt
  | .aud, aud => aud.getD []
  | .scope, s => s
  | .clientId, s => s
  | .username, s => s
  | .tokenType, s => s
  | .sub, s => s
  | .iss, s => s
  | .jti, s => s

/-- What is absent is the zero value of Go. -/
def Rust.seen : (f : Field) → Rust.Value f → Seen f
  | .active, b => b
  | .exp, i => i.getD 0
  | .iat, i => i.getD 0
  | .nbf, i => i.getD 0
  | .aud, aud => aud
  | .scope, s => s.getD ""
  | .clientId, s => s.getD ""
  | .username, s => s.getD ""
  | .tokenType, s => s.getD ""
  | .sub, s => s.getD ""
  | .iss, s => s.getD ""
  | .jti, s => s.getD ""

/-- What Rust asks of a member besides what Go does. -/
def Regular : Field → Option Json → Prop
  | .active, raw => raw ≠ none ∧ raw ≠ some .null
  | .exp, raw => ∀ n, raw = some (.num n) → ¬ NegativeZero n
  | .iat, raw => ∀ n, raw = some (.num n) → ¬ NegativeZero n
  | .nbf, raw => ∀ n, raw = some (.num n) → ¬ NegativeZero n
  | .aud, _ => True
  | .scope, _ => True
  | .clientId, _ => True
  | .username, _ => True
  | .tokenType, _ => True
  | .sub, _ => True
  | .iss, _ => True
  | .jti, _ => True

/-- What Go leaves in a field that only this member is decoded into. -/
def Go.read (f : Field) (raw : Option Json) : Go.Value f :=
  (raw.bind fun j => Go.shape.carries f j).getD (Go.zero f)

/-- Go and Rust on one member: which ones Rust takes, and what both see in them. -/
structure Agrees (f : Field) (raw : Option Json) (o : Except IdentityError (Rust.Value f)) : Prop where
  accepted : (∃ v, o = .ok v) ↔ (∀ j, raw = some j → (Go.decode f j).isOk = true) ∧ Regular f raw
  seen : ∀ v, o = .ok v → Rust.seen f v = Go.seen f (Go.read f raw)

section Member

/-- The field of a string member: the two decodings and what is seen of their results. -/
theorem string_agrees (f : Field) (map : Map) (name : String) :
    ((∃ v, Rust.stringMember map name = .ok v) ↔
      ∀ j, map.lookup name = some j → (Go.decodeString f j).isOk = true) ∧
    ∀ v, Rust.stringMember map name = .ok v → v.getD "" =
      ((map.lookup name).bind fun j => (Go.decodeString f j).toOption.join).getD "" := by
  unfold Rust.stringMember
  cases map.lookup name with
  | none => simp
  | some j => cases j <;> simp [Go.decodeString, Except.isOk, Except.toBool, Except.toOption]

theorem int_agrees (float : Number → ℚ) (f : Field) (map : Map) (name : String) :
    ((∃ v, Rust.intMember float map name = .ok v) ↔
      (∀ j, map.lookup name = some j → (Go.decodeInt64 f j).isOk = true) ∧
        ∀ n, map.lookup name = some (.num n) → ¬ NegativeZero n) ∧
    ∀ v, Rust.intMember float map name = .ok v → v.getD 0 =
      (((map.lookup name).bind fun j => (Go.decodeInt64 f j).toOption.join).getD 0).toInt := by
  unfold Rust.intMember
  cases map.lookup name with
  | none => simp
  | some j =>
      cases j with
      | num n =>
          by_cases hzero : NegativeZero n
          · simp [asI64_negativeZero float hzero, hzero]
          · cases hparse : GoDpop.parseInt n with
            | none =>
                simp [asI64_ofLiteral float hzero, hparse, Go.decodeInt64, Except.isOk, Except.toBool]
            | some i =>
                simp [asI64_ofLiteral float hzero, hparse, Go.decodeInt64, hzero, Except.isOk,
                  Except.toBool, Except.toOption]
      | _ => simp [Go.decodeInt64, Except.isOk, Except.toBool, Except.toOption]

theorem active_agrees (map : Map) :
    ((∃ v, Rust.activeMember map = .ok v) ↔
      (∀ j, map.lookup "active" = some j → (Go.decodeBool .active j).isOk = true) ∧
        map.lookup "active" ≠ none ∧ map.lookup "active" ≠ some .null) ∧
    ∀ v, Rust.activeMember map = .ok v → v =
      ((map.lookup "active").bind fun j => (Go.decodeBool .active j).toOption.join).getD false := by
  unfold Rust.activeMember
  cases map.lookup "active" with
  | none => simp
  | some j => cases j <;> simp [Go.decodeBool, Except.isOk, Except.toBool, Except.toOption]

theorem audienceItems_ok {items : List Json} {auds : List String} :
    Rust.audienceItems items = .ok auds ↔ items = auds.map Json.str := by
  induction items generalizing auds with
  | nil => simp [Rust.audienceItems, eq_comm]
  | cons item items ih =>
      cases item with
      | str s =>
          rw [Rust.audienceItems, map_eq_ok]
          constructor
          · rintro ⟨rest, hrest, rfl⟩
            rw [ih.mp hrest, List.map_cons]
          · intro he
            cases auds with
            | nil => simp at he
            | cons a as =>
                simp only [List.map_cons, List.cons.injEq, Json.str.injEq] at he
                exact ⟨as, ih.mpr he.2, by rw [he.1]⟩
      | _ => cases auds <;> simp [Rust.audienceItems]

theorem audience_agrees (map : Map) :
    ((∃ v, Rust.audMember map = .ok v) ↔
      ∀ j, map.lookup "aud" = some j → (Go.decodeAudience j).isOk = true) ∧
    ∀ v, Rust.audMember map = .ok v → v =
      (((map.lookup "aud").bind fun j => (Go.decodeAudience j).toOption.join).getD none).getD [] := by
  unfold Rust.audMember
  cases map.lookup "aud" with
  | none => simp
  | some j =>
      cases j with
      | arr items =>
          have haccept : (Go.decodeAudience (.arr items)).isOk = true ↔
              ∃ auds : List String, items = auds.map Json.str := by
            constructor
            · intro hok
              cases haud : GoClaims.unmarshalAudience (.arr items) with
              | ok v => exact ClaimsParity.strings_of_audience haud
              | error e => simp [Go.decodeAudience, haud, Except.isOk, Except.toBool] at hok
            · rintro ⟨auds, rfl⟩
              rw [Go.decodeAudience, ClaimsParity.audience_of_strings]
              rfl
          constructor
          · simp only [Rust.audienceFromValue, audienceItems_ok]
            simpa using haccept.symm
          · intro auds hauds
            obtain rfl := audienceItems_ok.mp hauds
            rw [Option.bind_some, Go.decodeAudience, ClaimsParity.audience_of_strings]
            rfl
      | _ =>
          simp [Rust.audienceFromValue, Go.decodeAudience, GoClaims.unmarshalAudience, Except.isOk,
            Except.toBool, Except.toOption]

/-- The member of a field, as Rust looks for it. -/
def Rust.member (float : Number → ℚ) (map : Map) : (f : Field) → Except IdentityError (Rust.Value f)
  | .active => activeMember map
  | .scope => stringMember map "scope"
  | .clientId => stringMember map "client_id"
  | .username => stringMember map "username"
  | .tokenType => stringMember map "token_type"
  | .exp => intMember float map "exp"
  | .iat => intMember float map "iat"
  | .nbf => intMember float map "nbf"
  | .sub => stringMember map "sub"
  | .aud => audMember map
  | .iss => stringMember map "iss"
  | .jti => stringMember map "jti"

theorem member_agrees (float : Number → ℚ) (map : Map) (f : Field) :
    Agrees f (map.lookup f.name) (Rust.member float map f) := by
  cases f with
  | active => exact ⟨(active_agrees map).1, (active_agrees map).2⟩
  | exp => exact ⟨(int_agrees float .exp map "exp").1, (int_agrees float .exp map "exp").2⟩
  | iat => exact ⟨(int_agrees float .iat map "iat").1, (int_agrees float .iat map "iat").2⟩
  | nbf => exact ⟨(int_agrees float .nbf map "nbf").1, (int_agrees float .nbf map "nbf").2⟩
  | aud =>
      obtain ⟨haccepted, hseen⟩ := audience_agrees map
      exact ⟨haccepted.trans (and_true _).to_iff.symm, hseen⟩
  | scope =>
      obtain ⟨haccepted, hseen⟩ := string_agrees .scope map "scope"
      exact ⟨haccepted.trans (and_true _).to_iff.symm, hseen⟩
  | clientId =>
      obtain ⟨haccepted, hseen⟩ := string_agrees .clientId map "client_id"
      exact ⟨haccepted.trans (and_true _).to_iff.symm, hseen⟩
  | username =>
      obtain ⟨haccepted, hseen⟩ := string_agrees .username map "username"
      exact ⟨haccepted.trans (and_true _).to_iff.symm, hseen⟩
  | tokenType =>
      obtain ⟨haccepted, hseen⟩ := string_agrees .tokenType map "token_type"
      exact ⟨haccepted.trans (and_true _).to_iff.symm, hseen⟩
  | sub =>
      obtain ⟨haccepted, hseen⟩ := string_agrees .sub map "sub"
      exact ⟨haccepted.trans (and_true _).to_iff.symm, hseen⟩
  | iss =>
      obtain ⟨haccepted, hseen⟩ := string_agrees .iss map "iss"
      exact ⟨haccepted.trans (and_true _).to_iff.symm, hseen⟩
  | jti =>
      obtain ⟨haccepted, hseen⟩ := string_agrees .jti map "jti"
      exact ⟨haccepted.trans (and_true _).to_iff.symm, hseen⟩

end Member

section Rust

variable {float : Number → ℚ} {map : Map} {s : Rust.Introspection} {body : Json}

theorem fromMap_eq_ok :
    Rust.Introspection.fromMap float map = .ok s ↔
      (∀ f, Rust.member float map f = .ok (s.get f)) ∧
        s.extra = map.restrict fun name => name ∉ standardMembers := by
  constructor
  · intro h
    obtain ⟨active, hactive, h⟩ := bind_eq_ok.mp h
    obtain ⟨scope, hscope, h⟩ := bind_eq_ok.mp h
    obtain ⟨clientId, hclientId, h⟩ := bind_eq_ok.mp h
    obtain ⟨username, husername, h⟩ := bind_eq_ok.mp h
    obtain ⟨tokenType, htokenType, h⟩ := bind_eq_ok.mp h
    obtain ⟨sub, hsub, h⟩ := bind_eq_ok.mp h
    obtain ⟨iss, hiss, h⟩ := bind_eq_ok.mp h
    obtain ⟨jti, hjti, h⟩ := bind_eq_ok.mp h
    obtain ⟨exp, hexp, h⟩ := bind_eq_ok.mp h
    obtain ⟨iat, hiat, h⟩ := bind_eq_ok.mp h
    obtain ⟨nbf, hnbf, h⟩ := bind_eq_ok.mp h
    obtain ⟨aud, haud, h⟩ := bind_eq_ok.mp h
    cases h
    refine ⟨fun f => ?_, rfl⟩
    cases f <;> assumption
  · rintro ⟨hall, hextra⟩
    have hactive : Rust.activeMember map = .ok s.active := hall .active
    have hscope : Rust.stringMember map "scope" = .ok s.scope := hall .scope
    have hclientId : Rust.stringMember map "client_id" = .ok s.clientId := hall .clientId
    have husername : Rust.stringMember map "username" = .ok s.username := hall .username
    have htokenType : Rust.stringMember map "token_type" = .ok s.tokenType := hall .tokenType
    have hsub : Rust.stringMember map "sub" = .ok s.sub := hall .sub
    have hiss : Rust.stringMember map "iss" = .ok s.iss := hall .iss
    have hjti : Rust.stringMember map "jti" = .ok s.jti := hall .jti
    have hexp : Rust.intMember float map "exp" = .ok s.exp := hall .exp
    have hiat : Rust.intMember float map "iat" = .ok s.iat := hall .iat
    have hnbf : Rust.intMember float map "nbf" = .ok s.nbf := hall .nbf
    have haud : Rust.audMember map = .ok s.aud := hall .aud
    simp only [Rust.Introspection.fromMap, hactive, hscope, hclientId, husername, htokenType, hsub,
      hiss, hjti, hexp, hiat, hnbf, haud, bind, Except.bind, pure, Except.pure, ← hextra]

/-- Rust takes a body when it takes the member of each field. -/
theorem fromValue_isOk_iff :
    (∃ s, Rust.Introspection.fromValue float body = .ok s) ↔ (∃ ms, body = .obj ms) ∧
      ∀ f, (∀ j, body.member? f.name = some j → (Go.decode f j).isOk = true) ∧
        Regular f (body.member? f.name) := by
  cases body with
  | obj members =>
      simp only [Rust.Introspection.fromValue, ← Json.lookup_insertAll]
      constructor
      · rintro ⟨s, hs⟩
        refine ⟨⟨members, rfl⟩, fun f => ?_⟩
        exact (member_agrees float _ f).accepted.mp ⟨_, (fromMap_eq_ok.mp hs).1 f⟩
      · rintro ⟨-, hall⟩
        choose value hvalue using fun f => (member_agrees float _ f).accepted.mpr (hall f)
        refine ⟨⟨value .active, value .scope, value .clientId, value .username, value .tokenType,
          value .exp, value .iat, value .nbf, value .sub, value .aud, value .iss, value .jti, _⟩,
          fromMap_eq_ok.mpr ⟨fun f => ?_, rfl⟩⟩
        rw [hvalue f]
        cases f <;> rfl
  | _ => simp [Rust.Introspection.fromValue]

theorem deserialize_eq_ok {reader : FloatReader} {unreadable : Json → String} :
    Rust.Introspection.deserialize reader unreadable body = .ok s ↔
      reader.Readable body ∧ Rust.Introspection.fromValue reader.float body = .ok s := by
  unfold Rust.Introspection.deserialize
  split <;> simp [*]

/-- What Rust sees in a field is what Go reads in the member of that very name. -/
theorem fromValue_seen (h : Rust.Introspection.fromValue float body = .ok s) (f : Field) :
    Rust.seen f (s.get f) = Go.seen f (Go.shape.exactValue f body) := by
  cases body with
  | obj members =>
      have hmember := (fromMap_eq_ok.mp h).1 f
      have hseen := (member_agrees float _ f).seen _ hmember
      rw [Json.lookup_insertAll] at hseen
      exact hseen
  | _ => cases h

theorem fromValue_extra (h : Rust.Introspection.fromValue float body = .ok s) (name : String) :
    s.getExtra float name = (if name ∈ standardMembers then none else body.member? name).map
      (SerdeValue.ofJson float) := by
  cases body with
  | obj members =>
      rw [Rust.Introspection.getExtra, (fromMap_eq_ok.mp h).2, Dict.lookup_restrict,
        Json.lookup_insertAll]
      by_cases hname : name ∈ standardMembers <;> simp [hname]
  | _ => cases h

end Rust

section Go

variable {rt : Runtime} {body : Json} {g : Go.Introspection}

/-- What Go reads in a body that it takes. -/
def Go.reading (rt : Runtime) (body : Json) : Go.Introspection :=
  .ofRecord (fun f => Go.shape.value f body.members) (extraOf rt standardMembers body)

theorem get_reading (f : Field) : (Go.reading rt body).get f = Go.shape.value f body.members :=
  Go.Introspection.get_ofRecord _ _ f

/-- Go takes a body when it is not nested too deeply, every member can be decoded where it goes, `active`
is there, and no other number is out of range. -/
theorem unmarshalJSON_eq_ok :
    Go.unmarshalJSON rt body = .ok g ↔ (body.depth ≤ GoKeySet.maxNestingDepth ∧ (∃ ms, body = .obj ms) ∧
      (∀ m ∈ body.members, Go.shape.Decodes m) ∧ Regular .active (body.member? "active") ∧
        InRange standardMembers body) ∧ g = Go.reading rt body := by
  by_cases hdepth : GoKeySet.maxNestingDepth < body.depth
  · simp [Go.unmarshalJSON, hdepth]
  rw [and_iff_right (Nat.le_of_not_lt hdepth)]
  unfold Go.unmarshalJSON
  rw [if_neg hdepth]
  clear hdepth
  cases body with
  | obj ms =>
      have hfill := @StructShape.fill_eq_ok _ _ Go.shape ms
      have hmembers : (Json.obj ms).members = ms := rfl
      simp only [StructShape.unmarshal, GoClaims.unmarshalMap, Option.bind_some, Json.lookup_insertAll,
        Option.getD_some, hmembers, Go.reading, Json.obj.injEq, exists_eq', true_and]
      cases ha : Go.shape.fill ms with
      | error e =>
          have hnot : ¬ ∀ m ∈ ms, Go.shape.Decodes m := fun hall => by
            cases ha.symm.trans (hfill.mpr ⟨hall, rfl⟩)
          constructor
          · intro h
            cases h
          · rintro ⟨⟨hall, -⟩, -⟩
            exact absurd hall hnot
      | ok a =>
          obtain ⟨hall, rfl⟩ := hfill.mp ha
          have hrest := @GoExtras.map_decodeRest_eq_ok rt standardMembers (.obj ms) _
            (fun extra => Go.Introspection.ofRecord (fun f => Go.shape.value f ms) extra) g
          rw [hmembers] at hrest
          cases hactive : (Json.obj ms).member? "active" with
          | none => simp [Regular]
          | some j =>
              have hregular : Regular .active (some j) ↔ j ≠ .null := by simp [Regular]
              rw [hregular, and_iff_right hall, and_assoc, ← hrest]
              cases j <;> simp
  | null => simp [StructShape.unmarshal, GoClaims.unmarshalMap]
  | _ => simp [StructShape.unmarshal]

theorem getExtra_reading (name : String) :
    (Go.reading rt body).getExtra name =
      (if name ∈ standardMembers then none else body.member? name).map toAny :=
  lookup_extraOf name

end Go

/-- Every field shows the same, and every other member is there in both readings. -/
structure SameResponse (float : Number → ℚ) (g : Go.Introspection) (s : Rust.Introspection) : Prop where
  fields : ∀ f, Go.seen f (g.get f) = Rust.seen f (s.get f)
  extra : ∀ name, ∃ raw : Option Json,
    g.getExtra name = raw.map toAny ∧ s.getExtra float name = raw.map (SerdeValue.ofJson float)

/-- No spelling of a name shows another value than the last member of that very name. -/
def Settled (body : Json) : Prop := Go.shape.Settled Go.seen body

/-- Some date is the negative zero. -/
def NegativeZeroDate (body : Json) : Prop :=
  ∃ f ∈ [Field.exp, Field.iat, Field.nbf], ∃ n, body.member? f.name = some (.num n) ∧ NegativeZero n

theorem regular_iff (body : Json) :
    (∀ f, Regular f (body.member? f.name)) ↔
      Regular .active (body.member? "active") ∧ ¬ NegativeZeroDate body := by
  constructor
  · intro h
    refine ⟨h .active, ?_⟩
    rintro ⟨f, hf, n, hn, hzero⟩
    simp only [List.mem_cons, List.not_mem_nil, or_false] at hf
    obtain rfl | rfl | rfl := hf
    · exact h .exp n hn hzero
    · exact h .iat n hn hzero
    · exact h .nbf n hn hzero
  · rintro ⟨hactive, hdates⟩ f
    cases f with
    | active => exact hactive
    | exp => exact fun n hn hzero => hdates ⟨.exp, by simp, n, hn, hzero⟩
    | iat => exact fun n hn hzero => hdates ⟨.iat, by simp, n, hn, hzero⟩
    | nbf => exact fun n hn hzero => hdates ⟨.nbf, by simp, n, hn, hzero⟩
    | _ => trivial

/-- What Go takes and Rust can read, Rust takes but for a negative zero as a date, and both see the same
response just where no respelling shows another value. What Rust takes, Go takes when no name is
repeated or respelled and no other number is out of range, and then both see the same. -/
theorem introspections_agree (reader : FloatReader) (unreadable : Json → String) (rt : Runtime)
    (body : Json) :
    (∀ g, Go.unmarshalJSON rt body = .ok g →
      ((∃ s, Rust.Introspection.deserialize reader unreadable body = .ok s) ↔
        reader.Readable body ∧ ¬ NegativeZeroDate body) ∧
      ∀ s, Rust.Introspection.deserialize reader unreadable body = .ok s →
        (SameResponse reader.float g s ↔ Settled body)) ∧
    ((∃ s, Rust.Introspection.deserialize reader unreadable body = .ok s) → Go.shape.Plain body →
      Settled body ∧ ((∃ g, Go.unmarshalJSON rt body = .ok g) ↔ InRange standardMembers body)) := by
  simp only [deserialize_eq_ok, exists_and_left]
  constructor
  · intro g hg
    obtain ⟨⟨-, hobj, hall, hactive, -⟩, rfl⟩ := unmarshalJSON_eq_ok.mp hg
    constructor
    · have hdecodes : ∀ f j, body.member? (Field.name f) = some j → (Go.decode f j).isOk = true :=
        fun f j hj => hall _ (Json.mem_of_member? hj) f (StructShape.fieldOf_name Go.shape_lawful f)
      have hregular := regular_iff body
      rw [and_iff_right hactive] at hregular
      rw [fromValue_isOk_iff, ← hregular, and_iff_right hobj]
      exact and_congr_right fun _ => forall_congr' fun f => and_iff_right (hdecodes f)
    · rintro s ⟨-, hs⟩
      have hsettled : (∀ f, Go.seen f (Go.shape.value f body.members) =
          Go.seen f (Go.shape.exactValue f body)) ↔ Settled body :=
        StructShape.settled_iff Go.shape_lawful Go.seen
      rw [← hsettled]
      constructor
      · intro h f
        rw [← fromValue_seen hs f, ← h.fields f, get_reading]
      · intro h
        refine ⟨fun f => ?_, fun name => ⟨_, getExtra_reading name, fromValue_extra hs name⟩⟩
        rw [fromValue_seen hs f, ← h f, get_reading]
  · rintro ⟨⟨hdepth, -⟩, hs⟩ hplain
    obtain ⟨hobj, hall⟩ := fromValue_isOk_iff.mp hs
    have hdecodes := (hplain.decodes_iff Go.shape_lawful).mpr fun f j hj => (hall f).1 j hj
    have hshallow : body.depth ≤ GoKeySet.maxNestingDepth := hdepth.le.trans (by decide)
    refine ⟨hplain.settled Go.seen, ?_⟩
    constructor
    · rintro ⟨g, hg⟩
      exact (unmarshalJSON_eq_ok.mp hg).1.2.2.2.2
    · intro hrange
      exact ⟨_, unmarshalJSON_eq_ok.mpr ⟨⟨hshallow, hobj, hdecodes, (hall .active).2, hrange⟩, rfl⟩⟩

def sampleBody : Json :=
  .obj [("active", .bool true), ("scope", .str "read"), ("exp", .num RustClaims.one), ("tenant", .null)]

/-- Every literal has the float of its value. -/
def exactReader : FloatReader := ⟨fun _ => false, Number.value⟩

theorem introspections_agree_sample :
    ∃ g s, Go.unmarshalJSON storedOrder sampleBody = .ok g ∧
      Rust.Introspection.deserialize exactReader (fun _ => "") sampleBody = .ok s ∧
      SameResponse Number.value g s := by
  obtain ⟨g, hg⟩ := exists_of_isOk
    (show (Go.unmarshalJSON storedOrder sampleBody).isOk = true by decide)
  obtain ⟨s, hs⟩ := exists_of_isOk
    (show (Rust.Introspection.deserialize exactReader (fun _ => "") sampleBody).isOk = true by decide)
  have hplain : Go.shape.Plain sampleBody := by
    refine ⟨by decide, fun m hm f hf => ?_⟩
    simp only [sampleBody, Json.members, List.mem_cons, List.not_mem_nil, or_false] at hm
    obtain rfl | rfl | rfl | rfl := hm <;> revert hf <;> cases f <;> decide
  obtain ⟨hgo, hrust⟩ := introspections_agree exactReader (fun _ => "") storedOrder sampleBody
  exact ⟨g, s, hg, hs, ((hgo g hg).2 s hs).mpr (hrust ⟨s, hs⟩ hplain).1⟩

/-- A token that is active for Go and not for Rust. -/
example :
    let body := Json.obj [("active", .bool false), ("Active", .bool true)]
    ((Go.unmarshalJSON storedOrder body).toOption.map fun g => g.active) = some true ∧
      ((Rust.Introspection.fromValue Number.value body).toOption.map fun s => s.active) =
        some false := by decide

end IdentityModel.Introspections
