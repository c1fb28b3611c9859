import IdentityModel.GoDpopProof
import IdentityModel.GoExtras
import IdentityModel.RustTimes
import IdentityModel.StructDecoding

/-!
# Introspection responses

`Introspection.UnmarshalJSON` of `go/pkg/introspection/response.go` and `Introspection::from_value` of
`rust/src/introspection/response.rs`. A body is the document its text denotes, so the errors of the
JSON grammar do not appear. Go fills the fields through an alias type, which matches names as
`encoding/json` does, and looks for `active` and the other members in a map; Rust looks for all of
them in one map. Each reads the whole body first, and goes along with a nesting of its own.
-/
namespace IdentityModel.Introspections

/-- The members of RFC 7662. -/
inductive Field
  | active | scope | clientId | username | tokenType | exp | iat | nbf | sub | aud | iss | jti
  deriving DecidableEq, Repr

namespace Field

def all : List Field :=
  [.active, .scope, .clientId, .username, .tokenType, .exp, .iat, .nbf, .sub, .aud, .iss, .jti]

/-- The name of the member. -/
def name : Field → String
  | .active => "active"
  | .scope => "scope"
  | .clientId => "client_id"
  | .username => "username"
  | .tokenType => "token_type"
  | .exp => "exp"
  | .iat => "iat"
  | .nbf => "nbf"
  | .sub => "sub"
  | .aud => "aud"
  | .iss => "iss"
  | .jti => "jti"

theorem mem_all (f : Field) : f ∈ all := by cases f <;> decide

theorem name_injective (f g : Field) (h : f.name = g.name) : f = g := by
  revert h
  cases f <;> cases g <;> decide

end Field

/-- The members that have a field: `standardMembers` and `STANDARD_MEMBERS`. -/
def standardMembers : List String := Field.all.map Field.name

namespace Go

open GoClaims (kind typeError unmarshalAudience unmarshalMap)
open GoExtras (Any Runtime)

/-- The type of a field; an audience is a slice that may be nil. -/
abbrev Value : Field → Type
  | .active => Bool
  | .exp | .iat | .nbf => Int64
  | .aud => Option (List String)
  | .scope | .clientId | .username | .tokenType | .sub | .iss | .jti => String

def zero : (f : Field) → Value f
  | .active => false
  | .exp | .iat | .nbf => 0
  | .aud => none
  | .scope | .clientId | .username | .tokenType | .sub | .iss | .jti => ""

def mistyped (f : Field) (value goType : String) : DecodeError :=
  ⟨"json: cannot unmarshal " ++ value ++ " into Go struct field alias." ++ f.name ++ " of type " ++
    goType, false⟩

def decodeBool (f : Field) : Json → Except DecodeError (Option Bool)
  | .bool b => .ok (some b)
  | .null => .ok none
  | j => .error (mistyped f (kind j) "bool")

def decodeString (f : Field) : Json → Except DecodeError (Option String)
  | .str s => .ok (some s)
  | .null => .ok none
  | j => .error (mistyped f (kind j) "string")

def decodeInt64 (f : Field) : Json → Except DecodeError (Option Int64)
  | .num n =>
      match GoDpop.parseInt n with
      | some i => .ok (some i)
      | none => .error (mistyped f ("number " ++ n.text) "int64")
  | .null => .ok none
  | j => .error (mistyped f (kind j) "int64")

/-- `Audience.UnmarshalJSON`, which a `null` reaches too. -/
def decodeAudience (j : Json) : Except DecodeError (Option (Option (List String))) :=
  match unmarshalAudience j with
  | .ok aud => .ok (some aud)
  | .error e => .error ⟨e, true⟩

def decode : (f : Field) → Json → Except DecodeError (Option (Value f))
  | .active, j => decodeBool .active j
  | .scope, j => decodeString .scope j
  | .clientId, j => decodeString .clientId j
  | .username, j => decodeString .username j
  | .tokenType, j => decodeString .tokenType j
  | .exp, j => decodeInt64 .exp j
  | .iat, j => decodeInt64 .iat j
  | .nbf, j => decodeInt64 .nbf j
  | .sub, j => decodeString .sub j
  | .aud, j => decodeAudience j
  | .iss, j => decodeString .iss j
  | .jti, j => decodeString .jti j

/-- The type `alias` of `UnmarshalJSON`. -/
def shape : StructShape Field where
  fields := Field.all
  name := Field.name
  fold := GoClaims.foldName
  Value := Value
  zero := zero
  decode := decode

theorem shape_lawful : shape.Lawful := ⟨Field.mem_all, Field.name_injective⟩

/-- `Introspection`; `extra` is a map that may be nil. -/
structure Introspection where
  active : Bool
  scope : String
  clientId : String
  username : String
  tokenType : String
  exp : Int64
  iat : Int64
  nbf : Int64
  sub : String
  aud : Option (List String)
  iss : String
  jti : String
  extra : Option (Dict String Any)

namespace Introspection

def get (r : Introspection) : (f : Field) → Value f
  | .active => r.active
  | .scope => r.scope
  | .clientId => r.clientId
  | .username => r.username
  | .tokenType => r.tokenType
  | .exp => r.exp
  | .iat => r.iat
  | .nbf => r.nbf
  | .sub => r.sub
  | .aud => r.aud
  | .iss => r.iss
  | .jti => r.jti

/-- A member as `extra` holds it. -/
def getExtra (r : Introspection) (name : String) : Option Any := r.extra.bind fun extra => extra.lookup name

/-- `Introspection(a)`. -/
def ofRecord (a : shape.Record) (extra : Option (Dict String Any)) : Introspection where
  active := a .active
  scope := a .scope
  clientId := a .clientId
  username := a .username
  tokenType := a .tokenType
  exp := a .exp
  iat := a .iat
  nbf := a .nbf
  sub := a .sub
  aud := a .aud
  iss := a .iss
  jti := a .jti
  extra := extra

theorem get_ofRecord (a : shape.Record) (extra : Option (Dict String Any)) (f : Field) :
    (ofRecord a extra).get f = a f := by
  cases f <;> rfl

end Introspection

def missingActive : String :=
  "introspection: response missing required \"active\" member (RFC 7662 §2.2)"

/-- `Introspection.UnmarshalJSON`. -/
def unmarshalJSON (rt : Runtime) (data : Json) : Except String Introspection :=
  if GoKeySet.maxNestingDepth < data.depth then .error "exceeded max depth" else
  match shape.unmarshal (fun j => typeError (kind j) "introspection.alias") data with
  | .error e => .error e
  | .ok a =>
      match unmarshalMap data with
      | .error e => .error e
      | .ok raw =>
          match raw.bind fun d => d.lookup "active" with
          | none => .error missingActive
          | some .null => .error missingActive
          | some _ =>
              (GoExtras.decodeRest rt standardMembers (raw.getD ∅)).map fun extra => .ofRecord a extra

end Go

namespace Rust

open Combinators.Rust (IdentityError)
open RustClaims (FloatReader Map SerdeNumber SerdeValue)

/-- The type of a field. -/
abbrev Value : Field → Type
  | .active => Bool
  | .exp | .iat | .nbf => Option ℤ
  | .aud => List String
  | .scope | .clientId | .username | .tokenType | .sub | .iss | .jti => Option String

def missingActive : String :=
  "introspection response missing required \"active\" member (RFC 7662 §2.2)"

/-- The error of a member of another type. -/
def invalid (name what : String) : IdentityError :=
  .deserialization ("introspection \"" ++ name ++ "\" invalid: " ++ what)

/-- The loop of `IntrospectionAudience::from_value` over an array. -/
def audienceItems : List Json → Except IdentityError (List String)
  | [] => .ok []
  | .str s :: items => (audienceItems items).map fun rest => s :: rest
  | _ :: _ => .error (invalid "aud" "array must contain only strings")

/-- `IntrospectionAudience::from_value`. -/
def audienceFromValue : Json → Except IdentityError (List String)
  | .null => .ok []
  | .str s => .ok [s]
  | .arr items => audienceItems items
  | _ => .error (invalid "aud" "must be a string or array of strings")

/-- The `active` member, which has to be there. -/
def activeMember (map : Map) : Except IdentityError Bool :=
  match map.lookup "active" with
  | some (.bool b) => .ok b
  | none => .error (.deserialization missingActive)
  | some .null => .error (.deserialization missingActive)
  | some _ =>
      .error (.deserialization "introspection \"active\" member must be a boolean (RFC 7662 §2.2)")

def stringMember (map : Map) (name : String) : Except IdentityError (Option String) :=
  match map.lookup name with
  | none => .ok none
  | some .null => .ok none
  | some (.str s) => .ok (some s)
  | some _ => .error (invalid name "must be a string")

def intMember (float : Number → ℚ) (map : Map) (name : String) : Except IdentityError (Option ℤ) :=
  match map.lookup name with
  | none => .ok none
  | some .null => .ok none
  | some (.num n) =>
      match (SerdeNumber.ofLiteral float n).asI64 with
      | some secs => .ok (some secs)
      | none => .error (invalid name "must be an integer number of seconds")
  | some _ => .error (invalid name "must be a number")

def audMember (map : Map) : Except IdentityError (List String) :=
  match map.lookup "aud" with
  | some v => audienceFromValue v
  | none => .ok []

/-- `Introspection`. -/
structure Introspection where
  active : Bool
  scope : Option String
  clientId : Option String
  username : Option String
  tokenType : Option String
  exp : Option ℤ
  iat : Option ℤ
  nbf : Option ℤ
  sub : Option String
  aud : List String
  iss : Option String
  jti : Option String
  extra : Map

namespace Introspection

def get (r : Introspection) : (f : Field) → Value f
  | .active => r.active
  | .scope => r.scope
  | .clientId => r.clientId
  | .username => r.username
  | .tokenType => r.tokenType
  | .exp => r.exp
  | .iat => r.iat
  | .nbf => r.nbf
  | .sub => r.sub
  | .aud => r.aud
  | .iss => r.iss
  | .jti => r.jti

def fromMap (float : Number → ℚ) (map : Map) : Except IdentityError Introspection := do
  let active ← activeMember map
  let scope ← stringMember map "scope"
  let clientId ← stringMember map "client_id"
  let username ← stringMember map "username"
  let tokenType ← stringMember map "token_type"
  let sub ← stringMember map "sub"
  let iss ← stringMember map "iss"
  let jti ← stringMember map "jti"
  let exp ← intMember float map "exp"
  let iat ← intMember float map "iat"
  let nbf ← intMember float map "nbf"
  let aud ← audMember map
  return {
    active, scope, clientId, username, tokenType, exp, iat, nbf, sub, aud, iss, jti
    extra := map.restrict fun name => name ∉ standardMembers }

/-- `Introspection::from_value`. -/
def fromValue (float : Number → ℚ) : Json → Except IdentityError Introspection
  | .obj members => fromMap float (Dict.insertAll members ∅)
  | _ => .error (.deserialization "introspection response is not a JSON object")

/-- `deserialize`; `unreadable` is the error of `serde_json`. -/
def deserialize (reader : FloatReader) (unreadable : Json → String) (body : Json) :
    Except IdentityError Introspection :=
  if reader.Readable body then fromValue reader.float body
  else .error (.deserialization (unreadable body))

/-- A member as `extra` holds it. -/
def getExtra (float : Number → ℚ) (r : Introspection) (name : String) : Option SerdeValue :=
  (r.extra.lookup name).map (SerdeValue.ofJson float)

end Introspection

end Rust

end IdentityModel.Introspections
