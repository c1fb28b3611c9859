import IdentityModel.GoClaims
import IdentityModel.GoJwks

/-!
# Key set documents in Go

`parseKeySet`, `parseKey` and `validate` of `go/pkg/jwks/jwks.go`. The body is
the document its text denotes. `encoding/json` matches a member with a field
whose name it folds to, takes a null string for none at all, decodes on after a
mistyped member, and refuses a text nested too deeply.
-/
namespace IdentityModel.GoKeySet

open GoClaims (foldName kind typeError unmarshalMap)
open GoJwks (JSONWebKey JwksError)

/-- The modelled parameters of a key. -/
inductive Parameter
  | kty | kid | use_ | alg | n | e | crv | x | y
  deriving DecidableEq, Repr

namespace Parameter

def all : List Parameter := [.kty, .kid, .use_, .alg, .n, .e, .crv, .x, .y]

theorem mem_all (p : Parameter) : p ∈ all := by cases p <;> decide

/-- The JSON name in the field's tag. -/
def name : Parameter → String
  | .kty => "kty"
  | .kid => "kid"
  | .use_ => "use"
  | .alg => "alg"
  | .n => "n"
  | .e => "e"
  | .crv => "crv"
  | .x => "x"
  | .y => "y"

end Parameter

def get (k : JSONWebKey) : Parameter → String
  | .kty => k.kty
  | .kid => k.kid
  | .use_ => k.use_
  | .alg => k.alg
  | .n => k.n
  | .e => k.e
  | .crv => k.crv
  | .x => k.x
  | .y => k.y

def set (k : JSONWebKey) : Parameter → String → JSONWebKey
  | .kty, v => { k with kty := v }
  | .kid, v => { k with kid := v }
  | .use_, v => { k with use_ := v }
  | .alg, v => { k with alg := v }
  | .n, v => { k with n := v }
  | .e, v => { k with e := v }
  | .crv, v => { k with crv := v }
  | .x, v => { k with x := v }
  | .y, v => { k with y := v }

theorem get_set (k : JSONWebKey) (p q : Parameter) (v : String) :
    get (set k p v) q = if q = p then v else get k q := by
  cases p <;> cases q <;> rfl

/-- The parameter a member of that name is decoded into: by its exact name, else
by its folded one. -/
def parameterOf (name : String) : Option Parameter :=
  match Parameter.all.find? fun p => p.name = name with
  | some p => some p
  | none => Parameter.all.find? fun p => foldName p.name = foldName name

def mistyped (value : Json) (p : Parameter) : String :=
  "json: cannot unmarshal " ++ kind value ++ " into Go struct field JSONWebKey." ++ p.name ++
    " of type string"

/-- Decode one member into the key; the first error is kept. -/
def decodeMember (acc : JSONWebKey × Option String) (m : String × Json) :
    JSONWebKey × Option String :=
  match parameterOf m.1 with
  | none => acc
  | some p =>
      match m.2 with
      | .str s => (set acc.1 p s, acc.2)
      | .null => acc
      | j => (acc.1, acc.2.or (some (mistyped j p)))

/-- `json.Unmarshal` of an object into a `JSONWebKey`. -/
def unmarshalKey (raw : Json) : Except String JSONWebKey :=
  match raw.members.foldl decodeMember ({}, none) with
  | (k, none) => .ok k
  | (_, some err) => .error err

/-- `JSONWebKey.validate`; `none` is success. -/
def validate (k : JSONWebKey) : Option JwksError :=
  if k.kty = "" then some (.invalidKey k.kid "missing required parameter \"kty\"")
  else if k.kty = "RSA" then
    if k.n = "" ∨ k.e = "" then
      some (.invalidKey k.kid "RSA key missing modulus \"n\" or exponent \"e\"")
    else none
  else if k.kty = "EC" then
    if k.crv = "" ∨ k.x = "" ∨ k.y = "" then
      some (.invalidKey k.kid "EC key missing curve \"crv\", \"x\" or \"y\"")
    else none
  else none

/-- The `kid` an unusable key is reported under: the string of that exact name. -/
def reportedKid (m : Dict String Json) : String := ((m.lookup "kid").bind Json.str?).getD ""

def parseKey (raw : Json) : Except JwksError JSONWebKey :=
  match unmarshalMap raw with
  | .error err => .error (.parse err)
  | .ok none => .error (.parse "JWK Set member is null, not an object")
  | .ok (some m) =>
      match unmarshalKey raw with
      | .error err => .error (.invalidKey (reportedKid m) ("mistyped parameter: " ++ err))
      | .ok k =>
          match validate k with
          | some err => .error err
          | none => .ok k

/-- The nesting `encoding/json` goes along with. -/
def maxNestingDepth : ℕ := 10000

/-- Decode one member of the document into its `Keys`. -/
def decodeKeys (acc : List Json × Option String) (m : String × Json) :
    List Json × Option String :=
  if foldName m.1 = foldName "keys" then
    match m.2 with
    | .arr elems => (elems, acc.2)
    | .null => ([], acc.2)
    | j => (acc.1, acc.2.or (some ("json: cannot unmarshal " ++ kind j ++
        " into Go struct field .keys of type []json.RawMessage")))
  else acc

/-- `json.Unmarshal` of the body. -/
def unmarshalDocument (body : Json) : Except String (List Json) :=
  if maxNestingDepth < body.depth then .error "exceeded max depth"
  else
    match body with
    | .obj ms =>
        match ms.foldl decodeKeys ([], none) with
        | (raws, none) => .ok raws
        | (_, some err) => .error err
    | .null => .ok []
    | j => .error (typeError (kind j) "struct \x7b Keys []json.RawMessage \"json:\\\"keys\\\"\" \x7d")

/-- The loop of `parseKeySet`: the usable keys and the first unusable one. -/
def parseKeys (keys : List JSONWebKey) (firstInvalid : Option JwksError) :
    List Json → Except JwksError (List JSONWebKey × Option JwksError)
  | [] => .ok (keys, firstInvalid)
  | raw :: raws =>
      match parseKey raw with
      | .ok k => parseKeys (keys ++ [k]) firstInvalid raws
      | .error (.invalidKey kid reason) =>
          parseKeys keys (firstInvalid.or (some (.invalidKey kid reason))) raws
      | .error err => .error err

def parseKeySet (body : Json) (uri : String) : Except JwksError (List JSONWebKey) :=
  match unmarshalDocument body with
  | .error err => .error (.parse err)
  | .ok raws =>
      match parseKeys [] none raws with
      | .error err => .error err
      | .ok ([], some err) => .error err
      | .ok ([], none) => .error (.emptyKeySet uri)
      | .ok (keys, _) => .ok keys

end IdentityModel.GoKeySet
