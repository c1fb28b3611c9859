import IdentityModel.Json
import IdentityModel.RustJwksCache
import IdentityModel.Results

/-!
# Key set documents in Rust

`JsonWebKeySet::parse` and `JsonWebKey::validate` of `rust/src/jwks/key.rs`. The
body is the document its text denotes. `serde` matches member names exactly,
refuses a repeated one, and takes an array for a struct whose fields its elements
are in order. `serde_json` reads what the struct keeps into values, for which a
number has to be one of 64 bits or a finite float and the nesting stays below its
recursion limit; what the struct does not keep is skipped unread.
-/
namespace IdentityModel.RustKeySet

open RustJwks (IdentityError JsonWebKey JsonWebKeySet)
open Results

/-- What the parser takes from its libraries: which number literals have no
value, and the texts of errors and values. -/
structure Library where
  outOfRange : Number → Bool
  documentError : Json → String
  invalidType : Json → String
  display : Json → String
  debug : String → String

/-- The containers `serde_json` enters, one inside the other, stay below this. -/
def recursionLimit : ℕ := 128

def isOutOfRange (lib : Library) : Json → Bool
  | .num n => lib.outOfRange n
  | _ => false

/-- A field of the document, one container down, can be read into a value. -/
def fits (lib : Library) (value : Json) : Bool :=
  decide (value.depth + 1 < recursionLimit) && !value.parts.any (isOutOfRange lib)

/-- `Vec<serde_json::Value>`. -/
def valuesOf (lib : Library) : Json → Option (List Json)
  | .arr elems => if fits lib (.arr elems) then some elems else none
  | _ => none

/-- `RawSet`, with `keys` defaulting to none; `none` is an error. -/
def rawSet (lib : Library) : Json → Option (List Json)
  | .obj members =>
      match members.filter fun m => m.1 = "keys" with
      | [] => some []
      | [m] => valuesOf lib m.2
      | _ => none
  | .arr [] => some []
  | .arr [keys] => valuesOf lib keys
  | _ => none

/-- A string member; null, as `null_as_empty` has it, or none at all is the empty
string. -/
def nullAsEmpty (lib : Library) (map : Dict String Json) (name : String) :
    Except IdentityError String :=
  match map.lookup name with
  | none => .ok ""
  | some .null => .ok ""
  | some (.str s) => .ok s
  | some j => .error (.validation ("JWK has a mistyped parameter: " ++ lib.invalidType j))

/-- `serde_json::from_value` of an object; its members come in the order of their
names. -/
def fromMap (lib : Library) (map : Dict String Json) : Except IdentityError JsonWebKey := do
  let alg ← nullAsEmpty lib map "alg"
  let crv ← nullAsEmpty lib map "crv"
  let e ← nullAsEmpty lib map "e"
  let kid ← nullAsEmpty lib map "kid"
  let kty ← nullAsEmpty lib map "kty"
  let n ← nullAsEmpty lib map "n"
  let use_ ← nullAsEmpty lib map "use"
  let x ← nullAsEmpty lib map "x"
  let y ← nullAsEmpty lib map "y"
  return { kty, kid, use_, alg, n, e, crv, x, y }

/-- `JsonWebKey::validate`. -/
def validate (lib : Library) (key : JsonWebKey) : Except IdentityError Unit :=
  if key.kty = "" then .error (.validation "JWK is missing required parameter \"kty\"")
  else if key.kty = "RSA" ∧ (key.n = "" ∨ key.e = "") then
    .error (.validation ("RSA key " ++ lib.debug key.kid ++
      " is missing modulus \"n\" or exponent \"e\""))
  else if key.kty = "EC" ∧ (key.crv = "" ∨ key.x = "" ∨ key.y = "") then
    .error (.validation ("EC key " ++ lib.debug key.kid ++
      " is missing curve \"crv\", \"x\", or \"y\""))
  else .ok ()

/-- A member of the set that is an object. -/
def checkedKey (lib : Library) (members : List (String × Json)) :
    Except IdentityError JsonWebKey := do
  let key ← fromMap lib (Dict.insertAll members ∅)
  validate lib key
  return key

/-- The loop of `parse`: the usable keys and the first error of the others. -/
def parseMembers (lib : Library) (keys : List JsonWebKey) (firstInvalid : Option IdentityError) :
    List Json → Except IdentityError (List JsonWebKey × Option IdentityError)
  | [] => .ok (keys, firstInvalid)
  | .obj members :: rest =>
      match checkedKey lib members with
      | .ok key => parseMembers lib (keys ++ [key]) firstInvalid rest
      | .error err => parseMembers lib keys (firstInvalid.or (some err)) rest
  | member :: _ =>
      .error (.deserialization ("parse JWK Set: member is not an object: " ++ lib.display member))

/-- `JsonWebKeySet::parse`. -/
def parse (lib : Library) (body : Json) : Except IdentityError JsonWebKeySet :=
  match rawSet lib body with
  | none => .error (.deserialization ("parse JWK Set: " ++ lib.documentError body))
  | some raw =>
      match parseMembers lib [] none raw with
      | .error err => .error err
      | .ok ([], some err) => .error err
      | .ok ([], none) => .error (.validation "JWK Set contains no keys")
      | .ok (keys, _) => .ok ⟨keys⟩

end IdentityModel.RustKeySet
