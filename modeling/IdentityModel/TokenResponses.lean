import IdentityModel.FlexibleSeconds
import IdentityModel.GoExtras
import IdentityModel.SerdeDecoding

/-!
# Token responses

`TokenResponse.UnmarshalJSON` of `go/pkg/token/response.go` and the `TokenResponse` of
`rust/src/token/response.rs`, which `serde` reads, and what the clients ask of a token that came with a
success. Go puts the members into a map, so that the last one of a name counts; Rust refuses a second
one, a `null` where there is no option, and a token that is not there.
-/
namespace IdentityModel.TokenResponses

/-- The parameters of RFC 6749, and that of a token exchange. -/
inductive Field
  | accessToken | tokenType | expiresIn | scope | refreshToken | idToken | issuedTokenType
  deriving DecidableEq, Repr

namespace Field

def all : List Field :=
  [.accessToken, .tokenType, .expiresIn, .scope, .refreshToken, .idToken, .issuedTokenType]

/-- The name of the parameter. -/
def name : Field → String
  | .accessToken => "access_token"
  | .tokenType => "token_type"
  | .expiresIn => "expires_in"
  | .scope => "scope"
  | .refreshToken => "refresh_token"
  | .idToken => "id_token"
  | .issuedTokenType => "issued_token_type"

theorem mem_all (f : Field) : f ∈ all := by cases f <;> decide

theorem name_injective (f g : Field) (h : f.name = g.name) : f = g := by
  revert h
  cases f <;> cases g <;> decide

end Field

/-- The parameters that have a field. -/
def known : List String := Field.all.map Field.name

/-- What a token was asked for with. -/
inductive Grant
  | plain | exchange
  deriving DecidableEq, Repr

namespace Go

open GoClaims (kind typeError unmarshalMap)
open GoExtras (Any)

/-- The type of a field. -/
abbrev Value : Field → Type
  | .expiresIn => Int64
  | .accessToken | .tokenType | .scope | .refreshToken | .idToken | .issuedTokenType => String

def zero : (f : Field) → Value f
  | .expiresIn => 0
  | .accessToken | .tokenType | .scope | .refreshToken | .idToken | .issuedTokenType => ""

/-- `TokenResponse`; `extra` is a map that may be nil. -/
structure TokenResponse where
  accessToken : String := ""
  tokenType : String := ""
  expiresIn : Int64 := 0
  scope : String := ""
  refreshToken : String := ""
  idToken : String := ""
  issuedTokenType : String := ""
  extra : Option (Dict String Any) := none

namespace TokenResponse

def get (r : TokenResponse) : (f : Field) → Value f
  | .accessToken => r.accessToken
  | .tokenType => r.tokenType
  | .expiresIn => r.expiresIn
  | .scope => r.scope
  | .refreshToken => r.refreshToken
  | .idToken => r.idToken
  | .issuedTokenType => r.issuedTokenType

def set (r : TokenResponse) : (f : Field) → Value f → TokenResponse
  | .accessToken, v => { r with accessToken := v }
  | .tokenType, v => { r with tokenType := v }
  | .expiresIn, v => { r with expiresIn := v }
  | .scope, v => { r with scope := v }
  | .refreshToken, v => { r with refreshToken := v }
  | .idToken, v => { r with idToken := v }
  | .issuedTokenType, v => { r with issuedTokenType := v }

/-- The response with these fields. -/
def ofRecord (a : (f : Field) → Value f) (extra : Option (Dict String Any)) : TokenResponse where
  accessToken := a .accessToken
  tokenType := a .tokenType
  expiresIn := a .expiresIn
  scope := a .scope
  refreshToken := a .refreshToken
  idToken := a .idToken
  issuedTokenType := a .issuedTokenType
  extra := extra

/-- A parameter as `extra` holds it. -/
def getExtra (r : TokenResponse) (name : String) : Option Any := r.extra.bind fun extra => extra.lookup name

@[simp] theorem get_ofRecord (a : (f : Field) → Value f) (extra : Option (Dict String Any)) (f : Field) :
    (ofRecord a extra).get f = a f := by
  cases f <;> rfl

variable {r : TokenResponse} {f g : Field}

theorem set_get : r.set f (r.get f) = r := by cases f <;> rfl

@[simp] theorem get_set (v : Value f) : (r.set f v).get f = v := by cases f <;> rfl

theorem get_set_ne (v : Value f) (h : g ≠ f) : (r.set f v).get g = r.get g := by
  cases f <;> cases g <;> first | rfl | exact absurd rfl h

@[simp] theorem extra_set (v : Value f) : (r.set f v).extra = r.extra := by cases f <;> rfl

theorem eq_of_get {s : TokenResponse} (hget : ∀ f, r.get f = s.get f) (hextra : r.extra = s.extra) :
    r = s := by
  obtain ⟨a, b, c, d, e, f, g, x⟩ := r
  obtain ⟨a', b', c', d', e', f', g', x'⟩ := s
  obtain rfl : a = a' := hget .accessToken
  obtain rfl : b = b' := hget .tokenType
  obtain rfl : c = c' := hget .expiresIn
  obtain rfl : d = d' := hget .scope
  obtain rfl : e = e' := hget .refreshToken
  obtain rfl : f = f' := hget .idToken
  obtain rfl : g = g' := hget .issuedTokenType
  obtain rfl : x = x' := hextra
  rfl

end TokenResponse

/-- The map `strFields`. -/
def strFields : List Field := [.accessToken, .tokenType, .scope, .refreshToken, .idToken, .issuedTokenType]

/-- What is not of the package, with the order in which `range` visits `strFields`. -/
structure Runtime extends GoExtras.Runtime where
  fmt : FlexibleSeconds.Go.Fmt
  fields : List Field
  fieldsPerm : fields.Perm strFields

/-- A `null` leaves the field as it is. -/
def decodeString : Json → Except String (Option String)
  | .str s => .ok (some s)
  | .null => .ok none
  | j => .error (typeError (kind j) "string")

def decode (rt : Runtime) : (f : Field) → Json → Except String (Option (Value f))
  | .expiresIn, j => (FlexibleSeconds.Go.flexibleInt64 rt.fmt j).map some
  | .accessToken, j => decodeString j
  | .tokenType, j => decodeString j
  | .scope, j => decodeString j
  | .refreshToken, j => decodeString j
  | .idToken, j => decodeString j
  | .issuedTokenType, j => decodeString j

/-- One turn of the loop over the fields. -/
def decodeField (rt : Runtime) (raw : Dict String Json) (r : TokenResponse) (f : Field) :
    Except String TokenResponse :=
  match raw.lookup f.name with
  | none => .ok r
  | some j =>
      match decode rt f j with
      | .error e => .error ("decode " ++ f.name ++ ": " ++ e)
      | .ok none => .ok r
      | .ok (some v) => .ok (r.set f v)

/-- The loop over `strFields`, and `expires_in` behind it. -/
def decodeFields (rt : Runtime) (raw : Dict String Json) : List Field → TokenResponse → Except String TokenResponse
  | [], r => decodeField rt raw r .expiresIn
  | f :: fs, r => (decodeField rt raw r f).bind (decodeFields rt raw fs)

/-- What is made of the map: the fields, and `extra` of what is left. -/
def decodeMap (rt : Runtime) (raw : Dict String Json) : Except String TokenResponse :=
  match decodeFields rt raw rt.fields {} with
  | .error e => .error e
  | .ok r => (GoExtras.decodeRest rt.toRuntime known raw).map fun extra => { r with extra }

/-- `TokenResponse.UnmarshalJSON`. -/
def unmarshalJSON (rt : Runtime) (data : Json) : Except String TokenResponse :=
  if GoKeySet.maxNestingDepth < data.depth then .error "exceeded max depth" else
  match unmarshalMap data with
  | .error e => .error e
  | .ok raw => decodeMap rt (raw.getD ∅)

/-- The error of a request: what went wrong, and the status if there is one. -/
structure RequestError where
  op : String
  statusCode : ℕ := 0
  err : String
  deriving DecidableEq, Repr

/-- The end of `doTokenRequest`, for a success. -/
def tokenAnswer (rt : Runtime) (status : ℕ) (body : Json) : Except RequestError TokenResponse :=
  match unmarshalJSON rt body with
  | .error e => .error ⟨"decode token response", status, e⟩
  | .ok tr => if tr.accessToken = "" then .error ⟨"token response", status, "missing access_token"⟩ else .ok tr

/-- The end of each grant; that of `TokenExchange` asks for two more parameters. -/
def answer (rt : Runtime) (status : ℕ) (grant : Grant) (body : Json) : Except RequestError TokenResponse :=
  match grant with
  | .plain => tokenAnswer rt status body
  | .exchange => do
      let resp ← tokenAnswer rt status body
      if resp.tokenType = "" then .error ⟨"token exchange response", 0, "missing token_type"⟩
      else if resp.issuedTokenType = "" then
        .error ⟨"token exchange response", 0, "missing issued_token_type"⟩
      else .ok resp

end Go

namespace Rust

open Combinators.Rust (IdentityError)
open RustClaims (FloatReader SerdeValue)

/-- The type of a field. -/
abbrev Value : Field → Type
  | .accessToken | .tokenType => String
  | .expiresIn => Int64
  | .scope | .refreshToken | .idToken | .issuedTokenType => Option String

/-- `Default::default`. -/
def zero : (f : Field) → Value f
  | .accessToken | .tokenType => ""
  | .expiresIn => 0
  | .scope | .refreshToken | .idToken | .issuedTokenType => none

/-- How the error of a value of another type names it. -/
structure Fmt extends FlexibleSeconds.Rust.Fmt where
  invalidType : Json → String → String
  /-- The error for a body that is no value of `serde_json`, or no object. -/
  unreadable : Json → String

def readString (fmt : Fmt) : Json → Except String String
  | .str s => .ok s
  | j => .error (fmt.invalidType j "a string")

def readOption (fmt : Fmt) : Json → Except String (Option String)
  | .null => .ok none
  | j => (readString fmt j).map some

def read (fmt : Fmt) (float : Number → ℚ) : (f : Field) → Json → Except String (Value f)
  | .accessToken, j => readString fmt j
  | .tokenType, j => readString fmt j
  | .expiresIn, j => FlexibleSeconds.Rust.deserializeFlexibleExpiresIn fmt.toFmt float j
  | .scope, j => readOption fmt j
  | .refreshToken, j => readOption fmt j
  | .idToken, j => readOption fmt j
  | .issuedTokenType, j => readOption fmt j

/-- What is derived for `TokenResponse`: every field but one has a default. -/
def shape (fmt : Fmt) (float : Number → ℚ) : SerdeShape Field where
  fields := Field.all
  name := Field.name
  Value := Value
  read := read fmt float
  zero := zero
  required f := f = .accessToken

theorem shape_lawful (fmt : Fmt) (float : Number → ℚ) : (shape fmt float).Lawful :=
  ⟨Field.mem_all, Field.name_injective⟩

/-- `TokenResponse`. -/
structure TokenResponse where
  accessToken : String
  tokenType : String
  expiresIn : Int64
  scope : Option String
  refreshToken : Option String
  idToken : Option String
  issuedTokenType : Option String
  extra : Dict String Json

namespace TokenResponse

def get (r : TokenResponse) : (f : Field) → Value f
  | .accessToken => r.accessToken
  | .tokenType => r.tokenType
  | .expiresIn => r.expiresIn
  | .scope => r.scope
  | .refreshToken => r.refreshToken
  | .idToken => r.idToken
  | .issuedTokenType => r.issuedTokenType

def ofRecord (a : (f : Field) → Value f) (extra : Dict String Json) : TokenResponse where
  accessToken := a .accessToken
  tokenType := a .tokenType
  expiresIn := a .expiresIn
  scope := a .scope
  refreshToken := a .refreshToken
  idToken := a .idToken
  issuedTokenType := a .issuedTokenType
  extra := extra

theorem get_ofRecord (a : (f : Field) → Value f) (extra : Dict String Json) (f : Field) :
    (ofRecord a extra).get f = a f := by
  cases f <;> rfl

/-- A parameter as `extra` holds it. -/
def getExtra (float : Number → ℚ) (r : TokenResponse) (name : String) : Option SerdeValue :=
  (r.extra.lookup name).map (SerdeValue.ofJson float)

end TokenResponse

/-- `serde_json::from_slice`. -/
def fromSlice (fmt : Fmt) (reader : FloatReader) (body : Json) : Except String TokenResponse :=
  if reader.Readable body then
    match body with
    | .obj ms =>
        ((shape fmt reader.float).fill ms).map fun a => .ofRecord a ((shape fmt reader.float).rest ms)
    | _ => .error (fmt.unreadable body)
  else .error (fmt.unreadable body)

/-- The end of `do_request`, for a success. -/
def tokenAnswer (fmt : Fmt) (reader : FloatReader) (endpoint : String) (body : Json) :
    Except IdentityError TokenResponse :=
  match fromSlice fmt reader body with
  | .error e => .error (.deserialization ("parse token response from " ++ endpoint ++ ": " ++ e))
  | .ok token =>
      if token.accessToken = "" then
        .error (.http ("token response from " ++ endpoint ++ " is missing access_token"))
      else .ok token

/-- The end of each grant; that of `token_exchange` asks for two more parameters. -/
def answer (fmt : Fmt) (reader : FloatReader) (endpoint : String) (grant : Grant) (body : Json) :
    Except IdentityError TokenResponse :=
  match grant with
  | .plain => tokenAnswer fmt reader endpoint body
  | .exchange => do
      let token ← tokenAnswer fmt reader endpoint body
      if token.tokenType = "" then
        .error (.http ("token exchange response from " ++ endpoint ++ " is missing token_type"))
      else if ¬(token.issuedTokenType.any fun t => t ≠ "") then
        .error (.http ("token exchange response from " ++ endpoint ++ " is missing issued_token_type"))
      else .ok token

end Rust

end IdentityModel.TokenResponses
