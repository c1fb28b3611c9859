import IdentityModel.Base64
import IdentityModel.Binary64
import IdentityModel.ClaimsScopes
import IdentityModel.PyDiscovery
import IdentityModel.RustClaims

/-!
# The ID token profile in Python, Go and Rust

`validate_id_token_claims` of `core/id_token_logic.py`, `ValidateClaims` of
`go/pkg/idtoken/idtoken.go` and `validate_id_token_claims` of
`rust/src/jwt/id_token.rs`, each over the claims of a decoded payload. The claims
of Python and Go are a map; those of Rust are what `Claims::from_json` makes of
it. The SHA-2 functions are a parameter. Times are whole seconds where a language
counts in them, durations and instants of Go are nanoseconds.
-/
namespace IdentityModel.IdTokens

inductive Sha
  | sha256 | sha384 | sha512
  deriving DecidableEq, Repr

abbrev Digest := Sha → List UInt8 → List UInt8

abbrev ClaimMap := Dict String Json

/-- The octets of a text in UTF-8, which are its ASCII octets where it is ASCII. -/
def octets (s : String) : List UInt8 := s.toUTF8.toList

/-- The left half of a digest in base64url. -/
def leftHalf (digest : List UInt8) : String :=
  String.ofList (Base64.encodeUrl (digest.take (digest.length / 2)))

def hasSuffix (s suffix : String) : Bool := suffix.toList.isSuffixOf s.toList

/-- The hash of an algorithm without surrounding space: fixed for the EdDSA family,
else by its trailing size. -/
def shaFor (alg : String) : Option Sha :=
  if alg = "EdDSA" ∨ alg = "Ed25519" then some .sha512
  else if hasSuffix alg "256" then some .sha256
  else if hasSuffix alg "384" then some .sha384
  else if hasSuffix alg "512" then some .sha512
  else none

/-- An array of more than one element. -/
def isMultiple : Option Json → Bool
  | some (.arr elems) => 1 < elems.length
  | _ => false

def isAscii (s : String) : Bool := s.toList.all fun c => c.toNat < 128

namespace Py

open IdentityModel.Py (isTruthy)

/-- `IdTokenValidationException`. -/
structure IdTokenError where
  message : String
  tokenPart : String
  deriving DecidableEq, Repr

/-- A number: an `int` or a `float`. -/
inductive Num
  | int (i : ℤ)
  | float (f : Float64)

namespace Num

/-- The number a literal is read as. -/
def ofLiteral (n : Number) : Num :=
  if n.fraction = [] ∧ n.exponent = none then .int ⌊n.value⌋ else .float (Float64.ofRat n.value)

def toFloat : Num → Float64
  | .int i => Float64.ofRat i
  | .float f => f

def sub : Num → Num → Num
  | .int a, .int b => .int (a - b)
  | a, b => .float (Float64.sub a.toFloat b.toFloat)

def add : Num → Num → Num
  | .int a, .int b => .int (a + b)
  | a, b => .float (Float64.add a.toFloat b.toFloat)

/-- The value in comparisons, which are exact between the two types. -/
def exact : Num → Float64
  | .int i => .finite i
  | .float f => f

def gt (a b : Num) : Bool := Float64.lt b.exact a.exact

end Num

/-- The truth of what `dict.get` returns. -/
def truthy (value : Option Json) : Bool := value.any isTruthy

structure Options where
  clientId : Option String := none
  nonce : Option String := none
  accessToken : Option String := none
  code : Option String := none
  maxAge : Option ℤ := none
  leeway : Num := .float (.finite 0)
  now : Num

/-- `str.strip`. -/
def strip (s : String) : String :=
  String.ofList (((s.toList.dropWhile Scopes.Py.isSpace).reverse.dropWhile
    Scopes.Py.isSpace).reverse)

/-- `_hash_for_alg`; `repr` is what `!r` prints. -/
def hashForAlg (repr : String → String) (alg : Option String) : Except IdTokenError Sha :=
  match alg with
  | none => .error ⟨"ID token header 'alg' is required to validate at_hash/c_hash", "header"⟩
  | some alg =>
      if alg = "" then
        .error ⟨"ID token header 'alg' is required to validate at_hash/c_hash", "header"⟩
      else
        match shaFor (strip alg) with
        | some sha => .ok sha
        | none =>
            .error ⟨"Unsupported ID token 'alg' " ++ repr alg ++ " for at_hash/c_hash validation",
              "header"⟩

/-- `_left_half_hash`. -/
def leftHalfHash (digest : Digest) (repr : String → String) (value : String)
    (alg : Option String) (field : String) : Except IdTokenError String :=
  match hashForAlg repr alg with
  | .error e => .error e
  | .ok sha =>
      if isAscii value then .ok (leftHalf (digest sha (octets value)))
      else .error ⟨"ID token " ++ field ++ " must be ASCII to compute its at_hash/c_hash", "payload"⟩

/-- `_hashes_equal`. -/
def hashesEqual (actual expected field : String) : Except IdTokenError Bool :=
  if isAscii actual && isAscii expected then .ok (actual = expected)
  else .error ⟨"ID token " ++ field ++ " comparison requires ASCII values", "payload"⟩

/-- A string claim that has to be the expected one. -/
def checkBinding (claims : ClaimMap) (name expected mismatch : String) : Except IdTokenError Unit :=
  match claims.lookup name with
  | some (.str actual) =>
      match hashesEqual actual expected ("'" ++ name ++ "'") with
      | .error e => .error e
      | .ok true => .ok ()
      | .ok false => .error ⟨mismatch, "payload"⟩
  | _ => .error ⟨mismatch, "payload"⟩

def checkSub (claims : ClaimMap) : Except IdTokenError Unit :=
  if truthy (claims.lookup "sub") then .ok ()
  else .error ⟨"ID token missing required 'sub' claim", "payload"⟩

/-- `azp is not None and client_id is not None and azp != client_id`. -/
def azpDiffers (azp : Option Json) (clientId : Option String) : Bool :=
  match azp, clientId with
  | none, _ => false
  | some .null, _ => false
  | _, none => false
  | some (.str azp), some clientId => azp ≠ clientId
  | some _, some _ => true

def checkAzp (claims : ClaimMap) (clientId : Option String) : Except IdTokenError Unit :=
  if isMultiple (claims.lookup "aud") && !truthy (claims.lookup "azp") then
    .error ⟨"ID token with multiple audiences must contain an 'azp' claim", "payload"⟩
  else if azpDiffers (claims.lookup "azp") clientId then
    .error ⟨"ID token 'azp' claim does not match the configured client_id", "payload"⟩
  else .ok ()

def checkNonce (claims : ClaimMap) : Option String → Except IdTokenError Unit
  | none => .ok ()
  | some nonce =>
      checkBinding claims "nonce" nonce "ID token 'nonce' claim does not match the expected value"

def checkAuthTime (claims : ClaimMap) (opts : Options) : Except IdTokenError Unit :=
  match opts.maxAge with
  | none => .ok ()
  | some maxAge =>
      match claims.lookup "auth_time" with
      | some (.num n) =>
          if (opts.now.sub (.ofLiteral n)).gt ((Num.int maxAge).add opts.leeway) then
            .error ⟨"ID token 'auth_time' is older than the permitted max_age", "payload"⟩
          else .ok ()
      | _ =>
          .error ⟨"ID token missing required numeric 'auth_time' claim for max_age check", "payload"⟩

/-- A claim that has to be the hash of an input. -/
def checkHash (digest : Digest) (repr : String → String) (claims : ClaimMap) (alg : Option String)
    (name field mismatch : String) : Option String → Except IdTokenError Unit
  | none => .ok ()
  | some value =>
      match leftHalfHash digest repr value alg field with
      | .error e => .error e
      | .ok expected => checkBinding claims name expected mismatch

def checkAtHash (digest : Digest) (repr : String → String) (claims : ClaimMap)
    (alg : Option String) : Option String → Except IdTokenError Unit :=
  checkHash digest repr claims alg "at_hash" "access_token"
    "ID token 'at_hash' claim does not match the access token"

def checkCHash (digest : Digest) (repr : String → String) (claims : ClaimMap)
    (alg : Option String) : Option String → Except IdTokenError Unit :=
  checkHash digest repr claims alg "c_hash" "code"
    "ID token 'c_hash' claim does not match the authorization code"

def validateIdTokenClaims (digest : Digest) (repr : String → String) (claims : ClaimMap)
    (headerAlg : Option String) (opts : Options) : Except IdTokenError Unit := do
  checkSub claims
  checkAzp claims opts.clientId
  checkNonce claims opts.nonce
  checkAuthTime claims opts
  checkAtHash digest repr claims headerAlg opts.accessToken
  checkCHash digest repr claims headerAlg opts.code

end Py

namespace Go

/-- `ProfileError`. -/
structure ProfileError where
  reason : String
  message : String
  deriving DecidableEq, Repr

/-- `config`, as far as the profile reads it; an option that was not set is `none`,
a client id that was not set is empty. -/
structure Config where
  clientID : String := ""
  nonce : Option String := none
  accessToken : Option String := none
  code : Option String := none
  maxAge : Option ℤ := none
  leeway : ℤ := 0
  now : ℤ

def textOf : Option Json → String
  | some (.str s) => s
  | _ => ""

def isNil : Option Json → Bool
  | some .null => true
  | _ => false

def checkSub (claims : ClaimMap) : Except ProfileError Unit :=
  if textOf (claims.lookup "sub") = "" then
    .error ⟨"missing_sub", "ID token is missing the required non-empty 'sub' claim"⟩
  else .ok ()

def validateAZP (claims : ClaimMap) (clientID : String) : Except ProfileError Unit :=
  let audMultiElement := isMultiple (claims.lookup "aud")
  let azpRaw := claims.lookup "azp"
  let azpStr := textOf azpRaw
  let azpFalsy := azpRaw.isNone || isNil azpRaw || azpStr == ""
  if audMultiElement && azpFalsy then
    .error ⟨"azp_required_multi_aud",
      "ID token with multiple audiences must contain an 'azp' claim"⟩
  else if azpRaw.isSome && !isNil azpRaw && clientID != "" && azpStr != clientID then
    .error ⟨"azp_mismatch", "ID token 'azp' claim does not match the configured client_id"⟩
  else .ok ()

/-- A string claim that has to be the expected one. -/
def checkBinding (claims : ClaimMap) (name expected reason message : String) :
    Except ProfileError Unit :=
  match claims.lookup name with
  | some (.str actual) => if actual = expected then .ok () else .error ⟨reason, message⟩
  | _ => .error ⟨reason, message⟩

def checkNonce (claims : ClaimMap) : Option String → Except ProfileError Unit
  | none => .ok ()
  | some nonce =>
      checkBinding claims "nonce" nonce "nonce_mismatch"
        "ID token 'nonce' claim does not match the expected value"

/-- `Time.UnixNano`, which wraps at 64 bits. -/
def unixNano (now : ℤ) : ℤ := now.bmod (2 ^ 64)

/-- The clock in float seconds. -/
def nowSec (now : ℤ) : Float64 := (Float64.ofRat (unixNano now)).div 1000000000

/-- `Duration.Seconds`. -/
def durationSeconds (d : ℤ) : Float64 :=
  (Float64.ofRat (d.tdiv 1000000000)).add
    ((Float64.ofRat (d.tmod 1000000000)).div 1000000000)

def validateAuthTime (claims : ClaimMap) (cfg : Config) (maxAge : ℤ) : Except ProfileError Unit :=
  match claims.lookup "auth_time" with
  | some (.num n) =>
      let authTime := Float64.ofRat n.value
      if ((durationSeconds maxAge).add (durationSeconds cfg.leeway)).lt
          ((nowSec cfg.now).sub authTime) then
        .error ⟨"auth_time_stale", "ID token 'auth_time' is older than the permitted max_age"⟩
      else .ok ()
  | _ =>
      .error ⟨"auth_time_missing",
        "ID token is missing the required numeric 'auth_time' claim for the max_age check"⟩

def checkAuthTime (claims : ClaimMap) (cfg : Config) : Except ProfileError Unit :=
  match cfg.maxAge with
  | none => .ok ()
  | some maxAge => validateAuthTime claims cfg maxAge

/-- `leftHalfHash`. -/
def leftHalfHash (digest : Digest) (fmt : GoClaims.Fmt) (value alg : String) :
    Except ProfileError String :=
  let a := GoJwks.trimSpace alg
  if a = "" then
    .error ⟨"alg_required", "ID token header 'alg' is required to validate at_hash/c_hash"⟩
  else
    match shaFor a with
    | some sha => .ok (leftHalf (digest sha (octets value)))
    | none =>
        .error ⟨"unsupported_alg",
          "unsupported ID token 'alg' " ++ fmt.quote alg ++ " for at_hash/c_hash validation"⟩

/-- A claim that has to be the hash of an input. -/
def checkHash (digest : Digest) (fmt : GoClaims.Fmt) (claims : ClaimMap) (alg : String)
    (name reason message : String) : Option String → Except ProfileError Unit
  | none => .ok ()
  | some value =>
      match leftHalfHash digest fmt value alg with
      | .error e => .error e
      | .ok expected => checkBinding claims name expected reason message

def checkAtHash (digest : Digest) (fmt : GoClaims.Fmt) (claims : ClaimMap) (alg : String) :
    Option String → Except ProfileError Unit :=
  checkHash digest fmt claims alg "at_hash" "at_hash_mismatch"
    "ID token 'at_hash' claim does not match the access token"

def checkCHash (digest : Digest) (fmt : GoClaims.Fmt) (claims : ClaimMap) (alg : String) :
    Option String → Except ProfileError Unit :=
  checkHash digest fmt claims alg "c_hash" "c_hash_mismatch"
    "ID token 'c_hash' claim does not match the authorization code"

/-- `validateProfile`, which `ValidateClaims` calls. -/
def validateProfile (digest : Digest) (fmt : GoClaims.Fmt) (claims : ClaimMap) (headerAlg : String)
    (cfg : Config) : Except ProfileError Unit := do
  checkSub claims
  validateAZP claims cfg.clientID
  checkNonce claims cfg.nonce
  checkAuthTime claims cfg
  checkAtHash digest fmt claims headerAlg cfg.accessToken
  checkCHash digest fmt claims headerAlg cfg.code

end Go

namespace Rust

open Combinators.Rust (IdentityError)
open RustClaims (Claims Library saturate)

/-- `IdTokenValidationOptions`, with the clock resolved; the leeway in nanoseconds. -/
structure Options where
  clientId : Option String := none
  nonce : Option String := none
  accessToken : Option String := none
  code : Option String := none
  maxAge : Option ℤ := none
  leeway : ℕ := 0
  now : ℤ

def checkSub (claims : Claims) : Except IdentityError Unit :=
  if claims.subject.getD "" = "" then
    .error (.idTokenValidation "ID token missing required 'sub' claim")
  else .ok ()

def azpDiffers (azp clientId : Option String) : Bool :=
  match azp, clientId with
  | some azp, some clientId => azp ≠ clientId
  | _, _ => false

def checkAzp (claims : Claims) (clientId : Option String) : Except IdentityError Unit :=
  let azpPresent := claims.authorizedParty.any fun value => value != ""
  if 1 < claims.audience.length ∧ ¬ azpPresent then
    .error (.idTokenValidation "ID token with multiple audiences must contain an 'azp' claim")
  else if azpDiffers claims.authorizedParty clientId then
    .error (.idTokenValidation "ID token 'azp' claim does not match the configured client_id")
  else .ok ()

/-- A string that has to be the expected one. -/
def checkBinding (actual : Option String) (expected message : String) : Except IdentityError Unit :=
  if actual = some expected then .ok () else .error (.idTokenValidation message)

def checkNonce (claims : Claims) : Option String → Except IdentityError Unit
  | none => .ok ()
  | some expected =>
      checkBinding claims.nonce expected "ID token 'nonce' claim does not match the expected value"

/-- `numeric_seconds`. -/
def numericSeconds (lib : Library) : Json → Option ℤ
  | .num n =>
      match lib.asI64 n with
      | some i => some i
      | none => (lib.asF64 n).map fun f => saturate (Float64.truncate f)
  | _ => none

def checkAuthTime (lib : Library) (claims : Claims) (options : Options) :
    Except IdentityError Unit :=
  match options.maxAge with
  | none => .ok ()
  | some maxAge =>
      match (claims.get "auth_time").bind (numericSeconds lib) with
      | none =>
          .error (.idTokenValidation
            "ID token missing required numeric 'auth_time' claim for max_age check")
      | some authTime =>
          let leeway := saturate (options.leeway / 1000000000 : ℕ)
          if saturate (maxAge + leeway) < saturate (options.now - authTime) then
            .error (.idTokenValidation "ID token 'auth_time' is older than the permitted max_age")
          else .ok ()

/-- `digest_for_alg`. -/
def digestForAlg (digest : Digest) (lib : Library) (bytes : List UInt8) (alg : Option String) :
    Except IdentityError (List UInt8) :=
  let alg := GoJwks.trimSpace (alg.getD "")
  if alg = "" then
    .error (.idTokenValidation "ID token header 'alg' is required to validate at_hash/c_hash")
  else
    match shaFor alg with
    | some sha => .ok (digest sha bytes)
    | none =>
        .error (.idTokenValidation ("Unsupported ID token 'alg' " ++ lib.debug alg ++
          " for at_hash/c_hash validation"))

/-- `left_half_hash`. -/
def leftHalfHash (digest : Digest) (lib : Library) (value : String) (alg : Option String) :
    Except IdentityError String :=
  (digestForAlg digest lib (octets value) alg).map leftHalf

/-- A claim that has to be the hash of an input. -/
def checkHash (digest : Digest) (lib : Library) (claims : Claims) (alg : Option String)
    (name message : String) : Option String → Except IdentityError Unit
  | none => .ok ()
  | some value =>
      match leftHalfHash digest lib value alg with
      | .error e => .error e
      | .ok expected => checkBinding (claims.getStr name) expected message

def checkAtHash (digest : Digest) (lib : Library) (claims : Claims) (alg : Option String) :
    Option String → Except IdentityError Unit :=
  checkHash digest lib claims alg "at_hash" "ID token 'at_hash' claim does not match the access token"

def checkCHash (digest : Digest) (lib : Library) (claims : Claims) (alg : Option String) :
    Option String → Except IdentityError Unit :=
  checkHash digest lib claims alg "c_hash"
    "ID token 'c_hash' claim does not match the authorization code"

def validateIdTokenClaims (digest : Digest) (lib : Library) (claims : Claims)
    (headerAlg : Option String) (options : Options) : Except IdentityError Unit := do
  checkSub claims
  checkAzp claims options.clientId
  checkNonce claims options.nonce
  checkAuthTime lib claims options
  checkAtHash digest lib claims headerAlg options.accessToken
  checkCHash digest lib claims headerAlg options.code

end Rust

end IdentityModel.IdTokens
