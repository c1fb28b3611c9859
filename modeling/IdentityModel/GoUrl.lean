import IdentityModel.Percent

/-!
# URLs in Go

`Parse` and `URL.String` of `net/url`, as far as scheme, host and path are concerned, and
`normalizeHTU` of `go/pkg/dpop`. A string of characters is a list of them, and what escapes
decode to is a list of bytes. Which texts in brackets are addresses is up to `net/netip`;
the texts of the errors of `net/url` are left out.
-/
namespace IdentityModel.GoUrl

open Url Percent

/-- What a text is a part of. -/
inductive Encoding
  | path | userPassword | host | zone | fragment
  deriving DecidableEq, Repr

def shouldEscape (b : ℕ) (mode : Encoding) : Bool :=
  let c := Char.ofNat b
  if isAsciiAlpha c || isDigit c then false
  else if (mode = .host || mode = .zone) &&
      c ∈ ['!', '$', '&', '\'', '(', ')', '*', '+', ',', ';', '=', ':', '[', ']', '<', '>', '"'] then
    false
  else if c ∈ ['-', '_', '.', '~'] then false
  else if c ∈ ['$', '&', '+', ',', '/', ':', ';', '=', '?', '@'] then
    match mode with
    | .path => c = '?'
    | .userPassword => c = '@' || c = '/' || c = '?' || c = ':'
    | .fragment => false
    | .host | .zone => true
  else if mode = .fragment && c ∈ ['!', '(', ')', '*'] then false
  else true

/-- The errors of `Parse`. -/
inductive UrlError
  | controlCharacter | missingScheme | colonInFirstSegment | invalidUserinfo | invalidLiteral
  | missingBracket | invalidPort | invalidEscape | invalidHost | invalidAddress
  deriving DecidableEq, Repr

/-- An escape that a part of a URL does not admit. -/
def refusedEscape (mode : Encoding) (value : ℕ) : Bool :=
  (mode = .host && value < 128 && value ≠ 37) ||
    (mode = .zone && value ≠ 37 && value ≠ 32 && shouldEscape value .host)

/-- A character that a part of a URL does not admit. -/
def refusedChar (mode : Encoding) (c : Char) : Bool :=
  (mode = .host || mode = .zone) && isAscii c && shouldEscape c.toNat mode

def unescape (mode : Encoding) : List Char → Except UrlError (List ℕ)
  | '%' :: a :: b :: rest =>
      match hexDigit a, hexDigit b with
      | some x, some y =>
          if refusedEscape mode (16 * x + y) then .error .invalidEscape
          else (unescape mode rest).map fun bytes => (16 * x + y) :: bytes
      | _, _ => .error .invalidEscape
  | c :: rest =>
      if c = '%' then .error .invalidEscape
      else if refusedChar mode c then .error .invalidHost
      else (unescape mode rest).map fun bytes => utf8 c ++ bytes
  | [] => .ok []

def escape (mode : Encoding) (bytes : List ℕ) : List Char :=
  bytes.flatMap fun b => if shouldEscape b mode then escapeByte b else [Char.ofNat b]

/-- What stands before and after the last occurrence of a character. -/
def cutLast (c : Char) : List Char → Option (List Char × List Char)
  | [] => none
  | x :: xs =>
      match cutLast c xs with
      | some r => some (x :: r.1, r.2)
      | none => if x = c then some ([], xs) else none

def validOptionalPort : List Char → Bool
  | [] => true
  | c :: digits => c = ':' && digits.all isDigit

def validUserinfo (s : List Char) : Bool :=
  s.all fun c => isAsciiAlpha c || isDigit c ||
    c ∈ ['-', '.', '_', ':', '~', '!', '$', '&', '\'', '(', ')', '*', '+', ',', ';', '=', '%', '@']

/-- The text before the first `%25`, and the text from there. -/
def cutZone : List Char → List Char × List Char
  | [] => ([], [])
  | c :: rest =>
      if ['%', '2', '5'].isPrefixOf (c :: rest) then ([], c :: rest)
      else
        let r := cutZone rest
        (c :: r.1, r.2)

def unescapeLiteral (hostname : List Char) : Except UrlError (List ℕ) := do
  let r := cutZone hostname
  let name ← unescape .host r.1
  let zone ← unescape .zone r.2
  return name ++ zone

/-- The colon and what follows it: the first one for HTTP, where there may be no other. -/
def colonPort (scheme host : List Char) : List Char :=
  if scheme = ['h', 't', 't', 'p'] ∨ scheme = ['h', 't', 't', 'p', 's'] then
    match (partition ':' host).2 with
    | some port => ':' :: port
    | none => []
  else
    match cutLast ':' host with
    | some r => ':' :: r.2
    | none => []

def parseHost (ipv6 : List ℕ → Bool) (scheme host : List Char) : Except UrlError (List ℕ) :=
  if '[' ∈ host.drop 1 then .error .invalidLiteral
  else if host.head? = some '[' then
    match cutLast ']' (host.drop 1) with
    | none => .error .missingBracket
    | some (hostname, port) =>
        if validOptionalPort port then do
          let port ← unescape .host port
          let name ← unescapeLiteral hostname
          if ipv6 name then return [91] ++ name ++ [93] ++ port
          else throw .invalidAddress
        else .error .invalidPort
  else if validOptionalPort (colonPort scheme host) then unescape .host host
  else .error .invalidPort

def parseAuthority (ipv6 : List ℕ → Bool) (scheme authority : List Char) :
    Except UrlError (List ℕ) :=
  match cutLast '@' authority with
  | none => parseHost ipv6 scheme authority
  | some (userinfo, host) => do
      let host ← parseHost ipv6 scheme host
      if validUserinfo userinfo then
        let r := partition ':' userinfo
        let _ ← unescape .userPassword r.1
        let _ ← unescape .userPassword (r.2.getD [])
        return host
      else throw .invalidUserinfo

structure URL where
  scheme : List Char := []
  host : List ℕ := []
  path : List ℕ := []
  deriving DecidableEq, Repr

def containsCTL (s : List Char) : Bool := s.any fun c => c.toNat < 32 || c.toNat = 127

def isSchemeChar (c : Char) : Bool :=
  isAsciiAlpha c || isDigit c || c = '+' || c = '-' || c = '.'

def getScheme (rawURL : List Char) : Except UrlError (List Char × List Char) :=
  let scheme := rawURL.takeWhile isSchemeChar
  match rawURL.dropWhile isSchemeChar with
  | ':' :: rest =>
      if scheme = [] then .error .missingScheme
      else if scheme.head?.any isAsciiAlpha then .ok (scheme, rest)
      else .ok ([], rawURL)
  | _ => .ok ([], rawURL)

/-- What follows the scheme, without the query. -/
def parseRest (ipv6 : List ℕ → Bool) (scheme rest : List Char) : Except UrlError URL :=
  match rest with
  | '/' :: '/' :: t =>
      if scheme = [] ∧ t.head? = some '/' then do
        let path ← unescape .path rest
        return { path := path }
      else do
        let host ← parseAuthority ipv6 scheme (t.takeWhile (· ≠ '/'))
        let path ← unescape .path (t.dropWhile (· ≠ '/'))
        return ⟨scheme, host, path⟩
  | '/' :: _ => do
      let path ← unescape .path rest
      return { scheme := scheme, path := path }
  | _ =>
      if scheme ≠ [] then .ok { scheme := scheme }
      else if ':' ∈ (partition '/' rest).1 then .error .colonInFirstSegment
      else do
        let path ← unescape .path rest
        return { path := path }

/-- `Parse`. A URL with an opaque part has neither host nor path. -/
def parse (ipv6 : List ℕ → Bool) (rawURL : List Char) : Except UrlError URL := do
  let r := partition '#' rawURL
  let url ← parseBare r.1
  let _ ← unescape .fragment (r.2.getD [])
  return url
where
  parseBare (rawURL : List Char) : Except UrlError URL :=
    if containsCTL rawURL then .error .controlCharacter
    else if rawURL = ['*'] then .ok { path := [42] }
    else do
      let r ← getScheme rawURL
      parseRest ipv6 (r.1.map asciiLower) (partition '?' r.2).1

def URL.escapedPath (u : URL) : List Char := if u.path = [42] then ['*'] else escape .path u.path

/-- `String` of a URL with a scheme, a host and a path only. -/
def URL.string (u : URL) : List Char :=
  let start := if u.scheme = [] then [] else u.scheme ++ [':']
  let slashes :=
    if (u.scheme ≠ [] ∨ u.host ≠ []) ∧ (u.host ≠ [] ∨ u.path ≠ []) then ['/', '/'] else []
  let path := u.escapedPath
  let slash := if path ≠ [] ∧ path.head? ≠ some '/' ∧ u.host ≠ [] then ['/'] else []
  let buf := start ++ slashes ++ escape .host u.host ++ slash
  let dot := if buf = [] ∧ ':' ∈ (partition '/' path).1 then ['.', '/'] else []
  buf ++ dot ++ path

end IdentityModel.GoUrl

namespace IdentityModel.GoDpop

open GoUrl

/-- The causes of a `KeyError` of `normalizeHTU`. -/
inductive HtuError
  | url (e : UrlError)
  /-- Without scheme or host. -/
  | relative (uri : String)
  deriving DecidableEq, Repr

structure KeyError where
  op : String
  err : HtuError
  deriving DecidableEq, Repr

def normalizeHTU (ipv6 : List ℕ → Bool) (uri : String) : Except KeyError String :=
  match parse ipv6 uri.toList with
  | .error e => .error ⟨"parse request URI", .url e⟩
  | .ok u =>
      if u.scheme = [] ∨ u.host = [] then .error ⟨"parse request URI", .relative uri⟩
      else .ok (String.ofList (URL.string { scheme := u.scheme, host := u.host, path := u.path }))

example : normalizeHTU (fun _ => true) "HTTPS://u:p@Host:443/a b%2Fc!?q#f" =
    .ok "https://Host:443/a%20b/c%21" := by decide +kernel

end IdentityModel.GoDpop
