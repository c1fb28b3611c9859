import Mathlib.Algebra.Group.Nat.Defs
import Mathlib.Data.List.Basic
import Mathlib.Data.Nat.Basic

/-!
# URLs and IP addresses as Python reads them

`urllib.parse.urlparse` and the `ipaddress` module of Python 3.13, as far as
scheme, authority, host, query and fragment are concerned. Strings are lists of
characters. The case and normalisation tables of Unicode and the C library's
`inet_aton` belong to the platform.
-/
namespace IdentityModel.Url

/-- `str.lower`, NFKC and `inet_aton`. -/
structure Platform where
  lower : List Char → List Char
  nfkc : List Char → List Char
  inetAton : List Char → Option ℕ

instance lawfulBEq_text : LawfulBEq (List Char) := inferInstance

/-- `str.partition` at one character: before it, and after it if it occurs. -/
def partition (c : Char) : List Char → List Char × Option (List Char)
  | [] => ([], none)
  | x :: xs =>
      if x = c then ([], some xs)
      else
        let r := partition c xs
        (x :: r.1, r.2)

/-- What follows the last occurrence of a character, or everything. -/
def afterLast (c : Char) : List Char → List Char
  | [] => []
  | x :: xs => if c ∈ xs then afterLast c xs else if x = c then xs else x :: xs

/-- `str.split` at one character. -/
def splitAll (c : Char) : List Char → List (List Char)
  | [] => [[]]
  | x :: xs =>
      match splitAll c xs with
      | [] => [[x]]
      | p :: ps => if x = c then [] :: p :: ps else (x :: p) :: ps

def isAscii (c : Char) : Bool := c.toNat < 128

def isDigit (c : Char) : Bool := '0' ≤ c && c ≤ '9'

def isAsciiAlpha (c : Char) : Bool := ('a' ≤ c && c ≤ 'z') || ('A' ≤ c && c ≤ 'Z')

def asciiLower (c : Char) : Char := if 'A' ≤ c ∧ c ≤ 'Z' then Char.ofNat (c.toNat + 32) else c

def hexDigit (c : Char) : Option ℕ :=
  if isDigit c then some (c.toNat - 48)
  else if 'a' ≤ c && c ≤ 'f' then some (c.toNat - 87)
  else if 'A' ≤ c && c ≤ 'F' then some (c.toNat - 55)
  else none

inductive Ip
  | v4 (value : ℕ)
  | v6 (value : ℕ)
  deriving DecidableEq, Repr

def octet (s : List Char) : Option ℕ :=
  let value := s.foldl (fun n c => 10 * n + (c.toNat - 48)) 0
  if s ≠ [] && s.all isDigit && s.length ≤ 3 && (s = ['0'] || s.head? ≠ some '0') && value ≤ 255
  then some value else none

/-- `IPv4Address`. -/
def ipv4 (s : List Char) : Option ℕ :=
  match (splitAll '.' s).mapM octet with
  | some [a, b, c, d] => some (((a * 256 + b) * 256 + c) * 256 + d)
  | _ => none

def hextet (s : List Char) : Option ℕ :=
  if s = [] ∨ 4 < s.length then none
  else (s.mapM hexDigit).map fun ds => ds.foldl (fun n d => 16 * n + d) 0

def hextets (parts : List (List Char)) : Option ℕ :=
  (parts.mapM hextet).map fun hs => hs.foldl (fun n h => 65536 * n + h) 0

/-- The parts of an address, a dotted quad at its end made into two. -/
def ipv6Parts (s : List Char) : Option (List (List Char)) :=
  let parts := splitAll ':' s
  match parts.getLast? with
  | none => none
  | some last =>
      if parts.length < 3 then none
      else if '.' ∈ last then
        (ipv4 last).map fun value =>
          parts.dropLast ++ [Nat.toDigits 16 (value / 65536), Nat.toDigits 16 (value % 65536)]
      else some parts

/-- The value of the parts: the empty ones inside stand for a run of zeros, which an
empty part at either end may only extend. -/
def ipv6Value (parts : List (List Char)) : Option ℕ :=
  if 9 < parts.length then none
  else
    match (parts.drop 1).dropLast.findIdx? fun p => p = [] with
    | none => if parts.length = 8 then hextets parts else none
    | some i =>
        let hi := parts.take (i + 1)
        let lo := parts.drop (i + 2)
        if [] ∈ lo.dropLast then none
        else
          let hi' := if hi.head? = some [] then hi.drop 1 else hi
          let lo' := if lo.getLast? = some [] then lo.dropLast else lo
          if (hi.head? = some [] && hi' ≠ []) || (lo.getLast? = some [] && lo' ≠ []) then none
          else if 8 ≤ hi'.length + lo'.length then none
          else
            match hextets hi', hextets lo' with
            | some h, some l => some (h * 65536 ^ (8 - hi'.length) + l)
            | _, _ => none

/-- `IPv6Address`; a scope is allowed and ignored. -/
def ipv6 (s : List Char) : Option ℕ :=
  let r := partition '%' s
  if r.2.any fun scope => scope = [] || '%' ∈ scope then none
  else if 45 < r.1.length then none
  else (ipv6Parts r.1).bind ipv6Value

/-- `ipaddress.ip_address`. -/
def ipAddress (s : List Char) : Option Ip :=
  if '/' ∈ s then none
  else
    match ipv4 s with
    | some value => some (.v4 value)
    | none => (ipv6 s).map .v6

/-- An address lies in the network of a prefix length. -/
def inNetwork (bits value : ℕ) (network : ℕ × ℕ) : Bool :=
  value / 2 ^ (bits - network.2) = network.1 / 2 ^ (bits - network.2)

def quad (a b c d : ℕ) : ℕ := ((a * 256 + b) * 256 + c) * 256 + d

/-- A 128-bit value from its leading hextets. -/
def leading (hs : List ℕ) : ℕ := hs.foldl (fun n h => 65536 * n + h) 0 * 65536 ^ (8 - hs.length)

def private4 : List (ℕ × ℕ) :=
  [(quad 0 0 0 0, 8), (quad 10 0 0 0, 8), (quad 127 0 0 0, 8), (quad 169 254 0 0, 16),
    (quad 172 16 0 0, 12), (quad 192 0 0 0, 24), (quad 192 0 0 170, 31), (quad 192 0 2 0, 24),
    (quad 192 168 0 0, 16), (quad 198 18 0 0, 15), (quad 198 51 100 0, 24), (quad 203 0 113 0, 24),
    (quad 240 0 0 0, 4), (quad 255 255 255 255, 32)]

def private4Exceptions : List (ℕ × ℕ) := [(quad 192 0 0 9, 32), (quad 192 0 0 10, 32)]

def private6 : List (ℕ × ℕ) :=
  [(1, 128), (0, 128), (leading [0, 0, 0, 0, 0, 0xffff], 96), (leading [0x64, 0xff9b, 1], 48),
    (leading [0x100], 64), (leading [0x2001], 23), (leading [0x2001, 0xdb8], 32),
    (leading [0x2002], 16), (leading [0x3fff], 20), (leading [0xfc00], 7), (leading [0xfe80], 10)]

def private6Exceptions : List (ℕ × ℕ) :=
  [(leading [0x2001, 1, 0, 0, 0, 0, 0, 1], 128), (leading [0x2001, 1, 0, 0, 0, 0, 0, 2], 128),
    (leading [0x2001, 3], 32), (leading [0x2001, 4, 0x112], 48), (leading [0x2001, 0x20], 28),
    (leading [0x2001, 0x30], 28)]

def reserved6 : List (ℕ × ℕ) :=
  [(0, 8), (leading [0x100], 8), (leading [0x200], 7), (leading [0x400], 6), (leading [0x800], 5),
    (leading [0x1000], 4), (leading [0x4000], 3), (leading [0x6000], 3), (leading [0x8000], 3),
    (leading [0xa000], 3), (leading [0xc000], 3), (leading [0xe000], 4), (leading [0xf000], 5),
    (leading [0xf800], 6), (leading [0xfe00], 9)]

/-- An IPv4-mapped address is judged by the IPv4 address. -/
def Ip.unmapped : Ip → Ip
  | .v4 value => .v4 value
  | .v6 value => if value / 2 ^ 32 = 0xffff then .v4 (value % 2 ^ 32) else .v6 value

/-- `is_loopback`. -/
def Ip.isLoopback (ip : Ip) : Bool :=
  match ip.unmapped with
  | .v4 value => inNetwork 32 value (quad 127 0 0 0, 8)
  | .v6 value => value = 1

/-- `is_private`, `is_loopback`, `is_link_local`, `is_reserved`, `is_multicast` or
`is_unspecified`. -/
def Ip.isInternal (ip : Ip) : Bool :=
  ip.isLoopback ||
    match ip.unmapped with
    | .v4 value =>
        (private4.any (inNetwork 32 value) && !private4Exceptions.any (inNetwork 32 value)) ||
          [(quad 169 254 0 0, 16), (quad 240 0 0 0, 4), (quad 224 0 0 0, 4)].any
            (inNetwork 32 value) || value = 0
    | .v6 value =>
        (private6.any (inNetwork 128 value) && !private6Exceptions.any (inNetwork 128 value)) ||
          inNetwork 128 value (leading [0xfe80], 10) || reserved6.any (inNetwork 128 value) ||
          inNetwork 128 value (leading [0xff00], 8) || value = 0

/-- The parts of a URL. -/
structure Split where
  scheme : List Char
  netloc : List Char
  path : List Char
  query : List Char
  fragment : List Char
  deriving DecidableEq, Repr

def isSchemeChar (c : Char) : Bool :=
  isAsciiAlpha c || isDigit c || c = '+' || c = '-' || c = '.'

/-- The scheme before the first colon, lowered, and the rest. -/
def splitScheme (url : List Char) : List Char × List Char :=
  match partition ':' url with
  | (s, some rest) =>
      if url.head?.any isAsciiAlpha && s.all isSchemeChar then (s.map asciiLower, rest)
      else ([], url)
  | (_, none) => ([], url)

/-- The authority after `//`, up to the path, query or fragment. -/
def splitNetloc (url : List Char) : List Char × List Char :=
  match url with
  | '/' :: '/' :: rest => rest.span fun c => c ≠ '/' && c ≠ '?' && c ≠ '#'
  | _ => ([], url)

/-- `v`, hexadecimal digits, a dot and something after it. -/
def isIpvFuture (host : List Char) : Bool :=
  let digits := (host.drop 1).takeWhile fun c => (hexDigit c).isSome
  let rest := (host.drop 1).dropWhile fun c => (hexDigit c).isSome
  digits ≠ [] && rest.head? = some '.' && 1 < rest.length && '\n' ∉ rest

/-- The host and what follows it in an authority. -/
def hostAndPort (netloc : List Char) : List Char × List Char × Option (List Char) :=
  match partition '[' (afterLast '@' netloc) with
  | (before, some bracketed) =>
      let r := partition ']' bracketed
      (before, r.1, r.2)
  | (all, none) => ([], (partition ':' all).1, none)

/-- `_check_bracketed_netloc`, where the authority has both brackets. -/
def checkBracketedNetloc (netloc : List Char) : Option String :=
  let r := hostAndPort netloc
  if r.1 ≠ [] then some "Invalid IPv6 URL"
  else if r.2.2.any fun port => port ≠ [] && port.head? ≠ some ':' then some "Invalid IPv6 URL"
  else if r.2.1.head? = some 'v' then
    if isIpvFuture r.2.1 then none else some "IPvFuture address is invalid"
  else
    match ipAddress r.2.1 with
    | some (.v6 _) => none
    | some (.v4 _) => some "An IPv4 address cannot be in brackets"
    | none =>
        some ("'" ++ String.ofList r.2.1 ++ "' does not appear to be an IPv4 or IPv6 address")

/-- `_checknetloc`: no character that normalises to a delimiter. -/
def checkNetloc (p : Platform) (netloc : List Char) : Option String :=
  if netloc.all isAscii then none
  else
    let n := netloc.filter fun c => c ≠ '@' && c ≠ ':' && c ≠ '#' && c ≠ '?'
    if p.nfkc n = n then none
    else if ['/', '?', '#', '@', ':'].any fun c => c ∈ p.nfkc n then
      some ("netloc '" ++ String.ofList netloc ++
        "' contains invalid characters under NFKC normalization")
    else none

/-- The brackets of an authority are matched and hold an address. -/
def checkBrackets (netloc : List Char) : Option String :=
  if '[' ∈ netloc ∧ ']' ∈ netloc then checkBracketedNetloc netloc
  else if '[' ∈ netloc ∨ ']' ∈ netloc then some "Invalid IPv6 URL"
  else none

/-- `urlparse`; the error is the text of its `ValueError`. -/
def urlparse (p : Platform) (url : String) : Except String Split :=
  let cleaned := (url.toList.dropWhile fun c => c.toNat ≤ 32).filter fun c =>
    c ≠ '\t' && c ≠ '\r' && c ≠ '\n'
  let s := splitScheme cleaned
  let n := splitNetloc s.2
  match checkBrackets n.1 with
  | some e => .error e
  | none =>
      let f := partition '#' n.2
      let q := partition '?' f.1
      match checkNetloc p n.1 with
      | some e => .error e
      | none => .ok ⟨s.1, n.1, q.1, q.2.getD [], f.2.getD []⟩

/-- `hostname`: lowered, a zone kept as it is. -/
def Split.hostname (p : Platform) (s : Split) : List Char :=
  let r := partition '%' (hostAndPort s.netloc).2.1
  p.lower r.1 ++
    match r.2 with
    | some zone => '%' :: zone
    | none => []

/-- A platform that knows ASCII only. -/
def asciiPlatform : Platform where
  lower s := s.map asciiLower
  nfkc s := s
  inetAton _ := none

example : (urlparse asciiPlatform "HTTP://User@[::1]:80/a?b#c").toOption =
    some ⟨"http".toList, "User@[::1]:80".toList, "/a".toList, "b".toList, "c".toList⟩ := by
  decide +kernel

end IdentityModel.Url
