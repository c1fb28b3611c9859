import IdentityModel.Url

/-!
# URL-encoded forms as Python reads and writes them

`unquote`, `parse_qsl`, `quote_plus` and `urlencode` of `urllib.parse` in Python 3.13, over the
UTF-8 decoder that puts U+FFFD in the place of what it cannot read. Bytes are numbers.
-/
namespace IdentityModel.Forms

open Url

/-- A character whose first bytes have been read: how many are missing, the range of the next one,
and the bits so far. -/
structure Begun where
  missing : ℕ
  low : ℕ
  high : ℕ
  bits : ℕ

/-- U+FFFD. -/
def replacement : Char := Char.ofNat 0xFFFD

/-- The first byte of a character: what it gives at once, and what it begins. -/
def lead (b : ℕ) : List Char × Option Begun :=
  if b < 0x80 then ([Char.ofNat b], none)
  else if b < 0xC2 then ([replacement], none)
  else if b < 0xE0 then ([], some ⟨1, 0x80, 0xBF, b - 0xC0⟩)
  else if b = 0xE0 then ([], some ⟨2, 0xA0, 0xBF, 0⟩)
  else if b = 0xED then ([], some ⟨2, 0x80, 0x9F, 0xD⟩)
  else if b < 0xF0 then ([], some ⟨2, 0x80, 0xBF, b - 0xE0⟩)
  else if b = 0xF0 then ([], some ⟨3, 0x90, 0xBF, 0⟩)
  else if b < 0xF4 then ([], some ⟨3, 0x80, 0xBF, b - 0xF0⟩)
  else if b = 0xF4 then ([], some ⟨3, 0x80, 0x8F, 4⟩)
  else ([replacement], none)

/-- One byte more. One that does not belong here ends the character before it and starts anew. -/
def feed : Option Begun → ℕ → List Char × Option Begun
  | none, b => lead b
  | some s, b =>
      if s.low ≤ b ∧ b ≤ s.high then
        let bits := 64 * s.bits + (b - 0x80)
        if s.missing = 1 then ([Char.ofNat bits], none)
        else ([], some ⟨s.missing - 1, 0x80, 0xBF, bits⟩)
      else (replacement :: (lead b).1, (lead b).2)

def decodeFrom : Option Begun → List ℕ → List Char
  | none, [] => []
  | some _, [] => [replacement]
  | s, b :: bs => (feed s b).1 ++ decodeFrom (feed s b).2 bs

/-- `bytes.decode("utf-8", "replace")`. -/
def decodeUtf8 (bytes : List ℕ) : List Char := decodeFrom none bytes

/-- `str.encode("utf-8")`. -/
def encodeUtf8 (s : List Char) : List ℕ :=
  s.flatMap fun c => (String.utf8EncodeChar c).map UInt8.toNat

/-- `unquote_to_bytes` of an ASCII string. -/
def unquoteToBytes : List Char → List ℕ
  | '%' :: a :: b :: rest =>
      match hexDigit a, hexDigit b with
      | some x, some y => (16 * x + y) :: unquoteToBytes rest
      | _, _ => 0x25 :: unquoteToBytes (a :: b :: rest)
  | c :: rest => c.toNat :: unquoteToBytes rest
  | [] => []

/-- `unquote`: runs of ASCII are decoded, other characters stay. -/
def unquote (s : List Char) : List Char :=
  if '%' ∉ s then s
  else
    (s.splitBy fun a b => isAscii a == isAscii b).flatMap fun run =>
      if run.all isAscii then decodeUtf8 (unquoteToBytes run) else run

/-- A name or a value of a form. -/
def unquotePlus (s : List Char) : String :=
  String.ofList (unquote (s.map fun c => if c = '+' then ' ' else c))

/-- `parse_qsl` with `keep_blank_values`. -/
def parseQsl (qs : List Char) : List (String × String) :=
  ((splitAll '&' qs).filter fun field => field ≠ []).map fun field =>
    let r := partition '=' field
    (unquotePlus r.1, unquotePlus (r.2.getD []))

def isAlwaysSafe (b : ℕ) : Bool :=
  let c := Char.ofNat b
  isAsciiAlpha c || isDigit c || c = '_' || c = '.' || c = '-' || c = '~'

def hexUpper (n : ℕ) : Char := Char.ofNat (if n < 10 then 48 + n else 55 + n)

def quoteByte (b : ℕ) : List Char :=
  if isAlwaysSafe b then [Char.ofNat b]
  else if b = 0x20 then ['+']
  else ['%', hexUpper (b / 16), hexUpper (b % 16)]

/-- `quote_plus`. -/
def quotePlus (s : String) : List Char := (encodeUtf8 s.toList).flatMap quoteByte

/-- `urlencode`. -/
def urlencode (fields : List (String × String)) : String :=
  "&".intercalate (fields.map fun f => String.ofList (quotePlus f.1 ++ '=' :: quotePlus f.2))

example : parseQsl "a=%E2%82%AC+x&b&=&c=%C3%28%ff".toList =
    [("a", "€ x"), ("b", ""), ("", ""), ("c", "�(�")] := by decide +kernel

example : parseQsl (urlencode [("a b", "ü&="), ("", "~")]).toList = [("a b", "ü&="), ("", "~")] := by
  decide +kernel

end IdentityModel.Forms
