import Mathlib.Tactic

/-!
# Padded Base64

The standard alphabet: three octets make four characters, and where one or two are left over the
four are filled up with equals signs. A text is read only as it is written: the padding is complete,
and bits that make no octet are zero.
-/
namespace IdentityModel.Base64.Padded

def alphabet : List Char :=
  "ABCDEFGHIJKLMNOPQRSTUVWXYZabcdefghijklmnopqrstuvwxyz0123456789+/".toList

/-- The character of a group of six bits. -/
def symbol (n : ℕ) : Char := alphabet.getD n 'A'

/-- The six bits of a character. -/
def bits? (c : Char) : Option ℕ := if c ∈ alphabet then some (alphabet.idxOf c) else none

def encode : List UInt8 → List Char
  | a :: b :: c :: rest =>
      let n := 65536 * a.toNat + 256 * b.toNat + c.toNat
      symbol (n / 262144) :: symbol (n / 4096 % 64) :: symbol (n / 64 % 64) :: symbol (n % 64) ::
        encode rest
  | [a, b] =>
      let n := 65536 * a.toNat + 256 * b.toNat
      [symbol (n / 262144), symbol (n / 4096 % 64), symbol (n / 64 % 64), '=']
  | [a] =>
      let n := 65536 * a.toNat
      [symbol (n / 262144), symbol (n / 4096 % 64), '=', '=']
  | [] => []

/-- The octet of two characters. -/
def one? (a b : Char) : Option (List UInt8) :=
  match bits? a, bits? b with
  | some x, some y => if y % 16 = 0 then some [UInt8.ofNat (4 * x + y / 16)] else none
  | _, _ => none

/-- The two octets of three characters. -/
def two? (a b c : Char) : Option (List UInt8) :=
  match bits? a, bits? b, bits? c with
  | some x, some y, some z =>
      if z % 4 = 0 then
        some [UInt8.ofNat (4 * x + y / 16), UInt8.ofNat (y % 16 * 16 + z / 4)]
      else none
  | _, _, _ => none

/-- The three octets of four characters. -/
def three? (a b c d : Char) : Option (List UInt8) :=
  match bits? a, bits? b, bits? c, bits? d with
  | some x, some y, some z, some w =>
      some [UInt8.ofNat (4 * x + y / 16), UInt8.ofNat (y % 16 * 16 + z / 4),
        UInt8.ofNat (z % 4 * 64 + w)]
  | _, _, _, _ => none

def decode? : List Char → Option (List UInt8)
  | [] => some []
  | a :: b :: c :: d :: rest =>
      if rest = [] ∧ d = '=' then if c = '=' then one? a b else two? a b c
      else
        match three? a b c d, decode? rest with
        | some octets, some others => some (octets ++ others)
        | _, _ => none
  | _ => none

section Symbols

variable {n : ℕ}

theorem bits?_symbol (hn : n < 64) : bits? (symbol n) = some n := by
  have hall : ((List.range 64).all fun k => bits? (symbol k) = some k) = true := by decide
  exact of_decide_eq_true (List.all_eq_true.mp hall n (List.mem_range.mpr hn))

theorem symbol_ne_pad (n : ℕ) : symbol n ≠ '=' := by
  have halphabet : (alphabet.all fun c => c ≠ '=') = true := by decide
  unfold symbol
  rw [List.getD_eq_getElem?_getD]
  cases hc : alphabet[n]? with
  | none => decide
  | some c => exact of_decide_eq_true (List.all_eq_true.mp halphabet c (List.mem_of_getElem? hc))

theorem symbol_mem (n : ℕ) : symbol n ∈ alphabet := by
  unfold symbol
  rw [List.getD_eq_getElem?_getD]
  cases hc : alphabet[n]? with
  | none => decide
  | some c => exact List.mem_of_getElem? hc

end Symbols

section RoundTrip

variable {a b c : UInt8} {n : ℕ}

theorem one?_symbol (hn : n = 65536 * a.toNat) :
    one? (symbol (n / 262144)) (symbol (n / 4096 % 64)) = some [a] := by
  have ha := a.toNat_lt
  unfold one?
  rw [bits?_symbol (by omega), bits?_symbol (by omega)]
  dsimp only
  rw [if_pos (by omega), show 4 * (n / 262144) + n / 4096 % 64 / 16 = a.toNat by omega,
    UInt8.ofNat_toNat]

theorem two?_symbol (hn : n = 65536 * a.toNat + 256 * b.toNat) :
    two? (symbol (n / 262144)) (symbol (n / 4096 % 64)) (symbol (n / 64 % 64)) = some [a, b] := by
  have ha := a.toNat_lt
  have hb := b.toNat_lt
  unfold two?
  rw [bits?_symbol (by omega), bits?_symbol (by omega), bits?_symbol (by omega)]
  dsimp only
  rw [if_pos (by omega), show 4 * (n / 262144) + n / 4096 % 64 / 16 = a.toNat by omega,
    show n / 4096 % 64 % 16 * 16 + n / 64 % 64 / 4 = b.toNat by omega, UInt8.ofNat_toNat,
    UInt8.ofNat_toNat]

theorem three?_symbol (hn : n = 65536 * a.toNat + 256 * b.toNat + c.toNat) :
    three? (symbol (n / 262144)) (symbol (n / 4096 % 64)) (symbol (n / 64 % 64)) (symbol (n % 64)) =
      some [a, b, c] := by
  have ha := a.toNat_lt
  have hb := b.toNat_lt
  have hc := c.toNat_lt
  unfold three?
  rw [bits?_symbol (by omega), bits?_symbol (by omega), bits?_symbol (by omega),
    bits?_symbol (by omega)]
  dsimp only
  rw [show 4 * (n / 262144) + n / 4096 % 64 / 16 = a.toNat by omega,
    show n / 4096 % 64 % 16 * 16 + n / 64 % 64 / 4 = b.toNat by omega,
    show n / 64 % 64 % 4 * 64 + n % 64 = c.toNat by omega, UInt8.ofNat_toNat, UInt8.ofNat_toNat,
    UInt8.ofNat_toNat]

end RoundTrip

theorem decode?_encode (octets : List UInt8) : decode? (encode octets) = some octets := by
  fun_induction encode octets with
  | case1 a b c rest n ih =>
      rw [decode?, if_neg fun h => symbol_ne_pad _ h.2, three?_symbol rfl, ih]
      rfl
  | case2 a b n =>
      rw [decode?, if_pos ⟨rfl, rfl⟩, if_neg (symbol_ne_pad _)]
      exact two?_symbol rfl
  | case3 a n =>
      rw [decode?, if_pos ⟨rfl, rfl⟩, if_pos rfl]
      exact one?_symbol rfl
  | case4 => rfl

/-- Only the alphabet and the padding are written. -/
theorem mem_encode (octets : List UInt8) : ∀ c ∈ encode octets, c ∈ '=' :: alphabet := by
  have hsymbol (n : ℕ) : symbol n ∈ '=' :: alphabet := List.mem_cons_of_mem _ (symbol_mem n)
  fun_induction encode octets with
  | case1 a b c rest n ih =>
      intro d hd
      simp only [List.mem_cons] at hd
      obtain rfl | rfl | rfl | rfl | hd := hd
      · exact hsymbol _
      · exact hsymbol _
      · exact hsymbol _
      · exact hsymbol _
      · exact ih d hd
  | case2 a b n =>
      intro d hd
      simp only [List.mem_cons, List.not_mem_nil, or_false] at hd
      obtain rfl | rfl | rfl | rfl := hd
      · exact hsymbol _
      · exact hsymbol _
      · exact hsymbol _
      · exact List.mem_cons_self
  | case3 a n =>
      intro d hd
      simp only [List.mem_cons, List.not_mem_nil, or_false] at hd
      obtain rfl | rfl | rfl | rfl := hd
      · exact hsymbol _
      · exact hsymbol _
      · exact List.mem_cons_self
      · exact List.mem_cons_self
  | case4 => simp

example : encode [0x69, 0x64, 0x20, 0xFF] = ['a', 'W', 'Q', 'g', '/', 'w', '=', '='] := by decide

end IdentityModel.Base64.Padded
