import Mathlib.Tactic

/-!
# Base64 for URLs

The unpadded encoding of octets with the alphabet for URLs and file names: three
octets make four characters, one or two octets left over make two or three.
-/
namespace IdentityModel.Base64

def alphabet : List Char :=
  "ABCDEFGHIJKLMNOPQRSTUVWXYZabcdefghijklmnopqrstuvwxyz0123456789-_".toList

/-- The character of a group of six bits. -/
def symbol (n : ℕ) : Char := alphabet.getD n 'A'

def encodeUrl : List UInt8 → List Char
  | a :: b :: c :: rest =>
      let n := 65536 * a.toNat + 256 * b.toNat + c.toNat
      symbol (n / 262144) :: symbol (n / 4096 % 64) :: symbol (n / 64 % 64) :: symbol (n % 64) ::
        encodeUrl rest
  | [a, b] =>
      let n := 65536 * a.toNat + 256 * b.toNat
      [symbol (n / 262144), symbol (n / 4096 % 64), symbol (n / 64 % 64)]
  | [a] =>
      let n := 65536 * a.toNat
      [symbol (n / 262144), symbol (n / 4096 % 64)]
  | [] => []

theorem encodeUrl_ne_nil {octets : List UInt8} (h : octets ≠ []) : encodeUrl octets ≠ [] := by
  fun_cases encodeUrl octets with
  | case1 a b c rest n => exact List.cons_ne_nil _ _
  | case2 a b n => exact List.cons_ne_nil _ _
  | case3 a n => exact List.cons_ne_nil _ _
  | case4 => exact absurd rfl h

theorem symbol_ascii (n : ℕ) : (symbol n).toNat < 128 := by
  have halphabet : (alphabet.all fun c => c.toNat < 128) = true := by decide
  unfold symbol
  rw [List.getD_eq_getElem?_getD]
  cases hc : alphabet[n]? with
  | none => decide
  | some c => exact of_decide_eq_true (List.all_eq_true.mp halphabet c (List.mem_of_getElem? hc))

theorem encodeUrl_ascii (octets : List UInt8) : ∀ c ∈ encodeUrl octets, c.toNat < 128 := by
  fun_induction encodeUrl octets with
  | case1 a b c rest n ih =>
      intro d hd
      simp only [List.mem_cons] at hd
      obtain rfl | rfl | rfl | rfl | hd := hd
      · exact symbol_ascii _
      · exact symbol_ascii _
      · exact symbol_ascii _
      · exact symbol_ascii _
      · exact ih d hd
  | case2 a b n => simp [symbol_ascii]
  | case3 a n => simp [symbol_ascii]
  | case4 => simp

theorem length_encodeUrl (octets : List UInt8) :
    (encodeUrl octets).length = (4 * octets.length + 2) / 3 := by
  fun_induction encodeUrl octets with
  | case1 a b c rest n ih => simp only [List.length_cons, ih]; omega
  | case2 a b n => simp
  | case3 a n => simp
  | case4 => rfl

theorem symbol_mem_alphabet (n : ℕ) : symbol n ∈ alphabet := by
  unfold symbol
  rw [List.getD_eq_getElem?_getD]
  cases hc : alphabet[n]? with
  | none => decide
  | some c => exact List.mem_of_getElem? hc

theorem mem_alphabet_of_mem {octets : List UInt8} {c : Char} (h : c ∈ encodeUrl octets) :
    c ∈ alphabet := by
  induction octets using encodeUrl.induct with
  | case1 a b d rest ih =>
      simp only [encodeUrl, List.mem_cons] at h
      obtain rfl | rfl | rfl | rfl | h := h
      · exact symbol_mem_alphabet _
      · exact symbol_mem_alphabet _
      · exact symbol_mem_alphabet _
      · exact symbol_mem_alphabet _
      · exact ih h
  | case2 a b =>
      simp only [encodeUrl, List.mem_cons, List.not_mem_nil, or_false] at h
      obtain rfl | rfl | rfl := h <;> exact symbol_mem_alphabet _
  | case3 a =>
      simp only [encodeUrl, List.mem_cons, List.not_mem_nil, or_false] at h
      obtain rfl | rfl := h <;> exact symbol_mem_alphabet _
  | case4 => cases h

/-- The six bits of a character. -/
def bits (c : Char) : ℕ := alphabet.idxOf c

theorem bits_symbol {n : ℕ} (hn : n < 64) : bits (symbol n) = n := by
  have hnodup : alphabet.Nodup := by decide
  have hlength : n < alphabet.length := hn
  rw [bits, symbol, List.getD_eq_getElem?_getD, List.getElem?_eq_getElem hlength, Option.getD_some]
  exact hnodup.idxOf_getElem n hlength

/-- The octets that characters spell whole; bits left over are dropped. -/
def decodeWhole : List Char → List UInt8
  | c₁ :: c₂ :: c₃ :: c₄ :: rest =>
      let n := 262144 * bits c₁ + 4096 * bits c₂ + 64 * bits c₃ + bits c₄
      UInt8.ofNat (n / 65536) :: UInt8.ofNat (n / 256) :: UInt8.ofNat n :: decodeWhole rest
  | [c₁, c₂, c₃] =>
      let n := 262144 * bits c₁ + 4096 * bits c₂ + 64 * bits c₃
      [UInt8.ofNat (n / 65536), UInt8.ofNat (n / 256)]
  | [c₁, c₂] => [UInt8.ofNat ((262144 * bits c₁ + 4096 * bits c₂) / 65536)]
  | _ => []

/-- A number that is an octet modulo 256 reads as it. -/
theorem ofNat_eq_of_mod {n : ℕ} {a : UInt8} (h : n % 256 = a.toNat) : UInt8.ofNat n = a := by
  apply UInt8.toNat_inj.mp
  rw [UInt8.toNat_ofNat']
  exact h

/-- `n` characters of an encoding spell the octets that fit into their bits. -/
theorem decodeWhole_take {octets : List UInt8} {n : ℕ} (hn : n ≤ (encodeUrl octets).length) :
    decodeWhole ((encodeUrl octets).take n) = octets.take (3 * n / 4) := by
  induction octets using encodeUrl.induct generalizing n with
  | case1 a b c rest ih =>
      have ha := a.toNat_lt
      have hb := b.toNat_lt
      have hc := c.toNat_lt
      simp only [encodeUrl] at hn ⊢
      obtain rfl | rfl | rfl | rfl | ⟨m, rfl⟩ : n = 0 ∨ n = 1 ∨ n = 2 ∨ n = 3 ∨ ∃ m, n = m + 4 := by
        by_cases hsmall : n < 4
        · omega
        · exact .inr (.inr (.inr (.inr ⟨n - 4, by omega⟩)))
      · rfl
      · rfl
      · simp only [List.take_succ_cons, List.take_zero, decodeWhole]
        rw [bits_symbol (by omega), bits_symbol (by omega), ofNat_eq_of_mod (a := a) (by omega)]
      · simp only [List.take_succ_cons, List.take_zero, decodeWhole]
        rw [bits_symbol (by omega), bits_symbol (by omega), bits_symbol (by omega),
          ofNat_eq_of_mod (a := a) (by omega), ofNat_eq_of_mod (a := b) (by omega)]
      · simp only [List.length_cons] at hn
        simp only [List.take_succ_cons, decodeWhole]
        rw [bits_symbol (by omega), bits_symbol (by omega), bits_symbol (by omega),
          bits_symbol (by omega), ofNat_eq_of_mod (a := a) (by omega), ofNat_eq_of_mod (a := b) (by omega),
          ofNat_eq_of_mod (a := c) (by omega), ih (by omega),
          show 3 * (m + 4) / 4 = 3 * m / 4 + 3 by omega]
        rfl
  | case2 a b =>
      have ha := a.toNat_lt
      have hb := b.toNat_lt
      simp only [encodeUrl, List.length_cons, List.length_nil] at hn ⊢
      obtain rfl | rfl | rfl | rfl : n = 0 ∨ n = 1 ∨ n = 2 ∨ n = 3 := by omega
      · rfl
      · rfl
      · simp only [List.take_succ_cons, List.take_zero, decodeWhole]
        rw [bits_symbol (by omega), bits_symbol (by omega), ofNat_eq_of_mod (a := a) (by omega)]
      · simp only [List.take_succ_cons, List.take_zero, decodeWhole]
        rw [bits_symbol (by omega), bits_symbol (by omega), bits_symbol (by omega),
          ofNat_eq_of_mod (a := a) (by omega), ofNat_eq_of_mod (a := b) (by omega)]
  | case3 a =>
      have ha := a.toNat_lt
      simp only [encodeUrl, List.length_cons, List.length_nil] at hn ⊢
      obtain rfl | rfl | rfl : n = 0 ∨ n = 1 ∨ n = 2 := by omega
      · rfl
      · rfl
      · simp only [List.take_succ_cons, List.take_zero, decodeWhole]
        rw [bits_symbol (by omega), bits_symbol (by omega), ofNat_eq_of_mod (a := a) (by omega)]
  | case4 => simp [encodeUrl, decodeWhole]

example : encodeUrl [0x69, 0x64, 0x20, 0xFF] = ['a', 'W', 'Q', 'g', '_', 'w'] := by decide

end IdentityModel.Base64
