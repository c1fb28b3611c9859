import Mathlib.Data.List.Chain
import Mathlib.Tactic

/-!
# Strings in JSON texts

A text is a list of code points, surrogates included. A string is written with ASCII only: what else
it holds becomes escapes of 16-bit units, a code point beyond them a high and a low one. The reader
takes a high unit and a low one right after it for one code point, so it does not tell such a code
point from two surrogates.
-/
namespace IdentityModel.JsonText

abbrev CodePoint := Fin 0x110000

instance neZero_codePoints : NeZero (0x110000 : ℕ) := ⟨Nat.succ_ne_zero 0x10ffff⟩

abbrev Text := List CodePoint

/-- The code point of a character. -/
def code (c : Char) : CodePoint :=
  ⟨c.toNat, by
    have := c.valid
    simp only [UInt32.isValidChar, Nat.isValidChar] at this
    change c.val.toNat < 0x110000
    omega⟩

def text (s : String) : Text := s.toList.map code

theorem code_injective : Function.Injective code := by
  intro c d h
  have hval : (code c).val = (code d).val := by rw [h]
  exact Char.toNat_inj.mp hval

theorem text_injective : Function.Injective text := by
  intro s t h
  exact String.toList_inj.mp (code_injective.list_map h)

def isHigh (n : ℕ) : Bool := 0xd800 ≤ n && n ≤ 0xdbff

def isLow (n : ℕ) : Bool := 0xdc00 ≤ n && n ≤ 0xdfff

/-- No high surrogate stands right before a low one. -/
def Unpaired (t : Text) : Prop := t.IsChain fun c d => ¬(isHigh c = true ∧ isLow d = true)

instance (t : Text) : Decidable (Unpaired t) := inferInstanceAs (Decidable (List.IsChain _ _))

def hexDigit (n : ℕ) : CodePoint := Fin.ofNat 0x110000 (if n < 10 then 48 + n else 87 + n)

/-- `\uXXXX`. -/
def unitEscape (n : ℕ) : Text :=
  [code '\\', code 'u', hexDigit (n / 4096 % 16), hexDigit (n / 256 % 16), hexDigit (n / 16 % 16),
    hexDigit (n % 16)]

/-- The characters with an escape of their own. -/
def shortEscapes : List (CodePoint × CodePoint) :=
  [(code '"', code '"'), (code '\\', code '\\'), (code '\n', code 'n'), (code '\r', code 'r'),
    (code '\t', code 't'), (code '\x0c', code 'f'), (code '\x08', code 'b')]

def escapeChar (c : CodePoint) : Text :=
  match shortEscapes.lookup c with
  | some e => [code '\\', e]
  | none =>
      if 32 ≤ c.val ∧ c.val ≤ 126 then [c]
      else if c.val < 0x10000 then unitEscape c
      else unitEscape (0xd800 + (c.val - 0x10000) / 1024) ++ unitEscape (0xdc00 + (c.val - 0x10000) % 1024)

/-- A string with its quotes. -/
def dumpsString (t : Text) : Text := code '"' :: (t.flatMap escapeChar ++ [code '"'])

def hexValue (c : CodePoint) : Option ℕ :=
  if 48 ≤ c.val ∧ c.val ≤ 57 then some (c.val - 48)
  else if 97 ≤ c.val ∧ c.val ≤ 102 then some (c.val - 87)
  else if 65 ≤ c.val ∧ c.val ≤ 70 then some (c.val - 55)
  else none

/-- Four hexadecimal digits. -/
def hexUnit : Text → Option (ℕ × Text)
  | a :: b :: c :: d :: s => do
      let a ← hexValue a
      let b ← hexValue b
      let c ← hexValue c
      let d ← hexValue d
      return (((a * 16 + b) * 16 + c) * 16 + d, s)
  | _ => none

/-- The escape of a low surrogate. -/
def lowUnit : Text → Option (ℕ × Text)
  | b :: u :: s => if b = code '\\' ∧ u = code 'u' then (hexUnit s).filter fun r => isLow r.1 else none
  | _ => none

/-- The code point of a high surrogate and a low one. -/
def joinUnits (high low : ℕ) : CodePoint :=
  Fin.ofNat 0x110000 (0x10000 + (high - 0xd800) * 1024 + (low - 0xdc00))

/-- What the loop of the reader meets: the closing quote, or a character. -/
inductive Piece
  | close
  | char (c : CodePoint)
  deriving DecidableEq, Repr

/-- The digits of a `\u` escape, and after a high surrogate those of a low one. -/
def scanUnit (s : Text) : Option (Piece × Text) :=
  match hexUnit s with
  | none => none
  | some (n, s) =>
      match if isHigh n then lowUnit s else none with
      | some (m, s) => some (.char (joinUnits n m), s)
      | none => some (.char (Fin.ofNat 0x110000 n), s)

/-- What a letter after the backslash stands for. -/
def unescape (e : CodePoint) : Option CodePoint :=
  ((shortEscapes ++ [(code '/', code '/')]).find? fun p => p.2 = e).map Prod.fst

def scanEscape : Text → Option (Piece × Text)
  | [] => none
  | e :: s => if e = code 'u' then scanUnit s else (unescape e).map fun c => (.char c, s)

/-- One step of the reader; a control character ends it. -/
def scanPiece : Text → Option (Piece × Text)
  | [] => none
  | c :: s =>
      if c = code '"' then some (.close, s)
      else if c = code '\\' then scanEscape s
      else if c.val < 32 then none
      else some (.char c, s)

/-- The rest of a string after its opening quote. -/
def scanString : ℕ → Text → Option (Text × Text)
  | 0, _ => none
  | fuel + 1, s =>
      match scanPiece s with
      | none => none
      | some (.close, s) => some ([], s)
      | some (.char c, s) => (scanString fuel s).map fun r => (c :: r.1, r.2)

theorem hexValue_hexDigit {n : ℕ} (h : n < 16) : hexValue (hexDigit n) = some n := by
  interval_cases n <;> rfl

theorem hexUnit_digits {n : ℕ} (h : n < 0x10000) (s : Text) :
    hexUnit (hexDigit (n / 4096 % 16) :: hexDigit (n / 256 % 16) :: hexDigit (n / 16 % 16) ::
      hexDigit (n % 16) :: s) = some (n, s) := by
  have hlt (m : ℕ) : m % 16 < 16 := Nat.mod_lt m (by norm_num)
  have hvalue : ((n / 4096 % 16 * 16 + n / 256 % 16) * 16 + n / 16 % 16) * 16 + n % 16 = n := by omega
  simp only [hexUnit, hexValue_hexDigit (hlt _), Option.bind_eq_bind, Option.bind_some, hvalue]
  rfl

theorem lowUnit_unitEscape {n : ℕ} (h : n < 0x10000) (s : Text) :
    lowUnit (unitEscape n ++ s) = if isLow n then some (n, s) else none := by
  simp only [unitEscape, List.cons_append, List.nil_append, lowUnit, and_self, if_true, hexUnit_digits h]
  cases hlow : isLow n <;> simp [hlow]

/-- How a character is written: by a letter of its own, as it is, as a unit or as two of them. -/
theorem escapeChar_cases (c : CodePoint) :
    (∃ e, escapeChar c = [code '\\', e] ∧ e ≠ code 'u' ∧ unescape e = some c) ∨
    (escapeChar c = [c] ∧ 32 ≤ c.val ∧ c ≠ code '"' ∧ c ≠ code '\\') ∨
    (escapeChar c = unitEscape c ∧ c.val < 0x10000) ∨
    (escapeChar c = unitEscape (0xd800 + (c.val - 0x10000) / 1024) ++
      unitEscape (0xdc00 + (c.val - 0x10000) % 1024) ∧ 0x10000 ≤ c.val) := by
  have hall : (shortEscapes.all fun p => p.2 ≠ code 'u' ∧ unescape p.2 = some p.1) = true := by decide
  have hletters (p : CodePoint × CodePoint) (hp : p ∈ shortEscapes) :=
    of_decide_eq_true (List.all_eq_true.mp hall p hp)
  unfold escapeChar
  cases hlookup : shortEscapes.lookup c with
  | some e =>
      have hmem : (c, e) ∈ shortEscapes := by
        obtain ⟨before, after, heq, -⟩ := List.lookup_eq_some_iff.mp hlookup
        rw [heq]
        exact List.mem_append_right before List.mem_cons_self
      exact .inl ⟨e, rfl, hletters _ hmem⟩
  | none =>
      right
      by_cases hplain : 32 ≤ c.val ∧ c.val ≤ 126
      · have hquote : c ≠ code '"' := by
          rintro rfl
          cases hlookup
        have hslash : c ≠ code '\\' := by
          rintro rfl
          cases hlookup
        exact .inl ⟨if_pos hplain, hplain.1, hquote, hslash⟩
      · by_cases hsmall : c.val < 0x10000
        · exact .inr (.inl ⟨by simp only [if_neg hplain, if_pos hsmall], hsmall⟩)
        · exact .inr (.inr ⟨by simp only [if_neg hplain, if_neg hsmall], not_lt.mp hsmall⟩)

/-- What is written for a character does not start with the escape of a low surrogate, unless it is
one. -/
theorem lowUnit_escapeChar {c : CodePoint} (h : isLow c = false) (s : Text) :
    lowUnit (escapeChar c ++ s) = none := by
  obtain ⟨e, heq, hletter, -⟩ | ⟨heq, -, -, hslash⟩ | ⟨heq, hsmall⟩ | ⟨heq, hlarge⟩ := escapeChar_cases c
  · simp [heq, lowUnit, hletter]
  · rw [heq]
    cases s with
    | nil => rfl
    | cons u s => simp [lowUnit, hslash]
  · rw [heq, lowUnit_unitEscape hsmall, h]
    rfl
  · have hc := c.isLt
    have hhigh : isLow (0xd800 + (c.val - 0x10000) / 1024) = false := by
      simp only [isLow, Bool.and_eq_false_iff, decide_eq_false_iff_not]
      omega
    rw [heq, List.append_assoc, lowUnit_unitEscape (by omega), hhigh]
    rfl

theorem scanPiece_unitEscape (n : ℕ) (s : Text) :
    scanPiece (unitEscape n ++ s) = scanUnit ((unitEscape n).drop 2 ++ s) := by
  have hquote : code '\\' ≠ code '"' := by decide
  simp only [unitEscape, List.cons_append, List.nil_append, scanPiece, if_neg hquote, if_true, scanEscape,
    List.drop_succ_cons, List.drop_zero]

theorem hexUnit_unitEscape {n : ℕ} (h : n < 0x10000) (s : Text) :
    hexUnit ((unitEscape n).drop 2 ++ s) = some (n, s) := hexUnit_digits h s

/-- A character is read as it was written, if no pair comes about. -/
theorem scanPiece_escapeChar {c : CodePoint} {s : Text} (h : isHigh c = true → lowUnit s = none) :
    scanPiece (escapeChar c ++ s) = some (.char c, s) := by
  have hc := c.isLt
  obtain ⟨e, heq, hletter, hunescape⟩ | ⟨heq, hprint, hquote, hslash⟩ | ⟨heq, hsmall⟩ | ⟨heq, hlarge⟩ :=
    escapeChar_cases c
  · have hquote : code '\\' ≠ code '"' := by decide
    simp [heq, scanPiece, hquote, scanEscape, hletter, hunescape]
  · simp only [heq, List.cons_append, List.nil_append, scanPiece, if_neg hquote, if_neg hslash,
      if_neg (not_lt.mpr hprint)]
  · have hval : Fin.ofNat 0x110000 c.val = c := Fin.ofNat_val_eq_self c
    rw [heq, scanPiece_unitEscape, scanUnit, hexUnit_unitEscape hsmall]
    by_cases hhigh : isHigh c = true
    · simp only [if_pos hhigh, h hhigh, hval]
    · simp only [if_neg hhigh, hval]
  · obtain ⟨high, hhigh⟩ : ∃ high, high = 0xd800 + (c.val - 0x10000) / 1024 := ⟨_, rfl⟩
    obtain ⟨low, hlow⟩ : ∃ low, low = 0xdc00 + (c.val - 0x10000) % 1024 := ⟨_, rfl⟩
    have hisHigh : isHigh high = true := by
      simp only [isHigh, Bool.and_eq_true, decide_eq_true_eq]
      omega
    have hisLow : isLow low = true := by
      simp only [isLow, Bool.and_eq_true, decide_eq_true_eq]
      omega
    have hval : joinUnits high low = c := by
      apply Fin.ext
      rw [joinUnits, Fin.val_ofNat]
      omega
    have hsmall : low < 0x10000 := by omega
    rw [heq, ← hhigh, ← hlow, List.append_assoc, scanPiece_unitEscape, scanUnit, hexUnit_unitEscape (by omega)]
    simp only [if_pos hisHigh, lowUnit_unitEscape hsmall, if_pos hisLow, hval]

theorem lowUnit_close (s : Text) : lowUnit (code '"' :: s) = none := by
  have hquote : code '"' ≠ code '\\' := by decide
  cases s with
  | nil => rfl
  | cons u s => simp [lowUnit, hquote]

/-- A string without surrogate pairs is read as it was written. -/
theorem scanString_escaped {t : Text} (h : Unpaired t) {fuel : ℕ} (hfuel : t.length < fuel) (s : Text) :
    scanString fuel (t.flatMap escapeChar ++ code '"' :: s) = some (t, s) := by
  induction t generalizing fuel with
  | nil =>
      obtain ⟨fuel, rfl⟩ := Nat.exists_eq_add_one_of_ne_zero (Nat.ne_zero_of_lt hfuel)
      simp [scanString, scanPiece]
  | cons c t ih =>
      obtain ⟨fuel, rfl⟩ := Nat.exists_eq_add_one_of_ne_zero (Nat.ne_zero_of_lt hfuel)
      have hnext : isHigh c = true → lowUnit (t.flatMap escapeChar ++ code '"' :: s) = none := by
        intro hhigh
        cases t with
        | nil => exact lowUnit_close s
        | cons d t =>
            have hpair := (List.isChain_cons_cons.mp h).1
            have hlow : isLow d = false := by
              rw [← Bool.not_eq_true]
              exact fun hlow => hpair ⟨hhigh, hlow⟩
            rw [List.flatMap_cons, List.append_assoc]
            exact lowUnit_escapeChar hlow _
      have hrest := ih h.tail (Nat.lt_of_succ_lt_succ hfuel)
      rw [List.flatMap_cons, List.append_assoc, scanString, scanPiece_escapeChar hnext]
      simp only [hrest, Option.map_some]

theorem length_le_escaped (t : Text) : t.length ≤ (t.flatMap escapeChar).length := by
  induction t with
  | nil => rfl
  | cons c t ih =>
      have hone : 1 ≤ (escapeChar c).length := by
        obtain ⟨e, heq, -⟩ | ⟨heq, -⟩ | ⟨heq, -⟩ | ⟨heq, -⟩ := escapeChar_cases c
        all_goals simp [heq, unitEscape]
      rw [List.flatMap_cons, List.length_append, List.length_cons]
      omega

end IdentityModel.JsonText
