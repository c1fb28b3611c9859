import IdentityModel.Forms
import IdentityModel.Percent
import IdentityModel.UrlParts
import Mathlib.Data.List.SplitBy

/-!
# What `urlencode` writes, `parse_qsl` reads

Characters come back from their bytes, bytes from their escapes, and fields from the text they are
joined in. A query is read field by field: what stands before an ampersand is read for itself.
-/
namespace IdentityModel.Forms

open Url Percent

section Utf8

attribute [local simp] lead feed decodeFrom

variable {c : Char} {b : ℕ} {bs : List ℕ}

/-- A character is a code point, and no surrogate. -/
theorem toNat_valid (c : Char) : c.toNat < 0xD800 ∨ 0xDFFF < c.toNat ∧ c.toNat < 0x110000 := c.valid

theorem utf8_two (h : 0x80 ≤ c.toNat) (h' : c.toNat < 0x800) :
    utf8 c = [0xC0 + c.toNat / 64, 0x80 + c.toNat % 64] := by
  have hval : c.val.toNat = c.toNat := rfl
  have h1 : ¬ c.val.toNat ≤ 0x7F := by omega
  have h2 : c.val.toNat ≤ 0x7FF := by omega
  simp only [utf8, String.utf8EncodeChar, h1, h2, if_false, if_true, List.map_cons, List.map_nil]
  simp only [hval, UInt8.toNat_ofNat', List.cons.injEq, and_true]
  omega

theorem utf8_three (h : 0x800 ≤ c.toNat) (h' : c.toNat < 0x10000) :
    utf8 c = [0xE0 + c.toNat / 4096, 0x80 + c.toNat / 64 % 64, 0x80 + c.toNat % 64] := by
  have hval : c.val.toNat = c.toNat := rfl
  have h1 : ¬ c.val.toNat ≤ 0x7F := by omega
  have h2 : ¬ c.val.toNat ≤ 0x7FF := by omega
  have h3 : c.val.toNat ≤ 0xFFFF := by omega
  simp only [utf8, String.utf8EncodeChar, h1, h2, h3, if_false, if_true, List.map_cons,
    List.map_nil]
  simp only [hval, UInt8.toNat_ofNat', List.cons.injEq, and_true]
  omega

theorem utf8_four (h : 0x10000 ≤ c.toNat) :
    utf8 c = [0xF0 + c.toNat / 262144, 0x80 + c.toNat / 4096 % 64, 0x80 + c.toNat / 64 % 64,
      0x80 + c.toNat % 64] := by
  have hval : c.val.toNat = c.toNat := rfl
  have h1 : ¬ c.val.toNat ≤ 0x7F := by omega
  have h2 : ¬ c.val.toNat ≤ 0x7FF := by omega
  have h3 : ¬ c.val.toNat ≤ 0xFFFF := by omega
  have hvalid := toNat_valid c
  simp only [utf8, String.utf8EncodeChar, h1, h2, h3, if_false, List.map_cons, List.map_nil]
  simp only [hval, UInt8.toNat_ofNat', List.cons.injEq, and_true]
  omega

/-- A byte in the range of the next one, with more to come. -/
theorem decodeFrom_more {s : Begun} (hlow : s.low ≤ b) (hhigh : b ≤ s.high) (hmore : s.missing ≠ 1) :
    decodeFrom (some s) (b :: bs) =
      decodeFrom (some ⟨s.missing - 1, 0x80, 0xBF, 64 * s.bits + (b - 0x80)⟩) bs := by
  rw [decodeFrom, feed, if_pos ⟨hlow, hhigh⟩, if_neg hmore]
  rfl

/-- The last byte of a character. -/
theorem decodeFrom_last {s : Begun} (hlow : s.low ≤ b) (hhigh : b ≤ s.high) (hlast : s.missing = 1) :
    decodeFrom (some s) (b :: bs) = Char.ofNat (64 * s.bits + (b - 0x80)) :: decodeFrom none bs := by
  rw [decodeFrom, feed, if_pos ⟨hlow, hhigh⟩, if_pos hlast]
  rfl

/-- The first byte of several. -/
theorem decodeFrom_lead {s : Begun} (h : lead b = ([], some s)) :
    decodeFrom none (b :: bs) = decodeFrom (some s) bs := by
  rw [decodeFrom, feed, h]
  rfl

theorem lead_two (h : 0xC2 ≤ b) (h' : b < 0xE0) : lead b = ([], some ⟨1, 0x80, 0xBF, b - 0xC0⟩) := by
  rw [lead, if_neg (by omega), if_neg (by omega), if_pos h']

theorem lead_three (h : 0xE0 ≤ b) (h' : b < 0xF0) :
    lead b = ([], some ⟨2, if b = 0xE0 then 0xA0 else 0x80, if b = 0xED then 0x9F else 0xBF,
      b - 0xE0⟩) := by
  rw [lead, if_neg (by omega), if_neg (by omega), if_neg (by omega)]
  by_cases hfirst : b = 0xE0
  · rw [hfirst]
    rfl
  · by_cases hgap : b = 0xED
    · rw [hgap]
      rfl
    · rw [if_neg hfirst, if_neg hgap, if_pos h', if_neg hfirst, if_neg hgap]

theorem lead_four (h : 0xF0 ≤ b) (h' : b ≤ 0xF4) :
    lead b = ([], some ⟨3, if b = 0xF0 then 0x90 else 0x80, if b = 0xF4 then 0x8F else 0xBF,
      b - 0xF0⟩) := by
  rw [lead, if_neg (by omega), if_neg (by omega), if_neg (by omega), if_neg (by omega),
    if_neg (by omega), if_neg (by omega)]
  by_cases hfirst : b = 0xF0
  · rw [hfirst]
    rfl
  · by_cases hlast : b = 0xF4
    · rw [hlast]
      rfl
    · rw [if_neg hfirst, if_pos (by omega), if_neg hfirst, if_neg hlast]

/-- A character is read from its bytes. -/
theorem decodeFrom_utf8 (c : Char) (bs : List ℕ) :
    decodeFrom none (utf8 c ++ bs) = c :: decodeFrom none bs := by
  have hvalid := toNat_valid c
  by_cases h1 : c.toNat < 0x80
  · have hlead : lead c.toNat = ([c], none) := by rw [lead, if_pos h1, Char.ofNat_toNat]
    rw [utf8_ascii h1, List.cons_append, List.nil_append, decodeFrom, feed, hlead]
    rfl
  · by_cases h2 : c.toNat < 0x800
    · rw [utf8_two (by omega) h2, List.cons_append,
        decodeFrom_lead (lead_two (by omega) (by omega)), List.cons_append,
        decodeFrom_last (by dsimp only; omega) (by dsimp only; omega) rfl, List.nil_append]
      dsimp only
      rw [show 64 * (0xC0 + c.toNat / 64 - 0xC0) + (0x80 + c.toNat % 64 - 0x80) = c.toNat by omega,
        Char.ofNat_toNat]
    · by_cases h3 : c.toNat < 0x10000
      · rw [utf8_three (by omega) h3, List.cons_append,
          decodeFrom_lead (lead_three (by omega) (by omega)), List.cons_append,
          decodeFrom_more (by dsimp only; split <;> omega) (by dsimp only; split <;> omega)
            (show (2 : ℕ) ≠ 1 by decide), List.cons_append,
          decodeFrom_last (by dsimp only; omega) (by dsimp only; omega) rfl, List.nil_append]
        dsimp only
        rw [show 64 * (64 * (0xE0 + c.toNat / 4096 - 0xE0) + (0x80 + c.toNat / 64 % 64 - 0x80)) +
          (0x80 + c.toNat % 64 - 0x80) = c.toNat by omega, Char.ofNat_toNat]
      · rw [utf8_four (by omega), List.cons_append,
          decodeFrom_lead (lead_four (by omega) (by omega)), List.cons_append,
          decodeFrom_more (by dsimp only; split <;> omega) (by dsimp only; split <;> omega)
            (show (3 : ℕ) ≠ 1 by decide), List.cons_append,
          decodeFrom_more (by dsimp only; omega) (by dsimp only; omega) (show (2 : ℕ) ≠ 1 by decide),
          List.cons_append,
          decodeFrom_last (by dsimp only; omega) (by dsimp only; omega) rfl, List.nil_append]
        dsimp only
        rw [show 64 * (64 * (64 * (0xF0 + c.toNat / 262144 - 0xF0) +
          (0x80 + c.toNat / 4096 % 64 - 0x80)) + (0x80 + c.toNat / 64 % 64 - 0x80)) +
          (0x80 + c.toNat % 64 - 0x80) = c.toNat by omega, Char.ofNat_toNat]

theorem decodeUtf8_encodeUtf8 (s : List Char) : decodeUtf8 (encodeUtf8 s) = s := by
  induction s with
  | nil => rfl
  | cons c s ih =>
      rw [decodeUtf8] at ih ⊢
      rw [show encodeUtf8 (c :: s) = utf8 c ++ encodeUtf8 s from rfl, decodeFrom_utf8, ih]

/-- The same for octets. -/
theorem decodeUtf8_octets (s : List Char) :
    decodeUtf8 ((s.flatMap String.utf8EncodeChar).map UInt8.toNat) = s := by
  rw [List.map_flatMap]
  exact decodeUtf8_encodeUtf8 s

end Utf8

/-- A character that may stand in a written name or value. -/
def isFormChar (c : Char) : Bool :=
  decide (32 < c.toNat) && isAscii c && c ≠ '&' && c ≠ '=' && c ≠ '#' && c ≠ '?'

/-- What reading does to a plus sign. -/
def plusToSpace (c : Char) : Char := if c = '+' then ' ' else c

section Escapes

attribute [local simp] unquoteToBytes

variable {c : Char} {b : ℕ} {s : List Char}

theorem unquoteToBytes_cons (hc : c ≠ '%') (rest : List Char) :
    unquoteToBytes (c :: rest) = c.toNat :: unquoteToBytes rest := by
  rw [unquoteToBytes]
  intro a b rest' h
  exact absurd h hc

theorem unquoteToBytes_escape (hb : b < 256) (rest : List Char) :
    unquoteToBytes ('%' :: upperHex (b / 16) :: upperHex (b % 16) :: rest) =
      b :: unquoteToBytes rest := by
  rw [unquoteToBytes, hexDigit_upperHex (show b / 16 < 16 by omega),
    hexDigit_upperHex (Nat.mod_lt b (by decide))]
  dsimp only
  rw [show 16 * (b / 16) + b % 16 = b by omega]

theorem upperHex_ne_plus : ∀ n < 16, upperHex n ≠ '+' := by decide

theorem safe_spec : ∀ n < 256, isAlwaysSafe n = true →
    Char.ofNat n ≠ '%' ∧ Char.ofNat n ≠ '+' ∧ (Char.ofNat n).toNat = n := by
  decide +kernel

theorem isFormChar_quoteByte_all : (List.range 256).all (fun n => (quoteByte n).all isFormChar) := by
  decide +kernel

/-- A byte that is written as itself. -/
theorem unquoteToBytes_safe (hb : b < 256) (hsafe : isAlwaysSafe b = true) (rest : List Char) :
    unquoteToBytes ([Char.ofNat b].map plusToSpace ++ rest) = b :: unquoteToBytes rest := by
  obtain ⟨hpercent, hplus, hnat⟩ := safe_spec b hb hsafe
  rw [List.map_singleton, List.singleton_append, plusToSpace, if_neg hplus,
    unquoteToBytes_cons hpercent, hnat]

/-- A byte that is written as an escape. -/
theorem unquoteToBytes_escaped (hb : b < 256) (rest : List Char) :
    unquoteToBytes (['%', hexUpper (b / 16), hexUpper (b % 16)].map plusToSpace ++ rest) =
      b :: unquoteToBytes rest := by
  have hhigh : hexUpper (b / 16) ≠ '+' := upperHex_ne_plus (b / 16) (by omega)
  have hlow : hexUpper (b % 16) ≠ '+' := upperHex_ne_plus (b % 16) (by omega)
  have hkept : (['%', hexUpper (b / 16), hexUpper (b % 16)].map plusToSpace) =
      ['%', upperHex (b / 16), upperHex (b % 16)] := by
    simp only [List.map_cons, List.map_nil, plusToSpace]
    rw [if_neg (by decide), if_neg hhigh, if_neg hlow]
    rfl
  rw [hkept]
  exact unquoteToBytes_escape hb rest

/-- A way of writing bytes in ASCII that reading undoes. -/
structure IsEscaping (write : ℕ → List Char) : Prop where
  read : ∀ b < 256, ∀ rest,
    unquoteToBytes ((write b).map plusToSpace ++ rest) = b :: unquoteToBytes rest
  ascii : ∀ b < 256, ∀ c ∈ write b, isAscii c = true

theorem isEscaping_quoteByte : IsEscaping quoteByte where
  read := by
    intro b hb rest
    unfold quoteByte
    split
    · rename_i hsafe
      exact unquoteToBytes_safe hb hsafe rest
    · split
      · rename_i hspace
        rw [hspace]
        exact unquoteToBytes_cons (by decide) rest
      · exact unquoteToBytes_escaped hb rest
  ascii := by
    intro b hb c hc
    have hform := List.all_eq_true.mp
      (List.all_eq_true.mp isFormChar_quoteByte_all b (List.mem_range.mpr hb)) c hc
    simp only [isFormChar, Bool.and_eq_true] at hform
    tauto

theorem IsEscaping.unquoteToBytes_flatMap {write : ℕ → List Char} (h : IsEscaping write)
    {bs : List ℕ} (hbs : ∀ b ∈ bs, b < 256) :
    unquoteToBytes ((bs.flatMap write).map plusToSpace) = bs := by
  induction bs with
  | nil => rfl
  | cons b bs ih =>
      rw [List.flatMap_cons, List.map_append, h.read b (hbs b List.mem_cons_self),
        ih fun x hx => hbs x (List.mem_cons_of_mem b hx)]

theorem encodeUtf8_lt (s : List Char) : ∀ b ∈ encodeUtf8 s, b < 256 := by
  intro b hb
  obtain ⟨c, -, hc⟩ := List.mem_flatMap.mp hb
  exact utf8_lt hc

theorem encodeUtf8_ascii (h : ∀ c ∈ s, isAscii c = true) : encodeUtf8 s = s.map Char.toNat := by
  induction s with
  | nil => rfl
  | cons c s ih =>
      have hc : c.toNat < 128 := by simpa [isAscii] using h c List.mem_cons_self
      rw [show encodeUtf8 (c :: s) = utf8 c ++ encodeUtf8 s from rfl, utf8_ascii hc,
        ih fun x hx => h x (List.mem_cons_of_mem c hx)]
      rfl

theorem unquoteToBytes_plain (h : ∀ c ∈ s, c ≠ '%') (rest : List Char) :
    unquoteToBytes (s ++ rest) = s.map Char.toNat ++ unquoteToBytes rest := by
  induction s with
  | nil => rfl
  | cons c s ih =>
      rw [List.cons_append, unquoteToBytes_cons (h c List.mem_cons_self),
        ih fun x hx => h x (List.mem_cons_of_mem c hx), List.map_cons, List.cons_append]

/-- A text of ASCII is one run. -/
theorem unquote_ascii (h : ∀ c ∈ s, isAscii c = true) : unquote s = decodeUtf8 (unquoteToBytes s) := by
  unfold unquote
  split
  · rename_i hpercent
    have hplain := unquoteToBytes_plain (s := s) (fun c hc h => hpercent (h ▸ hc)) []
    rw [List.append_nil, show unquoteToBytes [] = [] from rfl, List.append_nil] at hplain
    rw [hplain, ← encodeUtf8_ascii h, decodeUtf8_encodeUtf8]
  · rename_i hpercent
    have hne : s ≠ [] := by
      rintro rfl
      exact hpercent List.not_mem_nil
    have hchain : s.IsChain fun a b => (isAscii a == isAscii b) = true := by
      apply List.Pairwise.isChain
      apply List.pairwise_iff_forall_sublist.mpr
      intro a b hab
      rw [h a (hab.subset (by simp)), h b (hab.subset (by simp))]
      rfl
    rw [List.splitBy_of_isChain hne hchain, List.flatMap_singleton, if_pos (List.all_eq_true.mpr h)]

theorem isFormChar_quotePlus (v : String) : ∀ c ∈ quotePlus v, isFormChar c = true := by
  intro c hc
  obtain ⟨b, hb, hcb⟩ := List.mem_flatMap.mp hc
  have hall := List.all_eq_true.mp isFormChar_quoteByte_all b
    (List.mem_range.mpr (encodeUtf8_lt _ b hb))
  exact List.all_eq_true.mp hall c hcb

/-- What is written for a text is read as this text, and plain characters before it as
themselves. -/
theorem IsEscaping.unquotePlus {write : ℕ → List Char} (h : IsEscaping write) (front : List Char)
    (v : String) (hfront : ∀ c ∈ front, isAscii c = true ∧ c ≠ '%' ∧ c ≠ '+') :
    unquotePlus (front ++ (encodeUtf8 v.toList).flatMap write) = String.ofList (front ++ v.toList) := by
  have hmap : (front ++ (encodeUtf8 v.toList).flatMap write).map plusToSpace =
      front ++ ((encodeUtf8 v.toList).flatMap write).map plusToSpace := by
    have hkept : front.map plusToSpace = front.map id :=
      List.map_congr_left fun c hc => if_neg (hfront c hc).2.2
    rw [List.map_id] at hkept
    rw [List.map_append, hkept]
  have hascii : ∀ c ∈ front ++ ((encodeUtf8 v.toList).flatMap write).map plusToSpace,
      isAscii c = true := by
    intro c hc
    obtain hc | hc := List.mem_append.mp hc
    · exact (hfront c hc).1
    · obtain ⟨x, hx, rfl⟩ := List.mem_map.mp hc
      obtain ⟨b, hb, hxb⟩ := List.mem_flatMap.mp hx
      have hx := h.ascii b (encodeUtf8_lt _ b hb) x hxb
      unfold plusToSpace
      split
      · decide
      · exact hx
  have hbytes : unquoteToBytes (front ++ ((encodeUtf8 v.toList).flatMap write).map plusToSpace) =
      encodeUtf8 (front ++ v.toList) := by
    rw [unquoteToBytes_plain fun c hc => (hfront c hc).2.1,
      h.unquoteToBytes_flatMap (encodeUtf8_lt _), ← encodeUtf8_ascii fun c hc => (hfront c hc).1]
    exact List.flatMap_append.symm
  rw [Forms.unquotePlus, show (fun c : Char => if c = '+' then ' ' else c) = plusToSpace from rfl,
    hmap, unquote_ascii hascii, hbytes, decodeUtf8_encodeUtf8]

theorem unquotePlus_quotePlus (front : List Char) (v : String)
    (hfront : ∀ c ∈ front, isAscii c = true ∧ c ≠ '%' ∧ c ≠ '+') :
    unquotePlus (front ++ quotePlus v) = String.ofList (front ++ v.toList) :=
  isEscaping_quoteByte.unquotePlus front v hfront

end Escapes

section Fields

variable {c : Char} {s : List Char}

/-- What stands before an ampersand is read for itself. -/
theorem parseQsl_append (s t : List Char) : parseQsl (s ++ '&' :: t) = parseQsl s ++ parseQsl t := by
  rw [parseQsl, splitAll_append, List.filter_append, List.map_append, parseQsl, parseQsl]

theorem parseQsl_nil : parseQsl [] = [] := rfl

/-- A text without an ampersand is one field. -/
theorem parseQsl_field (hs : s ≠ []) (hamp : '&' ∉ s) :
    parseQsl s = [(unquotePlus (partition '=' s).1, unquotePlus ((partition '=' s).2.getD []))] := by
  rw [parseQsl, splitAll_of_not_mem hamp, List.filter_cons, if_pos (by simpa using hs)]
  rfl

/-- One field as it is written. -/
def fieldText (f : String × String) : List Char := quotePlus f.1 ++ '=' :: quotePlus f.2

theorem urlencode_nil : (urlencode []).toList = [] := by
  rw [urlencode, List.map_nil, String.intercalate_nil]
  rfl

theorem urlencode_singleton (f : String × String) : (urlencode [f]).toList = fieldText f := by
  rw [urlencode, List.map_singleton, String.intercalate_singleton, String.toList_ofList, fieldText]

theorem urlencode_cons_cons (f g : String × String) (fs : List (String × String)) :
    (urlencode (f :: g :: fs)).toList = fieldText f ++ '&' :: (urlencode (g :: fs)).toList := by
  rw [urlencode, List.map_cons, List.map_cons, String.intercalate_cons_cons, String.toList_append,
    String.toList_append, String.toList_ofList, List.append_assoc]
  rfl

/-- The characters of a written form. -/
theorem mem_urlencode (fs : List (String × String)) :
    ∀ c ∈ (urlencode fs).toList, isFormChar c = true ∨ c = '&' ∨ c = '=' := by
  have hfield (f : String × String) : ∀ c ∈ fieldText f, isFormChar c = true ∨ c = '=' := by
    intro c hc
    obtain hc | hc := List.mem_append.mp hc
    · exact .inl (isFormChar_quotePlus _ c hc)
    · obtain rfl | hc := List.mem_cons.mp hc
      · exact .inr rfl
      · exact .inl (isFormChar_quotePlus _ c hc)
  intro c hc
  induction fs with
  | nil =>
      rw [urlencode_nil] at hc
      cases hc
  | cons f fs ih =>
      cases fs with
      | nil =>
          rw [urlencode_singleton] at hc
          have := hfield f c hc
          tauto
      | cons g fs =>
          rw [urlencode_cons_cons, List.mem_append, List.mem_cons] at hc
          obtain hc | rfl | hc := hc
          · have := hfield f c hc
            tauto
          · exact .inr (.inl rfl)
          · exact ih hc

theorem not_mem_quotePlus (v : String) (h : isFormChar c = false) : c ∉ quotePlus v := by
  intro hc
  rw [isFormChar_quotePlus v c hc] at h
  cases h

/-- The first field, read with plain characters before it. -/
theorem parseQsl_front (front : List Char) (f : String × String)
    (hfront : ∀ c ∈ front, isAscii c = true ∧ c ≠ '%' ∧ c ≠ '+' ∧ c ≠ '&' ∧ c ≠ '=') :
    parseQsl (front ++ fieldText f) = [(String.ofList (front ++ f.1.toList), f.2)] := by
  have hamp : '&' ∉ front ++ fieldText f := by
    intro hmem
    rw [fieldText, List.mem_append, List.mem_append, List.mem_cons] at hmem
    obtain hmem | hmem | hmem | hmem := hmem
    · exact (hfront _ hmem).2.2.2.1 rfl
    · exact not_mem_quotePlus f.1 (by decide) hmem
    · revert hmem
      decide
    · exact not_mem_quotePlus f.2 (by decide) hmem
  have hequals : '=' ∉ front ++ quotePlus f.1 := by
    intro hmem
    obtain hmem | hmem := List.mem_append.mp hmem
    · exact (hfront _ hmem).2.2.2.2 rfl
    · exact not_mem_quotePlus f.1 (by decide) hmem
  have hvalue := unquotePlus_quotePlus [] f.2 fun c hc => by cases hc
  rw [List.nil_append, List.nil_append, String.ofList_toList] at hvalue
  rw [parseQsl_field (by simp [fieldText]) hamp, fieldText, ← List.append_assoc,
    partition_of_not_mem hequals, Option.getD_some, hvalue,
    unquotePlus_quotePlus front f.1 fun c hc =>
      ⟨(hfront c hc).1, (hfront c hc).2.1, (hfront c hc).2.2.1⟩]

/-- What is written is read again; plain characters before it go to the first name. -/
theorem parseQsl_front_urlencode (front : List Char) (f : String × String)
    (fs : List (String × String))
    (hfront : ∀ c ∈ front, isAscii c = true ∧ c ≠ '%' ∧ c ≠ '+' ∧ c ≠ '&' ∧ c ≠ '=') :
    parseQsl (front ++ (urlencode (f :: fs)).toList) =
      (String.ofList (front ++ f.1.toList), f.2) :: fs := by
  induction fs generalizing f front with
  | nil => rw [urlencode_singleton, parseQsl_front front f hfront]
  | cons g fs ih =>
      have hrest := ih [] g fun c hc => by cases hc
      rw [List.nil_append, List.nil_append, String.ofList_toList] at hrest
      rw [urlencode_cons_cons, ← List.append_assoc, parseQsl_append,
        parseQsl_front front f hfront, hrest]
      rfl

theorem parseQsl_urlencode (fs : List (String × String)) : parseQsl (urlencode fs).toList = fs := by
  cases fs with
  | nil => rw [urlencode_nil, parseQsl_nil]
  | cons f fs =>
      have h := parseQsl_front_urlencode [] f fs fun c hc => by cases hc
      rw [List.nil_append, List.nil_append, String.ofList_toList] at h
      exact h

theorem length_parseQsl_field (hs : s ≠ []) (hamp : '&' ∉ s) : (parseQsl s).length = 1 := by
  rw [parseQsl_field hs hamp]
  rfl

/-- A text without an ampersand runs into the first field behind it. -/
theorem length_parseQsl_merged (hamp : '&' ∉ s) (fs : List (String × String)) (hfs : fs ≠ []) :
    (parseQsl (s ++ (urlencode fs).toList)).length = fs.length := by
  cases fs with
  | nil => exact absurd rfl hfs
  | cons f fs =>
      have hfield : '&' ∉ s ++ fieldText f := by
        simp only [List.mem_append, fieldText, List.mem_cons, hamp, false_or]
        rintro (h | h | h)
        · exact not_mem_quotePlus f.1 (by decide) h
        · revert h
          decide
        · exact not_mem_quotePlus f.2 (by decide) h
      have hone := length_parseQsl_field (s := s ++ fieldText f) (by simp [fieldText]) hfield
      cases fs with
      | nil => rw [urlencode_singleton, hone, List.length_singleton]
      | cons g fs =>
          rw [urlencode_cons_cons, ← List.append_assoc, parseQsl_append, List.length_append, hone,
            parseQsl_urlencode]
          exact Nat.add_comm 1 _

/-- A query whose last field is not ended takes the first field behind it for its own. -/
theorem parseQsl_merged_ne {c : Char} (hc : c ≠ '&') (hs : s.getLast? = some c)
    (fs : List (String × String)) (hfs : fs ≠ []) :
    parseQsl (s ++ (urlencode fs).toList) ≠ parseQsl s ++ fs := by
  intro heq
  -- the last field of the query is what it has behind its last ampersand
  obtain ⟨last, hlast, hcut⟩ : ∃ last, '&' ∉ last ∧ (s = last ∨ ∃ init, s = init ++ '&' :: last) :=
    ⟨_, afterLast_spec '&' s⟩
  have hne : last ≠ [] := by
    rintro rfl
    obtain rfl | ⟨init, rfl⟩ := hcut
    · cases hs
    · rw [List.getLast?_append] at hs
      exact hc (Option.some.inj hs).symm
  have hlength := congrArg List.length heq
  obtain rfl | ⟨init, rfl⟩ := hcut
  · rw [length_parseQsl_merged hlast fs hfs, List.length_append, length_parseQsl_field hne hlast]
      at hlength
    omega
  · rw [List.append_assoc, List.cons_append, parseQsl_append, List.length_append,
      length_parseQsl_merged hlast fs hfs, List.length_append, parseQsl_append, List.length_append,
      length_parseQsl_field hne hlast] at hlength
    omega

end Fields

end IdentityModel.Forms
