import IdentityModel.GoHtu
import IdentityModel.Words

/-!
# Paths as Go and the URL standard write them

Go decodes a path and encodes it again; the URL standard encodes what is not encoded, takes
backslashes for slashes and removes dot segments. Without dot segments both texts have the
same units, so they are equal when every unit is; a dot segment takes units away.
-/
namespace IdentityModel.HtuPaths

open Url Percent GoUrl Whatwg

/-- Go escapes a character of a path. -/
def goEscapes (c : Char) : Bool := !isAscii c || shouldEscape c.toNat .path

/-- Every unit of a path is written alike: an escape if it is one that Go writes, another
character if Go escapes it where the standard encodes it. -/
def alike (caret : Bool) : List Char → Bool
  | '%' :: a :: b :: rest =>
      match hexDigit a, hexDigit b with
      | some x, some y =>
          shouldEscape (16 * x + y) .path && upperHex x = a && upperHex y = b && alike caret rest
      | _, _ => false
  | c :: rest => goEscapes c == encodes caret c && alike caret rest
  | [] => true

/-- A path in the standard's encoding, its dot segments still there. -/
def full (caret : Bool) (path : List Char) : List Char :=
  path.flatMap fun c => if isSlash c then ['/'] else encodeChar caret c

section Units

variable {caret : Bool} {path : List Char} {bytes : List ℕ}

theorem escapeChar_cons (c : Char) : ∃ t, escapeChar c = '%' :: t := by
  obtain ⟨b, bs, hbs⟩ := List.exists_cons_of_ne_nil (utf8_ne_nil c)
  exact ⟨_, by rw [escapeChar, hbs, List.flatMap_cons, escapeByte, List.cons_append]⟩

theorem escape_utf8 (c : Char) :
    escape .path (utf8 c) = if goEscapes c then escapeChar c else [c] := by
  by_cases hascii : c.toNat < 128
  · rw [utf8_ascii hascii]
    cases hescape : shouldEscape c.toNat .path with
    | true => simp [GoUrl.escape, goEscapes, hescape, escapeChar, utf8_ascii hascii]
    | false => simp [GoUrl.escape, goEscapes, hescape, isAscii, hascii, Char.ofNat_toNat]
  · have hescapes : goEscapes c = true := by simp [goEscapes, isAscii, hascii]
    rw [if_pos hescapes, escapeChar, GoUrl.escape]
    apply List.flatMap_congr
    intro b hb
    rw [if_pos (shouldEscape_high _ (utf8_high (by omega) hb) (utf8_lt hb))]

theorem hexDigit_kept {c : Char} {x : ℕ} (h : hexDigit c = some x) (caret : Bool) :
    isSlash c = false ∧ encodes caret c = false := by
  have hall : ∀ k : Fin 128, (hexDigit (Char.ofNat k)).isSome = true →
      ∀ caret : Bool, isSlash (Char.ofNat k) = false ∧ encodes caret (Char.ofNat k) = false := by
    decide +kernel
  have := hall ⟨c.toNat, (hexDigit_lt h).2⟩
  rw [Char.ofNat_toNat] at this
  exact this (by rw [h]; rfl) caret

theorem full_cons (c : Char) (rest : List Char) :
    full caret (c :: rest) = (if isSlash c then ['/'] else encodeChar caret c) ++
      full caret rest :=
  List.flatMap_cons

theorem full_keep {c : Char} (hslash : isSlash c = false) (hkeep : encodes caret c = false)
    (rest : List Char) : full caret (c :: rest) = c :: full caret rest := by
  rw [full_cons, hslash, if_neg Bool.false_ne_true, encodeChar, hkeep, if_neg Bool.false_ne_true]
  rfl

theorem full_slash (rest : List Char) : full caret ('/' :: rest) = '/' :: full caret rest := rfl

theorem full_escape {a b : Char} {x y : ℕ} (hx : hexDigit a = some x) (hy : hexDigit b = some y)
    (rest : List Char) : full caret ('%' :: a :: b :: rest) = '%' :: a :: b :: full caret rest := by
  have ⟨ha, hae⟩ := hexDigit_kept hx caret
  have ⟨hb, hbe⟩ := hexDigit_kept hy caret
  have hpercent : encodes caret '%' = false := by cases caret <;> decide
  rw [full_keep (by decide) hpercent, full_keep ha hae, full_keep hb hbe]

theorem ofNat_ne_percent {b : ℕ} (h : shouldEscape b .path = false) : Char.ofNat b ≠ '%' := by
  intro hpercent
  have htrue : shouldEscape b .path = shouldEscape 37 .path := by
    rw [shouldEscape, shouldEscape, hpercent]
  rw [h] at htrue
  exact absurd htrue (by decide)

/-- Where the two encodings of a path are the same. -/
theorem escape_eq_full (h : Unescapes .path path bytes) :
    escape .path bytes = full caret path ↔ alike caret path = true := by
  induction h with
  | nil => simp [GoUrl.escape, full, alike]
  | @escape a b x y rest bytes hx hy hok hrest ih =>
      have hlt := (hexDigit_lt hx).1
      have hlt' := (hexDigit_lt hy).1
      have hdiv : (16 * x + y) / 16 = x := by omega
      have hmod : (16 * x + y) % 16 = y := by omega
      rw [full_escape hx hy]
      simp only [alike, hx, hy, Bool.and_eq_true, decide_eq_true_eq, ← ih]
      cases hescape : shouldEscape (16 * x + y) .path with
      | true =>
          have hcons : escape .path ((16 * x + y) :: bytes) =
              '%' :: upperHex x :: upperHex y :: escape .path bytes := by
            simp [GoUrl.escape, hescape, escapeByte, hdiv, hmod]
          rw [hcons]
          simp [and_assoc]
      | false =>
          have hcons : escape .path ((16 * x + y) :: bytes) =
              Char.ofNat (16 * x + y) :: escape .path bytes := by
            simp [GoUrl.escape, hescape]
          rw [hcons]
          simp [ofNat_ne_percent hescape]
  | @char c rest bytes hc hok hrest ih =>
      have halike : alike caret (c :: rest) =
          (goEscapes c == encodes caret c && alike caret rest) := by
        rw [alike]
        intro a b rest' hpercent
        exact absurd hpercent hc
      rw [escape_append, escape_utf8, full_cons, halike, Bool.and_eq_true, ← ih]
      obtain ⟨t, ht⟩ := escapeChar_cons c
      cases hslash : isSlash c with
      | true =>
          simp only [isSlash, Bool.or_eq_true, decide_eq_true_eq] at hslash
          have hkeep : encodes caret c = false := by
            obtain rfl | rfl := hslash <;> cases caret <;> decide
          obtain rfl | rfl := hslash
          · have hgo : goEscapes '/' = false := by decide
            simp [hgo, hkeep]
          · have hgo : goEscapes '\\' = true := by decide
            simp [hgo, hkeep, ht]
      | false =>
          have hne : '%' ≠ c := fun h => hc h.symm
          cases hgo : goEscapes c with
          | true =>
              cases hencodes : encodes caret c with
              | true => simp [encodeChar, hencodes]
              | false => simp [encodeChar, hencodes, ht, hne]
          | false =>
              cases hencodes : encodes caret c with
              | true => simp [encodeChar, hencodes, ht, hc]
              | false => simp [encodeChar, hencodes]

/-- The two encodings of a path have the same units. -/
theorem units_escape_eq (caret : Bool) (h : Unescapes .path path bytes) :
    units (escape .path bytes) = units (full caret path) := by
  induction h with
  | nil => rfl
  | @escape a b x y rest bytes hx hy hok hrest ih =>
      have hlt := (hexDigit_lt hx).1
      have hlt' := (hexDigit_lt hy).1
      have hunit : units (escape .path ((16 * x + y) :: bytes)) =
          1 + units (escape .path bytes) := by
        cases hescape : shouldEscape (16 * x + y) .path with
        | true =>
            have hcons : escape .path ((16 * x + y) :: bytes) =
                escapeByte (16 * x + y) ++ escape .path bytes := by
              simp [GoUrl.escape, hescape]
            rw [hcons, units_escapeByte (by omega)]
        | false =>
            have hcons : escape .path ((16 * x + y) :: bytes) =
                Char.ofNat (16 * x + y) :: escape .path bytes := by
              simp [GoUrl.escape, hescape]
            rw [hcons, units_cons]
            exact ofNat_ne_percent hescape
      rw [hunit, full_escape hx hy, units_escape (by simp [isHex, hx]) (by simp [isHex, hy]), ih]
  | @char c rest bytes hc hok hrest ih =>
      have hascii (h : c.toNat < 128) : (utf8 c).length = 1 := by rw [utf8_ascii h]; rfl
      have hescapes (s : List Char) : units (escapeChar c ++ s) = (utf8 c).length + units s :=
        units_flatMap_escapeByte (fun b hb => utf8_lt hb) s
      have hgo : units (escape .path (utf8 c ++ bytes)) =
          (utf8 c).length + units (escape .path bytes) := by
        rw [escape_append, escape_utf8]
        split
        · exact hescapes _
        · next hkeep =>
            have hlow : c.toNat < 128 := by
              simp only [goEscapes, isAscii, Bool.or_eq_true, Bool.not_eq_true',
                decide_eq_false_iff_not, not_or, not_not] at hkeep
              exact hkeep.1
            rw [List.singleton_append, units_cons hc, hascii hlow]
      have hfull : units (full caret (c :: rest)) = (utf8 c).length + units (full caret rest) := by
        rw [full_cons]
        split
        · next hslash =>
            simp only [isSlash, Bool.or_eq_true, decide_eq_true_eq] at hslash
            have hlow : c.toNat < 128 := by obtain rfl | rfl := hslash <;> decide
            rw [List.singleton_append, units_cons (by decide), hascii hlow]
        · rw [encodeChar]
          split
          · exact hescapes _
          · next hkeep =>
              have hlow : c.toNat < 128 := by
                simp only [encodes, Bool.or_eq_true, decide_eq_true_eq, not_or] at hkeep
                omega
              rw [List.singleton_append, units_cons hc, hascii hlow]
      rw [hgo, hfull, ih]

end Units

def isDot (buffer : List Char) : Bool := isSingleDot buffer || isDoubleDot buffer

/-- The units of segments and of the slashes before them. -/
def cost (path : List (List Char)) : ℕ := (path.map fun segment => 1 + units segment).sum

section Segments

variable {caret : Bool} {path : List Char}

theorem head_pathText (segs : List (List Char)) : ∀ c ∈ (pathText segs).head?, c = '/' := by
  cases segs with
  | nil => simp [pathText]
  | cons segment segs => simp [pathText]

theorem units_pathText (segs : List (List Char)) : units (pathText segs) = cost segs := by
  induction segs with
  | nil => rfl
  | cons segment segs ih =>
      have hcons : pathText (segment :: segs) = '/' :: (segment ++ pathText segs) := by
        simp [pathText]
      have hhead : ∀ c ∈ (pathText segs).head?, isHex c = false := by
        intro c hc
        obtain rfl := head_pathText segs c hc
        decide
      rw [hcons, units_cons (by decide), units_append hhead, ih]
      simp [cost]
      omega

theorem pathText_splitOnP (caret : Bool) (s : List Char) :
    pathText ((s.splitOnP isSlash).map (encode caret)) = '/' :: full caret s := by
  induction s with
  | nil => rfl
  | cons c s ih =>
      cases hslash : isSlash c with
      | true =>
          rw [Words.splitOnP_cons_of_sep hslash, full_cons, hslash, if_pos rfl]
          simpa [pathText, encode] using ih
      | false =>
          obtain ⟨w, ws, hs, hcons⟩ := Words.splitOnP_cons_of_not hslash s
          rw [hs] at ih
          rw [hcons, full_cons, hslash, if_neg Bool.false_ne_true]
          simp only [pathText, List.map_cons, List.flatMap_cons, List.cons_append, List.cons.injEq,
            true_and] at ih ⊢
          rw [← ih]
          simp [encode]

/-- The path in the standard's encoding is that of its segments. -/
theorem pathText_segments (caret : Bool) (hpath : path.head? = some '/') :
    pathText ((segments path).map (encode caret)) = full caret path := by
  obtain ⟨rest, rfl⟩ := List.head?_eq_some_iff.mp hpath
  have hfirst : ('/' :: rest).head?.any isSlash = true := rfl
  rw [segments, if_pos hfirst, List.drop_succ_cons, List.drop_zero, pathText_splitOnP, full_slash]

theorem cost_append (path path' : List (List Char)) : cost (path ++ path') = cost path + cost path' := by
  simp [cost]

theorem cost_dropLast (path : List (List Char)) : cost path.dropLast ≤ cost path := by
  cases path using List.reverseRecOn with
  | nil => simp
  | append_singleton path segment =>
      rw [List.dropLast_concat, cost_append]
      omega

theorem units_of_dot {buffer : List Char} (h : isDot buffer = true) : 1 ≤ units buffer := by
  apply units_pos
  rintro rfl
  exact absurd h (by decide)

theorem addSegment_plain {path : List (List Char)} {buffer : List Char} (last : Bool)
    (h : isDot buffer = false) : addSegment path buffer last = path ++ [buffer] := by
  obtain ⟨hsingle, hdouble⟩ := Bool.or_eq_false_iff.mp h
  rw [addSegment, hdouble, hsingle, if_neg Bool.false_ne_true, if_neg Bool.false_ne_true]

theorem addSegment_dot (path : List (List Char)) {buffer : List Char} (last : Bool)
    (h : isDot buffer = true) :
    cost (addSegment path buffer last) < cost path + (1 + units buffer) := by
  have hunits := units_of_dot h
  have hdrop := cost_dropLast path
  have hempty : cost [[]] = 1 := rfl
  rw [addSegment]
  split
  · split
    · rw [cost_append, hempty]
      omega
    · omega
  · split
    · split
      · rw [cost_append, hempty]
        omega
      · omega
    · next hdouble hsingle => simp [isDot, hdouble, hsingle] at h

theorem addSegment_le (path : List (List Char)) (buffer : List Char) (last : Bool) :
    cost (addSegment path buffer last) ≤ cost path + (1 + units buffer) := by
  cases h : isDot buffer with
  | true => exact (addSegment_dot path last h).le
  | false =>
      rw [addSegment_plain last h, cost_append]
      rfl

theorem addSegments_cons (path : List (List Char)) (segment : List Char) (rest : List (List Char)) :
    addSegments caret path (segment :: rest) =
      addSegments caret (addSegment path (encode caret segment) rest.isEmpty) rest := by
  cases rest <;> rfl

theorem addSegments_le (caret : Bool) (path segs : List (List Char)) :
    cost (addSegments caret path segs) ≤ cost path + cost (segs.map (encode caret)) := by
  induction segs generalizing path with
  | nil => simp [addSegments, cost]
  | cons segment rest ih =>
      rw [addSegments_cons]
      have hrest := ih (addSegment path (encode caret segment) rest.isEmpty)
      have hsegment := addSegment_le path (encode caret segment) rest.isEmpty
      have hcost : cost ((segment :: rest).map (encode caret)) =
          1 + units (encode caret segment) + cost (rest.map (encode caret)) := by
        simp [cost]
      omega

/-- A dot segment takes units away. -/
theorem addSegments_dot (path : List (List Char)) {segs : List (List Char)}
    (h : ∃ segment ∈ segs, isDot (encode caret segment) = true) :
    cost (addSegments caret path segs) < cost path + cost (segs.map (encode caret)) := by
  induction segs generalizing path with
  | nil => simp at h
  | cons segment rest ih =>
      rw [addSegments_cons]
      have hcost : cost ((segment :: rest).map (encode caret)) =
          1 + units (encode caret segment) + cost (rest.map (encode caret)) := by
        simp [cost]
      have hrest := addSegments_le caret
        (addSegment path (encode caret segment) rest.isEmpty) rest
      have hsegment := addSegment_le path (encode caret segment) rest.isEmpty
      obtain ⟨s, hs, hdot⟩ := h
      obtain rfl | hs := List.mem_cons.mp hs
      · have := addSegment_dot path rest.isEmpty hdot
        omega
      · have := ih (addSegment path (encode caret segment) rest.isEmpty) ⟨s, hs, hdot⟩
        omega

theorem addSegments_plain (path : List (List Char)) {segs : List (List Char)}
    (h : ∀ segment ∈ segs, isDot (encode caret segment) = false) :
    addSegments caret path segs = path ++ segs.map (encode caret) := by
  induction segs generalizing path with
  | nil => simp [addSegments]
  | cons segment rest ih =>
      have ⟨hsegment, hrest⟩ := List.forall_mem_cons.mp h
      rw [addSegments_cons, ih _ hrest, addSegment_plain _ hsegment]
      simp

end Segments

section Paths

variable {caret : Bool} {path tail : List Char} {bytes : List ℕ}

/-- What is dropped at the end of a path are spaces, each of which is a unit. -/
theorem units_kept (caret : Bool) (tail : List Char) (hpath : ∀ c ∈ path, 32 ≤ c.toNat) :
    units (full caret (kept path tail)) ≤ units (full caret path) ∧
      (kept path tail ≠ path →
        units (full caret (kept path tail)) < units (full caret path)) := by
  obtain ⟨dropped, hsplit, hdropped⟩ : ∃ dropped, kept path tail ++ dropped = path ∧
      ∀ c ∈ dropped, isSpace c = true := by
    rw [kept]
    split
    · exact ⟨path.rtakeWhile isSpace, List.rdropWhile_append_rtakeWhile,
        fun c hc => List.mem_rtakeWhile_imp hc⟩
    · exact ⟨[], by simp, by simp⟩
  have hfull : full caret path = full caret (kept path tail) ++ full caret dropped := by
    have happend : full caret (kept path tail ++ dropped) =
        full caret (kept path tail) ++ full caret dropped := List.flatMap_append
    rwa [hsplit] at happend
  cases dropped with
  | nil =>
      rw [List.append_nil] at hsplit
      rw [hsplit]
      exact ⟨le_rfl, fun hne => absurd rfl hne⟩
  | cons c dropped =>
      have hspace : c = ' ' := by
        have hlow : c.toNat ≤ 32 := by simpa [isSpace] using hdropped c List.mem_cons_self
        have hhigh : 32 ≤ c.toNat := hpath c (by rw [← hsplit]; simp)
        rw [← Char.ofNat_toNat c, show c.toNat = 32 by omega]
      subst hspace
      have hencodes : encodes caret ' ' = true := by cases caret <;> decide
      have hcons : full caret (' ' :: dropped) = '%' :: '2' :: '0' :: full caret dropped := by
        rw [full_cons, if_neg (by decide), encodeChar, if_pos hencodes]
        rfl
      have hunits : units (full caret path) =
          units (full caret (kept path tail)) + (1 + units (full caret dropped)) := by
        rw [hfull, hcons, units_append (by simp [isHex, hexDigit, isDigit]),
          units_escape (by decide) (by decide)]
      omega

/-- Where Go and the standard write a path alike. -/
theorem pathText_eq_iff (caret : Bool) (tail : List Char) (h : Unescapes .path path bytes)
    (hbegins : path.head? = some '/') (hpath : ∀ c ∈ path, 32 ≤ c.toNat) :
    pathText (parsePath caret (kept path tail)) = escape .path bytes ↔
      kept path tail = path ∧
        (∀ segment ∈ segments path, isDot (encode caret segment) = false) ∧
        alike caret path = true := by
  have hunits := units_escape_eq caret h
  have ⟨hle, hlt⟩ := units_kept caret tail hpath
  have hsegments (p : List Char) (hp : p.head? = some '/') :
      cost ((segments p).map (encode caret)) = units (full caret p) := by
    rw [← units_pathText, pathText_segments caret hp]
  have hempty : cost [] = 0 := rfl
  constructor
  · intro heq
    have hwritten := units_pathText (parsePath caret (kept path tail))
    rw [heq, hunits] at hwritten
    have hmost := addSegments_le caret [] (segments (kept path tail))
    have hkept : kept path tail = path := by
      by_contra hne
      have := hlt hne
      have := hsegments _ (kept_begins tail hbegins)
      rw [parsePath] at hwritten
      omega
    rw [hkept] at heq hwritten
    have hplain : ∀ segment ∈ segments path, isDot (encode caret segment) = false := by
      intro segment hsegment
      by_contra hdot
      have := addSegments_dot [] ⟨segment, hsegment, by simpa using hdot⟩
      have := hsegments _ hbegins
      rw [parsePath] at hwritten
      omega
    refine ⟨hkept, hplain, ?_⟩
    rw [parsePath, addSegments_plain [] hplain, List.nil_append,
      pathText_segments caret hbegins] at heq
    exact (escape_eq_full h).mp heq.symm
  · rintro ⟨hkept, hplain, halike⟩
    rw [hkept, parsePath, addSegments_plain [] hplain, List.nil_append,
      pathText_segments caret hbegins]
    exact ((escape_eq_full h).mpr halike).symm

end Paths

end IdentityModel.HtuPaths
