import IdentityModel.Percent
import IdentityModel.UrlParts

/-!
# HTTP URLs of the URL standard

How an absolute URL with the scheme `http` or `https` is parsed and serialized, as far as
scheme, host, port and path are concerned. The host parser is a parameter.
-/
namespace IdentityModel.Whatwg

open Url Percent

/-- What a parser is left to choose: how it reads and writes hosts, and whether it encodes a
caret in a path, as newer versions of the standard do. A host is written in ASCII, and colons
stand in brackets. -/
structure Setting where
  host : List Char → Option (List Char)
  caret : Bool
  host_ascii : ∀ h s, host h = some s → ∀ c ∈ s, c.toNat < 128 ∧ c ≠ '%' ∧ c ≠ '/'
  host_colon : ∀ h s, host h = some s → ':' ∈ s → s.getLast? = some ']'

structure Url where
  scheme : List Char
  host : List Char
  port : Option ℕ
  path : List (List Char)
  deriving DecidableEq, Repr

/-- The path percent-encode set. -/
def encodes (caret : Bool) (c : Char) : Bool :=
  c.toNat < 32 || 126 < c.toNat || c ∈ [' ', '"', '#', '<', '>', '?', '`', '\x7b', '\x7d'] ||
    (caret && c = '^')

def encodeChar (caret : Bool) (c : Char) : List Char :=
  if encodes caret c then escapeChar c else [c]

def encode (caret : Bool) (s : List Char) : List Char := s.flatMap (encodeChar caret)

def isSlash (c : Char) : Bool := c = '/' || c = '\\'

def isSingleDot (buffer : List Char) : Bool := String.ofList (buffer.map asciiLower) ∈ [".", "%2e"]

def isDoubleDot (buffer : List Char) : Bool :=
  String.ofList (buffer.map asciiLower) ∈ ["..", ".%2e", "%2e.", "%2e%2e"]

/-- The end of a segment, which may be the last. -/
def addSegment (path : List (List Char)) (buffer : List Char) (last : Bool) : List (List Char) :=
  if isDoubleDot buffer then if last then path.dropLast ++ [[]] else path.dropLast
  else if isSingleDot buffer then if last then path ++ [[]] else path
  else path ++ [buffer]

def addSegments (caret : Bool) (path : List (List Char)) : List (List Char) → List (List Char)
  | [] => path
  | [segment] => addSegment path (encode caret segment) true
  | segment :: rest => addSegments caret (addSegment path (encode caret segment) false) rest

/-- The segments of a path, which its slashes begin. -/
def segments (path : List Char) : List (List Char) :=
  (if path.head?.any isSlash then path.drop 1 else path).splitOnP isSlash

def parsePath (caret : Bool) (path : List Char) : List (List Char) :=
  addSegments caret [] (segments path)

/-- The host and what follows the first colon outside of brackets. -/
def splitPort : Bool → List Char → List Char × Option (List Char)
  | _, [] => ([], none)
  | inside, c :: rest =>
      if c = ':' && !inside then ([], some rest)
      else
        let r := splitPort (if c = '[' then true else if c = ']' then false else inside) rest
        (c :: r.1, r.2)

def defaultPort (scheme : List Char) : ℕ := if scheme = ['h', 't', 't', 'p'] then 80 else 443

def portValue (digits : List Char) : ℕ := digits.foldl (fun n c => 10 * n + (c.toNat - 48)) 0

/-- No port is the port of the scheme. -/
def parsePort (scheme digits : List Char) : Option (Option ℕ) :=
  if digits.all isDigit && portValue digits ≤ 65535 then
    some (if digits = [] ∨ portValue digits = defaultPort scheme then none
      else some (portValue digits))
  else none

def parseAuthority (set : Setting) (scheme authority : List Char) :
    Option (List Char × Option ℕ) := do
  let r := splitPort false (afterLast '@' authority)
  if r.1 = [] then none
  else
    let host ← set.host r.1
    let port ← match r.2 with
      | some digits => parsePort scheme digits
      | none => some none
    return (host, port)

def isSpace (c : Char) : Bool := c.toNat ≤ 32

/-- Leading and trailing spaces and control characters are dropped, then tabs and newlines. -/
def clean (input : List Char) : List Char :=
  ((input.dropWhile isSpace).rdropWhile isSpace).filter fun c =>
    c ≠ '\t' && c ≠ '\n' && c ≠ '\r'

def isHttp (scheme : List Char) : Bool :=
  scheme.map asciiLower ∈ [['h', 't', 't', 'p'], ['h', 't', 't', 'p', 's']]

/-- A URL of another scheme is none here. -/
def parse (set : Setting) (input : List Char) : Option Url :=
  match partition ':' (clean input) with
  | (scheme, some rest) =>
      if isHttp scheme then
        let scheme := scheme.map asciiLower
        let rest := rest.dropWhile isSlash
        let ends (c : Char) : Bool := isSlash c || c = '?' || c = '#'
        let path := (rest.dropWhile fun c => !ends c).takeWhile fun c => c ≠ '?' && c ≠ '#'
        (parseAuthority set scheme (rest.takeWhile fun c => !ends c)).map fun r =>
          ⟨scheme, r.1, r.2, parsePath set.caret path⟩
      else none
  | (_, none) => none

/-- The port as it is written after a host. -/
def portText : Option ℕ → List Char
  | some port => ':' :: (Nat.repr port).toList
  | none => []

def pathText (path : List (List Char)) : List Char := path.flatMap fun segment => '/' :: segment

/-- A URL without credentials, query and fragment. -/
def Url.serialize (u : Url) : List Char :=
  u.scheme ++ [':', '/', '/'] ++ u.host ++ portText u.port ++ pathText u.path

/-- A URI that is a scheme, an authority, a path and what follows the path. -/
structure Parts (uri scheme authority path tail : List Char) : Prop where
  text : uri = scheme ++ ':' :: '/' :: '/' :: (authority ++ (path ++ tail))
  scheme_chars : ∀ c ∈ scheme, 32 < c.toNat ∧ c ≠ ':'
  scheme_ne : scheme ≠ []
  authority_chars : ∀ c ∈ authority, 32 ≤ c.toNat ∧ c ≠ '/' ∧ c ≠ '\\' ∧ c ≠ '?' ∧ c ≠ '#'
  authority_ne : authority ≠ []
  path_chars : ∀ c ∈ path, 32 ≤ c.toNat ∧ c ≠ '?' ∧ c ≠ '#'
  path_begins : path.head? = some '/'
  tail_begins : ∀ c ∈ tail.head?, c = '?' ∨ c = '#'

def schemeOf (uri : List Char) : List Char := (partition ':' uri).1

/-- What follows `://`. -/
def hierOf (uri : List Char) : List Char := ((partition ':' uri).2.getD []).drop 2

def authorityOf (uri : List Char) : List Char :=
  (hierOf uri).takeWhile fun c => c ≠ '/' && c ≠ '?' && c ≠ '#'

def pathOf (uri : List Char) : List Char :=
  ((hierOf uri).dropWhile fun c => c ≠ '/' && c ≠ '?' && c ≠ '#').takeWhile fun c =>
    c ≠ '?' && c ≠ '#'

/-- The query and the fragment. -/
def tailOf (uri : List Char) : List Char :=
  (hierOf uri).dropWhile fun c => c ≠ '?' && c ≠ '#'

/-- The path as far as it is not dropped at the end of the input. -/
def kept (path tail : List Char) : List Char :=
  if tail = [] then path.rdropWhile isSpace else path

section Parts

variable {uri scheme authority path tail : List Char}

theorem rdropWhile_append (l t : List Char) {c : Char} (hc : isSpace c = false) :
    (l ++ c :: t).rdropWhile isSpace = l ++ (c :: t).rdropWhile isSpace := by
  have hne : ((c :: t).reverse.dropWhile isSpace).isEmpty = false := by
    rw [List.isEmpty_eq_false_iff, ne_eq, List.dropWhile_eq_nil_iff]
    intro hall
    have := hall c (by simp)
    rw [hc] at this
    cases this
  rw [List.rdropWhile, List.reverse_append, List.dropWhile_append, hne,
    if_neg Bool.false_ne_true, List.reverse_append, List.reverse_reverse, List.rdropWhile]

theorem rdropWhile_head (t : List Char) {c : Char} (hc : isSpace c = false) :
    ((c :: t).rdropWhile isSpace).head? = some c := by
  have hcons := rdropWhile_append [] t hc
  obtain ⟨dropped, hdropped⟩ := List.rdropWhile_prefix isSpace (c :: t)
  cases hkept : (c :: t).rdropWhile isSpace with
  | nil =>
      have hall := List.rdropWhile_eq_nil_iff.mp hkept c List.mem_cons_self
      rw [hc] at hall
      cases hall
  | cons x kept =>
      rw [hkept, List.cons_append] at hdropped
      rw [(List.cons.inj hdropped).1, List.head?_cons]

theorem kept_begins (tail : List Char) (hpath : path.head? = some '/') :
    (kept path tail).head? = some '/' := by
  rw [kept]
  split
  · cases path with
    | nil => cases hpath
    | cons c path =>
        obtain rfl := Option.some.inj hpath
        exact rdropWhile_head path (by decide)
  · exact hpath

theorem mem_kept {c : Char} (hc : c ∈ kept path tail) : c ∈ path := by
  rw [kept] at hc
  split at hc
  · exact (List.rdropWhile_prefix isSpace path).subset hc
  · exact hc

theorem filter_clean {s : List Char} (h : ∀ c ∈ s, 32 ≤ c.toNat) :
    (s.filter fun c => c ≠ '\t' && c ≠ '\n' && c ≠ '\r') = s := by
  rw [List.filter_eq_self]
  intro c hc
  have hle := h c hc
  simp only [ne_eq, Bool.and_eq_true, decide_eq_true_eq]
  refine ⟨⟨?_, ?_⟩, ?_⟩
  · rintro rfl
    exact absurd hle (by decide)
  · rintro rfl
    exact absurd hle (by decide)
  · rintro rfl
    exact absurd hle (by decide)

/-- Cleaning leaves the parts up to the path alone, but for the end of the path. -/
theorem clean_parts (h : Parts uri scheme authority path tail) :
    ∃ tail', clean uri = scheme ++ ':' :: '/' :: '/' :: (authority ++ (kept path tail ++ tail')) ∧
      ∀ c ∈ tail'.head?, c = '?' ∨ c = '#' := by
  have hstart : uri.dropWhile isSpace = uri := by
    obtain ⟨c, s, hs⟩ := List.exists_cons_of_ne_nil h.scheme_ne
    have hc := (h.scheme_chars c (by simp [hs])).1
    have hspace : isSpace c = false := by simpa [isSpace] using hc
    rw [h.text, hs, List.cons_append, List.dropWhile_cons, hspace, if_neg Bool.false_ne_true]
  have hpre (t : List Char) (ht : ∀ c ∈ t, 32 ≤ c.toNat) :
      ∀ c ∈ scheme ++ ':' :: '/' :: '/' :: (authority ++ t), 32 ≤ c.toNat := by
    intro c hc
    simp only [List.mem_append, List.mem_cons] at hc
    obtain hc | rfl | rfl | rfl | hc | hc := hc
    · exact (h.scheme_chars c hc).1.le
    · decide
    · decide
    · decide
    · exact (h.authority_chars c hc).1
    · exact ht c hc
  obtain ⟨p, hp⟩ := List.head?_eq_some_iff.mp h.path_begins
  rw [clean, hstart]
  cases htail : tail with
  | nil =>
      refine ⟨[], ?_, by simp⟩
      have hkept : kept path [] = path.rdropWhile isSpace := if_pos rfl
      have hdrop := rdropWhile_append (scheme ++ ':' :: '/' :: '/' :: authority) p
        (show isSpace '/' = false by decide)
      have hchars : ∀ c ∈ path.rdropWhile isSpace, 32 ≤ c.toNat := fun c hc =>
        (h.path_chars c ((List.rdropWhile_prefix isSpace path).subset hc)).1
      have huri : uri = scheme ++ ':' :: '/' :: '/' :: authority ++ '/' :: p := by
        rw [h.text, htail, hp]
        simp
      rw [huri, hdrop, ← hp, hkept, List.append_nil, List.append_assoc, List.cons_append,
        List.cons_append, List.cons_append]
      exact filter_clean (hpre _ hchars)
  | cons c t =>
      have hc := h.tail_begins c (by simp [htail])
      have hspace : isSpace c = false := by
        obtain rfl | rfl := hc <;> decide
      have hkept : kept path (c :: t) = path := if_neg (by simp)
      have hdrop := rdropWhile_append (scheme ++ ':' :: '/' :: '/' :: (authority ++ path)) t hspace
      have huri : uri = scheme ++ ':' :: '/' :: '/' :: (authority ++ path) ++ c :: t := by
        rw [h.text, htail]
        simp
      obtain ⟨t', ht'⟩ := List.head?_eq_some_iff.mp (rdropWhile_head t hspace)
      refine ⟨(c :: t').filter fun c => c ≠ '\t' && c ≠ '\n' && c ≠ '\r', ?_, ?_⟩
      · rw [huri, hdrop, ht', List.filter_append,
          filter_clean (hpre path fun c hc => (h.path_chars c hc).1), hkept]
        simp
      · have hfirst : ((c :: t').filter fun c => c ≠ '\t' && c ≠ '\n' && c ≠ '\r') =
            c :: t'.filter fun c => c ≠ '\t' && c ≠ '\n' && c ≠ '\r' := by
          obtain rfl | rfl := hc <;> rfl
        rw [hfirst]
        simpa using hc

/-- A text cut at its colon and slashes has these parts. -/
theorem parts_of_text (htext : uri = scheme ++ ':' :: '/' :: '/' :: (authority ++ (path ++ tail)))
    (hscheme : ':' ∉ scheme) (hauthority : ∀ c ∈ authority, c ≠ '/' ∧ c ≠ '?' ∧ c ≠ '#')
    (hpath : ∀ c ∈ path, c ≠ '?' ∧ c ≠ '#') (hbegins : ∀ c ∈ path.head?, c = '/')
    (htail : ∀ c ∈ tail.head?, c = '?' ∨ c = '#') :
    schemeOf uri = scheme ∧ authorityOf uri = authority ∧ pathOf uri = path ∧
      tailOf uri = tail := by
  have hhier : hierOf uri = authority ++ (path ++ tail) := by
    rw [hierOf, htext, partition_of_not_mem hscheme]
    rfl
  have hstop : ∀ c ∈ (path ++ tail).head?, (c ≠ '/' && c ≠ '?' && c ≠ '#') = false := by
    intro c hc
    cases path with
    | nil =>
        obtain rfl | rfl := htail c hc <;> rfl
    | cons x path =>
        obtain rfl := hbegins c hc
        rfl
  have htailStop : ∀ c ∈ tail.head?, (c ≠ '?' && c ≠ '#') = false := by
    intro c hc
    obtain rfl | rfl := htail c hc <;> rfl
  have hfirst := takeWhile_stop (p := fun c => c ≠ '/' && c ≠ '?' && c ≠ '#')
    (fun c hc => by simpa [and_assoc] using hauthority c hc) hstop
  have hsecond := takeWhile_stop (p := fun c => c ≠ '?' && c ≠ '#')
    (fun c hc => by simpa using hpath c hc) htailStop
  have hboth := takeWhile_stop (p := fun c => c ≠ '?' && c ≠ '#') (l := authority ++ path)
    (fun c hc => by
      obtain hc | hc := List.mem_append.mp hc
      · simpa using (hauthority c hc).2
      · simpa using hpath c hc) htailStop
  refine ⟨?_, ?_, ?_, ?_⟩
  · rw [schemeOf, htext, partition_of_not_mem hscheme]
  · rw [authorityOf, hhier, hfirst.1]
  · rw [pathOf, hhier, hfirst.2, hsecond.1]
  · rw [tailOf, hhier, ← List.append_assoc, hboth.2]

/-- How a URI in parts is read. -/
theorem parse_parts (set : Setting) (h : Parts uri scheme authority path tail)
    (hhttp : isHttp scheme = true) :
    parse set uri = (parseAuthority set (scheme.map asciiLower) authority).map fun r =>
      ⟨scheme.map asciiLower, r.1, r.2, parsePath set.caret (kept path tail)⟩ := by
  obtain ⟨tail', hclean, htail'⟩ := clean_parts h
  have hcolon : ':' ∉ scheme := fun hc => (h.scheme_chars ':' hc).2 rfl
  obtain ⟨k, hk⟩ := List.head?_eq_some_iff.mp (kept_begins tail h.path_begins)
  have hrest : ('/' :: '/' :: (authority ++ (kept path tail ++ tail'))).dropWhile isSlash =
      authority ++ (kept path tail ++ tail') := by
    obtain ⟨c, a, ha⟩ := List.exists_cons_of_ne_nil h.authority_ne
    have hc := h.authority_chars c (by simp [ha])
    have hslash : isSlash c = false := by simp [isSlash, hc.2.1, hc.2.2.1]
    rw [ha, List.dropWhile_cons_of_pos (by decide), List.dropWhile_cons_of_pos (by decide),
      List.cons_append, List.dropWhile_cons_of_neg (by simp [hslash])]
  have hauthority : ∀ c ∈ authority, (!(isSlash c || c = '?' || c = '#')) = true := by
    intro c hc
    have hchar := h.authority_chars c hc
    simp [isSlash, hchar]
  have hpath : ∀ c ∈ kept path tail, (c ≠ '?' && c ≠ '#') = true := by
    intro c hc
    simpa using (h.path_chars c (mem_kept hc)).2
  have htake : tail'.takeWhile (fun c => c ≠ '?' && c ≠ '#') = [] := by
    cases htail : tail' with
    | nil => rfl
    | cons c t =>
        rw [htail, List.head?_cons] at htail'
        obtain rfl | rfl := htail' c rfl <;> rfl
  rw [parse, hclean, partition_of_not_mem hcolon]
  simp only [hhttp, if_true, hrest]
  rw [List.takeWhile_append_of_pos hauthority, List.dropWhile_append_of_pos hauthority]
  have hslash : (kept path tail ++ tail').takeWhile
      (fun c => !(isSlash c || c = '?' || c = '#')) = [] := by
    rw [hk]
    rfl
  have hsame : (kept path tail ++ tail').dropWhile
      (fun c => !(isSlash c || c = '?' || c = '#')) = kept path tail ++ tail' := by
    rw [hk]
    rfl
  rw [hslash, hsame, List.takeWhile_append_of_pos hpath, htake, List.append_nil, List.append_nil]

end Parts

end IdentityModel.Whatwg
