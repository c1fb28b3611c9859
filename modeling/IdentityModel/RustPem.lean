import IdentityModel.Base64Padded
import IdentityModel.FormsRoundTrip
import IdentityModel.RustJwksClient

/-!
# PEM blocks in Rust

`pem_encode` and `pem_decode` of `dpop/key.rs`. The padded engine of the `base64` crate and the debug
form of a string are parameters. Positions in a string are those between its characters.
-/
namespace IdentityModel.RustPem

open Forms RustJwks

/-- `BASE64_PAD`, with the text of what it rejects, and the debug form of a string. -/
structure Library where
  encode : List UInt8 → String
  decode : List UInt8 → Except String (List UInt8)
  debug : String → String

/-- `str::as_bytes`. -/
def asBytes (s : List Char) : List UInt8 := s.flatMap String.utf8EncodeChar

/-- `str::from_utf8`, where it succeeds: the string whose bytes they are. -/
def fromUtf8 (bytes : List UInt8) : Option (List Char) :=
  let s := decodeUtf8 (bytes.map UInt8.toNat)
  if asBytes s = bytes then some s else none

/-- `slice::chunks`, of a positive size. -/
def chunks {α : Type} (size : ℕ) : List α → List (List α)
  | [] => []
  | x :: l => (x :: l.take (size - 1)) :: chunks size (l.drop (size - 1))
termination_by l => l.length
decreasing_by
  rw [List.length_drop, List.length_cons]
  omega

/-- `str::find`: the first position at which a string occurs. -/
def find (pattern : List Char) : List Char → Option ℕ
  | [] => if pattern = [] then some 0 else none
  | c :: s => if pattern.isPrefixOf (c :: s) then some 0 else (find pattern s).map (· + 1)

/-- `pem_encode`. -/
def pemEncode (lib : Library) (label : String) (der : List UInt8) : String :=
  let body := lib.encode der
  let lines := (chunks 64 (asBytes body.toList)).flatMap fun line =>
    (fromUtf8 line).getD [] ++ ['\n']
  "-----BEGIN " ++ label ++ "-----\n" ++ String.ofList lines ++ "-----END " ++ label ++ "-----\n"

/-- The two markers of a label. -/
def beginMarker (label : String) : String := "-----BEGIN " ++ label ++ "-----"

def endMarker (label : String) : String := "-----END " ++ label ++ "-----"

/-- `pem_decode`. -/
def pemDecode (lib : Library) (pem label : String) : Except IdentityError (List UInt8) :=
  match find (beginMarker label).toList pem.toList with
  | none =>
      .error (.validation ("PEM input has no " ++ lib.debug (beginMarker label) ++ " block"))
  | some start =>
      let bodyStart := start + (beginMarker label).toList.length
      match find (endMarker label).toList (pem.toList.drop bodyStart) with
      | none => .error (.validation ("PEM block is missing " ++ lib.debug (endMarker label)))
      | some length =>
          let body := ((pem.toList.drop bodyStart).take length).filter fun c => !isWhitespace c
          (lib.decode (asBytes body)).mapError fun e =>
            .validation ("PEM body is not valid base64: " ++ e)

/-- The engine writes padded Base64 of the standard alphabet, and reads what it writes. -/
structure Library.Standard (lib : Library) : Prop where
  encode : ∀ octets, (lib.encode octets).toList = Base64.Padded.encode octets
  decode : ∀ octets, lib.decode (asBytes (lib.encode octets).toList) = .ok octets

section Chunks

variable {α β : Type} {size : ℕ}

theorem flatten_chunks (size : ℕ) (l : List α) : (chunks size l).flatten = l := by
  induction l using chunks.induct size with
  | case1 => rw [chunks, List.flatten_nil]
  | case2 x l ih => rw [chunks, List.flatten_cons, ih, List.cons_append, List.take_append_drop]

theorem length_le_of_mem_chunks (hsize : 0 < size) (l : List α) :
    ∀ chunk ∈ chunks size l, chunk.length ≤ size := by
  induction l using chunks.induct size with
  | case1 =>
      rw [chunks]
      exact fun chunk hchunk => absurd hchunk List.not_mem_nil
  | case2 x l ih =>
      rw [chunks]
      refine List.forall_mem_cons.mpr ⟨?_, ih⟩
      have htake := List.length_take_le (size - 1) l
      rw [List.length_cons]
      omega

theorem chunks_map (size : ℕ) (f : α → β) (l : List α) :
    chunks size (l.map f) = (chunks size l).map (List.map f) := by
  induction l using chunks.induct size with
  | case1 => rw [List.map_nil, chunks, chunks, List.map_nil]
  | case2 x l ih =>
      rw [List.map_cons, chunks, chunks, List.map_cons, List.map_cons, ← List.map_take,
        ← List.map_drop, ih]

end Chunks

theorem fromUtf8_asBytes (s : List Char) : fromUtf8 (asBytes s) = some s := by
  have hdecode : decodeUtf8 ((asBytes s).map UInt8.toNat) = s := decodeUtf8_octets s
  unfold fromUtf8
  rw [hdecode]
  exact if_pos rfl

/-- The byte of a character of ASCII. -/
def asciiByte (c : Char) : UInt8 := UInt8.ofNat c.toNat

theorem asBytes_ascii {s : List Char} (h : ∀ c ∈ s, Url.isAscii c = true) :
    asBytes s = s.map asciiByte := by
  apply List.map_injective_iff.mpr fun a b => UInt8.toNat_inj.mp
  rw [asBytes, List.map_flatMap, List.map_map]
  refine (encodeUtf8_ascii h).trans (List.map_congr_left fun c hc => ?_)
  have hlt : c.toNat < 128 := by simpa [Url.isAscii] using h c hc
  rw [Function.comp_apply, asciiByte, UInt8.toNat_ofNat', Nat.mod_eq_of_lt (by omega)]

/-- The lines of a text of ASCII are its chunks. -/
theorem lines_ascii {s : List Char} (h : ∀ c ∈ s, Url.isAscii c = true) (size : ℕ) :
    (chunks size (asBytes s)).map (fun line => (fromUtf8 line).getD []) = chunks size s := by
  rw [asBytes_ascii h, chunks_map, List.map_map]
  refine (List.map_congr_left fun chunk hchunk => ?_).trans (List.map_id _)
  have hascii : ∀ c ∈ chunk, Url.isAscii c = true := by
    intro c hc
    apply h
    rw [← flatten_chunks size s]
    exact List.mem_flatten_of_mem hchunk hc
  rw [Function.comp_apply, ← asBytes_ascii hascii, fromUtf8_asBytes]
  rfl

/-- A pattern is found behind a text without its first character. -/
theorem find_of_not_mem {c : Char} {s : List Char} (h : c ∉ s) (pattern t : List Char) :
    find (c :: pattern) (s ++ (c :: pattern ++ t)) = some s.length := by
  induction s with
  | nil =>
      have hprefix : (c :: pattern).isPrefixOf (c :: (pattern ++ t)) = true :=
        List.isPrefixOf_iff_prefix.mpr (List.prefix_append (c :: pattern) t)
      rw [List.nil_append, List.cons_append, find, if_pos hprefix]
      rfl
  | cons x s ih =>
      have hne : c ≠ x := fun hx => h (by simp [hx])
      have hprefix : (c :: pattern).isPrefixOf (x :: (s ++ (c :: pattern ++ t))) = false := by
        rw [List.isPrefixOf, beq_false_of_ne hne, Bool.false_and]
      rw [List.cons_append, find, hprefix, if_neg Bool.false_ne_true,
        ih fun hs => h (List.mem_cons_of_mem x hs)]
      rfl

section RoundTrip

/-- The lines of a body, each with its line break. -/
def wrapped (body : List Char) : List Char := (chunks 64 body).flatMap fun line => line ++ ['\n']

/-- What the encoder writes is neither whitespace nor a hyphen. -/
theorem encode_chars (der : List UInt8) : ∀ c ∈ Base64.Padded.encode der,
    Url.isAscii c = true ∧ isWhitespace c = false ∧ c ≠ '-' ∧ c ≠ '\n' := by
  have hall : ('=' :: Base64.Padded.alphabet).all (fun c =>
      Url.isAscii c && !isWhitespace c && c ≠ '-' && c ≠ '\n') = true := by decide
  intro c hc
  have hchar := List.all_eq_true.mp hall c (Base64.Padded.mem_encode der c hc)
  simpa only [Bool.and_eq_true, Bool.not_eq_true', decide_eq_true_eq, and_assoc] using hchar

/-- Without whitespace, a wrapped body is the body. -/
theorem filter_wrapped {body : List Char} (h : ∀ c ∈ body, isWhitespace c = false) :
    (wrapped body).filter (fun c => !isWhitespace c) = body := by
  have hline : ∀ line ∈ chunks 64 body,
      (line ++ ['\n']).filter (fun c => !isWhitespace c) = line := by
    intro line hline
    have hkept : line.filter (fun c => !isWhitespace c) = line := by
      apply List.filter_eq_self.mpr
      intro c hc
      rw [h c (by rw [← flatten_chunks 64 body]; exact List.mem_flatten_of_mem hline hc)]
      rfl
    rw [List.filter_append, hkept]
    exact List.append_nil line
  rw [wrapped, List.filter_flatMap, List.flatMap_congr hline, List.flatMap_id', flatten_chunks]

theorem not_mem_wrapped {body : List Char} (h : '-' ∉ body) : '-' ∉ wrapped body := by
  intro hmem
  obtain ⟨line, hline, hc⟩ := List.mem_flatMap.mp hmem
  obtain hc | hc := List.mem_append.mp hc
  · apply h
    rw [← flatten_chunks 64 body]
    exact List.mem_flatten_of_mem hline hc
  · exact absurd (List.mem_singleton.mp hc) (by decide)

/-- Both markers begin with a hyphen. -/
theorem exists_beginMarker (label : String) : ∃ rest, (beginMarker label).toList = '-' :: rest := by
  rw [beginMarker, String.toList_append, String.toList_append, List.append_assoc]
  exact ⟨_, rfl⟩

theorem exists_endMarker (label : String) : ∃ rest, (endMarker label).toList = '-' :: rest := by
  rw [endMarker, String.toList_append, String.toList_append, List.append_assoc]
  exact ⟨_, rfl⟩

variable {lib : Library}

theorem toList_pemEncode (hlib : lib.Standard) (label : String) (der : List UInt8) :
    (pemEncode lib label der).toList = (beginMarker label).toList ++ '\n' ::
      (wrapped (Base64.Padded.encode der) ++ ((endMarker label).toList ++ ['\n'])) := by
  have hlines : (chunks 64 (asBytes (lib.encode der).toList)).flatMap
      (fun line => (fromUtf8 line).getD [] ++ ['\n']) = wrapped (Base64.Padded.encode der) := by
    rw [hlib.encode, wrapped, ← lines_ascii fun c hc => (encode_chars der c hc).1, List.flatMap_map]
  have hbreak : "-----\n".toList = "-----".toList ++ ['\n'] := by decide
  rw [pemEncode, hlines]
  simp only [String.toList_append, String.toList_ofList, beginMarker, endMarker, hbreak,
    List.append_assoc, List.cons_append, List.nil_append]

/-- The decoder reads between the markers. -/
theorem pemDecode_of_toList {pem label : String} {body rest : List Char}
    (hpem : pem.toList = (beginMarker label).toList ++ (body ++ ((endMarker label).toList ++ rest)))
    (hbody : '-' ∉ body) :
    pemDecode lib pem label =
      (lib.decode (asBytes (body.filter fun c => !isWhitespace c))).mapError fun e =>
        .validation ("PEM body is not valid base64: " ++ e) := by
  have hstart : find (beginMarker label).toList pem.toList = some 0 := by
    obtain ⟨pattern, hpattern⟩ := exists_beginMarker label
    rw [hpem, hpattern]
    exact find_of_not_mem (s := []) List.not_mem_nil pattern _
  have hdrop : pem.toList.drop (0 + (beginMarker label).toList.length) =
      body ++ ((endMarker label).toList ++ rest) := by
    rw [Nat.zero_add, hpem, List.drop_left]
  have hend : find (endMarker label).toList (body ++ ((endMarker label).toList ++ rest)) =
      some body.length := by
    obtain ⟨pattern, hpattern⟩ := exists_endMarker label
    rw [hpattern]
    exact find_of_not_mem hbody pattern rest
  rw [pemDecode, hstart]
  dsimp only
  rw [hdrop, hend]
  dsimp only
  rw [List.take_left]

end RoundTrip

/-- What is encoded under a label is decoded under it, and no line of the body is longer than 64
characters. -/
theorem pem_round_trips (lib : Library) (hlib : lib.Standard) (label : String) (der : List UInt8) :
    pemDecode lib (pemEncode lib label der) label = .ok der ∧
      ∃ lines : List (List Char),
        (pemEncode lib label der).toList = (beginMarker label).toList ++ '\n' ::
          (lines.flatMap (fun line => line ++ ['\n']) ++ ((endMarker label).toList ++ ['\n'])) ∧
        lines.flatten = (lib.encode der).toList ∧
        ∀ line ∈ lines, line.length ≤ 64 ∧ '\n' ∉ line := by
  have hchars := encode_chars der
  have hpem := toList_pemEncode hlib label der
  constructor
  · have hhyphen : '-' ∉ '\n' :: wrapped (Base64.Padded.encode der) := by
      refine List.not_mem_cons_of_ne_of_not_mem (by decide) (not_mem_wrapped fun h => ?_)
      exact (hchars _ h).2.2.1 rfl
    have hbody : ('\n' :: wrapped (Base64.Padded.encode der)).filter (fun c => !isWhitespace c) =
        (lib.encode der).toList := by
      rw [List.filter_cons_of_neg (by decide), filter_wrapped fun c hc => (hchars c hc).2.1,
        hlib.encode]
    rw [pemDecode_of_toList (by rw [hpem, List.cons_append]) hhyphen, hbody, hlib.decode]
    rfl
  · refine ⟨chunks 64 (Base64.Padded.encode der), hpem, ?_, fun line hline => ⟨?_, fun hbreak => ?_⟩⟩
    · rw [flatten_chunks, hlib.encode]
    · exact length_le_of_mem_chunks (by decide) _ line hline
    · refine (hchars '\n' ?_).2.2.2 rfl
      rw [← flatten_chunks 64 (Base64.Padded.encode der)]
      exact List.mem_flatten_of_mem hline hbreak

/-- An engine that says nothing of what it rejects. -/
def plainLibrary : Library where
  encode octets := String.ofList (Base64.Padded.encode octets)
  decode bytes :=
    match (fromUtf8 bytes).bind Base64.Padded.decode? with
    | some octets => .ok octets
    | none => .error "Invalid input"
  debug s := "\"" ++ s ++ "\""

theorem plainLibrary_standard : plainLibrary.Standard where
  encode _ := String.toList_ofList
  decode octets := by
    simp only [plainLibrary, String.toList_ofList, fromUtf8_asBytes, Option.bind_some,
      Base64.Padded.decode?_encode]

/-- Fifty octets, which take a line and four characters more. -/
def sampleKey : List UInt8 := (List.range 50).map UInt8.ofNat

theorem pem_round_trips_sample :
    pemDecode plainLibrary (pemEncode plainLibrary "PRIVATE KEY" sampleKey) "PRIVATE KEY" = .ok sampleKey ∧
      ∃ lines : List (List Char),
        lines.flatten = (plainLibrary.encode sampleKey).toList ∧ 1 < lines.length ∧
          ∀ line ∈ lines, line.length ≤ 64 := by
  obtain ⟨hdecoded, lines, -, hflatten, hlines⟩ :=
    pem_round_trips plainLibrary plainLibrary_standard "PRIVATE KEY" sampleKey
  refine ⟨hdecoded, lines, hflatten, ?_, fun line hline => (hlines line hline).1⟩
  have hlong : lines.flatten.length = 68 := by
    rw [hflatten]
    decide +kernel
  obtain _ | ⟨line, _ | ⟨second, rest⟩⟩ := lines
  · cases hlong
  · have hshort := (hlines line List.mem_cons_self).1
    simp only [List.flatten_cons, List.flatten_nil, List.append_nil] at hlong
    omega
  · simp

end IdentityModel.RustPem
