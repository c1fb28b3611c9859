import IdentityModel.PyDpop
import IdentityModel.Results
import IdentityModel.UrlParts

/-!
# The `htu` of Python

`create_dpop_proof` rebuilds the `htu` from the parts of the request URI. It keeps the authority as
it stands: scheme, host, port, path and parameters come back from it, query and fragment do not, and
credentials in the URI are sent along.
-/
namespace IdentityModel.Py.Dpop

open Url Results

/-- The text is a URI without credentials, query and fragment, and of the same scheme, host, port
and path with its parameters. -/
def NamesResource (p : Platform) (parsed : Split) (htu : String) : Prop :=
  '?' ∉ htu.toList ∧ '#' ∉ htu.toList ∧
    ∃ after, urlparse p htu = .ok after ∧ '@' ∉ after.netloc ∧
      after.scheme = parsed.scheme ∧ afterLast '@' after.netloc = afterLast '@' parsed.netloc ∧
      splitParams after.path = splitParams parsed.path

section Params

variable {path : List Char}

/-- The path that is written: only an empty parameter part is lost. -/
def rejoined (path : List Char) : List Char :=
  if (splitParams path).2 = [] then (splitParams path).1
  else (splitParams path).1 ++ ';' :: (splitParams path).2

/-- A path whose last segment has no semicolon has no parameters. -/
theorem splitParams_plain (front last : List Char) (hslash : '/' ∉ last) (hsemi : ';' ∉ last)
    (hfront : front = [] ∨ ∃ init, front = init ++ ['/']) :
    splitParams (front ++ last) = (front ++ last, []) := by
  have hlast : afterLast '/' (front ++ last) = last := by
    obtain rfl | ⟨init, rfl⟩ := hfront
    · exact afterLast_of_not_mem hslash
    · rw [List.append_assoc]
      exact afterLast_append init hslash
  rw [splitParams, hlast, partition_whole hsemi]

/-- What is written is split as the path is; and it is the path, or the path without a semicolon at
its end. -/
theorem rejoined_spec (path : List Char) :
    splitParams (rejoined path) = splitParams path ∧
      (path = rejoined path ∨ path = rejoined path ++ [';']) := by
  obtain ⟨hslash, hcut⟩ := afterLast_spec '/' path
  obtain ⟨front, hpath, hfront⟩ : ∃ front, path = front ++ afterLast '/' path ∧
      (front = [] ∨ ∃ init, front = init ++ ['/']) := by
    obtain hwhole | ⟨init, hinit⟩ := hcut
    · exact ⟨[], hwhole, .inl rfl⟩
    · exact ⟨init ++ ['/'], by rw [List.append_assoc]; exact hinit, .inr ⟨init, rfl⟩⟩
  have htake : path.take (path.length - (afterLast '/' path).length) = front := by
    have hlength := congrArg List.length hpath
    rw [List.length_append] at hlength
    rw [show path.length - (afterLast '/' path).length = front.length by omega]
    conv_lhs => rw [hpath]
    exact List.take_left' rfl
  obtain ⟨hsemi, hlast⟩ := partition_cases ';' (afterLast '/' path)
  cases hparams : (partition ';' (afterLast '/' path)).2 with
  | none =>
      have hsplit : splitParams path = (path, []) := by
        simp only [splitParams, hparams]
      rw [rejoined, hsplit, if_pos rfl, hsplit]
      exact ⟨rfl, .inl rfl⟩
  | some params =>
      rw [hparams] at hlast
      have hsplit : splitParams path =
          (front ++ (partition ';' (afterLast '/' path)).1, params) := by
        simp only [splitParams, hparams, htake]
      have hwhole : path =
          front ++ (partition ';' (afterLast '/' path)).1 ++ ';' :: params := by
        rw [List.append_assoc, ← hlast]
        exact hpath
      by_cases hempty : params = []
      · have hplain := splitParams_plain front (partition ';' (afterLast '/' path)).1
          (fun hmem => hslash (by rw [hlast]; exact List.mem_append_left _ hmem)) hsemi hfront
        rw [rejoined, hsplit, if_pos hempty, hplain, hempty]
        rw [hempty] at hwhole
        exact ⟨rfl, .inr hwhole⟩
      · have hsame : rejoined path = path := by
          rw [rejoined, hsplit, if_neg hempty]
          exact hwhole.symm
        rw [hsame]
        exact ⟨rfl, .inl rfl⟩

end Params

section Written

variable {p : Platform} {uri : String} {parsed : Split}

/-- `http` and `https` are schemes, and written as they are read. -/
theorem isScheme_http (h : schemeOf parsed = "http" ∨ schemeOf parsed = "https") :
    IsScheme parsed.scheme ∧ parsed.scheme.map asciiLower = parsed.scheme ∧
      String.ofList parsed.scheme ∈ usesParams ∧
      ∀ c ∈ parsed.scheme, isDropped c = false ∧ c ≠ '?' ∧ c ≠ '#' := by
  have hscheme : parsed.scheme = "http".toList ∨ parsed.scheme = "https".toList := by
    obtain h | h := h
    · exact .inl (by rw [← h, schemeOf, String.toList_ofList])
    · exact .inr (by rw [← h, schemeOf, String.toList_ofList])
  have hplain (s : List Char)
      (hall : (s.all fun c => !isDropped c && c ≠ '?' && c ≠ '#') = true) :
      ∀ c ∈ s, isDropped c = false ∧ c ≠ '?' ∧ c ≠ '#' := by
    intro c hc
    simpa [and_assoc] using List.all_eq_true.mp hall c hc
  obtain h | h := hscheme
  · rw [h]
    exact ⟨⟨by decide, by decide⟩, by decide, by decide, hplain _ (by decide)⟩
  · rw [h]
    exact ⟨⟨by decide, by decide⟩, by decide, by decide, hplain _ (by decide)⟩

/-- The path begins with a slash, if it is there, and no character of path or authority is dropped
or begins a query or fragment. -/
theorem path_chars (hparse : urlparse p uri = .ok parsed) (hscheme : parsed.scheme ≠ [])
    (hnetloc : parsed.netloc ≠ []) :
    (∀ c ∈ parsed.path.head?, c = '/') ∧
      (∀ c ∈ parsed.path, isDropped c = false ∧ c ≠ '?' ∧ c ≠ '#') ∧
      ∀ c ∈ parsed.netloc, isDropped c = false ∧ c ≠ '?' ∧ c ≠ '#' := by
  obtain ⟨scheme, rest, htext, -, hauthority, hstops, hparsed⟩ :=
    exists_parts hparse hscheme hnetloc
  have hpath : parsed.path = (partition '?' (partition '#' rest).1).1 := by
    rw [hparsed]
    rfl
  have hhash := partition_cases '#' rest
  have hmark := partition_cases '?' (partition '#' rest).1
  have hread : ∀ c ∈ parsed.netloc ++ rest, isDropped c = false := by
    intro c hc
    apply isDropped_of_mem_clean (s := uri.toList)
    rw [htext]
    exact List.mem_append_right _
      (List.mem_cons_of_mem _ (List.mem_cons_of_mem _ (List.mem_cons_of_mem _ hc)))
  refine ⟨fun c hc => ?_, fun c hc => ?_, fun c hc => ?_⟩
  · have hstop : c = '/' ∨ c = '?' ∨ c = '#' := by
      apply hstops c
      rw [hhash.2, hmark.2, ← hpath, List.append_assoc, List.head?_append, Option.mem_def.mp hc]
      rfl
    have hmem := List.mem_of_mem_head? hc
    rw [hpath] at hmem
    have hbefore : c ∈ (partition '#' rest).1 := by
      rw [hmark.2]
      exact List.mem_append_left _ hmem
    obtain rfl | rfl | rfl := hstop
    · rfl
    · exact absurd hmem hmark.1
    · exact absurd hbefore hhash.1
  · rw [hpath] at hc
    have hbefore : c ∈ (partition '#' rest).1 := by
      rw [hmark.2]
      exact List.mem_append_left _ hc
    refine ⟨hread c (List.mem_append_right _ ?_), ?_, ?_⟩
    · rw [hhash.2]
      exact List.mem_append_left _ hbefore
    · rintro rfl
      exact hmark.1 hc
    · rintro rfl
      exact hhash.1 hbefore
  · exact ⟨hread c (List.mem_append_left _ hc), (hauthority.chars c hc).2⟩

theorem mem_of_mem_rejoined {c : Char} {path : List Char} (h : c ∈ rejoined path) : c ∈ path := by
  obtain ⟨-, hpath | hpath⟩ := rejoined_spec path
  · rw [hpath]
    exact h
  · rw [hpath]
    exact List.mem_append_left _ h

theorem head_of_head_rejoined {c : Char} {path : List Char} (h : c ∈ (rejoined path).head?) :
    c ∈ path.head? := by
  obtain ⟨-, hpath | hpath⟩ := rejoined_spec path
  · rw [hpath]
    exact h
  · rw [hpath, List.head?_append, Option.mem_def.mp h]
    rfl

theorem toList_htuOf (huses : String.ofList parsed.scheme ∈ usesParams)
    (hhead : ∀ c ∈ parsed.path.head?, c = '/') :
    (htuOf parsed).toList =
      parsed.scheme ++ ':' :: '/' :: '/' :: (parsed.netloc ++ rejoined parsed.path) := by
  have hrooted : ¬ (rejoined parsed.path ≠ [] ∧ (rejoined parsed.path).head? ≠ some '/') := by
    rintro ⟨hne, hother⟩
    obtain ⟨c, path, hcons⟩ := List.exists_cons_of_ne_nil hne
    have hfirst : c ∈ (rejoined parsed.path).head? := by
      rw [hcons]
      rfl
    rw [Option.mem_def.mp hfirst, hhead c (head_of_head_rejoined hfirst)] at hother
    exact hother rfl
  have hjoined : htuOf parsed = String.ofList (parsed.scheme ++ ':' :: '/' :: '/' ::
      parsed.netloc ++ (if rejoined parsed.path ≠ [] ∧ (rejoined parsed.path).head? ≠ some '/' then
        '/' :: rejoined parsed.path else rejoined parsed.path)) := by
    simp only [htuOf, huses, if_true]
    rfl
  rw [hjoined, if_neg hrooted, String.toList_ofList, List.append_assoc]
  rfl

theorem isAsciiAlpha_low {c : Char} (h : isAsciiAlpha c = true) : 32 < c.toNat := by
  by_contra hlow
  have hnone : ∀ n ≤ 32, isAsciiAlpha (Char.ofNat n) = false := by decide
  rw [← Char.ofNat_toNat c, hnone c.toNat (by omega)] at h
  cases h

/-- The `htu` of a URI is read back in its parts. -/
theorem urlparse_htuOf (hparse : urlparse p uri = .ok parsed)
    (hhttp : schemeOf parsed = "http" ∨ schemeOf parsed = "https") (hnetloc : parsed.netloc ≠ []) :
    urlparse p (htuOf parsed) =
        .ok ⟨parsed.scheme, parsed.netloc, rejoined parsed.path, [], []⟩ ∧
      '?' ∉ (htuOf parsed).toList ∧ '#' ∉ (htuOf parsed).toList := by
  obtain ⟨hscheme, hlower, huses, hplain⟩ := isScheme_http hhttp
  obtain ⟨-, -, -, -, hauthority, -, -⟩ := exists_parts hparse hscheme.ne_nil hnetloc
  obtain ⟨hslash, hpath, hauthorityChars⟩ := path_chars hparse hscheme.ne_nil hnetloc
  have hrejoined : ∀ c ∈ rejoined parsed.path, isDropped c = false ∧ c ≠ '?' ∧ c ≠ '#' :=
    fun c hc => hpath c (mem_of_mem_rejoined hc)
  have hwritten := toList_htuOf huses hslash
  have hchars : ∀ c ∈ (htuOf parsed).toList, isDropped c = false ∧ c ≠ '?' ∧ c ≠ '#' := by
    intro c hc
    rw [hwritten] at hc
    simp only [List.mem_append, List.mem_cons] at hc
    obtain hc | rfl | rfl | rfl | hc | hc := hc
    · exact hplain c hc
    · decide
    · decide
    · decide
    · exact hauthorityChars c hc
    · exact hrejoined c hc
  have hhead : ∀ c ∈ (htuOf parsed).toList.head?, 32 < c.toNat := by
    intro c hc
    rw [hwritten, List.head?_append_of_ne_nil _ hscheme.ne_nil] at hc
    have halpha := hscheme.head
    rw [Option.mem_def.mp hc, Option.any_some] at halpha
    exact isAsciiAlpha_low halpha
  refine ⟨?_, fun h => (hchars _ h).2.1 rfl, fun h => (hchars _ h).2.2 rfl⟩
  have hclean := clean_eq_self hhead fun c hc => (hchars c hc).1
  have hstops : Stops (rejoined parsed.path) :=
    fun c hc => .inl (hslash c (head_of_head_rejoined hc))
  rw [urlparse_of_parts (hclean.trans hwritten) hscheme hauthority hstops, hlower, splitRest,
    partition_whole fun h => (hrejoined _ h).2.2 rfl,
    partition_whole fun h => (hrejoined _ h).2.1 rfl]
  rfl

end Written

/-- A proof names the resource of its URI, and nothing else of it, exactly if the URI carries no
credentials. -/
theorem proof_names_resource (lib : Library) (draw : Draw) (key : DpopKey) (method uri : String)
    (accessToken nonce : Option String) (jwt : String) (parsed : Split)
    (h : createDpopProof lib draw key method uri accessToken nonce = .ok jwt)
    (hparse : urlparse lib.platform uri = .ok parsed)
    (hhttp : schemeOf parsed = "http" ∨ schemeOf parsed = "https") :
    ∃ payload, lib.encodeProof key payload = .ok jwt ∧ payload.htu = htuOf parsed ∧
      (NamesResource lib.platform parsed payload.htu ↔ '@' ∉ parsed.netloc) := by
  unfold createDpopProof at h
  split at h
  · cases h
  · split at h
    · cases h
    · rw [hparse] at h
      dsimp only at h
      split at h
      · cases h
      · rename_i habsolute
        obtain ⟨-, hnetloc⟩ := not_or.mp habsolute
        split at h
        · cases h
        · rename_i ath hath
          refine ⟨_, mapError_eq_ok.mp h, rfl, ?_⟩
          obtain ⟨hread, hmark, hhash⟩ := urlparse_htuOf hparse hhttp hnetloc
          constructor
          · rintro ⟨-, -, after, hafter, hat, -⟩
            rw [hread] at hafter
            rw [← Except.ok.inj hafter] at hat
            exact hat
          · intro hat
            exact ⟨hmark, hhash, _, hread, hat, rfl, rfl, (rejoined_spec parsed.path).1⟩

/-- A URI without credentials. -/
theorem proof_names_resource_sample :
    createDpopProof sampleLibrary (sampleDraw 0) sampleKey "POST" "https://server.example.com/token?q=1#f"
        none none = .ok sampleProof ∧
      ∃ payload, sampleLibrary.encodeProof sampleKey payload = .ok sampleProof ∧
        payload.htu = "https://server.example.com/token" ∧
        NamesResource asciiPlatform
          ⟨"https".toList, "server.example.com".toList, "/token".toList, "q=1".toList, "f".toList⟩
          payload.htu := by
  have hproof : createDpopProof sampleLibrary (sampleDraw 0) sampleKey "POST"
      "https://server.example.com/token?q=1#f" none none = .ok sampleProof := by decide +kernel
  obtain ⟨payload, hencode, hhtu, hiff⟩ := proof_names_resource sampleLibrary _ _ _ _ _ _ _
    ⟨"https".toList, "server.example.com".toList, "/token".toList, "q=1".toList, "f".toList⟩ hproof
    (by decide +kernel) (by decide)
  exact ⟨hproof, payload, hencode, hhtu.trans (by decide +kernel), hiff.mpr (by decide)⟩

/-- Credentials in a URI are sent in its proof. -/
theorem credentials_in_htu :
    let lib : Library := ⟨asciiPlatform, id, fun _ => [], fun _ payload => .ok payload.htu,
      fun _ _ _ _ => .ok "", fun _ => none⟩
    createDpopProof lib ⟨"", "", 0, 0⟩ ⟨"ES256", "", []⟩ "POST" "https://user:secret@rs/a" none none =
        .ok "https://user:secret@rs/a" ∧
      ¬ NamesResource asciiPlatform
        ⟨"https".toList, "user:secret@rs".toList, "/a".toList, [], []⟩ "https://user:secret@rs/a" := by
  refine ⟨by decide +kernel, ?_⟩
  rintro ⟨-, -, after, hafter, hat, -⟩
  have hparse : urlparse asciiPlatform "https://user:secret@rs/a" =
      .ok ⟨"https".toList, "user:secret@rs".toList, "/a".toList, [], []⟩ := by decide +kernel
  rw [hparse] at hafter
  rw [← Except.ok.inj hafter] at hat
  exact hat (by decide)

end IdentityModel.Py.Dpop
