import IdentityModel.GoUrl
import IdentityModel.Whatwg
import IdentityModel.Results

/-!
# What `normalizeHTU` writes

A URI that `normalizeHTU` accepts is a scheme, an authority, a path and a rest that is dropped.
The host is written as it stands if it is plain; the path is decoded and encoded again.
-/
namespace IdentityModel.GoUrl

open Url Percent Results Whatwg

/-- What a text decodes to. -/
inductive Unescapes (mode : Encoding) : List Char → List ℕ → Prop
  | nil : Unescapes mode [] []
  | escape {a b : Char} {x y : ℕ} {rest : List Char} {bytes : List ℕ} (hx : hexDigit a = some x)
      (hy : hexDigit b = some y) (hok : refusedEscape mode (16 * x + y) = false)
      (hrest : Unescapes mode rest bytes) :
      Unescapes mode ('%' :: a :: b :: rest) ((16 * x + y) :: bytes)
  | char {c : Char} {rest : List Char} {bytes : List ℕ} (hc : c ≠ '%')
      (hok : refusedChar mode c = false) (hrest : Unescapes mode rest bytes) :
      Unescapes mode (c :: rest) (utf8 c ++ bytes)

theorem unescapes {mode : Encoding} {s : List Char} {bytes : List ℕ}
    (h : unescape mode s = .ok bytes) : Unescapes mode s bytes := by
  induction s using unescape.induct mode generalizing bytes with
  | case1 a b rest x y hy hx hrefused => simp [unescape, hx, hy, hrefused] at h
  | case2 a b rest x y hy hx hok ih =>
      simp only [unescape, hx, hy, hok] at h
      obtain ⟨bs, hbs, rfl⟩ := map_eq_ok.mp h
      exact .escape hx hy (by simpa using hok) (ih hbs)
  | case3 a b rest hnone =>
      rw [unescape] at h
      split at h
      · next x y hx hy => exact (hnone x y hx hy).elim
      · cases h
  | case4 rest hshort =>
      rw [unescape] at h
      · simp at h
      · exact hshort
  | case5 c rest hc hne hrefused =>
      rw [unescape] at h
      · simp [hne, hrefused] at h
      · exact hc
  | case6 c rest hc hne hok ih =>
      rw [unescape] at h
      · simp only [hne, hok, if_false] at h
        obtain ⟨bs, hbs, rfl⟩ := map_eq_ok.mp h
        exact .char hne (by simpa using hok) (ih hbs)
      · exact hc
  | case7 =>
      obtain rfl := Except.ok.inj h
      exact .nil

theorem shouldEscape_high (mode : Encoding) {b : ℕ} (hlow : 128 ≤ b) (hb : b < 256) :
    shouldEscape b mode = true := by
  have hall : ∀ k : Fin 256, 128 ≤ k.val → ∀ mode ∈ [Encoding.path, .userPassword, .host, .zone,
      .fragment], shouldEscape k mode = true := by
    decide +kernel
  exact hall ⟨b, hb⟩ hlow mode (by cases mode <;> simp)

theorem shouldEscape_percent (mode : Encoding) : shouldEscape 37 mode = true := by
  cases mode <;> decide

/-- A text whose characters stand for themselves. -/
def Plain (s : List Char) : Prop := ∀ c ∈ s, c.toNat < 128 ∧ c ≠ '%'

theorem plain_append {s t : List Char} : Plain (s ++ t) ↔ Plain s ∧ Plain t :=
  List.forall_mem_append

theorem escape_append (mode : Encoding) (bytes bytes' : List ℕ) :
    escape mode (bytes ++ bytes') = escape mode bytes ++ escape mode bytes' :=
  List.flatMap_append

theorem percent_mem_escape {mode : Encoding} {bytes : List ℕ} {b : ℕ} (hb : b ∈ bytes)
    (hescape : shouldEscape b mode = true) : '%' ∈ escape mode bytes :=
  List.mem_flatMap.mpr ⟨b, hb, by simp [hescape, escapeByte]⟩

/-- A host that is plain is written as it stands, and any other with an escape. -/
def HostText (s : List Char) (bytes : List ℕ) : Prop :=
  (Plain s ∧ escape .host bytes = s) ∨ (¬ Plain s ∧ '%' ∈ escape .host bytes)

theorem HostText.append {s t : List Char} {bytes bytes' : List ℕ} (hs : HostText s bytes)
    (ht : HostText t bytes') : HostText (s ++ t) (bytes ++ bytes') := by
  rw [HostText, escape_append, plain_append]
  obtain ⟨hs, hse⟩ | ⟨hs, hse⟩ := hs
  · obtain ⟨ht, hte⟩ | ⟨ht, hte⟩ := ht
    · exact .inl ⟨⟨hs, ht⟩, by rw [hse, hte]⟩
    · exact .inr ⟨fun h => ht h.2, List.mem_append_right _ hte⟩
  · exact .inr ⟨fun h => hs h.1, List.mem_append_left _ hse⟩

theorem hostText_char {c : Char} (hok : refusedChar .host c = false) (hc : c ≠ '%') :
    HostText [c] (utf8 c) := by
  by_cases hascii : c.toNat < 128
  · have hkeep : shouldEscape c.toNat .host = false := by
      simpa [refusedChar, isAscii, hascii] using hok
    left
    rw [utf8_ascii hascii]
    refine ⟨by simp [Plain, hascii, hc], ?_⟩
    simp [GoUrl.escape, hkeep]
  · right
    obtain ⟨b, bs, hbs⟩ := List.exists_cons_of_ne_nil (utf8_ne_nil c)
    have hb : b ∈ utf8 c := by simp [hbs]
    refine ⟨by simp [Plain, hascii], ?_⟩
    exact percent_mem_escape hb (shouldEscape_high _ (utf8_high (by omega) hb) (utf8_lt hb))

theorem Unescapes.hostText {s : List Char} {bytes : List ℕ} (h : Unescapes .host s bytes) :
    HostText s bytes := by
  induction h with
  | nil => exact .inl ⟨by simp [Plain], rfl⟩
  | @escape a b x y rest bytes hx hy hok hrest ih =>
      right
      refine ⟨by simp [Plain], percent_mem_escape List.mem_cons_self ?_⟩
      have hlt := (hexDigit_lt hx).1
      have hlt' := (hexDigit_lt hy).1
      by_cases hpercent : 16 * x + y = 37
      · rw [hpercent]
        exact shouldEscape_percent _
      · have hhigh : 128 ≤ 16 * x + y := by
          simp [refusedEscape, hpercent] at hok
          exact hok
        exact shouldEscape_high _ hhigh (by omega)
  | char hc hok hrest ih => exact (hostText_char hok hc).append ih

/-- No host holds a backslash. -/
theorem Unescapes.not_backslash {mode : Encoding} {s : List Char} {bytes : List ℕ}
    (h : Unescapes mode s bytes) (hmode : mode = .host ∨ mode = .zone) : '\\' ∉ s := by
  induction h with
  | nil => simp
  | @escape a b x y rest bytes hx hy hok hrest ih =>
      have ha : a ≠ '\\' := by
        rintro rfl
        cases hx
      have hb : b ≠ '\\' := by
        rintro rfl
        cases hy
      simp [ih, ha.symm, hb.symm]
  | @char c rest bytes hc hok hrest ih =>
      have hbackslash : c ≠ '\\' := by
        rintro rfl
        obtain rfl | rfl := hmode <;> exact absurd hok (by decide)
      simp [ih, hbackslash.symm]

theorem not_mem_of_cutLast {c : Char} {s : List Char} (h : cutLast c s = none) : c ∉ s := by
  induction s with
  | nil => simp
  | cons x s ih =>
      cases hs : cutLast c s with
      | some q => simp [cutLast, hs] at h
      | none =>
          simp only [cutLast, hs] at h
          split at h
          · cases h
          · next hx =>
              have hne : c ≠ x := fun hc => hx hc.symm
              simp [hne, ih hs]

theorem cutLast_eq_some {c : Char} {s : List Char} {r : List Char × List Char}
    (h : cutLast c s = some r) : s = r.1 ++ c :: r.2 ∧ c ∉ r.2 := by
  induction s generalizing r with
  | nil => cases h
  | cons x s ih =>
      cases hs : cutLast c s with
      | some q =>
          simp only [cutLast, hs, Option.some.injEq] at h
          subst h
          obtain ⟨htext, hnot⟩ := ih hs
          exact ⟨by rw [List.cons_append, ← htext], hnot⟩
      | none =>
          simp only [cutLast, hs] at h
          split at h
          · next hx =>
              obtain rfl := Option.some.inj h
              exact ⟨by rw [hx, List.nil_append], not_mem_of_cutLast hs⟩
          · cases h

theorem cutZone_spec (s : List Char) : (cutZone s).1 ++ (cutZone s).2 = s ∧
    ((cutZone s).2 = [] ∨ ∃ t, (cutZone s).2 = '%' :: '2' :: '5' :: t) := by
  induction s with
  | nil => exact ⟨rfl, .inl rfl⟩
  | cons c s ih =>
      rw [cutZone]
      split
      · next hzone =>
          obtain ⟨t, ht⟩ := List.isPrefixOf_iff_prefix.mp hzone
          exact ⟨rfl, .inr ⟨t, ht.symm⟩⟩
      · exact ⟨by rw [List.cons_append, ih.1], ih.2⟩

theorem unescapeLiteral_text {hostname : List Char} {bytes : List ℕ}
    (h : unescapeLiteral hostname = .ok bytes) : HostText hostname bytes ∧ '\\' ∉ hostname := by
  obtain ⟨hcut, hzone⟩ := cutZone_spec hostname
  obtain ⟨name, hname, h⟩ := bind_eq_ok.mp h
  obtain ⟨zone, hzoneText, h⟩ := bind_eq_ok.mp h
  obtain rfl := Except.ok.inj h
  have hname := unescapes hname
  have hslash : '\\' ∉ (cutZone hostname).1 ++ (cutZone hostname).2 := by
    rw [List.mem_append]
    rintro (hmem | hmem)
    · exact hname.not_backslash (.inl rfl) hmem
    · exact (unescapes hzoneText).not_backslash (.inr rfl) hmem
  refine ⟨?_, hcut ▸ hslash⟩
  have hzoned : HostText (cutZone hostname).2 zone := by
    obtain hnil | ⟨t, ht⟩ := hzone
    · rw [hnil] at hzoneText ⊢
      obtain rfl := Except.ok.inj hzoneText
      exact .inl ⟨by simp [Plain], rfl⟩
    · rw [ht] at hzoneText ⊢
      cases unescapes hzoneText with
      | escape hx hy hok hrest =>
          obtain rfl := Option.some.inj hx
          obtain rfl := Option.some.inj hy
          exact .inr ⟨by simp [Plain],
            percent_mem_escape List.mem_cons_self (shouldEscape_percent _)⟩
      | char hc => exact absurd rfl hc
  rw [← hcut]
  exact hname.hostText.append hzoned

theorem not_backslash_of_port {s : List Char} (h : validOptionalPort s = true) : '\\' ∉ s := by
  cases s with
  | nil => simp
  | cons c s =>
      simp only [validOptionalPort, Bool.and_eq_true, decide_eq_true_eq, List.all_eq_true] at h
      rw [List.mem_cons]
      rintro (hc | hs)
      · rw [h.1] at hc
        exact absurd hc (by decide)
      · exact absurd (h.2 _ hs) (by decide)

theorem parseHost_text {ipv6 : List ℕ → Bool} {scheme host : List Char} {bytes : List ℕ}
    (h : parseHost ipv6 scheme host = .ok bytes) : HostText host bytes ∧ '\\' ∉ host := by
  rw [parseHost] at h
  split at h
  · cases h
  · split at h
    · next hbracket =>
        obtain ⟨rest, rfl⟩ := List.head?_eq_some_iff.mp hbracket
        simp only [List.drop_succ_cons, List.drop_zero] at h
        split at h
        · cases h
        · next hostname port hcut =>
            split at h
            · next hvalid =>
                obtain ⟨portBytes, hport, h⟩ := bind_eq_ok.mp h
                obtain ⟨name, hname, h⟩ := bind_eq_ok.mp h
                split at h
                · obtain rfl := Except.ok.inj h
                  obtain ⟨rfl, _⟩ := cutLast_eq_some hcut
                  have ⟨hname, hslash⟩ := unescapeLiteral_text hname
                  have hopen : HostText ['['] [91] := hostText_char (by decide) (by decide)
                  have hclose : HostText [']'] [93] := hostText_char (by decide) (by decide)
                  have htext := ((hopen.append hname).append hclose).append
                    (unescapes hport).hostText
                  refine ⟨by simpa using htext, ?_⟩
                  simpa [hslash] using not_backslash_of_port hvalid
                · cases h
            · cases h
    · split at h
      · have h := unescapes h
        exact ⟨h.hostText, h.not_backslash (.inl rfl)⟩
      · cases h

theorem not_backslash_of_userinfo {s : List Char} (h : validUserinfo s = true) : '\\' ∉ s := by
  intro hmem
  exact absurd (List.all_eq_true.mp h _ hmem) (by decide)

/-- The host of an authority is what follows the last `@`. -/
theorem parseAuthority_text {ipv6 : List ℕ → Bool} {scheme authority : List Char} {host : List ℕ}
    (h : parseAuthority ipv6 scheme authority = .ok host) :
    HostText (afterLast '@' authority) host ∧ '\\' ∉ authority := by
  rw [parseAuthority] at h
  split at h
  · next hcut =>
      rw [afterLast_of_not_mem (not_mem_of_cutLast hcut)]
      exact parseHost_text h
  · next userinfo rest hcut =>
      obtain ⟨htext, hnot⟩ := cutLast_eq_some hcut
      simp only at htext hnot
      obtain ⟨bytes, hhost, h⟩ := bind_eq_ok.mp h
      split at h
      · next hvalid =>
          obtain ⟨_, _, h⟩ := bind_eq_ok.mp h
          obtain ⟨_, _, h⟩ := bind_eq_ok.mp h
          obtain rfl := Except.ok.inj h
          obtain ⟨hhostText, hslash⟩ := parseHost_text hhost
          rw [htext, afterLast_append userinfo hnot]
          refine ⟨hhostText, ?_⟩
          simp [not_backslash_of_userinfo hvalid, hslash]
      · cases h

theorem parseAuthority_nil (ipv6 : List ℕ → Bool) (scheme : List Char) :
    parseAuthority ipv6 scheme [] = .ok [] := by
  simp [parseAuthority, cutLast, parseHost, colonPort, partition, validOptionalPort, unescape]

theorem schemeChar {c : Char} (h : isSchemeChar c = true) :
    32 < c.toNat ∧ c ≠ ':' ∧ c ≠ '?' ∧ c ≠ '#' := by
  refine ⟨?_, ?_, ?_, ?_⟩
  · have hlow : ∀ k : Fin 33, isSchemeChar (Char.ofNat k) = false := by decide
    by_contra hle
    have := hlow ⟨c.toNat, by omega⟩
    rw [Char.ofNat_toNat, h] at this
    cases this
  · rintro rfl
    exact absurd h (by decide)
  · rintro rfl
    exact absurd h (by decide)
  · rintro rfl
    exact absurd h (by decide)

theorem getScheme_ok {rawURL scheme rest : List Char} (h : getScheme rawURL = .ok (scheme, rest))
    (hscheme : scheme ≠ []) :
    rawURL = scheme ++ ':' :: rest ∧ ∀ c ∈ scheme, isSchemeChar c = true := by
  rw [getScheme] at h
  have hcut := List.takeWhile_append_dropWhile (p := isSchemeChar) (l := rawURL)
  split at h
  · next t ht =>
      split at h
      · cases h
      · split at h
        · obtain ⟨rfl, rfl⟩ := Prod.mk.inj (Except.ok.inj h)
          rw [ht] at hcut
          exact ⟨hcut.symm, fun c hc => List.mem_takeWhile_imp hc⟩
        · exact absurd (Prod.mk.inj (Except.ok.inj h)).1.symm hscheme
  · exact absurd (Prod.mk.inj (Except.ok.inj h)).1.symm hscheme

/-- A URL with a scheme and a host has an authority. -/
theorem parseRest_ok {ipv6 : List ℕ → Bool} {scheme rest : List Char} {u : URL}
    (h : parseRest ipv6 scheme rest = .ok u) (hscheme : u.scheme ≠ []) (hhost : u.host ≠ []) :
    ∃ t, rest = '/' :: '/' :: t ∧ u.scheme = scheme ∧
      parseAuthority ipv6 scheme (t.takeWhile (· ≠ '/')) = .ok u.host ∧
      unescape .path (t.dropWhile (· ≠ '/')) = .ok u.path := by
  unfold parseRest at h
  split at h
  · next t =>
      split at h
      · obtain ⟨_, _, h⟩ := bind_eq_ok.mp h
        obtain rfl := Except.ok.inj h
        exact absurd rfl hhost
      · obtain ⟨host, hauthority, h⟩ := bind_eq_ok.mp h
        obtain ⟨path, hpath, h⟩ := bind_eq_ok.mp h
        obtain rfl := Except.ok.inj h
        exact ⟨t, rfl, rfl, hauthority, hpath⟩
  · obtain ⟨_, _, h⟩ := bind_eq_ok.mp h
    obtain rfl := Except.ok.inj h
    exact absurd rfl hhost
  · split at h
    · obtain rfl := Except.ok.inj h
      exact absurd rfl hhost
    · split at h
      · cases h
      · obtain ⟨_, _, h⟩ := bind_eq_ok.mp h
        obtain rfl := Except.ok.inj h
        exact absurd rfl hhost

/-- A URL with a scheme and a host, and the texts it was read from. -/
theorem parse_ok {ipv6 : List ℕ → Bool} {uri : List Char} {u : URL} (h : parse ipv6 uri = .ok u)
    (hscheme : u.scheme ≠ []) (hhost : u.host ≠ []) :
    ∃ scheme t tail, uri = scheme ++ ':' :: '/' :: '/' :: (t ++ tail) ∧
      (∀ c ∈ scheme, isSchemeChar c = true) ∧ scheme ≠ [] ∧
      (∀ c ∈ t, 32 ≤ c.toNat ∧ c ≠ '?' ∧ c ≠ '#') ∧ (∀ c ∈ tail.head?, c = '?' ∨ c = '#') ∧
      u.scheme = scheme.map asciiLower ∧
      parseAuthority ipv6 u.scheme (t.takeWhile (· ≠ '/')) = .ok u.host ∧
      unescape .path (t.dropWhile (· ≠ '/')) = .ok u.path := by
  obtain ⟨v, hbare, h⟩ := bind_eq_ok.mp h
  obtain ⟨_, _, h⟩ := bind_eq_ok.mp h
  obtain rfl := Except.ok.inj h
  rw [parse.parseBare] at hbare
  split at hbare
  · cases hbare
  · next hctl =>
      split at hbare
      · obtain rfl := Except.ok.inj hbare
        exact absurd rfl hhost
      · obtain ⟨⟨scheme, rest⟩, hget, hrest⟩ := bind_eq_ok.mp hbare
        obtain ⟨t, ht, hlower, hauthority, hpath⟩ := parseRest_ok hrest hscheme hhost
        have hne : scheme ≠ [] := by
          rintro rfl
          exact hscheme hlower
        obtain ⟨htext, hchars⟩ := getScheme_ok hget hne
        obtain ⟨hnoFragment, fragment, hfragment, hsharp⟩ := partition_spec '#' uri
        obtain ⟨hnoQuery, query, hquery, hmark⟩ := partition_spec '?' rest
        simp only at ht
        rw [ht] at hquery hnoQuery
        have hbody : (partition '#' uri).1 = scheme ++ ':' :: '/' :: '/' :: (t ++ query) := by
          rw [htext, hquery]
          rfl
        rw [hbody] at hfragment hnoFragment hctl
        refine ⟨scheme, t, query ++ fragment, ?_, hchars, hne, ?_, ?_, hlower, ?_, hpath⟩
        · rw [hfragment]
          simp
        · intro c hc
          refine ⟨?_, ?_, ?_⟩
          · by_contra hlow
            refine hctl (List.any_eq_true.mpr ⟨c, by simp [hc], ?_⟩)
            simp only [Bool.or_eq_true, decide_eq_true_eq]
            omega
          · rintro rfl
            simp [hc] at hnoQuery
          · rintro rfl
            simp [hc] at hnoFragment
        · intro c hc
          cases query with
          | nil => exact .inr (hsharp c hc)
          | cons x query => exact .inl (hmark c hc)
        · rw [hlower]
          exact hauthority

/-- The texts that the parts of an absolute URI were read from. -/
theorem parse_texts {ipv6 : List ℕ → Bool} {uri : List Char} {u : URL} (h : parse ipv6 uri = .ok u)
    (hscheme : u.scheme ≠ []) (hhost : u.host ≠ []) :
    uri = schemeOf uri ++ ':' :: '/' :: '/' :: (authorityOf uri ++ (pathOf uri ++ tailOf uri)) ∧
      (∀ c ∈ schemeOf uri, isSchemeChar c = true) ∧ schemeOf uri ≠ [] ∧
      (∀ c ∈ authorityOf uri, 32 ≤ c.toNat ∧ c ≠ '/' ∧ c ≠ '?' ∧ c ≠ '#') ∧
      (∀ c ∈ pathOf uri, 32 ≤ c.toNat ∧ c ≠ '?' ∧ c ≠ '#') ∧
      (∀ c ∈ (pathOf uri).head?, c = '/') ∧ (∀ c ∈ (tailOf uri).head?, c = '?' ∨ c = '#') ∧
      u.scheme = (schemeOf uri).map asciiLower ∧
      parseAuthority ipv6 u.scheme (authorityOf uri) = .ok u.host ∧
      unescape .path (pathOf uri) = .ok u.path := by
  obtain ⟨scheme, t, tail, htext, hchars, hne, ht, htail, hlower, hauthority, hbytes⟩ :=
    parse_ok h hscheme hhost
  have hsplit := List.takeWhile_append_dropWhile (p := fun c => decide (c ≠ '/')) (l := t)
  have hmem (c : Char) (hc : c ∈ t.takeWhile (· ≠ '/') ∨ c ∈ t.dropWhile (· ≠ '/')) : c ∈ t := by
    rw [← hsplit]
    exact List.mem_append.mpr hc
  have hslash : ∀ c ∈ t.takeWhile (· ≠ '/'), c ≠ '/' := fun c hc => by
    simpa using List.mem_takeWhile_imp hc
  have hbegins : ∀ c ∈ (t.dropWhile (· ≠ '/')).head?, c = '/' := by
    intro c hc
    have hfirst := List.head?_dropWhile_not (fun c => decide (c ≠ '/')) t
    rw [hc] at hfirst
    simpa using hfirst
  have hcolon : ':' ∉ scheme := fun hc => (schemeChar (hchars _ hc)).2.1 rfl
  have hwhole : uri = scheme ++ ':' :: '/' :: '/' ::
      (t.takeWhile (· ≠ '/') ++ (t.dropWhile (· ≠ '/') ++ tail)) := by
    rw [htext, ← List.append_assoc, hsplit]
  obtain ⟨hs, ha, hp, hrest⟩ := parts_of_text hwhole hcolon
    (fun c hc => ⟨hslash c hc, (ht c (hmem c (.inl hc))).2⟩)
    (fun c hc => (ht c (hmem c (.inr hc))).2) hbegins htail
  rw [hs, ha, hp, hrest]
  refine ⟨hwhole, hchars, hne, ?_, ?_, hbegins, htail, hlower, hauthority, hbytes⟩
  · intro c hc
    have hchar := ht c (hmem c (.inl hc))
    exact ⟨hchar.1, hslash c hc, hchar.2⟩
  · intro c hc
    exact ht c (hmem c (.inr hc))

theorem escape_slash (bytes : List ℕ) : escape .path (47 :: bytes) = '/' :: escape .path bytes := rfl

theorem string_of_slash {u : URL} (hscheme : u.scheme ≠ []) (hhost : u.host ≠ [])
    (hpath : u.path.head? = some 47) :
    u.string = u.scheme ++ [':', '/', '/'] ++ escape .host u.host ++ escape .path u.path := by
  obtain ⟨bytes, hbytes⟩ := List.head?_eq_some_iff.mp hpath
  rw [URL.string, URL.escapedPath]
  simp only [if_neg hscheme, hbytes, escape_slash]
  simp [hscheme, hhost]

theorem Unescapes.head_slash {s : List Char} {bytes : List ℕ} (h : Unescapes .path s bytes)
    (hs : s.head? = some '/') : bytes.head? = some 47 := by
  cases h with
  | nil => cases hs
  | escape hx hy hok hrest => exact absurd (Option.some.inj hs) (by decide)
  | @char c rest bytes hc hok hrest =>
      obtain rfl := Option.some.inj hs
      rw [utf8_ascii (by decide)]
      rfl

end IdentityModel.GoUrl

namespace IdentityModel.GoDpop

open GoUrl Url Whatwg

/-- The parts of a URI that `normalizeHTU` accepts, and what it writes. -/
theorem normalizeHTU_parts {ipv6 : List ℕ → Bool} {uri g : String}
    (h : normalizeHTU ipv6 uri = .ok g) (hpath : pathOf uri.toList ≠ []) :
    Parts uri.toList (schemeOf uri.toList) (authorityOf uri.toList) (pathOf uri.toList)
      (tailOf uri.toList) ∧
    ∃ host bytes, HostText (afterLast '@' (authorityOf uri.toList)) host ∧
      Unescapes .path (pathOf uri.toList) bytes ∧
      g.toList = (schemeOf uri.toList).map asciiLower ++ [':', '/', '/'] ++ escape .host host ++
        escape .path bytes := by
  rw [normalizeHTU] at h
  split at h
  · cases h
  · next u hu =>
      split at h
      · cases h
      · next hpresent =>
          have ⟨hscheme, hhost⟩ := not_or.mp hpresent
          obtain ⟨hwhole, hchars, hne, hauth, hpathChars, hbegins, htail, hlower, hauthority,
            hbytes⟩ := parse_texts hu hscheme hhost
          obtain ⟨hhostText, hbackslash⟩ := parseAuthority_text hauthority
          have hfirst : (pathOf uri.toList).head? = some '/' := by
            obtain ⟨c, s, hcons⟩ := List.exists_cons_of_ne_nil hpath
            rw [hcons] at hbegins ⊢
            rw [hbegins c rfl, List.head?_cons]
          have hunescapes := unescapes hbytes
          refine ⟨⟨hwhole, ?_, hne, ?_, ?_, hpathChars, hfirst, htail⟩, u.host, u.path, hhostText,
            hunescapes, ?_⟩
          · intro c hc
            have hchar := schemeChar (hchars c hc)
            exact ⟨hchar.1, hchar.2.1⟩
          · intro c hc
            have hchar := hauth c hc
            refine ⟨hchar.1, hchar.2.1, ?_, hchar.2.2⟩
            rintro rfl
            exact hbackslash hc
          · intro hnil
            rw [hnil, parseAuthority_nil] at hauthority
            exact hhost (Except.ok.inj hauthority).symm
          · rw [← Except.ok.inj h, String.toList_ofList, string_of_slash hscheme hhost
              (hunescapes.head_slash hfirst), ← hlower]

end IdentityModel.GoDpop
