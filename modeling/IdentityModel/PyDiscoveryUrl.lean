import IdentityModel.PyHtu
import Mathlib.Data.Bool.AllAny
import Mathlib.Data.List.DropRight

/-!
# The URL of a discovery document

`parse_discovery_url` of `core/discovery_policy.py`. It looks at the parts `urlparse` finds, but
puts its answer together from the text. The two fit where the text has no mark of a query or a
fragment, and ends in the slashes its path ends in.
-/
namespace IdentityModel.Py

open Url
open Dpop (splitParams)

/-- `_WELL_KNOWN_PATH`. -/
def wellKnownPath : List Char := "/.well-known/openid-configuration".toList

/-- `DiscoveryEndpoint`. -/
structure DiscoveryEndpoint where
  url : String
  authority : String
  deriving DecidableEq, Repr

def isSlash (c : Char) : Bool := c = '/'

/-- `str.rstrip("/")`. -/
def rstripSlash (s : List Char) : List Char := s.rdropWhile isSlash

/-- The `path` of an HTTP URL as `urlparse` reports it, without the parameters. -/
def barePath (parsed : Split) : List Char := (splitParams parsed.path).1

/-- The path is there already, but for slashes at its end. -/
def isWellKnown (path : List Char) : Bool := (rstripSlash wellKnownPath).isSuffixOf (rstripSlash path)

/-- `parse_discovery_url`. -/
def parseDiscoveryUrl (p : Platform) (url : String) : Except UrlError DiscoveryEndpoint :=
  if url = "" then .error (.configuration "Discovery URL cannot be empty")
  else
    match urlparse p url with
    | .error e => .error (.value e)
    | .ok parsed =>
        if schemeOf parsed = "" then
          .error (.configuration ("Discovery URL must include a scheme: " ++ url))
        else if schemeOf parsed ≠ "http" ∧ schemeOf parsed ≠ "https" then
          .error (.configuration ("Discovery URL must use HTTP or HTTPS scheme, got: " ++
            schemeOf parsed))
        else if parsed.netloc = [] then
          .error (.configuration ("Discovery URL must include a host: " ++ url))
        else if parsed.query ≠ [] ∨ parsed.fragment ≠ [] then
          .error (.configuration "Discovery URL must not contain query or fragment components")
        else
          let authority := schemeOf parsed ++ "://" ++ String.ofList parsed.netloc
          let fullUrl :=
            if !isWellKnown (barePath parsed) then rstripSlash url.toList ++ wellKnownPath
            else url.toList
          .ok ⟨String.ofList (rstripSlash fullUrl), authority⟩

/-- How many slashes a text ends in. -/
def slashes (s : List Char) : ℕ := (s.rtakeWhile isSlash).length

section Slashes

variable {s t : List Char}

theorem rstripSlash_append (s : List Char) : rstripSlash s ++ List.replicate (slashes s) '/' = s := by
  have hall : s.rtakeWhile isSlash = List.replicate (slashes s) '/' :=
    List.eq_replicate_iff.mpr ⟨rfl, fun c hc => by simpa [isSlash] using List.mem_rtakeWhile_imp hc⟩
  rw [← hall]
  exact List.rdropWhile_append_rtakeWhile

/-- Slashes at the end are counted one by one. -/
theorem slashes_append_replicate (s : List Char) (k : ℕ) :
    rstripSlash (s ++ List.replicate k '/') = rstripSlash s ∧
      slashes (s ++ List.replicate k '/') = slashes s + k := by
  induction k with
  | zero => simp
  | succ k ih =>
      have hcut : s ++ List.replicate (k + 1) '/' = (s ++ List.replicate k '/') ++ ['/'] := by
        rw [List.replicate_succ', List.append_assoc]
      have hslash : isSlash '/' = true := rfl
      rw [hcut, rstripSlash, slashes, List.rdropWhile_concat_pos _ _ _ hslash,
        List.rtakeWhile_concat_pos _ _ _ hslash, List.length_append]
      exact ⟨ih.1, congrArg (· + 1) ih.2⟩

/-- A text that ends in another character has none. -/
theorem slashes_concat {c : Char} (hc : isSlash c = false) (s : List Char) :
    slashes (s ++ [c]) = 0 := by
  rw [slashes, List.rtakeWhile_concat_neg _ _ _ (by simp [hc]), List.length_nil]

theorem slashes_rstripSlash (s : List Char) : slashes (rstripSlash s) = 0 := by
  rw [slashes, List.rtakeWhile_eq_nil_iff.mpr, List.length_nil]
  exact List.rdropWhile_last_not isSlash s

theorem rstripSlash_of_slashes (h : slashes s = 0) : rstripSlash s = s := by
  have hwhole := rstripSlash_append s
  rwa [h, List.replicate_zero, List.append_nil] at hwhole

/-- Behind a text that ends in no slash, slashes belong to what follows. -/
theorem cut_slashes {front rest : List Char} {k : ℕ} (hfront : slashes front = 0)
    (h : front ++ rest = s ++ List.replicate k '/') :
    ∃ path, s = front ++ path ∧ rest = path ++ List.replicate k '/' := by
  induction k generalizing rest with
  | zero => exact ⟨rest, by simpa using h.symm, by simp⟩
  | succ k ih =>
      rw [List.replicate_succ', ← List.append_assoc] at h
      obtain rfl | ⟨rest, c, rfl⟩ := rest.eq_nil_or_concat
      · rw [List.append_nil] at h
        have hcount := (slashes_append_replicate (s ++ List.replicate k '/') 1).2
        rw [List.replicate_one, ← h, hfront] at hcount
        omega
      · rw [List.concat_eq_append, ← List.append_assoc] at h
        obtain ⟨hrest, hslash⟩ := List.append_inj' h rfl
        obtain ⟨path, hs, hpath⟩ := ih hrest
        refine ⟨path, hs, ?_⟩
        rw [List.concat_eq_append, hpath, hslash, List.replicate_succ', List.append_assoc]

end Slashes

section Paths

variable {path s : List Char}

/-- A path that ends in a slash has no parameters. -/
theorem splitParams_slash (h : slashes path ≠ 0) : (splitParams path).1 = path := by
  obtain ⟨k, hk⟩ := Nat.exists_eq_succ_of_ne_zero h
  have hwhole := rstripSlash_append path
  rw [hk, List.replicate_succ', ← List.append_assoc] at hwhole
  have hplain := Dpop.splitParams_plain path [] (by simp) (by simp) (.inr ⟨_, hwhole.symm⟩)
  rw [List.append_nil] at hplain
  rw [hplain]

/-- The well-known path has none either, and ends in no slash. -/
theorem splitParams_wellKnown (s : List Char) :
    (splitParams (s ++ wellKnownPath)).1 = s ++ wellKnownPath := by
  have hcut : s ++ wellKnownPath =
      (s ++ "/.well-known/".toList) ++ "openid-configuration".toList := by
    rw [List.append_assoc]
    rfl
  have hslash : s ++ "/.well-known/".toList = (s ++ "/.well-known".toList) ++ ['/'] := by
    rw [List.append_assoc]
    rfl
  rw [hcut, Dpop.splitParams_plain _ _ (by decide) (by decide) (.inr ⟨_, hslash⟩)]

theorem slashes_wellKnown (s : List Char) : slashes (s ++ wellKnownPath) = 0 := by
  have hcut : s ++ wellKnownPath = (s ++ "/.well-known/openid-configuratio".toList) ++ ['n'] := by
    rw [List.append_assoc]
    rfl
  rw [hcut]
  exact slashes_concat (by decide) _

theorem isWellKnown_iff : isWellKnown path = true ↔ ∃ s, rstripSlash path = s ++ wellKnownPath := by
  have hself : rstripSlash wellKnownPath = wellKnownPath := rstripSlash_of_slashes (slashes_wellKnown [])
  rw [isWellKnown, hself, List.isSuffixOf_iff_suffix]
  constructor
  · rintro ⟨s, hs⟩
    exact ⟨s, hs.symm⟩
  · rintro ⟨s, hs⟩
    exact ⟨s, hs.symm⟩

/-- A path that is there already ends in the well-known one unless slashes follow. -/
theorem suffix_iff (h : isWellKnown path = true) : wellKnownPath <:+ path ↔ slashes path = 0 := by
  constructor
  · rintro ⟨s, rfl⟩
    exact slashes_wellKnown s
  · intro hnone
    obtain ⟨s, hs⟩ := isWellKnown_iff.mp h
    rw [rstripSlash_of_slashes hnone] at hs
    exact ⟨s, hs.symm⟩

/-- What the slashes at the end of a URL do to such a path. -/
theorem barePath_append (path : List Char) (k : ℕ)
    (h : isWellKnown (splitParams (path ++ List.replicate k '/')).1 = true) :
    isWellKnown (splitParams path).1 = true ∧
      slashes (splitParams (path ++ List.replicate k '/')).1 = slashes (splitParams path).1 + k := by
  cases k with
  | zero => simpa using h
  | succ k =>
      obtain ⟨hstrip, hcount⟩ := slashes_append_replicate path (k + 1)
      have hwhole : (splitParams (path ++ List.replicate (k + 1) '/')).1 =
          path ++ List.replicate (k + 1) '/' := splitParams_slash (by omega)
      rw [hwhole] at h ⊢
      obtain ⟨s, hs⟩ := isWellKnown_iff.mp h
      rw [hstrip] at hs
      -- the path without its slashes has no parameters either
      have hbare : (splitParams path).1 = path := by
        by_cases hnone : slashes path = 0
        · rw [rstripSlash_of_slashes hnone] at hs
          rw [hs]
          exact splitParams_wellKnown s
        · exact splitParams_slash hnone
      rw [hbare]
      exact ⟨isWellKnown_iff.mpr ⟨s, hs⟩, hcount⟩

end Paths

/-- A URL `parse_discovery_url` takes. -/
structure TakesUrl (p : Platform) (url : String) (parsed : Split) : Prop where
  parse : urlparse p url = .ok parsed
  scheme : schemeOf parsed = "http" ∨ schemeOf parsed = "https"
  netloc : parsed.netloc ≠ []
  query : parsed.query = []
  fragment : parsed.fragment = []

/-- The text that is returned for a path. -/
def fullUrl (path url : List Char) : List Char :=
  rstripSlash (if !isWellKnown path then rstripSlash url ++ wellKnownPath else url)

/-- The scheme and the host. -/
def originOf (parsed : Split) : String := schemeOf parsed ++ "://" ++ String.ofList parsed.netloc

/-- A normal form of a discovery URL: it names the same scheme and authority and the well-known
path, has no query and no fragment, and is what it is parsed into. -/
def IsNormalForm (p : Platform) (url : String) (endpoint : DiscoveryEndpoint) : Prop :=
  ∃ before after, urlparse p url = .ok before ∧ urlparse p endpoint.url = .ok after ∧
    after.scheme = before.scheme ∧ after.netloc = before.netloc ∧
    wellKnownPath <:+ barePath after ∧ after.query = [] ∧ after.fragment = [] ∧
    '?' ∉ endpoint.url.toList ∧ '#' ∉ endpoint.url.toList ∧
    parseDiscoveryUrl p endpoint.url = .ok endpoint

section Urls

variable {p : Platform} {url : String} {parsed : Split} {endpoint : DiscoveryEndpoint}

theorem parseDiscoveryUrl_ok : parseDiscoveryUrl p url = .ok endpoint ↔
    ∃ parsed, TakesUrl p url parsed ∧
      endpoint = ⟨String.ofList (fullUrl (barePath parsed) url.toList), originOf parsed⟩ := by
  unfold parseDiscoveryUrl
  constructor
  · intro h
    split at h
    · cases h
    split at h
    · cases h
    rename_i parsed hparse
    split at h
    · cases h
    split at h
    · cases h
    rename_i hscheme
    split at h
    · cases h
    rename_i hnetloc
    split at h
    · cases h
    rename_i hparts
    rw [not_or, not_not, not_not] at hparts
    refine ⟨parsed, ⟨hparse, ?_, hnetloc, hparts.1, hparts.2⟩, (Except.ok.inj h).symm⟩
    tauto
  · rintro ⟨parsed, ⟨hparse, hscheme, hnetloc, hquery, hfragment⟩, rfl⟩
    have hempty : url ≠ "" := by
      rintro rfl
      have hblank : urlparse p "" = .ok ⟨[], [], [], [], []⟩ := rfl
      rw [hblank] at hparse
      exact hnetloc (by rw [← Except.ok.inj hparse])
    have hsome : schemeOf parsed ≠ "" := by
      obtain h | h := hscheme <;> rw [h] <;> decide
    have hhttp : ¬ (schemeOf parsed ≠ "http" ∧ schemeOf parsed ≠ "https") := by tauto
    rw [if_neg hempty, hparse]
    simp only [if_neg hsome, if_neg hhttp, if_neg hnetloc, hquery, hfragment]
    rfl

theorem TakesUrl.scheme_ne_nil (h : TakesUrl p url parsed) : parsed.scheme ≠ [] := by
  intro hnil
  have hscheme := h.scheme
  rw [schemeOf, hnil] at hscheme
  revert hscheme
  decide

/-- A mark of a query or a fragment in a URL stays in what is returned. -/
theorem mem_fullUrl {c : Char} (hc : isSlash c = false) {path url : List Char} (h : c ∈ url) :
    c ∈ fullUrl path url := by
  have hstrip (s : List Char) (hs : c ∈ s) : c ∈ rstripSlash s := by
    rw [← rstripSlash_append s, List.mem_append] at hs
    obtain hs | hs := hs
    · exact hs
    · rw [List.eq_of_mem_replicate hs] at hc
      cases hc
  apply hstrip
  split
  · exact List.mem_append_left _ (hstrip url h)
  · exact h

theorem mem_of_mem_fullUrl {c : Char} (hc : c ∉ wellKnownPath) {path url : List Char}
    (h : c ∈ fullUrl path url) : c ∈ url := by
  have hstrip (s : List Char) (hs : c ∈ rstripSlash s) : c ∈ s := by
    rw [← rstripSlash_append s]
    exact List.mem_append_left _ hs
  have hwhole := hstrip _ h
  split at hwhole
  · exact hstrip url ((List.mem_append.mp hwhole).resolve_right hc)
  · exact hwhole

/-- A URL without the marks: the text before its path, which ends in no slash, and what is parsed
with another path in its place. -/
structure PlainUrl (p : Platform) (url : String) (parsed : Split) (front : List Char) : Prop where
  text : clean url.toList = front ++ parsed.path
  noSlash : slashes front = 0
  stops : Stops parsed.path
  parse : ∀ (other : String) (path : List Char), '?' ∉ path → '#' ∉ path → Stops path →
    clean other.toList = front ++ path →
      urlparse p other = .ok ⟨parsed.scheme, parsed.netloc, path, [], []⟩

theorem splitRest_plain (scheme netloc : List Char) {path : List Char} (hmark : '?' ∉ path)
    (hhash : '#' ∉ path) : splitRest scheme netloc path = ⟨scheme, netloc, path, [], []⟩ := by
  rw [splitRest, partition_whole hhash]
  dsimp only
  rw [partition_whole hmark]
  rfl

theorem mem_of_mem_clean {c : Char} {s : List Char} (h : c ∈ clean s) : c ∈ s :=
  List.dropWhile_subset _ (List.mem_of_mem_filter h)

theorem TakesUrl.exists_plain (h : TakesUrl p url parsed) (hmark : '?' ∉ url.toList)
    (hhash : '#' ∉ url.toList) : ∃ front, PlainUrl p url parsed front := by
  obtain ⟨scheme, rest, htext, hisScheme, hisAuthority, hstops, hparsed⟩ :=
    exists_parts h.parse h.scheme_ne_nil h.netloc
  have hrest (c : Char) (hc : c ∉ url.toList) : c ∉ rest := by
    intro hmem
    apply hc
    apply mem_of_mem_clean
    rw [htext]
    simp [hmem]
  rw [splitRest_plain _ _ (hrest _ hmark) (hrest _ hhash)] at hparsed
  have hpath : parsed.path = rest := by rw [hparsed]
  have hscheme : scheme.map asciiLower = parsed.scheme := by rw [hparsed]
  refine ⟨scheme ++ ':' :: '/' :: '/' :: parsed.netloc, ?_, ?_, ?_, ?_⟩
  · rw [htext, hpath, List.append_assoc]
    rfl
  · obtain hnil | ⟨init, c, hconcat⟩ := parsed.netloc.eq_nil_or_concat
    · exact absurd hnil h.netloc
    · have hc : isSlash c = false := by
        have hne := (hisAuthority.chars c (by simp [hconcat])).1
        simpa [isSlash] using hne
      have hcut : scheme ++ ':' :: '/' :: '/' :: parsed.netloc =
          (scheme ++ ':' :: '/' :: '/' :: init) ++ [c] := by
        rw [hconcat]
        simp
      rw [hcut]
      exact slashes_concat hc _
  · rw [hpath]
    exact hstops
  · intro other path hmark' hhash' hstops' htext'
    rw [← hscheme, ← splitRest_plain _ _ hmark' hhash']
    apply urlparse_of_parts _ hisScheme hisAuthority hstops'
    rw [htext', List.append_assoc]
    rfl

/-- What is left of the path when the URL loses its slashes at the end. -/
theorem PlainUrl.cut {front : List Char} (h : PlainUrl p url parsed front) :
    ∃ path, clean (rstripSlash url.toList) = front ++ path ∧
      parsed.path = path ++ List.replicate (slashes url.toList) '/' := by
  have hslash : ∀ c ∈ List.replicate (slashes url.toList) '/', c = '/' := fun c hc =>
    List.eq_of_mem_replicate hc
  have hclean : clean url.toList =
      clean (rstripSlash url.toList) ++ List.replicate (slashes url.toList) '/' := by
    conv_lhs => rw [← rstripSlash_append url.toList]
    apply clean_append
    · intro c hc
      rw [hslash c (List.mem_of_mem_head? hc)]
      decide
    · intro c hc
      rw [hslash c hc]
      decide
  exact cut_slashes h.noSlash (h.text.symm.trans hclean)

/-- A text that is parsed into the same scheme and authority is a normal form if its path ends in
the well-known one. -/
theorem isNormalForm_iff_suffix (h : TakesUrl p url parsed) {text path : List Char}
    (hparse : urlparse p (String.ofList text) = .ok ⟨parsed.scheme, parsed.netloc, path, [], []⟩)
    (hmark : '?' ∉ text) (hhash : '#' ∉ text) (hslashes : slashes text = 0) :
    IsNormalForm p url ⟨String.ofList text, originOf parsed⟩ ↔
      wellKnownPath <:+ (splitParams path).1 := by
  constructor
  · rintro ⟨before, after, -, hafter, -, -, hsuffix, -⟩
    rw [hparse] at hafter
    rw [← Except.ok.inj hafter] at hsuffix
    exact hsuffix
  · intro hsuffix
    refine ⟨parsed, _, h.parse, hparse, rfl, rfl, hsuffix, rfl, rfl, ?_, ?_, ?_⟩
    · rwa [String.toList_ofList]
    · rwa [String.toList_ofList]
    · obtain ⟨s, hs⟩ := hsuffix
      have hknown : isWellKnown (splitParams path).1 = true := by
        rw [← hs, isWellKnown_iff]
        exact ⟨s, rstripSlash_of_slashes (slashes_wellKnown s)⟩
      refine parseDiscoveryUrl_ok.mpr ⟨_, ⟨hparse, h.scheme, h.netloc, rfl, rfl⟩, ?_⟩
      rw [String.toList_ofList, fullUrl, barePath, hknown]
      exact congrArg (DiscoveryEndpoint.mk · _) (congrArg _ (rstripSlash_of_slashes hslashes).symm)

theorem stops_append_wellKnown {path : List Char} (h : Stops path) : Stops (path ++ wellKnownPath) :=
  h.append fun _ => stops_cons (.inl rfl) _

/-- Where the path has to be added, it is. -/
theorem isNormalForm_added {front : List Char} (h : TakesUrl p url parsed)
    (hplain : PlainUrl p url parsed front) (hmark : '?' ∉ url.toList) (hhash : '#' ∉ url.toList)
    (hunknown : isWellKnown (barePath parsed) = false) :
    IsNormalForm p url
      ⟨String.ofList (fullUrl (barePath parsed) url.toList), originOf parsed⟩ := by
  obtain ⟨path, hclean, hpath⟩ := hplain.cut
  have htext : fullUrl (barePath parsed) url.toList = rstripSlash url.toList ++ wellKnownPath := by
    rw [fullUrl, hunknown]
    exact rstripSlash_of_slashes (slashes_wellKnown _)
  have hnot (c : Char) (hc : c ∉ url.toList) (hc' : c ∉ wellKnownPath) : c ∉ path ++ wellKnownPath := by
    intro hmem
    obtain hmem | hmem := List.mem_append.mp hmem
    · apply hc
      apply mem_of_mem_clean
      rw [hplain.text, hpath]
      simp [hmem]
    · exact hc' hmem
  have hfull : clean (rstripSlash url.toList ++ wellKnownPath) = front ++ (path ++ wellKnownPath) := by
    have hkept : ∀ c ∈ wellKnownPath, isDropped c = false := List.all_iff_forall_prop.mp (by decide)
    have hhead (c : Char) (hc : c ∈ wellKnownPath.head?) : 32 < c.toNat := by
      obtain rfl := Option.some.inj hc
      decide
    rw [clean_append _ hhead hkept, hclean, List.append_assoc]
  have hstops : Stops path := by
    intro c hc
    apply hplain.stops c
    rw [hpath, List.head?_append, Option.mem_def.mp hc]
    rfl
  have hparse := hplain.parse (String.ofList (rstripSlash url.toList ++ wellKnownPath))
    (path ++ wellKnownPath) (hnot _ hmark (by decide)) (hnot _ hhash (by decide))
    (stops_append_wellKnown hstops) (by rw [String.toList_ofList, hfull])
  have hkept (c : Char) (hc : c ∉ url.toList) (hc' : c ∉ wellKnownPath) :
      c ∉ rstripSlash url.toList ++ wellKnownPath :=
    htext ▸ fun hmem => hc (mem_of_mem_fullUrl hc' hmem)
  rw [htext, isNormalForm_iff_suffix h hparse (hkept _ hmark (by decide)) (hkept _ hhash (by decide))
    (slashes_wellKnown _), splitParams_wellKnown]
  exact List.suffix_append _ _

/-- Where it is there, the URL has to end in the slashes of the path. -/
theorem isNormalForm_present {front : List Char} (h : TakesUrl p url parsed)
    (hplain : PlainUrl p url parsed front) (hmark : '?' ∉ url.toList) (hhash : '#' ∉ url.toList)
    (hknown : isWellKnown (barePath parsed) = true) :
    IsNormalForm p url
        ⟨String.ofList (fullUrl (barePath parsed) url.toList), originOf parsed⟩ ↔
      slashes url.toList = slashes (barePath parsed) := by
  obtain ⟨path, hclean, hpath⟩ := hplain.cut
  have htext : fullUrl (barePath parsed) url.toList = rstripSlash url.toList := by
    rw [fullUrl, hknown]
    rfl
  have hnot (c : Char) (hc : c ∉ url.toList) : c ∉ path := by
    intro hmem
    apply hc
    apply mem_of_mem_clean
    rw [hplain.text, hpath]
    simp [hmem]
  have hstops : Stops path := by
    intro c hc
    apply hplain.stops c
    rw [hpath, List.head?_append, Option.mem_def.mp hc]
    rfl
  have hparse := hplain.parse (String.ofList (rstripSlash url.toList)) path (hnot _ hmark)
    (hnot _ hhash) hstops (by rw [String.toList_ofList, hclean])
  have hkept (c : Char) (hc : c ∉ url.toList) (hc' : c ∉ wellKnownPath) :
      c ∉ rstripSlash url.toList :=
    htext ▸ fun hmem => hc (mem_of_mem_fullUrl hc' hmem)
  rw [barePath, hpath] at hknown
  obtain ⟨hknown', hcount⟩ := barePath_append path _ hknown
  rw [htext, isNormalForm_iff_suffix h hparse (hkept _ hmark (by decide)) (hkept _ hhash (by decide))
    (slashes_rstripSlash _), suffix_iff hknown', barePath, hpath, hcount]
  omega

end Urls

/-- The text shows the parts: it has no mark of a query or a fragment, and if its path is the
well-known one but for slashes at its end, they are the end of the text as well. -/
def TextShowsParts (parsed : Split) (url : String) : Prop :=
  '?' ∉ url.toList ∧ '#' ∉ url.toList ∧
    (isWellKnown (barePath parsed) = true → slashes url.toList = slashes (barePath parsed))

/-- What `parse_discovery_url` returns for a URL is a normal form of it if and only if the text of
the URL shows its parts. -/
theorem discovery_url_normal {p : Platform} {url : String} {parsed : Split}
    {endpoint : DiscoveryEndpoint} (hparse : urlparse p url = .ok parsed)
    (h : parseDiscoveryUrl p url = .ok endpoint) :
    IsNormalForm p url endpoint ↔ TextShowsParts parsed url := by
  obtain ⟨parsed', htakes, rfl⟩ := parseDiscoveryUrl_ok.mp h
  obtain rfl : parsed = parsed' := Except.ok.inj (hparse.symm.trans htakes.parse)
  constructor
  · intro hnormal
    obtain ⟨-, -, -, -, -, -, -, -, -, hmark, hhash, -⟩ := id hnormal
    rw [String.toList_ofList] at hmark hhash
    have hmark' : '?' ∉ url.toList := fun hmem => hmark (mem_fullUrl (by decide) hmem)
    have hhash' : '#' ∉ url.toList := fun hmem => hhash (mem_fullUrl (by decide) hmem)
    obtain ⟨front, hplain⟩ := htakes.exists_plain hmark' hhash'
    exact ⟨hmark', hhash', fun hknown =>
      (isNormalForm_present htakes hplain hmark' hhash' hknown).mp hnormal⟩
  · rintro ⟨hmark, hhash, hslashes⟩
    obtain ⟨front, hplain⟩ := htakes.exists_plain hmark hhash
    cases hknown : isWellKnown (barePath parsed) with
    | false => exact isNormalForm_added htakes hplain hmark hhash hknown
    | true => exact (isNormalForm_present htakes hplain hmark hhash hknown).mpr (hslashes hknown)

/-- An issuer with a slash at its end. -/
theorem discovery_url_normal_sample :
    IsNormalForm asciiPlatform "https://idp/tenant/"
      ⟨"https://idp/tenant/.well-known/openid-configuration", "https://idp"⟩ := by
  have hparse : urlparse asciiPlatform "https://idp/tenant/" =
      .ok ⟨"https".toList, "idp".toList, "/tenant/".toList, [], []⟩ := by decide +kernel
  have h : parseDiscoveryUrl asciiPlatform "https://idp/tenant/" =
      .ok ⟨"https://idp/tenant/.well-known/openid-configuration", "https://idp"⟩ := by decide +kernel
  exact (discovery_url_normal hparse h).mpr ⟨by decide, by decide, by decide +kernel⟩

/-- An empty query takes the well-known path for its own. -/
theorem mark_swallows_path :
    ∃ endpoint, parseDiscoveryUrl asciiPlatform "https://idp?" = .ok endpoint ∧
      endpoint.url = "https://idp?/.well-known/openid-configuration" ∧
      ¬ IsNormalForm asciiPlatform "https://idp?" endpoint := by
  refine ⟨⟨"https://idp?/.well-known/openid-configuration", "https://idp"⟩, by decide +kernel, rfl, ?_⟩
  rintro ⟨-, -, -, -, -, -, -, -, -, hmark, -⟩
  revert hmark
  decide

end IdentityModel.Py
