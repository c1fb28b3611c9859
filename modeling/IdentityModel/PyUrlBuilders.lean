import IdentityModel.FormsRoundTrip
import IdentityModel.PyEndSession
import IdentityModel.Results

/-!
# What the URL builders add

`build_authorization_url` and `build_end_session_url` append their parameters to the text of an
endpoint, behind a separator that depends on how the endpoint was parsed. They add exactly the
parameters unless the endpoint has an empty fragment or, where the text ends in no separator, an
empty query; the end of the text decides alone for a logout.
-/
namespace IdentityModel.Py

open Url Forms Results

/-- The result is the endpoint with these pairs behind its own, and without a fragment. -/
def Adds (p : Platform) (endpoint url : String) (params : List (String × String)) : Prop :=
  ∃ before after, urlparse p endpoint = .ok before ∧ urlparse p url = .ok after ∧
    after.scheme = before.scheme ∧ after.netloc = before.netloc ∧ after.path = before.path ∧
    after.fragment = [] ∧ parseQsl after.query = parseQsl before.query ++ params

/-- An absolute HTTP URL. -/
def IsHttp (parsed : Split) : Prop :=
  (schemeOf parsed = "http" ∨ schemeOf parsed = "https") ∧ parsed.netloc ≠ []

/-- The fragment of an endpoint; it may be there and empty. -/
def fragmentPart (endpoint : String) : Option (List Char) :=
  (partition '#' (clean endpoint.toList)).2

/-- Its query before the fragment; it may be there and empty. -/
def queryPart (endpoint : String) : Option (List Char) :=
  (partition '?' (partition '#' (clean endpoint.toList)).1).2

/-- The text without a fragment. -/
def stripFragment (parsed : Split) (endpoint : String) : String :=
  if parsed.fragment ≠ [] then String.ofList (endpoint.toList.takeWhile fun c => c ≠ '#')
  else endpoint

/-- Its last character. -/
def endOf (parsed : Split) (endpoint : String) : Option Char :=
  (stripFragment parsed endpoint).toList.getLast?

section Builders

variable {p : Platform} {endpoint url : String} {before : Split} {params : List (String × String)}

theorem IsHttp.scheme_ne_nil (h : IsHttp before) : before.scheme ≠ [] := by
  intro hnil
  have hscheme := h.1
  rw [schemeOf, hnil] at hscheme
  revert hscheme
  decide

/-- The text that is appended: of characters that are read, and none that begins a fragment. -/
structure IsAppended (text : List Char) : Prop where
  head : ∀ c ∈ text.head?, 32 < c.toNat
  dropped : ∀ c ∈ text, isDropped c = false
  hash : '#' ∉ text

theorem isAppended_form {c : Char} (h : isFormChar c = true) : isDropped c = false ∧ c ≠ '#' := by
  simp only [isFormChar, Bool.and_eq_true, decide_eq_true_eq] at h
  obtain ⟨⟨⟨⟨⟨hlow, -⟩, -⟩, -⟩, hhash⟩, -⟩ := h
  refine ⟨?_, by simpa using hhash⟩
  rw [isDropped]
  simp only [Bool.or_eq_false_iff, decide_eq_false_iff_not]
  refine ⟨⟨?_, ?_⟩, ?_⟩ <;> rintro rfl <;> revert hlow <;> decide

theorem isAppended_urlencode (fs : List (String × String)) : IsAppended (urlencode fs).toList := by
  have hchar : ∀ c ∈ (urlencode fs).toList, 32 < c.toNat ∧ isDropped c = false ∧ c ≠ '#' := by
    intro c hc
    obtain h | rfl | rfl := mem_urlencode fs c hc
    · have hlow : 32 < c.toNat := by
        simp only [isFormChar, Bool.and_eq_true, decide_eq_true_eq] at h
        tauto
      exact ⟨hlow, isAppended_form h⟩
    · decide
    · decide
  exact ⟨fun c hc => (hchar c (List.mem_of_mem_head? hc)).1, fun c hc => (hchar c hc).2.1,
    fun hc => (hchar _ hc).2.2 rfl⟩

theorem IsAppended.cons {text : List Char} (h : IsAppended text) {c : Char} (hlow : 32 < c.toNat)
    (hdropped : isDropped c = false) (hhash : c ≠ '#') : IsAppended (c :: text) := by
  refine ⟨fun x hx => ?_, fun x hx => ?_, fun hx => ?_⟩
  · obtain rfl := Option.some.inj hx
    exact hlow
  · obtain rfl | hx := List.mem_cons.mp hx
    · exact hdropped
    · exact h.dropped x hx
  · obtain hx | hx := List.mem_cons.mp hx
    · exact hhash hx.symm
    · exact h.hash hx

/-- An endpoint, cut before its path. -/
structure Cut (p : Platform) (endpoint : String) (before : Split) (front rest : List Char) :
    Prop where
  begins : Front p before front
  text : clean endpoint.toList = front ++ rest
  stops : Stops rest
  parsed : before = splitRest before.scheme before.netloc rest

theorem Cut.fragment_eq {front rest : List Char} (h : Cut p endpoint before front rest) :
    fragmentPart endpoint = (partition '#' rest).2 := by
  rw [fragmentPart, h.text, partition_append_of_not_mem h.begins.hash]

theorem Cut.query_eq {front rest : List Char} (h : Cut p endpoint before front rest) :
    queryPart endpoint = (partition '?' (partition '#' rest).1).2 := by
  rw [queryPart, h.text, partition_append_of_not_mem h.begins.hash,
    partition_append_of_not_mem h.begins.mark]

section Cuts

variable {front rest text : List Char} (h : Cut p endpoint before front rest)

include h

theorem Cut.query : before.query = (queryPart endpoint).getD [] := by
  rw [h.query_eq, h.parsed]
  rfl

theorem Cut.path : before.path = (partition '?' (partition '#' rest).1).1 := by
  rw [h.parsed]
  rfl

theorem Cut.fragment : before.fragment = (fragmentPart endpoint).getD [] := by
  rw [h.fragment_eq, h.parsed]
  rfl

theorem Cut.stops_path : Stops (partition '#' rest).1 := by
  intro c hc
  apply h.stops c
  obtain ⟨-, htext⟩ := partition_cases '#' rest
  rw [htext, List.head?_append, Option.mem_def.mp hc]
  rfl

/-- The endpoint without a fragment, unless there is an empty one. -/
theorem Cut.stripped (hbare : fragmentPart endpoint ≠ some []) :
    clean (stripFragment before endpoint).toList = front ++ (partition '#' rest).1 := by
  have hfragment := h.fragment
  rw [stripFragment]
  cases hpart : fragmentPart endpoint with
  | none =>
      rw [hpart] at hfragment
      rw [hfragment, if_neg (by simp), h.text]
      obtain ⟨-, htext⟩ := partition_cases '#' rest
      rw [← h.fragment_eq, hpart, List.append_nil] at htext
      rw [← htext]
  | some fragment =>
      have hne : before.fragment ≠ [] := by
        rw [hfragment, hpart]
        rintro rfl
        exact hbare hpart
      have hhash := partition_append_of_not_mem h.begins.hash rest
      rw [if_pos hne, String.toList_ofList, clean_takeWhile, ← partition_eq_takeWhile, h.text, hhash]

/-- An empty fragment stays where it is. -/
theorem Cut.stripped_bare (hbare : fragmentPart endpoint = some []) :
    stripFragment before endpoint = endpoint := by
  rw [stripFragment, h.fragment, hbare]
  exact if_neg (not_not.mpr rfl)

/-- The second parse finds the query of the first. -/
theorem Cut.query_stripped {parsed : Split}
    (hparse : urlparse p endpoint = .ok before)
    (hstrip : urlparse p (stripFragment before endpoint) = .ok parsed) :
    parsed.query = before.query := by
  by_cases hbare : fragmentPart endpoint = some []
  · rw [h.stripped_bare hbare, hparse] at hstrip
    rw [Except.ok.inj hstrip]
  · rw [h.begins.parse _ _ (h.stripped hbare) h.stops_path] at hstrip
    rw [← Except.ok.inj hstrip, h.query, h.query_eq, splitRest,
      partition_whole (partition_cases '#' rest).1]

/-- A text behind an empty fragment becomes the fragment. -/
theorem Cut.not_adds_bare (hbare : fragmentPart endpoint = some []) (htext : IsAppended text)
    (hne : text ≠ []) (hurl : url.toList = (stripFragment before endpoint).toList ++ text) :
    ¬ Adds p endpoint url params := by
  rintro ⟨-, after, -, hafter, -, -, -, hfragment, -⟩
  have hrest := (partition_cases '#' rest).2
  rw [← h.fragment_eq, hbare] at hrest
  have hclean : clean url.toList = front ++ ((partition '#' rest).1 ++ '#' :: text) := by
    rw [hurl, h.stripped_bare hbare, clean_append _ htext.head htext.dropped, h.text]
    conv_lhs => rw [hrest]
    simp
  have hstops : Stops ((partition '#' rest).1 ++ '#' :: text) :=
    h.stops_path.append fun _ => stops_cons (.inr (.inr rfl)) text
  rw [h.begins.parse _ _ hclean hstops] at hafter
  rw [← Except.ok.inj hafter, splitRest, partition_of_not_mem (partition_cases '#' rest).1]
    at hfragment
  exact hne hfragment

/-- Otherwise what is added shows in the path and the query. -/
theorem Cut.adds_iff (hparse : urlparse p endpoint = .ok before)
    (hbare : fragmentPart endpoint ≠ some []) (htext : IsAppended text)
    (hstops : Stops ((partition '#' rest).1 ++ text))
    (hurl : url.toList = (stripFragment before endpoint).toList ++ text) :
    Adds p endpoint url params ↔
      (partition '?' ((partition '#' rest).1 ++ text)).1 = before.path ∧
        parseQsl ((partition '?' ((partition '#' rest).1 ++ text)).2.getD []) =
          parseQsl before.query ++ params := by
  have hclean : clean url.toList = front ++ ((partition '#' rest).1 ++ text) := by
    rw [hurl, clean_append _ htext.head htext.dropped, h.stripped hbare, List.append_assoc]
  have hhash : '#' ∉ (partition '#' rest).1 ++ text := by
    rw [List.mem_append, not_or]
    exact ⟨(partition_cases '#' rest).1, htext.hash⟩
  have hafter := h.begins.parse _ _ hclean hstops
  rw [splitRest, partition_whole hhash] at hafter
  constructor
  · rintro ⟨before', after, hbefore, hafter', -, -, hpath, -, hquery⟩
    rw [hparse] at hbefore
    rw [hafter] at hafter'
    obtain rfl := Except.ok.inj hbefore
    obtain rfl := Except.ok.inj hafter'
    exact ⟨hpath, hquery⟩
  · rintro ⟨hpath, hquery⟩
    exact ⟨before, _, hparse, hafter, rfl, rfl, hpath, rfl, hquery⟩

/-- Where there is a query, the text goes on with it. -/
theorem Cut.adds_iff_query {query : List Char} (hparse : urlparse p endpoint = .ok before)
    (hbare : fragmentPart endpoint ≠ some []) (hquery : queryPart endpoint = some query)
    (htext : IsAppended text)
    (hurl : url.toList = (stripFragment before endpoint).toList ++ text) :
    Adds p endpoint url params ↔ parseQsl (query ++ text) = parseQsl query ++ params := by
  have hpart := h.query_eq.symm.trans hquery
  have hne : (partition '#' rest).1 ≠ [] := by
    intro hnil
    rw [hnil] at hpart
    cases hpart
  have hstops : Stops ((partition '#' rest).1 ++ text) :=
    h.stops_path.append fun hnil => absurd hnil hne
  rw [h.adds_iff hparse hbare htext hstops hurl, partition_append_of_some hpart, h.query, hquery]
  simp only [h.path, Option.getD_some, true_and]

/-- Where there is none, a question mark begins it. -/
theorem Cut.adds_first (hparse : urlparse p endpoint = .ok before)
    (hbare : fragmentPart endpoint ≠ some []) (hquery : queryPart endpoint = none)
    (hurl : url.toList =
      (stripFragment before endpoint).toList ++ '?' :: (urlencode params).toList) :
    Adds p endpoint url params := by
  have hpart := h.query_eq.symm.trans hquery
  have happended := (isAppended_urlencode params).cons (c := '?') (by decide) (by decide) (by decide)
  obtain ⟨hnot, htext⟩ := partition_cases '?' (partition '#' rest).1
  rw [hpart, List.append_nil] at htext
  have hstops : Stops ((partition '#' rest).1 ++ '?' :: (urlencode params).toList) :=
    h.stops_path.append fun _ => stops_cons (.inr (.inl rfl)) _
  rw [h.adds_iff hparse hbare happended hstops hurl, htext, partition_of_not_mem hnot, h.path,
    h.query, hquery, Option.getD_some, Option.getD_none, parseQsl_urlencode, parseQsl_nil,
    List.nil_append]
  exact ⟨rfl, rfl⟩

/-- Without a question mark the parameters end in the path or the authority. -/
theorem Cut.not_adds_path (hbare : fragmentPart endpoint ≠ some [])
    (hquery : queryPart endpoint = none) (hne : params ≠ [])
    (hurl : url.toList = (stripFragment before endpoint).toList ++ (urlencode params).toList) :
    ¬ Adds p endpoint url params := by
  rintro ⟨before', after, -, hafter, -, -, -, -, hpairs⟩
  have hpart := h.query_eq.symm.trans hquery
  obtain ⟨hnot, htext⟩ := partition_cases '?' (partition '#' rest).1
  rw [hpart, List.append_nil] at htext
  have happended := isAppended_urlencode params
  have hmark : '?' ∉ clean url.toList := by
    rw [hurl, clean_append _ happended.head happended.dropped, h.stripped hbare, htext]
    simp only [List.mem_append, h.begins.mark, hnot, false_or]
    intro hmem
    obtain hform | hother := mem_urlencode params _ hmem
    · revert hform
      decide
    · revert hother
      decide
  rw [query_of_no_mark hafter hmark, parseQsl_nil] at hpairs
  exact hne (List.append_eq_nil_iff.mp hpairs.symm).2

omit h in
/-- A second question mark becomes part of the first name. -/
theorem parseQsl_second_mark (hne : params ≠ []) :
    parseQsl ('?' :: (urlencode params).toList) ≠ params := by
  obtain ⟨f, fs, rfl⟩ := List.exists_cons_of_ne_nil hne
  have hread : parseQsl ('?' :: (urlencode (f :: fs)).toList) =
      (String.ofList ('?' :: f.1.toList), f.2) :: fs :=
    parseQsl_front_urlencode ['?'] f fs fun c hc => by
      obtain rfl := List.mem_singleton.mp hc
      decide
  rw [hread]
  intro heq
  have hname : String.ofList ('?' :: f.1.toList) = f.1 := congrArg Prod.fst (List.cons.inj heq).1
  have hlength := congrArg (fun s : String => s.toList.length) hname
  simp at hlength

/-- Behind the separator that the query asks for, the parameters are added exactly if neither
fragment nor query are empty. -/
theorem Cut.adds_separated (hparse : urlparse p endpoint = .ok before) (hne : params ≠ [])
    (hurl : url.toList = (stripFragment before endpoint).toList ++
      (if before.query ≠ [] then '&' else '?') :: (urlencode params).toList) :
    Adds p endpoint url params ↔
      fragmentPart endpoint ≠ some [] ∧ queryPart endpoint ≠ some [] := by
  have happended : IsAppended
      ((if before.query ≠ [] then '&' else '?') :: (urlencode params).toList) := by
    split
    · exact (isAppended_urlencode params).cons (by decide) (by decide) (by decide)
    · exact (isAppended_urlencode params).cons (by decide) (by decide) (by decide)
  by_cases hbare : fragmentPart endpoint = some []
  · have hnot : ¬ Adds p endpoint url params :=
      h.not_adds_bare hbare happended (List.cons_ne_nil _ _) hurl
    simp [hnot, hbare]
  · cases hquery : queryPart endpoint with
    | none =>
        have hempty : before.query = [] := by rw [h.query, hquery]; rfl
        rw [hempty, if_neg (not_not.mpr rfl)] at hurl
        have hadds := h.adds_first hparse hbare hquery hurl
        simp [hadds, hbare]
    | some query =>
        have hvalue : before.query = query := by rw [h.query, hquery]; rfl
        rw [h.adds_iff_query hparse hbare hquery happended hurl, hvalue]
        cases query with
        | nil =>
            rw [if_neg (not_not.mpr rfl), List.nil_append, parseQsl_nil, List.nil_append]
            exact iff_of_false (parseQsl_second_mark hne) fun hboth => hboth.2 rfl
        | cons c query =>
            rw [if_pos (List.cons_ne_nil c query), parseQsl_append, parseQsl_urlencode]
            simp [hbare]

/-- A query ends as its endpoint does. -/
theorem Cut.getLast_query (hbare : fragmentPart endpoint ≠ some []) {query : List Char}
    (hquery : queryPart endpoint = some query) {c : Char} (hend : endOf before endpoint = some c)
    (hc : c = '?' ∨ c = '&') : ('?' :: query).getLast? = some c := by
  obtain ⟨init, hinit⟩ := List.getLast?_eq_some_iff.mp hend
  have hlow : ∀ x ∈ [c].head?, 32 < x.toNat := by
    intro x hx
    obtain rfl := Option.some.inj hx
    obtain rfl | rfl := hc <;> decide
  have hkept : ∀ x ∈ [c], isDropped x = false := by
    intro x hx
    obtain rfl := List.mem_singleton.mp hx
    obtain rfl | rfl := hc <;> decide
  have hclean := h.stripped hbare
  rw [hinit, clean_append init hlow hkept] at hclean
  have htext := (partition_cases '?' (partition '#' rest).1).2
  rw [← h.query_eq, hquery] at htext
  have hends := congrArg List.getLast? hclean
  rw [htext, ← List.append_assoc, List.getLast?_append, List.getLast?_append] at hends
  simpa using hends.symm

/-- Behind a text that ends in a separator of its own, the parameters are added exactly if it is
the one that the query asks for. -/
theorem Cut.adds_direct (hparse : urlparse p endpoint = .ok before) (hne : params ≠ []) {c : Char}
    (hend : endOf before endpoint = some c) (hc : c = '?' ∨ c = '&')
    (hurl : url.toList = (stripFragment before endpoint).toList ++ (urlencode params).toList) :
    Adds p endpoint url params ↔ fragmentPart endpoint ≠ some [] ∧
      (if c = '?' then queryPart endpoint = some [] else queryPart endpoint ≠ none) := by
  have happended := isAppended_urlencode params
  by_cases hbare : fragmentPart endpoint = some []
  · have hform : (urlencode params).toList ≠ [] := by
      intro hnil
      have hread := parseQsl_urlencode params
      rw [hnil, parseQsl_nil] at hread
      exact hne hread.symm
    have hnot : ¬ Adds p endpoint url params := h.not_adds_bare hbare happended hform hurl
    simp [hnot, hbare]
  · cases hquery : queryPart endpoint with
    | none =>
        have hnot := h.not_adds_path hbare hquery hne hurl
        simp [hnot]
    | some query =>
        rw [h.adds_iff_query hparse hbare hquery happended hurl]
        have hlast := h.getLast_query hbare hquery hend hc
        obtain rfl | rfl := hc
        · rw [if_pos rfl]
          cases query with
          | nil =>
              rw [List.nil_append, parseQsl_urlencode]
              simp [hbare, parseQsl_nil]
          | cons x query =>
              have hmerged := parseQsl_merged_ne (s := x :: query) (c := '?') (by decide)
                (by simpa using hlast) params hne
              exact iff_of_false hmerged (by simp)
        · rw [if_neg (by decide)]
          have hquery' : ∃ init, query = init ++ ['&'] := by
            cases query with
            | nil => cases hlast
            | cons x query => exact List.getLast?_eq_some_iff.mp (by simpa using hlast)
          obtain ⟨init, rfl⟩ := hquery'
          rw [List.append_assoc, List.singleton_append, parseQsl_append, parseQsl_append,
            parseQsl_urlencode, parseQsl_nil, List.append_nil]
          simp [hbare]

end Cuts

theorem exists_cut (hparse : urlparse p endpoint = .ok before) (hhttp : IsHttp before) :
    ∃ front rest, Cut p endpoint before front rest := by
  obtain ⟨front, rest, hfront, htext, hstops, hparsed⟩ :=
    exists_front hparse hhttp.scheme_ne_nil hhttp.2
  exact ⟨front, rest, hfront, htext, hstops, hparsed⟩

/-- The text `build_authorization_url` returns. -/
theorem buildAuthorizationUrl_eq {a : AuthorizationUrl} (h : buildAuthorizationUrl p a = .ok url)
    (hparse : urlparse p a.authorizationEndpoint = .ok before) :
    ∃ parsed, urlparse p (stripFragment before a.authorizationEndpoint) = .ok parsed ∧
      url = stripFragment before a.authorizationEndpoint ++
        (if parsed.query ≠ [] then "&" else "?") ++ urlencode a.params := by
  unfold buildAuthorizationUrl at h
  dsimp only at h
  split at h
  · cases h
  · split at h
    · cases h
    · split at h
      · cases h
      · split at h
        · cases h
        · obtain ⟨before', hbefore, h⟩ := bind_eq_ok.mp h
          obtain rfl : before = before' := by
            rw [hparse] at hbefore
            exact Except.ok.inj hbefore
          obtain ⟨parsed, hparsed, h⟩ := bind_eq_ok.mp h
          exact ⟨parsed, hparsed, (Except.ok.inj h).symm⟩

/-- The text `build_end_session_url` returns. -/
theorem buildEndSessionUrl_eq {a : EndSessionUrl} (h : buildEndSessionUrl p a = .ok url)
    (hparse : urlparse p a.endSessionEndpoint = .ok before) :
    ∃ parsed, urlparse p (stripFragment before a.endSessionEndpoint) = .ok parsed ∧
      url = if a.params = [] then stripFragment before a.endSessionEndpoint
        else if endOf before a.endSessionEndpoint = some '?' ∨
          endOf before a.endSessionEndpoint = some '&' then
            stripFragment before a.endSessionEndpoint ++ urlencode a.params
        else stripFragment before a.endSessionEndpoint ++
          (if parsed.query ≠ [] then "&" else "?") ++ urlencode a.params := by
  unfold buildEndSessionUrl at h
  dsimp only at h
  split at h
  · cases h
  · split at h
    · cases h
    · obtain ⟨before', hbefore, h⟩ := bind_eq_ok.mp h
      obtain rfl : before = before' := by
        rw [hparse] at hbefore
        exact Except.ok.inj hbefore
      obtain ⟨parsed, hparsed, h⟩ := bind_eq_ok.mp h
      refine ⟨parsed, hparsed, ?_⟩
      by_cases hempty : a.params = []
      · rw [if_pos hempty] at h ⊢
        exact (Except.ok.inj h).symm
      · rw [if_neg hempty] at h ⊢
        by_cases hend : endOf before a.endSessionEndpoint = some '?' ∨
          endOf before a.endSessionEndpoint = some '&'
        · rw [if_pos hend]
          exact (Except.ok.inj ((if_pos hend).symm.trans h)).symm
        · rw [if_neg hend]
          exact (Except.ok.inj ((if_neg hend).symm.trans h)).symm

/-- An endpoint to which nothing is added only loses its fragment. -/
theorem adds_nothing (hparse : urlparse p endpoint = .ok before) (hhttp : IsHttp before) :
    Adds p endpoint (stripFragment before endpoint) [] := by
  obtain ⟨front, rest, hcut⟩ := exists_cut hparse hhttp
  by_cases hbare : fragmentPart endpoint = some []
  · rw [hcut.stripped_bare hbare]
    exact ⟨before, before, hparse, hparse, rfl, rfl, rfl, by rw [hcut.fragment, hbare]; rfl,
      (List.append_nil _).symm⟩
  · have hstops : Stops ((partition '#' rest).1 ++ []) := by
      rw [List.append_nil]
      exact hcut.stops_path
    rw [hcut.adds_iff hparse hbare ⟨by simp, by simp, by simp⟩ hstops (List.append_nil _).symm,
      List.append_nil, hcut.path, hcut.query, hcut.query_eq, List.append_nil]
    exact ⟨rfl, rfl⟩

theorem toList_separated (s t : String) (query : List Char) :
    (s ++ (if query ≠ [] then "&" else "?") ++ t).toList =
      s.toList ++ (if query ≠ [] then '&' else '?') :: t.toList := by
  rw [String.toList_append, String.toList_append, List.append_assoc]
  split <;> rfl

end Builders

/-- Where `build_end_session_url` adds exactly its parameters. -/
def SeparatorFits (parsed : Split) (endpoint : String) : Prop :=
  fragmentPart endpoint ≠ some [] ∧
    (if endOf parsed endpoint = some '?' then queryPart endpoint = some []
      else if endOf parsed endpoint = some '&' then queryPart endpoint ≠ none
      else queryPart endpoint ≠ some [])

/-- To the URL of an endpoint, `build_authorization_url` adds exactly its parameters if and only if
the endpoint has neither an empty fragment nor an empty query; and `build_end_session_url` if and
only if there are none, or there is no empty fragment and the endpoint ends in the separator that
its query asks for, or in none and without an empty query. -/
theorem url_builders_add (p : Platform) (parsed : Split) (url : String) (hhttp : IsHttp parsed) :
    (∀ a : AuthorizationUrl, urlparse p a.authorizationEndpoint = .ok parsed →
      buildAuthorizationUrl p a = .ok url →
        (Adds p a.authorizationEndpoint url a.params ↔
          fragmentPart a.authorizationEndpoint ≠ some [] ∧
            queryPart a.authorizationEndpoint ≠ some [])) ∧
    (∀ a : EndSessionUrl, urlparse p a.endSessionEndpoint = .ok parsed →
      buildEndSessionUrl p a = .ok url →
        (Adds p a.endSessionEndpoint url a.params ↔
          a.params = [] ∨ SeparatorFits parsed a.endSessionEndpoint)) := by
  constructor
  · intro a hparse hbuild
    obtain ⟨front, rest, hcut⟩ := exists_cut hparse hhttp
    obtain ⟨again, hagain, rfl⟩ := buildAuthorizationUrl_eq hbuild hparse
    have hne : a.params ≠ [] := by
      rw [AuthorizationUrl.params]
      simp
    apply hcut.adds_separated hparse hne
    rw [hcut.query_stripped hparse hagain, toList_separated]
  · intro a hparse hbuild
    obtain ⟨front, rest, hcut⟩ := exists_cut hparse hhttp
    obtain ⟨again, hagain, rfl⟩ := buildEndSessionUrl_eq hbuild hparse
    by_cases hempty : a.params = []
    · rw [if_pos hempty, hempty]
      exact iff_of_true (adds_nothing hparse hhttp) (.inl rfl)
    · rw [if_neg hempty, or_iff_right hempty, SeparatorFits]
      by_cases hmark : endOf parsed a.endSessionEndpoint = some '?'
      · rw [if_pos (.inl hmark), if_pos hmark,
          hcut.adds_direct hparse hempty hmark (.inl rfl) (String.toList_append), if_pos rfl]
      · by_cases hamp : endOf parsed a.endSessionEndpoint = some '&'
        · rw [if_pos (.inr hamp), if_neg hmark, if_pos hamp,
            hcut.adds_direct hparse hempty hamp (.inr rfl) (String.toList_append),
            if_neg (by decide)]
        · rw [if_neg (by simp [hmark, hamp]), if_neg hmark, if_neg hamp]
          apply hcut.adds_separated hparse hempty
          rw [hcut.query_stripped hparse hagain, toList_separated]

/-- Both builders at an endpoint with a query. -/
theorem url_builders_add_sample :
    Adds asciiPlatform "https://idp/a?x=1"
        "https://idp/a?x=1&client_id=c&redirect_uri=r&scope=openid&response_type=code"
        [("client_id", "c"), ("redirect_uri", "r"), ("scope", "openid"), ("response_type", "code")] ∧
      Adds asciiPlatform "https://idp/a?x=1" "https://idp/a?x=1&state=s" [("state", "s")] := by
  have hparse : urlparse asciiPlatform "https://idp/a?x=1" =
      .ok ⟨"https".toList, "idp".toList, "/a".toList, "x=1".toList, []⟩ := by decide +kernel
  have hhttp : IsHttp ⟨"https".toList, "idp".toList, "/a".toList, "x=1".toList, []⟩ :=
    ⟨by decide +kernel, by decide +kernel⟩
  have hlogin : buildAuthorizationUrl asciiPlatform
      { authorizationEndpoint := "https://idp/a?x=1", clientId := "c", redirectUri := "r" } =
        .ok "https://idp/a?x=1&client_id=c&redirect_uri=r&scope=openid&response_type=code" := by
    decide +kernel
  have hlogout : buildEndSessionUrl asciiPlatform
      { endSessionEndpoint := "https://idp/a?x=1", state := some "s" } =
        .ok "https://idp/a?x=1&state=s" := by decide +kernel
  constructor
  · refine ((url_builders_add asciiPlatform _ _ hhttp).1 _ hparse hlogin).mpr ⟨?_, ?_⟩
    · decide +kernel
    · decide +kernel
  · refine ((url_builders_add asciiPlatform _ _ hhttp).2 _ hparse hlogout).mpr (.inr ⟨?_, ?_⟩)
    · decide +kernel
    · decide +kernel

/-- An empty query at an authorization endpoint, and an empty fragment at a logout endpoint. -/
theorem separators_misplaced :
    let a : AuthorizationUrl :=
      { authorizationEndpoint := "https://idp/a?", clientId := "c", redirectUri := "r" }
    let b : EndSessionUrl := { endSessionEndpoint := "https://idp/b#", state := some "s" }
    (∃ url, buildAuthorizationUrl asciiPlatform a = .ok url ∧
      ¬ Adds asciiPlatform a.authorizationEndpoint url a.params) ∧
    ∃ url, buildEndSessionUrl asciiPlatform b = .ok url ∧
      ¬ Adds asciiPlatform b.endSessionEndpoint url b.params := by
  intro a b
  refine ⟨⟨"https://idp/a??client_id=c&redirect_uri=r&scope=openid&response_type=code",
    by decide +kernel, ?_⟩, ⟨"https://idp/b#?state=s", by decide +kernel, ?_⟩⟩
  · rintro ⟨before, after, hbefore, hafter, -, -, -, -, hquery⟩
    have hparse : urlparse asciiPlatform "https://idp/a?" =
        .ok ⟨"https".toList, "idp".toList, "/a".toList, [], []⟩ := by decide +kernel
    have hparse' : urlparse asciiPlatform
        "https://idp/a??client_id=c&redirect_uri=r&scope=openid&response_type=code" =
        .ok ⟨"https".toList, "idp".toList, "/a".toList,
          "?client_id=c&redirect_uri=r&scope=openid&response_type=code".toList, []⟩ := by
      decide +kernel
    rw [hparse] at hbefore
    rw [hparse'] at hafter
    rw [← Except.ok.inj hbefore, ← Except.ok.inj hafter] at hquery
    revert hquery
    decide +kernel
  · rintro ⟨before, after, -, hafter, -, -, -, hfragment, -⟩
    have hparse : urlparse asciiPlatform "https://idp/b#?state=s" =
        .ok ⟨"https".toList, "idp".toList, "/b".toList, [], "?state=s".toList⟩ := by decide +kernel
    rw [hparse] at hafter
    rw [← Except.ok.inj hafter] at hfragment
    revert hfragment
    decide

end IdentityModel.Py
