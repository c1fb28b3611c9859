import IdentityModel.Exchanges
import IdentityModel.Whatwg

/-!
# The HTTP clients of the Rust crate

`rust/src/http.rs`: the redirect policies of the three clients the crate builds. A URL that is asked
has the scheme `http` or `https`; `reqwest` refuses any other target itself. The URLs handed to a
policy are those asked so far, the current one last.
-/
namespace IdentityModel.RustHttp

open Exchanges Runs

def https : List Char := ['h', 't', 't', 'p', 's']

def http : List Char := ['h', 't', 't', 'p']

/-- A URL that a client can ask. -/
structure HttpUrl where
  url : Whatwg.Url
  isHttp : url.scheme = http ∨ url.scheme = https

instance decidableEq_httpUrl : DecidableEq HttpUrl := fun u v =>
  decidable_of_iff (u.url = v.url) ⟨fun h => by cases u; cases v; cases h; rfl, fun h => h ▸ rfl⟩

/-- Why the redirect policy refused to follow a hop. -/
inductive RedirectBlocked
  | tlsDowngrade
  | tooManyRedirects
  | crossOrigin
  deriving DecidableEq, Repr

def maxRedirects : ℕ := 10

/-- `MAX_BODY_BYTES`. -/
def maxBodyBytes : ℕ := 1048576

def isTlsDowngrade (previous : List HttpUrl) (next : HttpUrl) : Bool :=
  match previous.getLast? with
  | some prev => prev.url.scheme = https && next.url.scheme = http
  | none => false

/-- `Url::origin`; a port that is left out is the one of the scheme. -/
def origin (u : HttpUrl) : List Char × List Char × Option ℕ := (u.url.scheme, u.url.host, u.url.port)

def isCrossOrigin (previous : List HttpUrl) (next : HttpUrl) : Bool :=
  match previous.getLast? with
  | some prev => origin prev ≠ origin next
  | none => false

def noDowngradePolicy : Policy HttpUrl RedirectBlocked := fun previous next =>
  if maxRedirects ≤ previous.length then .refuse .tooManyRedirects
  else if isTlsDowngrade previous next then .refuse .tlsDowngrade
  else .follow

def sameOriginPolicy : Policy HttpUrl RedirectBlocked := fun previous next =>
  if maxRedirects ≤ previous.length then .refuse .tooManyRedirects
  else if isTlsDowngrade previous next then .refuse .tlsDowngrade
  else if isCrossOrigin previous next then .refuse .crossOrigin
  else .follow

/-- `Policy::none`. -/
def noRedirectPolicy : Policy HttpUrl RedirectBlocked := fun _ _ => .stop

/-- The scheme test that every client makes of the text of its endpoint. -/
def schemeOk (allowHttp : Bool) (endpoint : List Char) : Bool :=
  let scheme := endpoint.map Url.asciiLower
  "https://".toList.isPrefixOf scheme || (allowHttp && "http://".toList.isPrefixOf scheme)

theorem scheme_of_parse {set : Whatwg.Setting} {text : List Char} {u : Whatwg.Url}
    (h : Whatwg.parse set text = some u) : u.scheme = http ∨ u.scheme = https := by
  unfold Whatwg.parse at h
  split at h
  · rename_i scheme rest _
    split at h
    · rename_i hhttp
      obtain ⟨r, -, rfl⟩ := Option.map_eq_some_iff.mp h
      simpa [Whatwg.isHttp, http, https] using hhttp
    · cases h
  · cases h

def HttpUrl.parse (set : Whatwg.Setting) (text : List Char) : Option HttpUrl :=
  match h : Whatwg.parse set text with
  | some u => some ⟨u, scheme_of_parse h⟩
  | none => none

theorem HttpUrl.parse_eq_some {set : Whatwg.Setting} {text : List Char} {u : HttpUrl} :
    HttpUrl.parse set text = some u ↔ Whatwg.parse set text = some u.url := by
  unfold HttpUrl.parse
  split
  · rename_i v hv
    constructor
    · intro h
      rw [hv, ← Option.some.inj h]
    · intro h
      rw [hv] at h
      obtain ⟨url, hurl⟩ := u
      obtain rfl : v = url := Option.some.inj h
      rfl
  · rename_i hv
    simp [hv]

theorem asciiLower_cases (c : Char) : Url.asciiLower c = c ∨ 'A' ≤ c ∧ c ≤ 'Z' := by
  unfold Url.asciiLower
  split
  · rename_i hc
    exact .inr hc
  · exact .inl rfl

theorem eq_colon {c : Char} (h : Url.asciiLower c = ':') : c = ':' := by
  obtain heq | ⟨hlo, hhi⟩ := asciiLower_cases c
  · rw [← heq, h]
  · have hletters : ∀ k < 91, 65 ≤ k → Url.asciiLower (Char.ofNat k) ≠ ':' := by decide
    have hne := hletters c.toNat (Nat.lt_succ_of_le hhi) hlo
    rw [Char.ofNat_toNat] at hne
    exact absurd h hne

/-- A character of a scheme in any letters. -/
theorem scheme_char {c : Char} (h : Url.asciiLower c ∈ https) : 32 < c.toNat ∧ c ≠ ':' := by
  obtain heq | hc := asciiLower_cases c
  · rw [heq] at h
    fin_cases h <;> decide
  · have hlo : ('A' : Char).toNat ≤ c.toNat := hc.1
    refine ⟨?_, ?_⟩
    · simp at hlo
      omega
    · rintro rfl
      exact absurd hlo (by decide)

/-- The scheme of a URL is what stands before its first colon. -/
theorem scheme_parsed {set : Whatwg.Setting} {text scheme tail : List Char} {u : Whatwg.Url}
    (htext : text = scheme ++ ':' :: tail) (hne : scheme ≠ [])
    (hchars : ∀ c ∈ scheme, 32 < c.toNat ∧ c ≠ ':') (h : Whatwg.parse set text = some u) :
    u.scheme = scheme.map Url.asciiLower := by
  obtain ⟨tail', hclean⟩ : ∃ tail', Whatwg.clean text = scheme ++ ':' :: tail' := by
    have hstart : text.dropWhile Whatwg.isSpace = text := by
      obtain ⟨c, s, hs⟩ := List.exists_cons_of_ne_nil hne
      have hc := (hchars c (by simp [hs])).1
      have hspace : Whatwg.isSpace c = false := by simpa [Whatwg.isSpace] using hc
      rw [htext, hs, List.cons_append, List.dropWhile_cons, hspace, if_neg Bool.false_ne_true]
    have hcolon : Whatwg.isSpace ':' = false := by decide
    obtain ⟨t, ht⟩ := List.head?_eq_some_iff.mp (Whatwg.rdropWhile_head tail hcolon)
    refine ⟨t.filter fun c => c ≠ '\t' && c ≠ '\n' && c ≠ '\r', ?_⟩
    rw [Whatwg.clean, hstart, htext, Whatwg.rdropWhile_append scheme tail hcolon, ht,
      List.filter_append, Whatwg.filter_clean fun c hc => (hchars c hc).1.le]
    rfl
  have hnot : ':' ∉ scheme := fun hc => (hchars ':' hc).2 rfl
  unfold Whatwg.parse at h
  rw [hclean, Url.partition_of_not_mem hnot] at h
  simp only at h
  split at h
  · obtain ⟨r, -, rfl⟩ := Option.map_eq_some_iff.mp h
    rfl
  · cases h

/-- An endpoint that passes the test without `allow_http` is asked over TLS. -/
theorem https_of_schemeOk {set : Whatwg.Setting} {text : List Char} {u : HttpUrl}
    (hok : schemeOk false text = true) (h : HttpUrl.parse set text = some u) :
    u.url.scheme = https := by
  have hprefix : "https://".toList <+: text.map Url.asciiLower := by
    simpa [schemeOk] using hok
  obtain ⟨t, ht⟩ := hprefix
  have hsplit : text.map Url.asciiLower = https ++ ([':', '/', '/'] ++ t) := ht.symm
  obtain ⟨scheme, rest, rfl, hscheme, hrest⟩ := List.map_eq_append_iff.mp hsplit
  cases rest with
  | nil => cases hrest
  | cons c tail =>
      obtain rfl : c = ':' := eq_colon (List.cons.inj hrest).1
      have hne : scheme ≠ [] := by
        rintro rfl
        cases hscheme
      have hchars : ∀ c ∈ scheme, 32 < c.toNat ∧ c ≠ ':' := fun c hc =>
        scheme_char (hscheme ▸ List.mem_map_of_mem hc)
      rw [scheme_parsed rfl hne hchars (HttpUrl.parse_eq_some.mp h), hscheme]

/-- The test looks at the start of the text only. -/
theorem schemeOk_append {allowHttp : Bool} {text : List Char} (h : schemeOk allowHttp text = true)
    (rest : List Char) : schemeOk allowHttp (text ++ rest) = true := by
  simp only [schemeOk, Bool.or_eq_true, Bool.and_eq_true, List.isPrefixOf_iff_prefix,
    List.map_append] at h ⊢
  obtain h | ⟨hallow, h⟩ := h
  · exact .inl (h.trans (List.prefix_append _ _))
  · exact .inr ⟨hallow, h.trans (List.prefix_append _ _)⟩

def Secure (u : HttpUrl) : Prop := u.url.scheme = https

theorem not_downgrade {asked : List HttpUrl} {prev next : HttpUrl} (hlast : asked.getLast? = some prev)
    (h : isTlsDowngrade asked next = false) (hprev : Secure prev) : Secure next := by
  simp only [isTlsDowngrade, hlast, Bool.and_eq_false_iff, decide_eq_false_iff_not] at h
  obtain h | h := h
  · exact absurd hprev h
  · exact next.isHttp.resolve_left h

theorem noDowngrade_respects : noDowngradePolicy.Respects fun p q => Secure p → Secure q := by
  intro asked prev next hlast hfollow
  unfold noDowngradePolicy at hfollow
  split at hfollow
  · cases hfollow
  · split at hfollow
    · cases hfollow
    · rename_i h
      exact not_downgrade hlast (by simpa using h)

theorem noDowngrade_decides : noDowngradePolicy.Decides := by
  intro asked next hstop
  unfold noDowngradePolicy at hstop
  split_ifs at hstop

theorem noDowngrade_limited : noDowngradePolicy.Limited maxRedirects := by
  intro asked next hfollow
  unfold noDowngradePolicy at hfollow
  split at hfollow
  · cases hfollow
  · omega

theorem sameOrigin_respects : sameOriginPolicy.Respects fun p q => origin p = origin q := by
  intro asked prev next hlast hfollow
  unfold sameOriginPolicy at hfollow
  split at hfollow
  · cases hfollow
  · split at hfollow
    · cases hfollow
    · split at hfollow
      · cases hfollow
      · rename_i h
        simpa [isCrossOrigin, hlast] using h

theorem sameOrigin_limited : sameOriginPolicy.Limited maxRedirects := by
  intro asked next hfollow
  unfold sameOriginPolicy at hfollow
  split at hfollow
  · cases hfollow
  · omega

theorem noRedirect_respects (R : HttpUrl → HttpUrl → Prop) : noRedirectPolicy.Respects R := by
  intro asked prev next _ hfollow
  cases hfollow

theorem noRedirect_limited (limit : ℕ) : noRedirectPolicy.Limited limit := by
  intro asked next hfollow
  cases hfollow

/-- A parser that knows the one host `idp`. -/
def oneHost : Whatwg.Setting where
  host h := if h = ['i', 'd', 'p'] then some h else none
  caret := false
  host_ascii := by
    intro h s hs c hc
    obtain ⟨rfl, hs⟩ := Option.ite_none_right_eq_some.mp hs
    obtain rfl := Option.some.inj hs
    fin_cases hc <;> decide
  host_colon := by
    intro h s hs hcolon
    obtain ⟨rfl, hs⟩ := Option.ite_none_right_eq_some.mp hs
    obtain rfl := Option.some.inj hs
    exact absurd hcolon (by decide)

end IdentityModel.RustHttp
