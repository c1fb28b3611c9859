import IdentityModel.HtuPaths
import IdentityModel.RustDpopBinding

/-!
# The `htu` of Go and Rust

`normalizeHTU` and `normalize_htu` write one URI the same way exactly when it is spelled as
the `url` crate serializes it: the host in the crate's form, no port that is written in
another way or left out by default, no dot segments, and a path whose units Go and the crate
write alike.
-/
namespace IdentityModel.HtuParity

open Url Percent GoUrl Whatwg HtuPaths

/-- The host as it is spelled, without credentials and port. -/
def hostOf (uri : List Char) : List Char := (splitPort false (afterLast '@' (authorityOf uri))).1

def portOf (uri : List Char) : Option (List Char) :=
  (splitPort false (afterLast '@' (authorityOf uri))).2

/-- A URI that is spelled as both sides write it. -/
structure Canonical (set : Setting) (uri : List Char) : Prop where
  host : set.host (hostOf uri) = some (hostOf uri)
  /-- The port is a number as it is printed, and not that of the scheme. -/
  port : ∀ digits ∈ portOf uri, ∃ n, digits = (Nat.repr n).toList ∧
    parsePort ((schemeOf uri).map asciiLower) digits = some (some n)
  /-- No space at the end that the crate drops. -/
  ending : tailOf uri = [] → (pathOf uri).getLast? ≠ some ' '
  dots : ∀ segment ∈ segments (pathOf uri), isDot (encode set.caret segment) = false
  path : alike set.caret (pathOf uri) = true

/-- What a `url::Url` is made of. -/
structure View where
  url : Whatwg.Url
  username : String := ""
  password : Option String := none
  query : Option String := none
  fragment : Option String := none
  deriving DecidableEq, Repr

/-- The `url` crate follows the URL standard for `http` and `https`. -/
structure Standard {U : Type} (crate : RustDpop.UrlCrate U) (set : Setting) where
  view : U → View
  parse : ∀ uri u, isHttp (schemeOf uri.toList) = true → crate.parse uri = .ok u →
    Whatwg.parse set uri.toList = some (view u).url
  setQuery : ∀ u, view (crate.setQuery u none) = { view u with query := none }
  setFragment : ∀ u, view (crate.setFragment u none) = { view u with fragment := none }
  setUsername : ∀ u, view ((crate.setUsername u "").getD u) = { view u with username := "" }
  setPassword : ∀ u, view ((crate.setPassword u none).getD u) = { view u with password := none }
  text : ∀ u, isHttp (view u).url.scheme = true → view u = { url := (view u).url } →
    (crate.text u).toList = (view u).url.serialize

section Authority

variable {set : Setting} {scheme authority : List Char} {host : List Char} {port : Option ℕ}

theorem splitPort_spec (inside : Bool) (s : List Char) :
    s = (splitPort inside s).1 ++
      (match (splitPort inside s).2 with | some digits => ':' :: digits | none => []) := by
  induction s generalizing inside with
  | nil => rfl
  | cons c s ih =>
      rw [splitPort]
      split
      · next hcolon =>
          simp only [Bool.and_eq_true, decide_eq_true_eq] at hcolon
          rw [hcolon.1]
          rfl
      · exact congrArg (c :: ·) (ih _)

theorem digits_of_parsePort {digits : List Char} {port : Option ℕ}
    (h : parsePort scheme digits = some port) : ∀ c ∈ digits, isDigit c = true := by
  rw [parsePort] at h
  split at h
  · next hdigits =>
      simp only [Bool.and_eq_true, List.all_eq_true] at hdigits
      exact hdigits.1
  · cases h

theorem isDigit_of_mem_repr {n : ℕ} {c : Char} (hc : c ∈ (Nat.repr n).toList) :
    isDigit c = true := by
  rw [Nat.toList_repr] at hc
  have hdigit := Nat.isDigit_of_mem_toDigits (by decide) (by decide) hc
  simpa [Char.isDigit, isDigit, Char.le_def] using hdigit

theorem plain_digit {c : Char} (h : isDigit c = true) : c.toNat < 128 ∧ c ≠ '%' ∧ c ≠ ':' ∧
    c ≠ ']' ∧ c ≠ '/' := by
  have hlow : c.toNat < 128 := by
    have hle : c.toNat ≤ '9'.toNat := by
      simp only [isDigit, Bool.and_eq_true, decide_eq_true_eq] at h
      exact h.2
    simp only [Char.reduceToNat] at hle
    omega
  refine ⟨hlow, ?_, ?_, ?_, ?_⟩
  · rintro rfl
    exact absurd h (by decide)
  · rintro rfl
    exact absurd h (by decide)
  · rintro rfl
    exact absurd h (by decide)
  · rintro rfl
    exact absurd h (by decide)

theorem mem_portText {c : Char} (hc : c ∈ portText port) : c = ':' ∨ isDigit c = true := by
  cases port with
  | none => cases hc
  | some n => exact (List.mem_cons.mp hc).imp_right isDigit_of_mem_repr

/-- Where a port is spelled as it is written. -/
theorem port_eq_iff {digits : List Char} (h : parsePort scheme digits = some port) :
    ':' :: digits = portText port ↔
      ∃ n, digits = (Nat.repr n).toList ∧ parsePort scheme digits = some (some n) := by
  cases port with
  | none => simp [portText, h]
  | some n =>
      simp only [portText, List.cons.injEq, true_and, h, Option.some.injEq]
      constructor
      · intro hdigits
        exact ⟨n, hdigits, rfl⟩
      · rintro ⟨m, hdigits, rfl⟩
        exact hdigits

/-- A host whose colons stand in brackets is told from its port. -/
theorem host_port_eq_iff {h digits : List Char} (hhost : set.host h = some host)
    (hport : parsePort scheme digits = some port) :
    h ++ ':' :: digits = host ++ portText port ↔ h = host ∧ ':' :: digits = portText port := by
  have hdigits := digits_of_parsePort hport
  have hnot : ':' ∉ digits := fun hc => (plain_digit (hdigits _ hc)).2.2.1 rfl
  constructor
  · intro heq
    cases port with
    | some n =>
        have hrepr : ':' ∉ (Nat.repr n).toList := fun hc =>
          (plain_digit (isDigit_of_mem_repr hc)).2.2.1 rfl
        have hsame := congrArg (afterLast ':') heq
        rw [portText, afterLast_append h hnot, afterLast_append host hrepr] at hsame
        have hdigits : ':' :: digits = portText (some n) := congrArg (':' :: ·) hsame
        rw [hdigits] at heq ⊢
        exact ⟨List.append_cancel_right heq, rfl⟩
    | none =>
        have heq : h ++ ':' :: digits = host := by simpa [portText] using heq
        have hlast := set.host_colon h host hhost (by simp [← heq])
        rw [← heq, List.getLast?_append_of_ne_nil _ (by simp)] at hlast
        have hmem : ']' ∈ ':' :: digits := List.mem_of_getLast? hlast
        obtain hc | hc := List.mem_cons.mp hmem
        · exact absurd hc (by decide)
        · exact absurd rfl (plain_digit (hdigits _ hc)).2.2.2.1
  · rintro ⟨rfl, hdigits⟩
    rw [hdigits]

theorem plain_written {h : List Char} (hhost : set.host h = some host) :
    Plain (host ++ portText port) := by
  intro c hc
  obtain hc | hc := List.mem_append.mp hc
  · have := set.host_ascii h host hhost c hc
    exact ⟨this.1, this.2.1⟩
  · obtain rfl | hc := mem_portText hc
    · decide
    · have := plain_digit hc
      exact ⟨this.1, this.2.1⟩

theorem no_slash_written {h : List Char} (hhost : set.host h = some host) :
    '/' ∉ host ++ portText port := by
  intro hc
  obtain hc | hc := List.mem_append.mp hc
  · exact (set.host_ascii h host hhost _ hc).2.2 rfl
  · obtain hc | hc := mem_portText hc
    · exact absurd hc (by decide)
    · exact absurd rfl (plain_digit hc).2.2.2.2

/-- What Go writes of a host is what the crate writes when the host is spelled that way. -/
theorem hostText_eq_iff {s written : List Char} {bytes : List ℕ} (h : HostText s bytes)
    (hplain : Plain written) : escape .host bytes = written ↔ s = written := by
  obtain ⟨_, hescape⟩ | ⟨hnot, hescape⟩ := h
  · rw [hescape]
  · constructor
    · intro heq
      exact absurd rfl (hplain _ (heq ▸ hescape)).2
    · intro heq
      exact absurd (heq ▸ hplain) hnot

/-- What `parseAuthority` makes of an authority. -/
theorem parseAuthority_eq_some {r : List Char × Option ℕ}
    (h : parseAuthority set scheme authority = some r) :
    set.host (splitPort false (afterLast '@' authority)).1 = some r.1 ∧
      (∀ digits ∈ (splitPort false (afterLast '@' authority)).2,
        parsePort scheme digits = some r.2) ∧
      ((splitPort false (afterLast '@' authority)).2 = none → r.2 = none) := by
  rw [Whatwg.parseAuthority] at h
  simp only at h
  split at h
  · cases h
  · obtain ⟨host, hhost, h⟩ := Option.bind_eq_some_iff.mp h
    cases hrest : (splitPort false (afterLast '@' authority)).2 with
    | none =>
        rw [hrest] at h
        obtain rfl := Option.some.inj h
        exact ⟨hhost, by simp, fun _ => rfl⟩
    | some digits =>
        rw [hrest] at h
        obtain ⟨port, hport, h⟩ := Option.bind_eq_some_iff.mp h
        obtain rfl := Option.some.inj h
        exact ⟨hhost, by simpa using hport, by simp⟩

/-- Where both write an authority alike. -/
theorem authority_eq_iff {r : List Char × Option ℕ} {bytes : List ℕ}
    (h : parseAuthority set scheme authority = some r)
    (htext : HostText (afterLast '@' authority) bytes) :
    escape .host bytes = r.1 ++ portText r.2 ↔
      set.host (splitPort false (afterLast '@' authority)).1 =
        some (splitPort false (afterLast '@' authority)).1 ∧
      ∀ digits ∈ (splitPort false (afterLast '@' authority)).2,
        ∃ n, digits = (Nat.repr n).toList ∧ parsePort scheme digits = some (some n) := by
  obtain ⟨hhost, hsome, hnone⟩ := parseAuthority_eq_some h
  rw [hostText_eq_iff htext (plain_written hhost)]
  have hsplit := splitPort_spec false (afterLast '@' authority)
  cases hport : (splitPort false (afterLast '@' authority)).2 with
  | none =>
      rw [hport] at hsplit
      simp only [List.append_nil] at hsplit
      rw [hnone hport, portText, List.append_nil, hhost, ← hsplit]
      simp [eq_comm]
  | some digits =>
      rw [hport] at hsplit
      simp only at hsplit
      have hparsed := hsome digits hport
      have hjoined := host_port_eq_iff hhost hparsed
      rw [← hsplit] at hjoined
      rw [hjoined, port_eq_iff hparsed, hhost, Option.some.injEq, eq_comm]
      simp

end Authority

section Whole

variable {set : Setting} {uri : List Char}

theorem ofNat_ne_slash {n : ℕ} (hn : n ≠ 47) : Char.ofNat n ≠ '/' := by
  intro h
  have hval := congrArg Char.toNat h
  by_cases hvalid : n.isValidChar
  · rw [Char.ofNat, dif_pos hvalid] at hval
    exact hn hval
  · rw [Char.ofNat, dif_neg hvalid] at hval
    cases hval

theorem upperHex_ne_slash (n : ℕ) : upperHex n ≠ '/' := by
  apply ofNat_ne_slash
  split <;> omega

/-- An escaped host has no slash. -/
theorem slash_not_mem_escape (bytes : List ℕ) : '/' ∉ escape .host bytes := by
  intro h
  obtain ⟨b, _, hb⟩ := List.mem_flatMap.mp h
  split at hb
  · simp only [escapeByte, List.mem_cons, List.not_mem_nil, or_false] at hb
    obtain hb | hb | hb := hb
    · exact absurd hb (by decide)
    · exact upperHex_ne_slash _ hb.symm
    · exact upperHex_ne_slash _ hb.symm
  · next hkeep =>
      have hb : '/' = Char.ofNat b := List.mem_singleton.mp hb
      rw [shouldEscape, ← hb] at hkeep
      exact hkeep (by decide)

/-- A host and a path after it are told apart by the first slash. -/
theorem append_eq_iff {host host' path path' : List Char} (hhost : '/' ∉ host)
    (hhost' : '/' ∉ host') (hpath : ∀ c ∈ path.head?, c = '/')
    (hpath' : ∀ c ∈ path'.head?, c = '/') :
    host ++ path = host' ++ path' ↔ host = host' ∧ path = path' := by
  have hcut (h p : List Char) (hh : '/' ∉ h) (hp : ∀ c ∈ p.head?, c = '/') :=
    takeWhile_stop (p := fun c => decide (c ≠ '/')) (l := h) (t := p)
      (fun c hc => by
        rw [decide_eq_true_eq]
        rintro rfl
        exact hh hc)
      (fun c hc => by simp [hp c hc])
  constructor
  · intro heq
    have hleft := hcut host path hhost hpath
    rw [heq] at hleft
    have hright := hcut host' path' hhost' hpath'
    exact ⟨hleft.1.symm.trans hright.1, hleft.2.symm.trans hright.2⟩
  · rintro ⟨rfl, rfl⟩
    rfl

theorem kept_eq_iff {path tail : List Char} (hpath : ∀ c ∈ path, 32 ≤ c.toNat) :
    kept path tail = path ↔ (tail = [] → path.getLast? ≠ some ' ') := by
  rw [kept]
  split
  · next htail =>
      rw [List.rdropWhile_eq_self_iff]
      constructor
      · intro h _ hlast
        have hne : path ≠ [] := by
          rintro rfl
          cases hlast
        rw [List.getLast?_eq_some_getLast hne] at hlast
        exact h hne (by rw [Option.some.inj hlast]; decide)
      · intro h hne hspace
        refine h htail ?_
        rw [List.getLast?_eq_some_getLast hne]
        have hlow : (path.getLast hne).toNat ≤ 32 := by simpa [isSpace] using hspace
        have hhigh := hpath _ (List.getLast_mem hne)
        rw [← Char.ofNat_toNat (path.getLast hne), show (path.getLast hne).toNat = 32 by omega]
  · next htail => simp [htail]

end Whole

/-- A URL without credentials, query and fragment is what `normalize_htu` makes of it. -/
theorem normalizeHtu_text {U E D : Type} {set : Setting} {lib : RustDpop.Library U E D}
    (std : Standard lib.url set) {uri r : String}
    (hhttp : isHttp (schemeOf uri.toList) = true)
    (h : RustDpop.normalizeHtu lib uri = .ok r) :
    ∃ url, Whatwg.parse set uri.toList = some url ∧
      (isHttp url.scheme = true → r.toList = url.serialize) := by
  rw [RustDpop.normalizeHtu] at h
  split at h
  · cases h
  · next u hu =>
      split at h
      · obtain rfl := Except.ok.inj h
        refine ⟨(std.view u).url, std.parse uri u hhttp hu, ?_⟩
        intro hscheme
        have hview : std.view (lib.url.strip u) = { url := (std.view u).url } := by
          simp only [RustDpop.UrlCrate.strip]
          rw [std.setPassword, std.setUsername, std.setFragment, std.setQuery]
        have htext := std.text (lib.url.strip u)
        rw [hview] at htext
        exact htext hscheme rfl
      · cases h

theorem isHttp_lower {scheme : List Char} (h : isHttp scheme = true) :
    isHttp (scheme.map asciiLower) = true := by
  simp only [isHttp, List.mem_cons, List.not_mem_nil, or_false, decide_eq_true_eq] at h
  obtain h | h := h <;> rw [h] <;> decide

/-- Go and Rust write a URI with a path alike exactly when it is spelled canonically. -/
theorem htu_agrees_iff {U E D : Type} (ipv6 : List ℕ → Bool) (set : Setting)
    (lib : RustDpop.Library U E D) (std : Standard lib.url set) (uri g r : String)
    (hhttp : isHttp (schemeOf uri.toList) = true) (hpath : pathOf uri.toList ≠ [])
    (hgo : GoDpop.normalizeHTU ipv6 uri = .ok g)
    (hrust : RustDpop.normalizeHtu lib uri = .ok r) :
    g = r ↔ Canonical set uri.toList := by
  obtain ⟨hparts, host, bytes, hhost, hbytes, hg⟩ := GoDpop.normalizeHTU_parts hgo hpath
  obtain ⟨url, hurl, hr⟩ := normalizeHtu_text std hhttp hrust
  rw [parse_parts set hparts hhttp] at hurl
  obtain ⟨authority, hauthority, rfl⟩ := Option.map_eq_some_iff.mp hurl
  have hr := hr (isHttp_lower hhttp)
  have hchars : ∀ c ∈ pathOf uri.toList, 32 ≤ c.toNat := fun c hc => (hparts.path_chars c hc).1
  have hserver := (parseAuthority_eq_some hauthority).1
  have hgoPath : ∀ c ∈ (escape .path bytes).head?, c = '/' := by
    obtain ⟨rest, hrest⟩ := List.head?_eq_some_iff.mp (hbytes.head_slash hparts.path_begins)
    rw [hrest, escape_slash]
    simp
  have hsame : g = r ↔ escape .host host ++ escape .path bytes =
      authority.1 ++ portText authority.2 ++
        pathText (parsePath set.caret (kept (pathOf uri.toList) (tailOf uri.toList))) := by
    rw [← String.toList_inj, hg, hr, Url.serialize]
    simp
  rw [hsame, append_eq_iff (slash_not_mem_escape host) (no_slash_written hserver) hgoPath
    (head_pathText _), authority_eq_iff hauthority hhost, eq_comm (a := escape .path bytes),
    pathText_eq_iff set.caret (tailOf uri.toList) hbytes hparts.path_begins hchars,
    kept_eq_iff hchars]
  constructor
  · rintro ⟨⟨hhost, hport⟩, hending, hdots, halike⟩
    exact ⟨hhost, hport, hending, hdots, halike⟩
  · intro h
    exact ⟨⟨h.host, h.port⟩, h.ending, h.dots, h.path⟩

/-- Host names of letters, in lower case. -/
def nameHost (h : List Char) : Option (List Char) :=
  if h.all fun c => isAsciiAlpha c || c = '-' || c = '.' then some (h.map asciiLower) else none

theorem nameHost_chars {h s : List Char} (hs : nameHost h = some s) :
    ∀ c ∈ s, c.toNat < 128 ∧ c ≠ '%' ∧ c ≠ '/' ∧ c ≠ ':' := by
  have hall : ∀ k : Fin 128, (isAsciiAlpha (Char.ofNat k) || Char.ofNat k = '-' ||
      Char.ofNat k = '.') = true → (asciiLower (Char.ofNat k)).toNat < 128 ∧
      asciiLower (Char.ofNat k) ≠ '%' ∧ asciiLower (Char.ofNat k) ≠ '/' ∧
      asciiLower (Char.ofNat k) ≠ ':' := by
    decide
  rw [nameHost] at hs
  split at hs
  · next hchars =>
      obtain rfl := Option.some.inj hs
      intro c hc
      obtain ⟨d, hd, rfl⟩ := List.mem_map.mp hc
      have hname := List.all_eq_true.mp hchars d hd
      have hlow : d.toNat < 128 := by
        have hle : d.toNat ≤ 'z'.toNat := by
          simp only [isAsciiAlpha, Bool.or_eq_true, Bool.and_eq_true, decide_eq_true_eq] at hname
          obtain ((h | h) | rfl) | rfl := hname
          · exact h.2
          · exact le_trans (show d.toNat ≤ 'Z'.toNat from h.2) (by decide)
          · decide
          · decide
        simp only [Char.reduceToNat] at hle
        omega
      have := hall ⟨d.toNat, hlow⟩
      rw [Char.ofNat_toNat] at this
      exact this hname
  · cases hs

def sampleSetting : Setting where
  host := nameHost
  caret := false
  host_ascii := by
    intro h s hs c hc
    have hchar := nameHost_chars hs c hc
    exact ⟨hchar.1, hchar.2.1, hchar.2.2.1⟩
  host_colon := by
    intro h s hs hcolon
    exact absurd rfl (nameHost_chars hs _ hcolon).2.2.2

/-- The crate, as far as URLs without credentials, query and fragment are concerned. -/
def sampleCrate : RustDpop.UrlCrate View where
  parse uri :=
    match Whatwg.parse sampleSetting uri.toList with
    | some url => .ok { url := url }
    | none => .error "invalid URL"
  hasHost _ := true
  setQuery v query := { v with query := query }
  setFragment v fragment := { v with fragment := fragment }
  setUsername v username := some { v with username := username }
  setPassword v password := some { v with password := password }
  text v := String.ofList v.url.serialize

def sampleStandard : Standard sampleCrate sampleSetting where
  view := id
  parse := by
    intro uri u _ h
    simp only [sampleCrate] at h
    split at h
    · next url hurl =>
        obtain rfl := Except.ok.inj h
        exact hurl
    · cases h
  setQuery _ := rfl
  setFragment _ := rfl
  setUsername _ := rfl
  setPassword _ := rfl
  text u _ _ := String.toList_ofList

def htuLibrary : RustDpop.Library View String (String × String) :=
  { RustDpop.sampleLibrary with url := sampleCrate }

theorem escaped_space_agrees :
    Canonical sampleSetting "https://server.example.com/a%20b".toList :=
  (htu_agrees_iff (fun _ => true) sampleSetting htuLibrary sampleStandard
    "https://server.example.com/a%20b" "https://server.example.com/a%20b"
    "https://server.example.com/a%20b" (by decide) (by decide) (by decide)
    (by decide)).mp rfl

/-- Go keeps the port that Rust leaves out. -/
theorem default_port_divides :
    GoDpop.normalizeHTU (fun _ => true) "https://server.example.com:443/token" =
      .ok "https://server.example.com:443/token" ∧
    RustDpop.normalizeHtu htuLibrary "https://server.example.com:443/token" =
      .ok "https://server.example.com/token" := by
  constructor
  · decide
  · decide

end IdentityModel.HtuParity
