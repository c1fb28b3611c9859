import IdentityModel.PyDiscovery

/-!
# What an accepted discovery document may point to

Two validators state the scheme rule, one for the members of a document and one for the requests
that are made later, and a third reads the host of an alias as an address. From an accepted
document: its endpoints are of a trusted authority, its aliases name no internal address, and the
key set it names may be fetched under the same policy.
-/
namespace IdentityModel.Py

open Results Url

/-- HTTPS, or HTTP where the policy does without HTTPS, for every host or for the loopback ones. No
policy means HTTPS. -/
def AllowedScheme (p : Platform) (policy : Option DiscoveryPolicy) (parsed : Split) : Prop :=
  schemeOf parsed = "https" ∨
    schemeOf parsed = "http" ∧ ∃ P, policy = some P ∧
      (P.requireHttps = false ∨
        P.allowHttpOnLoopback = true ∧ isLoopback (parsed.hostname p) = true)

/-- `scheme://netloc` without regard to case. -/
def authorityOf (p : Platform) (parsed : Split) : List Char :=
  p.lower (parsed.scheme ++ "://".toList ++ parsed.netloc)

/-- The addresses an endpoint may share its authority with: that of the policy or else the issuer,
the one the document came from, and the additional ones. -/
def TrustedBase (doc : Json) (policy : DiscoveryPolicy) (discoveryUrl base : String) : Prop :=
  base ≠ "" ∧
    ((∃ authority, policy.authority = some authority ∧ authority ≠ "" ∧ base = authority) ∨
      ((policy.authority = none ∨ policy.authority = some "") ∧ doc.get "issuer" = .str base) ∨
      base = discoveryUrl ∨ base ∈ policy.additionalEndpointBaseAddresses)

/-- The host denotes the address, in the notation of `ipaddress` or in one that `inet_aton` knows. -/
inductive Denotes (p : Platform) (host : List Char) : Ip → Prop
  | literal (ip : Ip) (h : ipAddress host = some ip) : Denotes p host ip
  | aton (value : ℕ) (h : p.inetAton host = some value) : Denotes p host (.v4 value)

/-- `inet_aton` reads the dotted quads that `ipaddress` knows as `ipaddress` does, and no other
address of its. -/
def AtonAgrees (p : Platform) : Prop :=
  ∀ host ip value, ipAddress host = some ip → p.inetAton host = some value → ip = .v4 value

section Safe

variable {i : Interpreter} {r : HttpResponse} {policy : Option DiscoveryPolicy} {doc : Json}
  {url : Json} {parameterName : String}

theorem isTruthy_str {s : String} : isTruthy (.str s) = true ↔ s ≠ "" := by
  simp [isTruthy]

theorem urlparseValue_str {s : String} {parsed : Split} :
    urlparseValue i (.str s) = .ok parsed ↔ urlparse i.platform s = .ok parsed := by
  simp only [urlparseValue]
  cases urlparse i.platform s <;> simp

/-- What parses and is not empty is a string. -/
theorem exists_str_of_urlparseValue {parsed : Split} (htruthy : isTruthy url = true)
    (h : urlparseValue i url = .ok parsed) :
    ∃ s, url = .str s ∧ urlparse i.platform s = .ok parsed := by
  cases url with
  | str s => exact ⟨s, rfl, urlparseValue_str.mp h⟩
  | null => simp [isTruthy] at htruthy
  | bool b => simp [urlparseValue, htruthy] at h
  | num n => simp [urlparseValue, htruthy] at h
  | arr es => simp [urlparseValue, htruthy] at h
  | obj ms => simp [urlparseValue, htruthy] at h

/-- A member that passes the scheme check is a URL of an allowed scheme. -/
theorem allowedScheme_of_check (hvalidate : policy.all DiscoveryPolicy.validateEndpoints = true)
    (htruthy : isTruthy url = true)
    (h : validateHttpsUrlWithPolicy i url parameterName policy = .ok ()) :
    ∃ s parsed, url = .str s ∧ urlparse i.platform s = .ok parsed ∧
      AllowedScheme i.platform policy parsed := by
  cases policy with
  | none =>
      simp only [validateHttpsUrlWithPolicy, validateHttpsUrl, htruthy, Bool.not_true,
        Bool.false_eq_true, if_false] at h
      cases hparse : urlparseValue i url with
      | error e => simp [hparse] at h
      | ok parsed =>
          obtain ⟨s, hs, hok⟩ := exists_str_of_urlparseValue htruthy hparse
          simp only [hparse] at h
          split at h
          · cases h
          · split at h
            · cases h
            · rename_i hscheme
              exact ⟨s, parsed, hs, hok, .inl (not_not.mp hscheme)⟩
  | some P =>
      have hv : P.validateEndpoints = true := hvalidate
      simp only [validateHttpsUrlWithPolicy, hv, htruthy, Bool.not_true, Bool.false_eq_true,
        if_false] at h
      cases hparse : urlparseValue i url with
      | error e => simp [hparse] at h
      | ok parsed =>
          obtain ⟨s, hs, hok⟩ := exists_str_of_urlparseValue htruthy hparse
          refine ⟨s, parsed, hs, hok, ?_⟩
          simp only [hparse] at h
          split at h
          · cases h
          · split at h
            · cases h
            · rename_i hscheme
              split at h
              · rename_i hsecure
                by_cases hhttps : schemeOf parsed = "https"
                · exact .inl hhttps
                · have hhttp : schemeOf parsed = "http" := by
                    by_contra hother
                    exact hscheme ⟨hother, hhttps⟩
                  refine .inr ⟨hhttp, P, rfl, ?_⟩
                  simpa [secureEnough, hhttp] using hsecure
              · cases h

/-- The authority of a value, where it has one, is that of the URL it is. -/
theorem getUrlAuthority_eq_ok {text : String} (htext : text ≠ "")
    (h : getUrlAuthority i url = .ok text) :
    ∃ s parsed, url = .str s ∧ s ≠ "" ∧ urlparse i.platform s = .ok parsed ∧
      text.toList = authorityOf i.platform parsed := by
  unfold getUrlAuthority at h
  cases htruthy : isTruthy url with
  | false =>
      simp only [htruthy, Bool.not_false, if_true] at h
      exact absurd (Except.ok.inj h).symm htext
  | true =>
      simp only [htruthy, Bool.not_true, Bool.false_eq_true, if_false] at h
      cases hparse : urlparseValue i url with
      | error e => simp [hparse] at h
      | ok parsed =>
          obtain ⟨s, rfl, hok⟩ := exists_str_of_urlparseValue htruthy hparse
          refine ⟨s, parsed, rfl, isTruthy_str.mp htruthy, hok, ?_⟩
          simp only [hparse] at h
          rw [← Except.ok.inj h, String.toList_ofList, authorityOf]

/-- An allowed authority is that of a trusted address. -/
theorem allowedAuthorities_trusted {P : DiscoveryPolicy} {discoveryUrl text : String}
    {allowed : List String} (h : allowedAuthorities i doc P discoveryUrl = .ok allowed)
    (hmem : text ∈ allowed) :
    ∃ base parsed, TrustedBase doc P discoveryUrl base ∧ urlparse i.platform base = .ok parsed ∧
      text.toList = authorityOf i.platform parsed := by
  obtain ⟨first, hfirst, h⟩ := bind_eq_ok.mp h
  obtain ⟨fetched, hfetched, h⟩ := bind_eq_ok.mp h
  obtain ⟨others, hothers, h⟩ := bind_eq_ok.mp h
  rw [← Except.ok.inj h, List.mem_filter, List.mem_cons, List.mem_cons] at hmem
  obtain ⟨hmem, htext⟩ := hmem
  have hne : text ≠ "" := by simpa using htext
  obtain rfl | rfl | hother := hmem
  · obtain ⟨s, parsed, hs, hsne, hok, heq⟩ := getUrlAuthority_eq_ok hne hfirst
    refine ⟨s, parsed, ⟨hsne, ?_⟩, hok, heq⟩
    cases hauthority : P.authority with
    | none =>
        simp only [hauthority] at hs
        exact .inr (.inl ⟨.inl rfl, hs⟩)
    | some authority =>
        simp only [hauthority] at hs
        by_cases hempty : authority = ""
        · simp only [hempty, ne_eq, not_true_eq_false, if_false] at hs
          exact .inr (.inl ⟨.inr (by rw [hempty]), hs⟩)
        · simp only [ne_eq, hempty, not_false_eq_true, if_true, Json.str.injEq] at hs
          exact .inl ⟨authority, rfl, hempty, hs.symm⟩
  · obtain ⟨s, parsed, hs, hsne, hok, heq⟩ := getUrlAuthority_eq_ok hne hfetched
    exact ⟨s, parsed, ⟨hsne, .inr (.inr (.inl (Json.str.inj hs).symm))⟩, hok, heq⟩
  · obtain ⟨address, haddress, hget⟩ := mem_of_mapM_eq_ok hothers hother
    obtain ⟨s, parsed, hs, hsne, hok, heq⟩ := getUrlAuthority_eq_ok hne hget
    refine ⟨s, parsed, ⟨hsne, .inr (.inr (.inr ?_))⟩, hok, heq⟩
    rw [← Json.str.inj hs]
    exact haddress

/-- An endpoint that is checked for its authority has that of a trusted address. -/
theorem trusted_of_check {P : DiscoveryPolicy} {discoveryUrl s : String} {parsed : Split}
    (hs : s ≠ "") (hparse : urlparse i.platform s = .ok parsed)
    (h : validateEndpointAuthority i (.str s) parameterName doc P discoveryUrl = .ok ()) :
    ∃ base parsed', TrustedBase doc P discoveryUrl base ∧
      urlparse i.platform base = .ok parsed' ∧
      authorityOf i.platform parsed = authorityOf i.platform parsed' := by
  obtain ⟨own, hown, h⟩ := bind_eq_ok.mp h
  obtain ⟨allowed, hallowed, h⟩ := bind_eq_ok.mp h
  have hownText : own.toList = authorityOf i.platform parsed := by
    simp only [getUrlAuthority, isTruthy_str.mpr hs, Bool.not_true, Bool.false_eq_true, if_false,
      urlparseValue_str.mpr hparse] at hown
    rw [← Except.ok.inj hown, String.toList_ofList, authorityOf]
  split at h
  · cases h
  · split at h
    · cases h
    · rename_i hmem
      obtain ⟨base, parsed', hbase, hok, htext⟩ :=
        allowedAuthorities_trusted hallowed (not_not.mp hmem)
      exact ⟨base, parsed', hbase, hok, by rw [← hownText, htext]⟩

/-- The checks of an endpoint. -/
theorem Checked.endpoint_safe (h : Checked i r policy doc)
    (hvalidate : policy.all DiscoveryPolicy.validateEndpoints = true) {name : String}
    (hname : name ∈ endpointNames) (htruthy : isTruthy (doc.get name) = true) :
    ∃ s parsed, doc.get name = .str s ∧ urlparse i.platform s = .ok parsed ∧
      AllowedScheme i.platform policy parsed ∧
      ∃ base parsed', TrustedBase doc (policy.getD {}) (r.url.getD "") base ∧
        urlparse i.platform base = .ok parsed' ∧
        authorityOf i.platform parsed = authorityOf i.platform parsed' := by
  obtain ⟨_, hscheme, hauthority⟩ := bind_eq_ok.mp (h.endpoints name hname)
  obtain ⟨s, parsed, hs, hparse, hallowed⟩ := allowedScheme_of_check hvalidate htruthy hscheme
  have hon : (policy.getD {}).validateEndpoints = true := by
    cases policy with
    | none => rfl
    | some P => exact hvalidate
  have hne : s ≠ "" := isTruthy_str.mp (hs ▸ htruthy)
  rw [htruthy, hon, Bool.true_and, if_pos rfl, hs] at hauthority
  exact ⟨s, parsed, hs, hparse, hallowed, trusted_of_check hne hparse hauthority⟩

/-- A host that is let through denotes no internal address. -/
theorem external_of_check {P : DiscoveryPolicy} {s : String} {parsed : Split} {ip : Ip}
    (haton : AtonAgrees i.platform) (hparse : urlparse i.platform s = .ok parsed)
    (hhost : parsed.hostname i.platform ≠ [])
    (h : rejectInternalIpHost i s parameterName P = .ok ())
    (hip : Denotes i.platform (parsed.hostname i.platform) ip) :
    ip.isInternal = false ∨ ip.isLoopback = true ∧ P.allowLoopbackEndpoints = true := by
  obtain ⟨parsed', hparse', h⟩ := bind_eq_ok.mp h
  obtain rfl : parsed = parsed' := by
    rw [urlparseValue_str, hparse] at hparse'
    exact Except.ok.inj hparse'
  rw [if_neg hhost] at h
  obtain ⟨read, hread, h⟩ := bind_eq_ok.mp h
  -- Whichever notation denotes the address, it is the one that was read.
  have hsame : read = some ip := by
    unfold parseIpLiteral at hread
    cases hliteral : ipAddress (parsed.hostname i.platform) with
    | some own =>
        rw [hliteral] at hread
        rw [← Except.ok.inj hread]
        cases hip with
        | literal _ h' => rw [← hliteral, h']
        | aton value h' => rw [haton _ own value hliteral h']
    | none =>
        rw [hliteral] at hread
        cases hip with
        | literal _ h' =>
            rw [hliteral] at h'
            cases h'
        | aton value h' =>
            simp only [h'] at hread
            split at hread
            · cases hread
            · rw [← Except.ok.inj hread]
              rfl
  subst hsame
  cases hinternal : ip.isInternal with
  | false => exact .inl rfl
  | true =>
      refine .inr ?_
      by_contra hnot
      have hoff : (ip.isLoopback && P.allowLoopbackEndpoints) = false := by
        simpa [Bool.and_eq_false_iff] using hnot
      simp only [hoff, hinternal, Bool.false_eq_true, if_false, if_true] at h
      cases h

/-- The checks of an alias. -/
theorem Checked.alias_safe (h : Checked i r policy doc)
    (hvalidate : policy.all DiscoveryPolicy.validateEndpoints = true)
    (haton : AtonAgrees i.platform) {aliases : List (String × Json)}
    (haliases : doc.get "mtls_endpoint_aliases" = .obj aliases) {item : String × Json}
    (hitem : item ∈ dictItems aliases) (htruthy : isTruthy item.2 = true) :
    ∃ s parsed, item.2 = .str s ∧ urlparse i.platform s = .ok parsed ∧
      AllowedScheme i.platform policy parsed ∧
      ∀ ip, parsed.hostname i.platform ≠ [] → Denotes i.platform (parsed.hostname i.platform) ip →
        ip.isInternal = false ∨
          ip.isLoopback = true ∧ (policy.getD {}).allowLoopbackEndpoints = true := by
  have hloop := h.aliases
  rw [validateAliases, haliases] at hloop
  obtain ⟨_, hscheme, hhost⟩ := bind_eq_ok.mp (forM_eq_ok hloop item hitem)
  obtain ⟨s, parsed, hs, hparse, hallowed⟩ := allowedScheme_of_check hvalidate htruthy hscheme
  have hne : s ≠ "" := isTruthy_str.mp (hs ▸ htruthy)
  simp only [hs, ne_eq, hne, not_false_eq_true, if_true] at hhost
  exact ⟨s, parsed, hs, hparse, hallowed, fun ip hnonempty hip =>
    external_of_check haton hparse hnonempty hhost hip⟩

/-- HTTPS passes the check of a request under every policy. -/
theorem validateUrlScheme_of_https {p : Platform} {s : String} {parsed : Split} {P : DiscoveryPolicy}
    (hs : s ≠ "") (hparse : urlparse p s = .ok parsed) (hscheme : schemeOf parsed = "https") :
    validateUrlScheme p s P = .ok () := by
  simp [validateUrlScheme, hs, hparse, hscheme, secureEnough]

/-- A key set that was accepted may be fetched. -/
theorem Checked.jwks_uri_fetched (h : Checked i r policy doc)
    (hvalidate : policy.all DiscoveryPolicy.validateEndpoints = true) {uri : String}
    (huri : doc.get "jwks_uri" = .str uri) (hne : uri ≠ "") :
    validateUrlScheme i.platform uri (policy.getD {}) = .ok () := by
  have hmember := h.endpoint_url (show "jwks_uri" ∈ endpointNames by decide)
  rw [huri] at hmember
  cases policy with
  | some P => exact validateUrlScheme_of_endpoint hvalidate hne hmember
  | none =>
      obtain ⟨s, parsed, hs, hparse, hallowed⟩ :=
        allowedScheme_of_check hvalidate (isTruthy_str.mpr hne) hmember
      obtain rfl := Json.str.inj hs
      obtain hhttps | ⟨-, P, hP, -⟩ := hallowed
      · exact validateUrlScheme_of_https hne hparse hhttps
      · cases hP

end Safe

/-- From an accepted document: endpoints of an allowed scheme and a trusted authority, aliases of an
allowed scheme that name no internal address, and a key set whose request is not refused. -/
theorem accepted_discovery_safe (i : Interpreter) (r : HttpResponse) (policy : Option DiscoveryPolicy)
    (doc : Json) (haton : AtonAgrees i.platform)
    (hvalidate : policy.all DiscoveryPolicy.validateEndpoints = true)
    (h : validateAndParseDiscoveryResponse i r policy = .ok doc) :
    (∀ name ∈ endpointNames, isTruthy (doc.get name) = true →
      ∃ s parsed, doc.get name = .str s ∧ urlparse i.platform s = .ok parsed ∧
        AllowedScheme i.platform policy parsed ∧
        ∃ base parsed', TrustedBase doc (policy.getD {}) (r.url.getD "") base ∧
          urlparse i.platform base = .ok parsed' ∧
          authorityOf i.platform parsed = authorityOf i.platform parsed') ∧
    (∀ aliases, doc.get "mtls_endpoint_aliases" = .obj aliases →
      ∀ item ∈ dictItems aliases, isTruthy item.2 = true →
        ∃ s parsed, item.2 = .str s ∧ urlparse i.platform s = .ok parsed ∧
          AllowedScheme i.platform policy parsed ∧
          ∀ ip, parsed.hostname i.platform ≠ [] →
            Denotes i.platform (parsed.hostname i.platform) ip →
            ip.isInternal = false ∨
              ip.isLoopback = true ∧ (policy.getD {}).allowLoopbackEndpoints = true) ∧
    (∀ uri, doc.get "jwks_uri" = .str uri → uri ≠ "" →
      validateUrlScheme i.platform uri (policy.getD {}) = .ok ()) := by
  have hchecked := validateAndParse_checked h
  exact ⟨fun name hname htruthy => hchecked.endpoint_safe hvalidate hname htruthy,
    fun aliases haliases item hitem htruthy =>
      hchecked.alias_safe hvalidate haton haliases hitem htruthy,
    fun uri huri hne => hchecked.jwks_uri_fetched hvalidate huri hne⟩

/-- A document with an alias on a host of its own, under no policy. -/
theorem accepted_discovery_safe_sample :
    let i : Interpreter :=
      ⟨asciiPlatform, fun _ => .ok "", fun _ => "", fun _ => "", fun _ => .ok ()⟩
    let doc : Json := .obj [("issuer", .str "https://idp"), ("jwks_uri", .str "https://IdP/jwks"),
      ("response_types_supported", .arr [.str "code"]),
      ("subject_types_supported", .arr [.str "public"]),
      ("id_token_signing_alg_values_supported", .arr [.str "RS256"]),
      ("mtls_endpoint_aliases", .obj [("token_endpoint", .str "https://mtls.idp/token")])]
    let r : HttpResponse := ⟨200, some "application/json", none, some "https://idp/x", "", .ok doc⟩
    AtonAgrees i.platform ∧ validateAndParseDiscoveryResponse i r none = .ok doc ∧
      validateUrlScheme i.platform "https://IdP/jwks" {} = .ok () := by
  intro i doc r
  have haton : AtonAgrees i.platform := fun _ _ _ _ h => by cases h
  obtain ⟨accepted, hok⟩ := exists_of_isOk
    (show (validateAndParseDiscoveryResponse i r none).isOk = true by decide +kernel)
  obtain rfl : doc = accepted := Except.ok.inj (validateAndParse_checked hok).body
  exact ⟨haton, hok, (accepted_discovery_safe i r none doc haton rfl hok).2.2 _ rfl (by decide)⟩

end IdentityModel.Py
