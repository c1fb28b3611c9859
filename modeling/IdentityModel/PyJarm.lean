import IdentityModel.PyAuthorize
import IdentityModel.FormsRoundTrip
import IdentityModel.UrlParts
import Mathlib.Data.Bool.AllAny

/-!
# JWT-secured authorization responses in Python

`core/jarm.py`: the `response` parameter of a callback, its detection and its extraction, and the
response built from the claims it carries. Claims that are strings give what the same parameters in
a plain callback give.
-/
namespace IdentityModel.Py

open Url Forms

/-- What the functions raise: `JarmValidationException`, and the `ValueError` of `urlparse`. -/
inductive JarmError
  | jarm (message : String)
  | value (message : String)
  deriving DecidableEq, Repr

/-- `parse_qs(params, keep_blank_values=True).get(name)`, with the empty list for `None`. -/
def qsValues (params : List Char) (name : String) : List String :=
  ((parseQsl params).filter fun field => field.1 = name).map Prod.snd

/-- What is raised for several `response` parameters. -/
def duplicateResponse : JarmError :=
  .jarm ("callback carries multiple 'response' parameters; refusing to resolve " ++
    "JARM parameter pollution by position")

/-- `_extract_response_param`. -/
def extractResponseParam (params : List Char) : Except JarmError (Option String) :=
  match qsValues params "response" with
  | [] => .ok none
  | [value] => .ok (some value)
  | _ => .error duplicateResponse

/-- The loop of `is_jarm_response`. -/
def anyResponse : List (List Char) → Bool
  | [] => false
  | params :: rest =>
      if params = [] then anyResponse rest
      else
        match extractResponseParam params with
        | .error _ => true
        | .ok none => anyResponse rest
        | .ok (some value) => if value ≠ "" then true else anyResponse rest

/-- `is_jarm_response`; the error is the text of a `ValueError`. -/
def isJarmResponse (p : Platform) (redirectUri : String) : Except String Bool :=
  if pyStrip redirectUri.toList = [] then .ok false
  else
    match urlparse p redirectUri with
    | .error e => .error e
    | .ok parsed => .ok (anyResponse [parsed.fragment, parsed.query])

/-- The loop of `extract_jarm_response_jwt`, with what follows it. -/
def firstResponse : List (List Char) → Except JarmError String
  | [] => .error (.jarm "redirect_uri contains no JARM 'response' parameter")
  | params :: rest =>
      if params = [] then firstResponse rest
      else
        match extractResponseParam params with
        | .error e => .error e
        | .ok none => firstResponse rest
        | .ok (some value) => if value ≠ "" then .ok value else firstResponse rest

/-- `extract_jarm_response_jwt`. -/
def extractJarmResponseJwt (p : Platform) (redirectUri : String) : Except JarmError String :=
  if pyStrip redirectUri.toList = [] then
    .error (.jarm "redirect_uri must be a non-empty string")
  else
    match urlparse p redirectUri with
    | .error e => .error (.value e)
    | .ok parsed => firstResponse [parsed.fragment, parsed.query]

/-- The fields that `_map_params_to_fields` fills. -/
structure ParamFields where
  code : Option String
  accessToken : Option String
  identityToken : Option String
  tokenType : Option String
  expiresIn : Option ℤ
  scope : Option String
  refreshToken : Option String
  state : Option String
  sessionState : Option String
  issuer : Option String
  error : Option String
  errorDescription : Option String
  deriving DecidableEq, Repr

/-- The parameter fields of a response. -/
def AuthorizeCallbackResponse.paramFields (r : AuthorizeCallbackResponse) : ParamFields :=
  ⟨r.code, r.accessToken, r.identityToken, r.tokenType, r.expiresIn, r.scope, r.refreshToken, r.state,
    r.sessionState, r.issuer, r.error, r.errorDescription⟩

/-- `_map_params_to_fields`, over the items of a dictionary of strings. -/
def mapParamsToFields (decimal : Char → Option ℕ) (values : List (String × String)) : ParamFields where
  code := values.lookup "code"
  accessToken := values.lookup "access_token"
  identityToken := values.lookup "id_token"
  tokenType := values.lookup "token_type"
  expiresIn := (values.lookup "expires_in").bind (pyInt decimal)
  scope := values.lookup "scope"
  refreshToken := values.lookup "refresh_token"
  state := values.lookup "state"
  sessionState := values.lookup "session_state"
  issuer := values.lookup "iss"
  error := values.lookup "error"
  errorDescription := values.lookup "error_description"

/-- `build_authorize_response_from_claims`, over claims that are strings. -/
def buildAuthorizeResponseFromClaims (decimal : Char → Option ℕ) (claims : List (String × String))
    (raw : String) : Except JarmError AuthorizeCallbackResponse :=
  let fields := mapParamsToFields decimal claims
  if !callbackParams.any (isRecognized decimal claims) then
    .error (.jarm "JARM response JWT contains no recognized authorization-response claims")
  else
    let values := callbackParams.filterMap fun param =>
      (claims.lookup param).map fun value => (param, value)
    .ok {
      isSuccessful := (values.lookup "error").isNone
      raw := raw
      values := values
      code := fields.code
      accessToken := fields.accessToken
      identityToken := fields.identityToken
      tokenType := fields.tokenType
      expiresIn := fields.expiresIn
      scope := fields.scope
      refreshToken := fields.refreshToken
      state := fields.state
      sessionState := fields.sessionState
      issuer := fields.issuer
      error := fields.error
      errorDescription := fields.errorDescription }

/-- A walk that finds a response is one that detects it, and a duplicate is detected as well. -/
theorem anyResponse_iff (sources : List (List Char)) :
    anyResponse sources = true ↔
      (∃ jwt, firstResponse sources = .ok jwt) ∨ firstResponse sources = .error duplicateResponse := by
  induction sources with
  | nil => simp [anyResponse, firstResponse, duplicateResponse]
  | cons params rest ih =>
      rw [anyResponse, firstResponse]
      by_cases hempty : params = []
      · rw [if_pos hempty, if_pos hempty]
        exact ih
      rw [if_neg hempty, if_neg hempty]
      cases hextract : extractResponseParam params with
      | error e =>
          have he : e = duplicateResponse := by
            unfold extractResponseParam at hextract
            split at hextract
            · cases hextract
            · cases hextract
            · exact (Except.error.inj hextract).symm
          simp [he]
      | ok value =>
          cases value with
          | none => exact ih
          | some value =>
              by_cases hvalue : value = ""
              · simpa [hvalue] using ih
              · simp [hvalue]

theorem isJarmResponse_iff (p : Platform) (redirectUri : String) :
    isJarmResponse p redirectUri = .ok true ↔
      (∃ jwt, extractJarmResponseJwt p redirectUri = .ok jwt) ∨
        extractJarmResponseJwt p redirectUri = .error duplicateResponse := by
  rw [isJarmResponse, extractJarmResponseJwt]
  by_cases hblank : pyStrip redirectUri.toList = []
  · simp [hblank, duplicateResponse]
  · rw [if_neg hblank, if_neg hblank]
    cases urlparse p redirectUri with
    | error e => simp [duplicateResponse]
    | ok parsed => simpa using anyResponse_iff [parsed.fragment, parsed.query]

/-- A callback URL with these parameters, in its fragment or, without one, in its query. -/
structure CarriesParams (p : Platform) (url : String) (params : List (String × String)) (parsed : Split) :
    Prop where
  parse : urlparse p url = .ok parsed
  scheme : schemeOf parsed = "" ∨ schemeOf parsed = "https" ∨ schemeOf parsed = "http"
  params : (if parsed.fragment ≠ [] then parsed.fragment else parsed.query) = (urlencode params).toList

/-- Both reject, or both give responses with the same success and the same parameter fields. -/
def ResponsesAgree : Except JarmError AuthorizeCallbackResponse →
    Except CallbackError AuthorizeCallbackResponse → Prop
  | .ok a, .ok b => a.isSuccessful = b.isSuccessful ∧ a.paramFields = b.paramFields
  | .error _, .error _ => True
  | _, _ => False

section Agreement

variable {p : Platform} {decimal : Char → Option ℕ} {url raw : String} {parsed : Split}
  {params : List (String × String)}

/-- Of the claims, those that callbacks have are among the values. -/
theorem lookup_values (claims : List (String × String)) (name : String) (hname : name ∈ callbackParams) :
    (callbackParams.filterMap fun param =>
      (claims.lookup param).map fun value => (param, value)).lookup name = claims.lookup name := by
  have hall (names : List String) : (names.filterMap fun param =>
      (claims.lookup param).map fun value => (param, value)).lookup name =
        if name ∈ names then claims.lookup name else none := by
    induction names with
    | nil => rfl
    | cons param names ih =>
        by_cases hparam : name = param
        · subst hparam
          cases hvalue : claims.lookup name with
          | none => simpa [hvalue] using ih
          | some value => simp [hvalue]
        · have hne : (name == param) = false := beq_false_of_ne hparam
          cases hvalue : claims.lookup param <;>
            simpa [hvalue, List.lookup_cons, hne, hparam] using ih
  rw [hall, if_pos hname]

/-- Without parameters nothing is recognized. -/
theorem not_recognized_nil : callbackParams.any (isRecognized decimal []) = false := by
  simp [isRecognized]

theorem isPySpace_of_blank {s : List Char} (hblank : pyStrip s = []) : ∀ c ∈ s, isPySpace c = true := by
  rw [pyStrip, List.reverse_eq_nil_iff, List.dropWhile_eq_nil_iff] at hblank
  intro c hc
  rw [← List.takeWhile_append_dropWhile (p := isPySpace) (l := s), List.mem_append] at hc
  obtain hfront | hback := hc
  · exact List.mem_takeWhile_imp hfront
  · exact hblank c (List.mem_reverse.mpr hback)

/-- Without a number sign there is no fragment. -/
theorem fragment_of_no_hash (h : urlparse p url = .ok parsed) (hmark : '#' ∉ clean url.toList) :
    parsed.fragment = [] := by
  rw [urlparse_clean] at h
  dsimp only at h
  split at h
  · cases h
  · split at h
    · cases h
    · obtain rfl := Except.ok.inj h
      have hrest : '#' ∉ (splitNetloc (splitScheme (clean url.toList)).2).2 := by
        intro hmem
        apply hmark
        apply mem_of_mem_splitScheme
        exact mem_of_mem_splitNetloc hmem
      rw [splitRest, partition_whole hrest]
      rfl

/-- A blank text carries no parameters. -/
theorem params_of_blank (h : CarriesParams p url params parsed) (hblank : pyStrip url.toList = []) :
    params = [] := by
  have hspaces := isPySpace_of_blank hblank
  have hmark (c : Char) (hc : isPySpace c = false) : c ∉ clean url.toList := by
    intro hmem
    have hspace := hspaces c (List.dropWhile_subset _ (List.mem_of_mem_filter hmem))
    rw [hc] at hspace
    cases hspace
  have hfragment := fragment_of_no_hash h.parse (hmark '#' rfl)
  have hquery := query_of_no_mark h.parse (hmark '?' rfl)
  have htext := h.params
  rw [if_neg (not_not_intro hfragment), hquery] at htext
  calc params = parseQsl (urlencode params).toList := (parseQsl_urlencode params).symm
    _ = parseQsl [] := by rw [← htext]
    _ = [] := parseQsl_nil

/-- The plain parser reads the parameters themselves. -/
theorem parse_carried (h : CarriesParams p url params parsed) :
    parseAuthorizeCallbackResponse p decimal url =
      if pyStrip url.toList = [] then
        .error (.callback "redirect_uri must be a non-empty string")
      else if params = [] then
        .error (.callback "redirect_uri contains no callback parameters")
      else if !callbackParams.any (isRecognized decimal params) then
        .error (.callback "redirect_uri contains no recognized OAuth callback parameters")
      else
        .ok {
          isSuccessful := (params.lookup "error").isNone
          raw := url
          values := params
          code := params.lookup "code"
          accessToken := params.lookup "access_token"
          identityToken := params.lookup "id_token"
          tokenType := params.lookup "token_type"
          expiresIn := (params.lookup "expires_in").bind (pyInt decimal)
          scope := params.lookup "scope"
          refreshToken := params.lookup "refresh_token"
          state := params.lookup "state"
          sessionState := params.lookup "session_state"
          issuer := params.lookup "iss"
          error := params.lookup "error"
          errorDescription := params.lookup "error_description" } := by
  have hscheme : ¬(schemeOf parsed ≠ "" ∧ schemeOf parsed ≠ "https" ∧ schemeOf parsed ≠ "http") := by
    have := h.scheme
    tauto
  rw [parseAuthorizeCallbackResponse, h.parse]
  dsimp only
  rw [if_neg hscheme, h.params, parseQsl_urlencode]

/-- The claims are rejected where none of them is recognized. -/
theorem build_rejects (raw : String) (hnone : callbackParams.any (isRecognized decimal params) = false) :
    ∃ e, buildAuthorizeResponseFromClaims decimal params raw = .error e := by
  rw [buildAuthorizeResponseFromClaims, hnone]
  exact ⟨_, rfl⟩

theorem responses_agree (h : CarriesParams p url params parsed) :
    ResponsesAgree (buildAuthorizeResponseFromClaims decimal params raw)
      (parseAuthorizeCallbackResponse p decimal url) := by
  rw [parse_carried h]
  cases hany : callbackParams.any (isRecognized decimal params) with
  | false =>
      obtain ⟨e, he⟩ := build_rejects raw hany
      rw [he]
      split_ifs <;> trivial
  | true =>
      have hparams : params ≠ [] := by
        rintro rfl
        rw [not_recognized_nil] at hany
        cases hany
      rw [if_neg fun hblank => hparams (params_of_blank h hblank), if_neg hparams,
        buildAuthorizeResponseFromClaims, hany]
      refine ⟨?_, rfl⟩
      simp only [lookup_values params "error" (by decide)]

/-- A written form leaves a URL as it is, and has no number sign. -/
theorem plain_of_form {c : Char} (hc : c ∈ (urlencode params).toList) :
    isDropped c = false ∧ c ≠ '#' := by
  have hdropped (hc : isFormChar c = true) : isDropped c = false ∧ c ≠ '#' := by
    constructor
    · by_contra h
      simp only [isDropped, Bool.not_eq_false, Bool.or_eq_true, decide_eq_true_eq] at h
      obtain (rfl | rfl) | rfl := h <;> revert hc <;> decide
    · intro h
      subst h
      revert hc
      decide
  obtain hform | rfl | rfl := mem_urlencode params c hc
  · exact hdropped hform
  · decide
  · decide

/-- Every map of parameters is carried by some URL. -/
theorem carriesParams_url (p : Platform) (params : List (String × String)) :
    CarriesParams p (String.ofList ("https://app/cb?".toList ++ (urlencode params).toList)) params
      ⟨"https".toList, "app".toList, "/cb".toList, (urlencode params).toList, []⟩ := by
  have hclean : clean (String.ofList ("https://app/cb?".toList ++ (urlencode params).toList)).toList =
      "https".toList ++ ':' :: '/' :: '/' :: ("app".toList ++
        ("/cb".toList ++ '?' :: (urlencode params).toList)) := by
    rw [String.toList_ofList]
    apply clean_eq_self
    · intro c hc
      obtain rfl := Option.some.inj hc
      decide
    · intro c hc
      obtain hfront | hform := List.mem_append.mp hc
      · have hplain : ∀ c ∈ "https://app/cb?".toList, isDropped c = false :=
          List.all_iff_forall_prop.mp (by decide)
        exact hplain c hfront
      · exact (plain_of_form hform).1
  have hhash : '#' ∉ "/cb".toList ++ '?' :: (urlencode params).toList := by
    intro hmem
    obtain hfront | hform := List.mem_append.mp hmem
    · revert hfront
      decide
    · obtain hmark | hform := List.mem_cons.mp hform
      · cases hmark
      · exact (plain_of_form hform).2 rfl
  have hnetloc : IsAuthority p "app".toList := ⟨List.all_iff_forall_prop.mp (by decide), rfl, rfl⟩
  have hparts := urlparse_of_parts (p := p) hclean ⟨rfl, rfl⟩ hnetloc
    (stops_cons (.inl rfl) _)
  rw [splitRest, partition_whole hhash] at hparts
  dsimp only at hparts
  rw [partition_of_not_mem (by decide)] at hparts
  exact ⟨hparts, .inr (.inl rfl), rfl⟩

end Agreement

instance (a : Except JarmError AuthorizeCallbackResponse)
    (b : Except CallbackError AuthorizeCallbackResponse) : Decidable (ResponsesAgree a b) :=
  match a, b with
  | .ok a, .ok b => inferInstanceAs (Decidable (a.isSuccessful = b.isSuccessful ∧
      a.paramFields = b.paramFields))
  | .error _, .error _ => isTrue trivial
  | .ok _, .error _ => isFalse id
  | .error _, .ok _ => isFalse id

/-- The digits of ASCII. -/
def asciiDigit (c : Char) : Option ℕ := if c.isDigit then some (c.toNat - '0'.toNat) else none

/-- Claims that are strings give what any callback with the same parameters gives, of which there
always is one; and a URL is taken for a JARM response where extraction returns one or finds several. -/
theorem jarm_agrees_with_callbacks (p : Platform) :
    (∀ decimal url parsed params raw, CarriesParams p url params parsed →
      ResponsesAgree (buildAuthorizeResponseFromClaims decimal params raw)
        (parseAuthorizeCallbackResponse p decimal url)) ∧
      (∀ params, ∃ url parsed, CarriesParams p url params parsed) ∧
      ∀ url, isJarmResponse p url = .ok true ↔
        (∃ jwt, extractJarmResponseJwt p url = .ok jwt) ∨
          extractJarmResponseJwt p url = .error duplicateResponse :=
  ⟨fun _ _ _ _ _ h => responses_agree h, fun params => ⟨_, _, carriesParams_url p params⟩,
    isJarmResponse_iff p⟩

theorem jarm_agrees_with_callbacks_sample :
    ResponsesAgree (buildAuthorizeResponseFromClaims asciiDigit [("state", "a&b"), ("code", "")] "jwt")
      (parseAuthorizeCallbackResponse asciiPlatform asciiDigit
        "https://app/cb?state=a%26b&code=") := by
  apply (jarm_agrees_with_callbacks asciiPlatform).1 asciiDigit _
    ⟨"https".toList, "app".toList, "/cb".toList, "state=a%26b&code=".toList, []⟩
  exact ⟨by decide +kernel, by decide, by decide +kernel⟩

/-- A fragment hides the query from the plain parser. -/
theorem fragment_hides_code :
    urlparse asciiPlatform "https://app/cb?code=a#x=y" =
        .ok ⟨"https".toList, "app".toList, "/cb".toList, (urlencode [("code", "a")]).toList,
          "x=y".toList⟩ ∧
      ¬ ResponsesAgree (buildAuthorizeResponseFromClaims asciiDigit [("code", "a")] "jwt")
        (parseAuthorizeCallbackResponse asciiPlatform asciiDigit "https://app/cb?code=a#x=y") := by
  decide +kernel

end IdentityModel.Py
