import IdentityModel.PyAuthorize

/-!
# Logging out at the provider

`build_end_session_url` and `validate_post_logout_state` of `core/logout_logic.py`, the
counterparts of the authorization URL and of the check of its state. Both checks compare with
`hmac.compare_digest`, which takes no characters beyond ASCII, though a state comes from outside and
may hold any.
-/
namespace IdentityModel.Py

open Url Forms

/-- The arguments of `build_end_session_url`. -/
structure EndSessionUrl where
  endSessionEndpoint : String
  idTokenHint : Option String := none
  clientId : Option String := none
  postLogoutRedirectUri : Option String := none
  state : Option String := none
  logoutHint : Option String := none
  uiLocales : Option String := none
  extraParams : List (String × String) := []

/-- `_RESERVED_END_SESSION_PARAMS`, sorted. -/
def reservedEndSessionParams : List String :=
  ["client_id", "id_token_hint", "logout_hint", "post_logout_redirect_uri", "state", "ui_locales"]

/-- The query of a logout request. -/
def EndSessionUrl.params (a : EndSessionUrl) : List (String × String) :=
  let optional (name : String) (value : Option String) := (value.map fun v => (name, v)).toList
  optional "id_token_hint" a.idTokenHint ++ optional "logout_hint" a.logoutHint ++
    optional "client_id" a.clientId ++
    optional "post_logout_redirect_uri" a.postLogoutRedirectUri ++ optional "state" a.state ++
    optional "ui_locales" a.uiLocales ++ a.extraParams

/-- `build_end_session_url`; the error is the text of its `ValueError`. -/
def buildEndSessionUrl (p : Platform) (a : EndSessionUrl) : Except String String :=
  let collisions := reservedEndSessionParams.filter fun name =>
    a.extraParams.any fun e => e.1 = name
  if pyStrip a.endSessionEndpoint.toList = [] then
    .error "end_session_endpoint must not be empty"
  else if collisions ≠ [] then
    .error ("extra_params must not override reserved RP-Initiated Logout parameters: " ++
      ", ".intercalate collisions)
  else do
    let parsed ← urlparse p a.endSessionEndpoint
    let endpoint :=
      if parsed.fragment ≠ [] then
        String.ofList (a.endSessionEndpoint.toList.takeWhile fun c => c ≠ '#')
      else a.endSessionEndpoint
    let parsed ← urlparse p endpoint
    if a.params = [] then return endpoint
    else if endpoint.toList.getLast? = some '?' ∨ endpoint.toList.getLast? = some '&' then
      return endpoint ++ urlencode a.params
    else return endpoint ++ (if parsed.query ≠ [] then "&" else "?") ++ urlencode a.params

/-- What `validate_post_logout_state` raises: `LogoutStateValidationException`, and the `TypeError`
of the comparison. -/
inductive LogoutStateError
  | logoutState (message : String)
  | type_ (message : String)
  deriving DecidableEq, Repr

/-- A string that is not empty. -/
def text? (j : Json) : Option String := j.str?.filter fun s => s ≠ ""

/-- `validate_post_logout_state`; either state may be any value. -/
def validatePostLogoutState (expectedState returnedState : Json) : Except LogoutStateError Unit :=
  match text? expectedState with
  | none =>
      .error (.logoutState "Expected logout state is missing or empty (session may have expired)")
  | some expected =>
      match text? returnedState with
      | none => .error (.logoutState "State parameter not present in post-logout redirect")
      | some returned =>
          match compareDigest returned expected with
          | .error e => .error (.type_ e)
          | .ok false => .error (.logoutState "State parameter does not match expected value")
          | .ok true => .ok ()

section States

variable {expected received : String}

theorem filter_text (s : String) :
    (some s).filter (fun s => decide (s ≠ "")) = if s = "" then none else some s := by
  rw [Option.filter_some]
  by_cases h : s = "" <;> simp [h]

theorem text?_str (s : String) : text? (.str s) = if s = "" then none else some s := filter_text s

/-- The comparison decides exactly the strings of ASCII. -/
theorem compareDigest_isOk (a b : String) :
    (compareDigest a b).isOk = (a.toList.all isAscii && b.toList.all isAscii) := by
  unfold compareDigest
  split
  · rename_i h
    rw [h]
    rfl
  · rename_i h
    rw [Bool.not_eq_true] at h
    rw [h]
    rfl

theorem compareDigest_eq {a b : String} (h : (compareDigest a b).isOk = true) :
    compareDigest a b = .ok (decide (a = b)) := by
  rw [compareDigest_isOk] at h
  rw [compareDigest, if_pos h]

/-- Without a state on either side nothing is compared. -/
theorem callback_of_empty {response : AuthorizeCallbackResponse}
    (hsuccess : response.isSuccessful = true) (hstate : response.state = some received)
    (hempty : expected = "" ∨ received = "") :
    ∃ r, validateAuthorizeCallbackState response (.str expected) = .ok r ∧ r.isValid = false := by
  simp only [validateAuthorizeCallbackState, hsuccess, Json.str?, hstate, filter_text,
    Bool.not_true, Bool.false_eq_true, if_false]
  by_cases hexpected : expected = ""
  · rw [if_pos hexpected]
    exact ⟨_, rfl, rfl⟩
  · rw [if_neg hexpected, if_pos (hempty.resolve_left hexpected)]
    exact ⟨_, rfl, rfl⟩

/-- With one on both sides the comparison decides. -/
theorem callback_of_texts {response : AuthorizeCallbackResponse}
    (hsuccess : response.isSuccessful = true) (hstate : response.state = some received)
    (hexpected : expected ≠ "") (hreceived : received ≠ "") :
    (validateAuthorizeCallbackState response (.str expected)).map StateValidationResult.isValid =
      compareDigest received expected := by
  simp only [validateAuthorizeCallbackState, hsuccess, Json.str?, hstate, filter_text,
    Bool.not_true, Bool.false_eq_true, if_false]
  rw [if_neg hexpected, if_neg hreceived]
  dsimp only
  cases compareDigest received expected with
  | error e => rfl
  | ok same => cases same <;> rfl

theorem logout_of_empty (hempty : expected = "" ∨ received = "") :
    ∃ m, validatePostLogoutState (.str expected) (.str received) = .error (.logoutState m) := by
  rw [validatePostLogoutState, text?_str, text?_str]
  by_cases hexpected : expected = ""
  · rw [if_pos hexpected]
    exact ⟨_, rfl⟩
  · rw [if_neg hexpected, if_pos (hempty.resolve_left hexpected)]
    exact ⟨_, rfl⟩

theorem logout_of_texts (hexpected : expected ≠ "") (hreceived : received ≠ "") :
    validatePostLogoutState (.str expected) (.str received) =
      match compareDigest received expected with
      | .error e => .error (.type_ e)
      | .ok false => .error (.logoutState "State parameter does not match expected value")
      | .ok true => .ok () := by
  rw [validatePostLogoutState, text?_str, text?_str, if_neg hexpected, if_neg hreceived]

end States

/-- The two checks accept a state exactly if it is the expected one and not empty, and raise nothing
but what they document, exactly if one of the two is empty or both are of ASCII. -/
theorem states_decided (expected received : String) :
    ((∀ response : AuthorizeCallbackResponse,
        response.isSuccessful = true → response.state = some received →
        ∃ r, validateAuthorizeCallbackState response (.str expected) = .ok r ∧
          (r.isValid = true ↔ received = expected ∧ received ≠ "")) ∧
      (validatePostLogoutState (.str expected) (.str received) = .ok () ↔
        received = expected ∧ received ≠ "") ∧
      (¬ (received = expected ∧ received ≠ "") →
        ∃ m, validatePostLogoutState (.str expected) (.str received) =
          .error (.logoutState m))) ↔
    (expected = "" ∨ received = "" ∨
      received.toList.all isAscii = true ∧ expected.toList.all isAscii = true) := by
  by_cases hempty : expected = "" ∨ received = ""
  · have hnot : ¬ (received = expected ∧ received ≠ "") := by
      rintro ⟨rfl, hne⟩
      exact hempty.elim hne hne
    obtain ⟨m, hm⟩ := logout_of_empty hempty
    refine iff_of_true ⟨fun response hsuccess hstate => ?_, ?_, fun _ => ⟨m, hm⟩⟩ (by tauto)
    · obtain ⟨r, hr, hinvalid⟩ := callback_of_empty hsuccess hstate hempty
      exact ⟨r, hr, by simp [hinvalid, hnot]⟩
    · simp [hm, hnot]
  · obtain ⟨hexpected, hreceived⟩ := not_or.mp hempty
    have hlogout := logout_of_texts hexpected hreceived
    constructor
    · rintro ⟨hcallback, -, -⟩
      let response : AuthorizeCallbackResponse :=
        { isSuccessful := true, raw := "", values := [], state := some received }
      obtain ⟨r, hr, -⟩ := hcallback response rfl rfl
      have hok : (compareDigest received expected).isOk = true := by
        have hmap := callback_of_texts (show response.isSuccessful = true from rfl) rfl hexpected
          hreceived
        rw [← hmap, hr]
        rfl
      rw [compareDigest_isOk, Bool.and_eq_true] at hok
      exact .inr (.inr hok)
    · intro hascii
      have hok : (compareDigest received expected).isOk = true := by
        rw [compareDigest_isOk, Bool.and_eq_true]
        tauto
      have hcompare := compareDigest_eq hok
      rw [hcompare] at hlogout
      refine ⟨fun response hsuccess hstate => ?_, ?_, fun hnot => ?_⟩
      · have hvalid := callback_of_texts hsuccess hstate hexpected hreceived
        rw [hcompare] at hvalid
        obtain ⟨r, hr, hrv⟩ := Results.map_eq_ok.mp hvalid
        exact ⟨r, hr, by simp [hrv, hreceived]⟩
      · rw [hlogout]
        by_cases hsame : received = expected
        · simp [hsame, hexpected]
        · simp [hsame]
      · have hne : received ≠ expected := fun h => hnot ⟨h, hreceived⟩
        rw [hlogout, decide_eq_false hne]
        exact ⟨_, rfl⟩

/-- The state `é`, sent and returned. -/
theorem state_beyond_ascii :
    (¬ ∃ r, validateAuthorizeCallbackState
      { isSuccessful := true, raw := "", values := [], state := some "é" } (.str "é") = .ok r) ∧
    validatePostLogoutState (.str "é") (.str "é") =
      .error (.type_ "comparing strings with non-ASCII characters is not supported") := by
  refine ⟨?_, by decide⟩
  rintro ⟨r, h⟩
  have hraises : validateAuthorizeCallbackState
      { isSuccessful := true, raw := "", values := [], state := some "é" } (.str "é") =
        .error "comparing strings with non-ASCII characters is not supported" := by decide
  rw [hraises] at h
  cases h

end IdentityModel.Py
