import IdentityModel.BasicCredentials

/-!
# Introspection and revocation requests in Go

`Introspect` of `go/pkg/introspection` and `Revoke` of `go/pkg/revocation`, up to the request each one
sends. Contexts and timeouts are left out, and so is what becomes of the answer.
-/
namespace IdentityModel.GoForms

open GoToken (ClientAuthMethod Request Visit queryEscape)

/-- What the standard library provides: the scheme and the host that `url.Parse` finds or its error,
and `%q`. -/
structure Library where
  parseUrl : String → Except String (String × String)
  quote : String → String

structure Config where
  authMethod : ClientAuthMethod := .clientSecretBasic
  tokenTypeHint : String := ""
  extraParams : Dict String String := ∅
  allowHTTP : Bool := false

structure RequestError where
  op : String
  err : String
  deriving DecidableEq, Repr

def reservedParams : List String := ["token", "token_type_hint", "client_id", "client_secret"]

/-- The endpoint is parsed; its scheme may be used, and it has a host. -/
def checkEndpoint (lib : Library) (c : Config) (what endpoint : String) : Except RequestError Unit :=
  match lib.parseUrl endpoint with
  | .error e => .error ⟨"parse " ++ what ++ " endpoint", e⟩
  | .ok (scheme, host) =>
      if scheme ≠ "https" ∧ ¬(c.allowHTTP ∧ scheme = "http") then
        .error ⟨what ++ " endpoint", "https required for " ++ lib.quote endpoint ++
          " (use WithInsecureAllowHTTP for http)"⟩
      else if host = "" then .error ⟨what ++ " endpoint", "endpoint has no host: " ++ lib.quote endpoint⟩
      else .ok ()

/-- The token and its hint. -/
def tokenForm (c : Config) (token : String) : Values :=
  let form := Values.set ∅ "token" token
  if c.tokenTypeHint ≠ "" then form.set "token_type_hint" c.tokenTypeHint else form

/-- The credentials, and whether a Basic header is set. -/
def authenticate (c : Config) (clientID clientSecret : String) (form : Values) : Values × Bool :=
  match c.authMethod with
  | .clientSecretPost => ((form.set "client_id" clientID).set "client_secret" clientSecret, false)
  | .clientSecretBasic => (form, true)

/-- The loop over the extra parameters. -/
def applyExtras (extras : List (Sigma fun _ : String => String)) (form : Values) : Values :=
  extras.foldl (fun form e => if e.1 ∈ reservedParams ∨ e.1 ∈ form then form else form.set e.1 e.2) form

/-- What both functions send once the endpoint has been checked. -/
def send (c : Config) (what rfc endpoint clientID clientSecret token : String)
    (visit : Visit c.extraParams) : Except RequestError Request :=
  if clientID = "" ∨ clientSecret = "" then
    .error ⟨"client authentication", what ++ " endpoint requires client authentication with both " ++
      "client_id and client_secret (" ++ rfc ++ " §2.1)"⟩
  else
    let authenticated := authenticate c clientID clientSecret (tokenForm c token)
    .ok
      { endpoint := endpoint
        fields := (applyExtras visit.val authenticated.1).fields
        basicAuth :=
          if authenticated.2 then some (queryEscape clientID, queryEscape clientSecret) else none }

def introspect (lib : Library) (c : Config) (endpoint clientID clientSecret token : String)
    (visit : Visit c.extraParams) : Except RequestError Request :=
  match checkEndpoint lib c "introspection" endpoint with
  | .error e => .error e
  | .ok () => send c "introspection" "RFC 7662" endpoint clientID clientSecret token visit

def revoke (lib : Library) (c : Config) (endpoint clientID clientSecret token : String)
    (visit : Visit c.extraParams) : Except RequestError Request :=
  match checkEndpoint lib c "revocation" endpoint with
  | .error e => .error e
  | .ok () =>
      if token = "" then .error ⟨"token", "token is required (RFC 7009 §2.1)"⟩
      else send c "revocation" "RFC 7009" endpoint clientID clientSecret token visit

/-- The endpoint may be used. -/
def ValidEndpoint (lib : Library) (c : Config) (endpoint : String) : Prop :=
  ∃ scheme host, lib.parseUrl endpoint = .ok (scheme, host) ∧ host ≠ "" ∧
    (scheme = "https" ∨ c.allowHTTP = true ∧ scheme = "http")

section Sent

variable {lib : Library} {c : Config} {endpoint clientID clientSecret token : String}

/-- The rows of the form, without the extra parameters. -/
def ownFields (c : Config) (clientID clientSecret token : String) : List (String × List String) :=
  [("token", [token]), ("token_type_hint", if c.tokenTypeHint ≠ "" then [c.tokenTypeHint] else []),
    ("client_id", if c.authMethod = .clientSecretPost then [clientID] else []),
    ("client_secret", if c.authMethod = .clientSecretPost then [clientSecret] else [])]

theorem checkEndpoint_ok {what : String} (h : ValidEndpoint lib c endpoint) :
    checkEndpoint lib c what endpoint = .ok () := by
  obtain ⟨scheme, host, hparse, hhost, hscheme⟩ := h
  rw [checkEndpoint, hparse]
  obtain rfl | ⟨hallowed, rfl⟩ := hscheme
  · simp [hhost]
  · simp [hhost, hallowed]

theorem authenticate_shows : (authenticate c clientID clientSecret (tokenForm c token)).1.Shows
    (ownFields c clientID clientSecret token) := by
  have htoken := Values.Shows.empty.set "token" token (by simp)
  have hhint := htoken.setIf (c := c.tokenTypeHint ≠ "") "token_type_hint" c.tokenTypeHint (by simp)
  rw [authenticate, ownFields]
  cases c.authMethod with
  | clientSecretPost =>
      exact (hhint.set "client_id" clientID (by simp)).set "client_secret" clientSecret (by simp)
  | clientSecretBasic =>
      exact (hhint.absent "client_id" (by simp)).absent "client_secret" (by simp)

/-- The loop adds what is not reserved and not there. -/
theorem lookup_applyExtras (extras : List (Sigma fun _ : String => String)) (form : Values)
    (name : String) : (applyExtras extras form).lookup name = (form.lookup name).or
      (if name ∈ reservedParams then none
        else (extras.dlookup name).map fun value => [value]) := by
  induction extras generalizing form with
  | nil => simp [applyExtras]
  | cons e extras ih =>
      obtain ⟨key, value⟩ := e
      rw [applyExtras, List.foldl_cons, ← applyExtras, ih]
      by_cases hname : name = key
      · subst hname
        rw [List.dlookup_cons_eq]
        by_cases hmem : name ∈ form
        · obtain ⟨values, hvalues⟩ := Option.isSome_iff_exists.mp (AList.lookup_isSome.mpr hmem)
          simp [hmem, hvalues]
        · have hnone := AList.lookup_eq_none.mpr hmem
          by_cases hreserved : name ∈ reservedParams
          · rw [if_pos (.inl hreserved), hnone, if_pos hreserved, if_pos hreserved]
          · rw [if_neg (not_or.mpr ⟨hreserved, hmem⟩), if_neg hreserved, if_neg hreserved,
              Values.lookup_set, if_pos rfl, hnone]
            rfl
      · have htail : List.dlookup name (⟨key, value⟩ :: extras) = extras.dlookup name :=
          List.dlookup_cons_ne extras _ hname
        rw [htail]
        have hkept : (if key ∈ reservedParams ∨ key ∈ form then form else form.set key value).lookup name =
            form.lookup name := by
          split
          · rfl
          · rw [Values.lookup_set, if_neg hname]
        rw [hkept]

/-- The values of a request under each name. -/
theorem values_send {what rfc : String} {visit : Visit c.extraParams} {r : Request}
    (h : send c what rfc endpoint clientID clientSecret token visit = .ok r) (name : String) :
    r.values name = if name ∈ reservedParams then
        ((ownFields c clientID clientSecret token).lookup name).getD []
      else (c.extraParams.lookup name).toList := by
  unfold send at h
  split at h
  · cases h
  · cases h
    have hvisit : visit.val.dlookup name = c.extraParams.lookup name :=
      (List.perm_dlookup name c.extraParams.nodupKeys visit.property.symm).symm
    have hshows := @authenticate_shows c clientID clientSecret token name
    rw [Request.values, Values.fields_filter, List.map_map, lookup_applyExtras, hvisit, hshows]
    have hid (values : List String) : values.map (Prod.snd ∘ fun value => (name, value)) = values :=
      List.map_id' values
    rw [hid]
    by_cases hreserved : name ∈ reservedParams
    · rw [if_pos hreserved, if_pos hreserved, Option.or_none]
      cases (ownFields c clientID clientSecret token).lookup name with
      | none => rfl
      | some values => by_cases hempty : values = [] <;> simp [hempty, Option.filter]
    · have hnone : (ownFields c clientID clientSecret token).lookup name = none := by
        rw [List.lookup_eq_none_iff]
        intro row hrow
        have hnames : row.1 ∈ reservedParams := by
          have hall : (ownFields c clientID clientSecret token).map Prod.fst = reservedParams := rfl
          exact hall ▸ List.mem_map_of_mem hrow
        have hne : name ≠ row.1 := fun heq => hreserved (heq ▸ hnames)
        simpa using hne
      rw [if_neg hreserved, if_neg hreserved, hnone]
      cases c.extraParams.lookup name <;> rfl

end Sent

end IdentityModel.GoForms
