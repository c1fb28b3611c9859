import IdentityModel.GoJwks
import IdentityModel.Values

/-!
# Token requests in Go

The grants of `go/pkg/token`, up to the request that is sent: the form each one makes, the client
authentication, and the extra parameters of `WithExtraParams`. The iteration over a map is one over its
entries in some order. What becomes of the answer is left out, and so are contexts and timeouts.
-/
namespace IdentityModel.GoToken

open GoJwks (trimSpace)

/-- What the standard library provides: `unicode.ToLower` beyond ASCII, the scheme that `url.Parse`
finds or its error, and `%q`. -/
structure Library where
  toLower : Char → Char
  urlScheme : String → Except String String
  quote : String → String

/-- Any other number counts as Basic. -/
inductive ClientAuthMethod
  | clientSecretBasic | clientSecretPost
  deriving DecidableEq, Repr

/-- `config`, without the client, the timeout and the context. -/
structure Config where
  authMethod : ClientAuthMethod := .clientSecretBasic
  clientSecret : String := ""
  scopes : List String := []
  codeVerifier : String := ""
  extraParams : Dict String String := ∅
  allowHTTP : Bool := false
  actorToken : String := ""
  actorTokenType : String := ""
  actorTokenSet : Bool := false
  resources : List String := []
  audiences : List String := []
  requestedTokenType : String := ""

/-- The functional options. -/
inductive TokenOption
  | withClientAuth (method : ClientAuthMethod)
  | withClientSecret (secret : String)
  | withScopes (scopes : List String)
  | withCodeVerifier (verifier : String)
  | withExtraParams (params : Dict String String)
  | withActorToken (token tokenType : String)
  | withResource (resources : List String)
  | withAudience (audiences : List String)
  | withRequestedTokenType (uri : String)
  | withInsecureAllowHTTP

def TokenOption.apply (c : Config) : TokenOption → Config
  | .withClientAuth method => { c with authMethod := method }
  | .withClientSecret secret => { c with clientSecret := secret }
  | .withScopes scopes => { c with scopes := scopes }
  | .withCodeVerifier verifier => { c with codeVerifier := verifier }
  | .withExtraParams params => { c with extraParams := params }
  | .withActorToken token tokenType =>
      { c with actorToken := token, actorTokenType := tokenType, actorTokenSet := true }
  | .withResource resources => { c with resources := c.resources ++ resources }
  | .withAudience audiences => { c with audiences := c.audiences ++ audiences }
  | .withRequestedTokenType uri => { c with requestedTokenType := uri }
  | .withInsecureAllowHTTP => { c with allowHTTP := true }

def newConfig (opts : List TokenOption) : Config := opts.foldl TokenOption.apply {}

def reservedParams : List String :=
  ["grant_type", "client_id", "client_secret", "code", "redirect_uri", "code_verifier", "scope",
    "subject_token", "subject_token_type", "actor_token", "actor_token_type", "client_assertion",
    "client_assertion_type"]

def exchangeReservedParams : List String := ["resource", "audience", "requested_token_type"]

/-- `unicode.ToLower`. -/
def lower (lib : Library) (c : Char) : Char := if c.toNat < 128 then Url.asciiLower c else lib.toLower c

def normalizeParamKey (lib : Library) (k : String) : String :=
  String.ofList ((trimSpace k).toList.map (lower lib))

/-- An order in which a `range` statement visits the entries of a map. -/
abbrev Visit (extras : Dict String String) :=
  {entries : List (Sigma fun _ : String => String) // entries.Perm extras.entries}

/-- `firstReservedExtra`. -/
def firstReservedExtra (lib : Library) (extras : List (Sigma fun _ : String => String))
    (grantReserved : List String) : Option String :=
  let collisions := (extras.map Sigma.fst).filter fun k => normalizeParamKey lib k ∈ grantReserved
  (collisions.mergeSort (· ≤ ·)).head?

inductive TokenError
  | request (op err : String)
  | invalidCodeVerifier (text : String)
  | invalidTokenExchange (text : String)
  deriving DecidableEq, Repr

/-- What is sent: names and values of the form as they are written, and the credentials of the
`Authorization` header. -/
structure Request where
  endpoint : String
  fields : List (String × String)
  basicAuth : Option (String × String)
  deriving DecidableEq, Repr

/-- The body: `form.Encode()`. -/
def Request.body (r : Request) : String := Forms.urlencode r.fields

/-- `url.QueryEscape`. -/
def queryEscape (s : String) : String := String.ofList (Forms.quotePlus s)

/-- The client authentication: the form, and whether a Basic header is set. -/
def authenticate (c : Config) (clientID clientSecret : String) (form : Values) : Values × Bool :=
  if clientSecret = "" then (if clientID ≠ "" then form.set "client_id" clientID else form, false)
  else
    match c.authMethod with
    | .clientSecretPost =>
        ((form.set "client_id" clientID).set "client_secret" clientSecret, false)
    | .clientSecretBasic => (form, true)

/-- The loop over the extra parameters. -/
def applyExtras (lib : Library) (grantReserved : List String)
    (extras : List (Sigma fun _ : String => String)) (form : Values) : Values :=
  extras.foldl (fun form e =>
    if normalizeParamKey lib e.1 ∈ reservedParams ∨ normalizeParamKey lib e.1 ∈ grantReserved ∨
        e.1 ∈ form then form
    else form.set e.1 e.2) form

/-- The endpoint is parsed, and its scheme is one that may be used. -/
def checkEndpoint (lib : Library) (c : Config) (endpoint : String) : Except TokenError Unit :=
  match lib.urlScheme endpoint with
  | .error e => .error (.request "parse token endpoint" e)
  | .ok scheme =>
      if scheme ≠ "https" ∧ ¬(c.allowHTTP ∧ scheme = "http") then
        .error (.request "token endpoint" ("https required for " ++ lib.quote endpoint ++
          " (use WithInsecureAllowHTTP for http)"))
      else .ok ()

/-- `doTokenRequest`, up to the request it sends. -/
def doTokenRequest (lib : Library) (c : Config) (endpoint clientID clientSecret : String) (form : Values)
    (grantReserved : List String) (visit : Visit c.extraParams) : Except TokenError Request :=
  (checkEndpoint lib c endpoint).map fun _ =>
    let authenticated := authenticate c clientID clientSecret form
    { endpoint := endpoint
      fields := (applyExtras lib grantReserved visit.val authenticated.1).fields
      basicAuth :=
        if authenticated.2 then some (queryEscape clientID, queryEscape clientSecret) else none }

def joinScopes (c : Config) : String := " ".intercalate c.scopes

def clientCredentials (lib : Library) (c : Config) (endpoint clientID clientSecret : String)
    (visit : Visit c.extraParams) : Except TokenError Request :=
  let form := Values.set ∅ "grant_type" "client_credentials"
  let form := if c.scopes ≠ [] then form.set "scope" (joinScopes c) else form
  doTokenRequest lib c endpoint clientID clientSecret form [] visit

/-- `validCodeVerifier`. -/
def validCodeVerifier (v : String) : Bool :=
  43 ≤ v.utf8ByteSize && v.utf8ByteSize ≤ 128 &&
    v.toList.all fun c => Url.isAsciiAlpha c || Url.isDigit c || c ∈ ['-', '.', '_', '~']

def authorizationCode (lib : Library) (c : Config) (endpoint clientID code redirectURI : String)
    (visit : Visit c.extraParams) : Except TokenError Request :=
  if c.codeVerifier ≠ "" ∧ !validCodeVerifier c.codeVerifier then
    .error (.invalidCodeVerifier
      "token: invalid code verifier: must be 43-128 unreserved characters")
  else
    let form := (Values.set ∅ "grant_type" "authorization_code").set "code" code
    let form := if redirectURI ≠ "" then form.set "redirect_uri" redirectURI else form
    let form := if c.codeVerifier ≠ "" then form.set "code_verifier" c.codeVerifier else form
    doTokenRequest lib c endpoint clientID c.clientSecret form [] visit

/-- An error of `TokenExchange`. -/
def invalidExchange (text : String) : TokenError :=
  .invalidTokenExchange ("token: invalid token exchange request: " ++ text)

/-- The checks of the actor token. -/
def checkActor (c : Config) : Except TokenError Unit :=
  if c.actorTokenSet then
    if c.actorToken = "" then
      .error (invalidExchange "actor_token must not be empty when provided")
    else if c.actorTokenType = "" then
      .error (invalidExchange "actor_token_type is required when actor_token is set")
    else .ok ()
  else .ok ()

/-- The form of a token exchange. -/
def exchangeForm (c : Config) (subjectToken subjectTokenType : String) : Values :=
  let form := Values.set ∅ "grant_type" "urn:ietf:params:oauth:grant-type:token-exchange"
  let form := (form.set "subject_token" subjectToken).set "subject_token_type" subjectTokenType
  let form := if c.actorTokenSet then form.set "actor_token" c.actorToken else form
  let form := if c.actorTokenSet then form.set "actor_token_type" c.actorTokenType else form
  let form :=
    if c.requestedTokenType ≠ "" then form.set "requested_token_type" c.requestedTokenType else form
  let form := if c.scopes ≠ [] then form.set "scope" (joinScopes c) else form
  let form := c.resources.foldl (fun form r => form.add "resource" r) form
  c.audiences.foldl (fun form a => form.add "audience" a) form

/-- `TokenExchange`; the maps are ranged over twice. -/
def tokenExchange (lib : Library) (c : Config)
    (endpoint clientID clientSecret subjectToken subjectTokenType : String)
    (first second : Visit c.extraParams) : Except TokenError Request :=
  if subjectToken = "" then .error (invalidExchange "subject_token is required")
  else if subjectTokenType = "" then .error (invalidExchange "subject_token_type is required")
  else
    match firstReservedExtra lib first.val exchangeReservedParams with
    | some k =>
        .error (invalidExchange (k ++ " must be set via its option " ++
          "(WithResource/WithAudience/WithRequestedTokenType), not WithExtraParams"))
    | none =>
        match checkActor c with
        | .error e => .error e
        | .ok () =>
            doTokenRequest lib c endpoint clientID clientSecret
              (exchangeForm c subjectToken subjectTokenType) exchangeReservedParams second

/-- The grants, with their arguments. -/
inductive Grant
  | clientCredentials (clientID clientSecret : String)
  | authorizationCode (clientID code redirectURI : String)
  | tokenExchange (clientID clientSecret subjectToken subjectTokenType : String)

/-- A grant's call, up to the request it sends; the second order is that of the loop that makes the
form. -/
def Grant.request (g : Grant) (lib : Library) (c : Config) (endpoint : String)
    (first second : Visit c.extraParams) : Except TokenError Request :=
  match g with
  | .clientCredentials clientID clientSecret =>
      GoToken.clientCredentials lib c endpoint clientID clientSecret second
  | .authorizationCode clientID code redirectURI =>
      GoToken.authorizationCode lib c endpoint clientID code redirectURI second
  | .tokenExchange clientID clientSecret subjectToken subjectTokenType =>
      GoToken.tokenExchange lib c endpoint clientID clientSecret subjectToken subjectTokenType first
        second

/-- A grant's call with its options. -/
def Grant.call (g : Grant) (lib : Library) (opts : List TokenOption) (endpoint : String)
    (first second : Visit (newConfig opts).extraParams) : Except TokenError Request :=
  g.request lib (newConfig opts) endpoint first second

/-- The parameters a grant reserves on top of those of the package. -/
def Grant.grantReserved : Grant → List String
  | .tokenExchange _ _ _ _ => exchangeReservedParams
  | _ => []

/-- A name is reserved, whatever its case and the space around it. -/
def Grant.Reserves (g : Grant) (lib : Library) (name : String) : Prop :=
  normalizeParamKey lib name ∈ reservedParams ∨ normalizeParamKey lib name ∈ g.grantReserved

instance (g : Grant) (lib : Library) (name : String) : Decidable (g.Reserves lib name) :=
  inferInstanceAs (Decidable (_ ∨ _))

def scopeValues (c : Config) : List String := if c.scopes ≠ [] then [joinScopes c] else []

/-- The values of the client authentication in the body. -/
def credentialFields (c : Config) (clientID clientSecret : String) : List (String × List String) :=
  [("client_id",
      if clientSecret = "" then if clientID ≠ "" then [clientID] else []
      else if c.authMethod = .clientSecretPost then [clientID] else []),
    ("client_secret",
      if clientSecret ≠ "" ∧ c.authMethod = .clientSecretPost then [clientSecret] else [])]

/-- The names a grant sets itself, with their values. -/
def Grant.ownFields (c : Config) : Grant → List (String × List String)
  | .clientCredentials clientID clientSecret =>
      [("grant_type", ["client_credentials"]), ("scope", scopeValues c)] ++
        credentialFields c clientID clientSecret
  | .authorizationCode clientID code redirectURI =>
      [("grant_type", ["authorization_code"]), ("code", [code]),
        ("redirect_uri", if redirectURI ≠ "" then [redirectURI] else []),
        ("code_verifier", if c.codeVerifier ≠ "" then [c.codeVerifier] else [])] ++
        credentialFields c clientID c.clientSecret
  | .tokenExchange clientID clientSecret subjectToken subjectTokenType =>
      [("grant_type", ["urn:ietf:params:oauth:grant-type:token-exchange"]),
        ("subject_token", [subjectToken]), ("subject_token_type", [subjectTokenType]),
        ("actor_token", if c.actorTokenSet then [c.actorToken] else []),
        ("actor_token_type", if c.actorTokenSet then [c.actorTokenType] else []),
        ("requested_token_type", if c.requestedTokenType ≠ "" then [c.requestedTokenType] else []),
        ("scope", scopeValues c), ("resource", c.resources), ("audience", c.audiences)] ++
        credentialFields c clientID clientSecret

def Grant.ownValues (g : Grant) (c : Config) (name : String) : List String :=
  ((g.ownFields c).lookup name).getD []

/-- The values a request has under a name. -/
def Request.values (r : Request) (name : String) : List String :=
  (r.fields.filter fun field => field.1 = name).map Prod.snd

/-- A reserved name stands as it is and has the grant's own values; any other extra parameter stands
once, with its value. -/
structure Unpolluted (lib : Library) (g : Grant) (c : Config) (r : Request) : Prop where
  exact : ∀ field ∈ r.fields, g.Reserves lib field.1 → normalizeParamKey lib field.1 = field.1
  own : ∀ name, g.Reserves lib name → r.values name = g.ownValues c name
  extra : ∀ name value, c.extraParams.lookup name = some value → ¬ g.Reserves lib name →
    r.values name = [value]

/-- The endpoint may be used. -/
def ValidEndpoint (lib : Library) (c : Config) (endpoint : String) : Prop :=
  lib.urlScheme endpoint = .ok "https" ∨ (c.allowHTTP = true ∧ lib.urlScheme endpoint = .ok "http")

section Names

variable {lib : Library}

/-- A lower-case letter or an underscore. -/
def isPlain (c : Char) : Bool := ('a' ≤ c && c ≤ 'z') || c = '_'

theorem normalize_of_plain {k : String} (h : ∀ c ∈ k.toList, isPlain c = true) :
    normalizeParamKey lib k = k := by
  have hrange (c : Char) (hc : isPlain c = true) : 95 ≤ c.toNat ∧ c.toNat ≤ 122 := by
    simp only [isPlain, Bool.or_eq_true, Bool.and_eq_true, decide_eq_true_eq] at hc
    obtain ⟨hlow, hhigh⟩ | rfl := hc
    · have hlow' : 'a'.toNat ≤ c.toNat := hlow
      have hhigh' : c.toNat ≤ 'z'.toNat := hhigh
      have ha : 'a'.toNat = 97 := rfl
      have hz : 'z'.toNat = 122 := rfl
      omega
    · decide
  have hspace (c : Char) (hc : isPlain c = true) : GoJwks.isSpace c = false := by
    have := hrange c hc
    simp only [GoJwks.isSpace]
    grind
  have hdrop (l : List Char) (hl : ∀ c ∈ l, isPlain c = true) : l.dropWhile GoJwks.isSpace = l := by
    cases l with
    | nil => rfl
    | cons c l => rw [List.dropWhile_cons, hspace c (hl c List.mem_cons_self), if_neg Bool.false_ne_true]
  have htrim : trimSpace k = k := by
    rw [trimSpace, hdrop _ h, hdrop _ fun c hc => h c (List.mem_reverse.mp hc), List.reverse_reverse,
      String.ofList_toList]
  have hlower (c : Char) (hc : isPlain c = true) : lower lib c = c := by
    obtain ⟨hlow, hhigh⟩ := hrange c hc
    have hascii : c.toNat < 128 := by omega
    rw [lower, if_pos hascii, Url.asciiLower, if_neg]
    rintro ⟨-, hupper⟩
    have hupper' : c.toNat ≤ 'Z'.toNat := hupper
    have hZ : 'Z'.toNat = 90 := rfl
    omega
  have hmap : k.toList.map (lower lib) = k.toList := by
    rw [List.map_congr_left fun c hc => hlower c (h c hc), List.map_id']
  rw [normalizeParamKey, htrim, hmap, String.ofList_toList]

/-- Reserved names are their own normal forms. -/
theorem normalize_reserved {k : String} (h : k ∈ reservedParams ++ exchangeReservedParams) :
    normalizeParamKey lib k = k := by
  have hall : ((reservedParams ++ exchangeReservedParams).all fun k => k.toList.all isPlain) = true := by
    decide
  have hplain := List.all_eq_true.mp hall k h
  exact normalize_of_plain (List.all_eq_true.mp hplain)

/-- The names a grant sets. -/
def Grant.ownNames : Grant → List String
  | .clientCredentials _ _ => ["grant_type", "scope", "client_id", "client_secret"]
  | .authorizationCode _ _ _ =>
      ["grant_type", "code", "redirect_uri", "code_verifier", "client_id", "client_secret"]
  | .tokenExchange _ _ _ _ =>
      ["grant_type", "subject_token", "subject_token_type", "actor_token", "actor_token_type",
        "requested_token_type", "scope", "resource", "audience", "client_id", "client_secret"]

theorem ownFields_names {g : Grant} {c : Config} : (g.ownFields c).map Prod.fst = g.ownNames := by
  cases g <;> simp only [Grant.ownFields, Grant.ownNames, credentialFields, List.map_cons, List.map_nil,
    List.cons_append, List.nil_append]

/-- The names a grant sets are reserved. -/
theorem mem_reserved_of_own {g : Grant} {name : String} (h : name ∈ g.ownNames) :
    name ∈ reservedParams ∨ name ∈ g.grantReserved := by
  cases g with
  | clientCredentials clientID clientSecret =>
      have hall : ∀ name ∈ ["grant_type", "scope", "client_id", "client_secret"],
          name ∈ reservedParams := by decide
      exact .inl (hall name h)
  | authorizationCode clientID code redirectURI =>
      have hall : ∀ name ∈ ["grant_type", "code", "redirect_uri", "code_verifier", "client_id",
          "client_secret"], name ∈ reservedParams := by decide
      exact .inl (hall name h)
  | tokenExchange clientID clientSecret subjectToken subjectTokenType =>
      have hall : ∀ name ∈ ["grant_type", "subject_token", "subject_token_type", "actor_token",
          "actor_token_type", "requested_token_type", "scope", "resource", "audience", "client_id",
          "client_secret"], name ∈ reservedParams ∨ name ∈ exchangeReservedParams := by decide
      exact hall name h

theorem normalize_own {g : Grant} {name : String} (h : name ∈ g.ownNames) : normalizeParamKey lib name = name := by
  apply normalize_reserved
  rw [List.mem_append]
  obtain hname | hname := mem_reserved_of_own h
  · exact .inl hname
  · cases g with
    | tokenExchange clientID clientSecret subjectToken subjectTokenType => exact .inr hname
    | clientCredentials clientID clientSecret => cases hname
    | authorizationCode clientID code redirectURI => cases hname

theorem reserves_own {g : Grant} {name : String} (h : name ∈ g.ownNames) : g.Reserves lib name := by
  rw [Grant.Reserves, normalize_own h]
  exact mem_reserved_of_own h

end Names

section Extras

variable {lib : Library} {grantReserved : List String} {form : Values}
  {extras extras' : List (Sigma fun _ : String => String)}

/-- The loop adds what is not reserved and not there. -/
theorem lookup_applyExtras (name : String) :
    (applyExtras lib grantReserved extras form).lookup name =
      (form.lookup name).or
        (if normalizeParamKey lib name ∈ reservedParams ∨ normalizeParamKey lib name ∈ grantReserved
          then none
        else (extras.dlookup name).map fun value => [value]) := by
  induction extras generalizing form with
  | nil => simp [applyExtras]
  | cons e extras ih =>
      obtain ⟨key, value⟩ := e
      rw [applyExtras, List.foldl_cons, ← applyExtras, ih]
      by_cases hname : name = key
      · subst hname
        rw [List.dlookup_cons_eq]
        by_cases hmem : name ∈ form
        · obtain ⟨values, hvalues⟩ := Option.isSome_iff_exists.mp (AList.lookup_isSome.mpr hmem)
          simp [hmem, hvalues]
        · have hnone := AList.lookup_eq_none.mpr hmem
          by_cases hreserved : normalizeParamKey lib name ∈ reservedParams ∨
              normalizeParamKey lib name ∈ grantReserved
          · have hskip : normalizeParamKey lib name ∈ reservedParams ∨
                normalizeParamKey lib name ∈ grantReserved ∨ name ∈ form :=
              or_assoc.mp (.inl hreserved)
            rw [if_pos hskip, hnone, if_pos hreserved, if_pos hreserved]
          · have hset : ¬(normalizeParamKey lib name ∈ reservedParams ∨
                normalizeParamKey lib name ∈ grantReserved ∨ name ∈ form) := by
              rw [← or_assoc]
              exact not_or.mpr ⟨hreserved, hmem⟩
            rw [if_neg hset, if_neg hreserved, if_neg hreserved, Values.lookup_set, if_pos rfl, hnone]
            rfl
      · have htail : List.dlookup name (⟨key, value⟩ :: extras) = extras.dlookup name :=
          List.dlookup_cons_ne extras _ hname
        rw [htail]
        have hkept : (if normalizeParamKey lib key ∈ reservedParams ∨
            normalizeParamKey lib key ∈ grantReserved ∨ key ∈ form then form
            else form.set key value).lookup name = form.lookup name := by
          split
          · rfl
          · rw [Values.lookup_set, if_neg hname]
        rw [hkept]

/-- The order of the loop does not matter. -/
theorem fields_applyExtras_perm (hnodup : extras.NodupKeys) (hperm : extras.Perm extras') :
    (applyExtras lib grantReserved extras form).fields =
      (applyExtras lib grantReserved extras' form).fields := by
  apply Values.fields_congr
  intro name
  rw [lookup_applyExtras, lookup_applyExtras, List.perm_dlookup name hnodup hperm]

/-- Nor does that of the check. -/
theorem firstReservedExtra_perm (hperm : extras.Perm extras') :
    firstReservedExtra lib extras grantReserved = firstReservedExtra lib extras' grantReserved := by
  have hsorted : (((extras.map Sigma.fst).filter fun k => normalizeParamKey lib k ∈ grantReserved).mergeSort
      (· ≤ ·)) = ((extras'.map Sigma.fst).filter fun k => normalizeParamKey lib k ∈ grantReserved).mergeSort
        (· ≤ ·) := by
    apply List.Perm.eq_of_pairwise' (r := (· ≤ ·))
    · exact List.pairwise_mergeSort' _ _
    · exact List.pairwise_mergeSort' _ _
    · have hcollisions := (hperm.map Sigma.fst).filter fun k => normalizeParamKey lib k ∈ grantReserved
      exact ((List.mergeSort_perm _ _).trans hcollisions).trans (List.mergeSort_perm _ _).symm
  rw [firstReservedExtra, firstReservedExtra, hsorted]

theorem firstReservedExtra_eq_none : firstReservedExtra lib extras grantReserved = none ↔
    ∀ k ∈ extras.map Sigma.fst, normalizeParamKey lib k ∉ grantReserved := by
  rw [firstReservedExtra, List.head?_eq_none_iff, ← List.length_eq_zero_iff, List.length_mergeSort,
    List.length_eq_zero_iff, List.filter_eq_nil_iff]
  simp

end Extras

section Sent

variable {lib : Library} {c : Config} {endpoint : String}

theorem authenticate_shows {form : Values} {table : List (String × List String)}
    (clientID clientSecret : String) (h : form.Shows table) (hid : "client_id" ∉ table.map Prod.fst)
    (hsecret : "client_secret" ∉ table.map Prod.fst) :
    (authenticate c clientID clientSecret form).1.Shows
      (table ++ credentialFields c clientID clientSecret) := by
  have hlast (values : List String) :
      "client_secret" ∉ (table ++ [("client_id", values)]).map Prod.fst := by
    rw [List.map_append, List.mem_append, not_or]
    exact ⟨hsecret, by simp⟩
  have hrows (values secrets : List String) : table ++ [("client_id", values), ("client_secret", secrets)] =
      (table ++ [("client_id", values)]) ++ [("client_secret", secrets)] := by
    rw [List.append_assoc]
    rfl
  rw [credentialFields, hrows, authenticate]
  by_cases hempty : clientSecret = ""
  · have hsecret' : ¬(clientSecret ≠ "" ∧ c.authMethod = .clientSecretPost) := fun hboth => hboth.1 hempty
    rw [if_pos hempty, if_pos hempty, if_neg hsecret']
    exact (h.setIf "client_id" clientID hid).absent "client_secret" (hlast _)
  · rw [if_neg hempty, if_neg hempty]
    cases hmethod : c.authMethod with
    | clientSecretPost =>
        rw [if_pos rfl, if_pos ⟨hempty, rfl⟩]
        exact (h.set "client_id" clientID hid).set "client_secret" clientSecret (hlast _)
    | clientSecretBasic =>
        rw [if_neg (by decide), if_neg fun hboth => by cases hboth.2]
        exact (h.absent "client_id" hid).absent "client_secret" (hlast _)

theorem exchangeForm_shows (subjectToken subjectTokenType : String) :
    (exchangeForm c subjectToken subjectTokenType).Shows
      [("grant_type", ["urn:ietf:params:oauth:grant-type:token-exchange"]),
        ("subject_token", [subjectToken]), ("subject_token_type", [subjectTokenType]),
        ("actor_token", if c.actorTokenSet then [c.actorToken] else []),
        ("actor_token_type", if c.actorTokenSet then [c.actorTokenType] else []),
        ("requested_token_type", if c.requestedTokenType ≠ "" then [c.requestedTokenType] else []),
        ("scope", scopeValues c), ("resource", c.resources), ("audience", c.audiences)] := by
  have hgrant := Values.Shows.empty.set "grant_type" "urn:ietf:params:oauth:grant-type:token-exchange"
    (by simp)
  have hsubject := (hgrant.set "subject_token" subjectToken (by simp)).set "subject_token_type"
    subjectTokenType (by simp)
  have hactor := (hsubject.setIf (c := c.actorTokenSet = true) "actor_token" c.actorToken
    (by simp)).setIf (c := c.actorTokenSet = true) "actor_token_type" c.actorTokenType (by simp)
  have hrequested := hactor.setIf (c := c.requestedTokenType ≠ "") "requested_token_type"
    c.requestedTokenType (by simp)
  have hscope := hrequested.setIf (c := c.scopes ≠ []) "scope" (joinScopes c) (by simp)
  have hresource := hscope.addAll "resource" c.resources (by simp)
  exact hresource.addAll "audience" c.audiences (by simp)

theorem doTokenRequest_ok {clientID clientSecret : String} {form : Values} {grantReserved : List String}
    {visit : Visit c.extraParams} {r : Request}
    (h : doTokenRequest lib c endpoint clientID clientSecret form grantReserved visit = .ok r) :
    r.fields = (applyExtras lib grantReserved visit.val
      (authenticate c clientID clientSecret form).1).fields := by
  rw [doTokenRequest] at h
  cases hcheck : checkEndpoint lib c endpoint with
  | error e =>
      rw [hcheck] at h
      cases h
  | ok _ =>
      rw [hcheck] at h
      cases h
      rfl

/-- What is sent: the grant's own values, then the extra parameters. -/
theorem request_spec {g : Grant} {first second : Visit c.extraParams} {r : Request}
    (h : g.request lib c endpoint first second = .ok r) :
    ∃ own : Values, own.Shows (g.ownFields c) ∧
      r.fields = (applyExtras lib g.grantReserved second.val own).fields := by
  cases g with
  | clientCredentials clientID clientSecret =>
      have hgrant := Values.Shows.empty.set "grant_type" "client_credentials" (by simp)
      have hscope := hgrant.setIf (c := c.scopes ≠ []) "scope" (joinScopes c) (by simp)
      exact ⟨_, authenticate_shows clientID clientSecret hscope (by simp) (by simp), doTokenRequest_ok h⟩
  | authorizationCode clientID code redirectURI =>
      rw [Grant.request, authorizationCode] at h
      split at h
      · cases h
      · have hgrant := (Values.Shows.empty.set "grant_type" "authorization_code" (by simp)).set "code" code
          (by simp)
        have hredirect := hgrant.setIf (c := redirectURI ≠ "") "redirect_uri" redirectURI (by simp)
        have hverifier := hredirect.setIf (c := c.codeVerifier ≠ "") "code_verifier" c.codeVerifier (by simp)
        exact ⟨_, authenticate_shows clientID c.clientSecret hverifier (by simp) (by simp),
          doTokenRequest_ok h⟩
  | tokenExchange clientID clientSecret subjectToken subjectTokenType =>
      have hform := exchangeForm_shows (c := c) subjectToken subjectTokenType
      rw [Grant.request, tokenExchange] at h
      split_ifs at h
      split at h
      · cases h
      · split at h
        · cases h
        · exact ⟨_, authenticate_shows clientID clientSecret hform (by simp) (by simp),
            doTokenRequest_ok h⟩

/-- No form is polluted. -/
theorem request_unpolluted {g : Grant} {first second : Visit c.extraParams} {r : Request}
    (h : g.request lib c endpoint first second = .ok r) : Unpolluted lib g c r := by
  obtain ⟨own, hown, hfields⟩ := request_spec h
  have hlookup (name : String) : (r.fields.filter fun field => field.1 = name) =
      (((own.lookup name).or (if g.Reserves lib name then none
        else (c.extraParams.lookup name).map fun value => [value])).getD []).map
          fun value => (name, value) := by
    have hvisit : second.val.dlookup name = c.extraParams.lookup name :=
      (List.perm_dlookup name c.extraParams.nodupKeys second.property.symm).symm
    rw [hfields, Values.fields_filter, lookup_applyExtras, hvisit]
    rfl
  have hvalues (name : String) : r.values name = ((own.lookup name).or (if g.Reserves lib name then none
      else (c.extraParams.lookup name).map fun value => [value])).getD [] := by
    rw [Request.values, hlookup, List.map_map]
    exact List.map_id' _
  have hnone {name : String} (hname : name ∉ g.ownNames) : own.lookup name = none :=
    (hown.not_mem (ownFields_names ▸ hname)).1
  refine ⟨?_, ?_, ?_⟩
  · rintro ⟨name, value⟩ hfield hreserved
    by_contra hspelling
    have hother : name ∉ g.ownNames := fun hmem => hspelling (normalize_own hmem)
    have hmem : (name, value) ∈ r.fields.filter fun field => field.1 = name :=
      List.mem_filter.mpr ⟨hfield, decide_eq_true rfl⟩
    rw [hlookup, hnone hother, if_pos hreserved] at hmem
    cases hmem
  · intro name hreserved
    rw [hvalues, if_pos hreserved, Option.or_none, hown name, Grant.ownValues]
    cases (g.ownFields c).lookup name with
    | none => rfl
    | some values => by_cases hempty : values = [] <;> simp [hempty, Option.filter]
  · intro name value hextra hfree
    have hother : name ∉ g.ownNames := fun hmem => hfree (reserves_own hmem)
    rw [hvalues, hnone hother, if_neg hfree, hextra]
    rfl

/-- The order of the maps does not matter. -/
theorem request_visit (g : Grant) (first first' second second' : Visit c.extraParams) :
    g.request lib c endpoint first second = g.request lib c endpoint first' second' := by
  have hsend (clientID clientSecret : String) (form : Values) (grantReserved : List String) :
      doTokenRequest lib c endpoint clientID clientSecret form grantReserved second =
        doTokenRequest lib c endpoint clientID clientSecret form grantReserved second' := by
    have hnodup : second.val.NodupKeys := (List.perm_nodupKeys second.property).mpr c.extraParams.nodupKeys
    simp only [doTokenRequest, fields_applyExtras_perm hnodup (second.property.trans second'.property.symm)]
  have hcheck := @firstReservedExtra_perm lib exchangeReservedParams first.val first'.val
    (first.property.trans first'.property.symm)
  cases g with
  | clientCredentials clientID clientSecret => exact hsend clientID clientSecret _ []
  | authorizationCode clientID code redirectURI =>
      simp only [Grant.request, authorizationCode, hsend]
  | tokenExchange clientID clientSecret subjectToken subjectTokenType =>
      simp only [Grant.request, tokenExchange, hcheck, hsend]

theorem checkEndpoint_ok (h : ValidEndpoint lib c endpoint) : checkEndpoint lib c endpoint = .ok () := by
  rw [checkEndpoint]
  obtain hscheme | ⟨hallowed, hscheme⟩ := h
  · simp [hscheme]
  · simp [hscheme, hallowed]

/-- The actor token is incomplete. -/
def ActorIncomplete (c : Config) : Prop :=
  c.actorTokenSet = true ∧ (c.actorToken = "" ∨ c.actorTokenType = "")

theorem checkActor_cases (c : Config) :
    (ActorIncomplete c ∧ ∃ e, checkActor c = .error e) ∨ (¬ActorIncomplete c ∧ checkActor c = .ok ()) := by
  simp only [ActorIncomplete, checkActor]
  split_ifs <;> simp_all

/-- An exchange is refused for a missing token, an incomplete actor token or a reserved parameter. -/
theorem tokenExchange_refused_iff {clientID clientSecret subjectToken subjectTokenType : String}
    {first second : Visit c.extraParams} (hendpoint : ValidEndpoint lib c endpoint) :
    (∃ e, tokenExchange lib c endpoint clientID clientSecret subjectToken subjectTokenType first second =
      .error e) ↔ subjectToken = "" ∨ subjectTokenType = "" ∨ ActorIncomplete c ∨
        ∃ k ∈ c.extraParams, normalizeParamKey lib k ∈ exchangeReservedParams := by
  have hkeys : (∀ k ∈ first.val.map Sigma.fst, normalizeParamKey lib k ∉ exchangeReservedParams) ↔
      ¬∃ k ∈ c.extraParams, normalizeParamKey lib k ∈ exchangeReservedParams := by
    simp only [(first.property.map Sigma.fst).mem_iff, not_exists, not_and]
    rfl
  rw [tokenExchange]
  by_cases htoken : subjectToken = ""
  · simp [htoken]
  by_cases htype : subjectTokenType = ""
  · simp [htoken, htype]
  rw [if_neg htoken, if_neg htype]
  cases hfirst : firstReservedExtra lib first.val exchangeReservedParams with
  | some k =>
      have hcollides : ∃ k ∈ c.extraParams, normalizeParamKey lib k ∈ exchangeReservedParams := by
        by_contra hnone
        rw [firstReservedExtra_eq_none.mpr (hkeys.mpr hnone)] at hfirst
        cases hfirst
      simp [hcollides]
  | none =>
      have hnone := hkeys.mp (firstReservedExtra_eq_none.mp hfirst)
      obtain ⟨hactor, e, hcheck⟩ | ⟨hactor, hcheck⟩ := checkActor_cases c
      · simp [hcheck, hactor]
      · simp [hcheck, hactor, hnone, htoken, htype, doTokenRequest, checkEndpoint_ok hendpoint, Except.map]

/-- The form of a token request cannot be polluted. -/
theorem token_form_unpolluted (lib : Library) (g : Grant) (opts : List TokenOption) (endpoint : String)
    (first second : Visit (newConfig opts).extraParams) :
    (∀ r, g.call lib opts endpoint first second = .ok r → Unpolluted lib g (newConfig opts) r) ∧
    (∀ first' second', g.call lib opts endpoint first' second' = g.call lib opts endpoint first second) ∧
    ∀ clientID clientSecret subjectToken subjectTokenType,
      g = .tokenExchange clientID clientSecret subjectToken subjectTokenType →
      ValidEndpoint lib (newConfig opts) endpoint →
      ((∃ e, g.call lib opts endpoint first second = .error e) ↔
        subjectToken = "" ∨ subjectTokenType = "" ∨ ActorIncomplete (newConfig opts) ∨
          ∃ k ∈ (newConfig opts).extraParams, normalizeParamKey lib k ∈ exchangeReservedParams) := by
  refine ⟨?_, ?_, ?_⟩
  · intro r hcall
    exact request_unpolluted hcall
  · intro first' second'
    exact request_visit g first' first second' second
  · rintro clientID clientSecret subjectToken subjectTokenType rfl hendpoint
    exact tokenExchange_refused_iff hendpoint

/-- Names beyond ASCII are left as they are. -/
def sampleLibrary : Library where
  toLower c := c
  urlScheme _ := .ok "https"
  quote s := "\"" ++ s ++ "\""

def sampleOptions : List TokenOption :=
  [.withAudience ["api"],
    .withExtraParams (AList.insert "login_hint" "ada" (AList.insert " Client_Id" "mallory" ∅))]

/-- The order in which the entries are stored. -/
def Visit.stored (extras : Dict String String) : Visit extras := ⟨extras.entries, .refl _⟩

/-- An extra parameter that spells a reserved name is not sent, another one is. -/
theorem token_form_unpolluted_sample :
    ∃ r, (Grant.tokenExchange "app" "s3cret" "t" "urn:t").call sampleLibrary sampleOptions
        "https://op.example/token" (.stored _) (.stored _) = .ok r ∧
      r.values "audience" = ["api"] ∧ r.values " Client_Id" = [] ∧ r.values "login_hint" = ["ada"] := by
  obtain ⟨hform, -, hrefused⟩ := token_form_unpolluted sampleLibrary
    (.tokenExchange "app" "s3cret" "t" "urn:t") sampleOptions "https://op.example/token" (.stored _)
    (.stored _)
  have hiff := hrefused "app" "s3cret" "t" "urn:t" rfl (.inl rfl)
  cases hcall : (Grant.tokenExchange "app" "s3cret" "t" "urn:t").call sampleLibrary sampleOptions
      "https://op.example/token" (.stored _) (.stored _) with
  | error e =>
      have hkeys : ∀ k ∈ ["login_hint", " Client_Id"],
          normalizeParamKey sampleLibrary k ∉ exchangeReservedParams := by decide
      obtain htoken | htype | ⟨hset, -⟩ | ⟨k, hk, hreserved⟩ := hiff.mp ⟨e, hcall⟩
      · exact absurd htoken (by decide)
      · exact absurd htype (by decide)
      · cases hset
      · exact absurd hreserved (hkeys k hk)
  | ok r =>
      obtain ⟨-, hown, hextra⟩ := hform r hcall
      exact ⟨r, rfl, hown "audience" (by decide), hown " Client_Id" (by decide),
        hextra "login_hint" "ada" rfl (by decide)⟩

end Sent

end IdentityModel.GoToken
