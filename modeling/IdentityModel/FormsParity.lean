import IdentityModel.GoForms
import IdentityModel.RustFormGuards

/-!
# The forms of the Go and the Rust clients

The same call is made in both languages; where Rust drops an empty value, the Go caller leaves it out.
The forms hold the same values under each name and the same credentials, but for extra parameters that
one of the two guards drops and the other does not.
-/
namespace IdentityModel.FormsParity

open RustForms (Call Form ProtectedClient TokenClient TokenExchangeRequest values)
open GoToken (Visit)

theorem urlencodedByte_all : ((List.range 256).all fun b =>
    RustForms.urlencodedByte b = Forms.quoteByte b) = true := by
  decide +kernel

/-- `form_urlencode` is `url.QueryEscape`. -/
theorem formUrlencode_eq (value : String) : RustForms.formUrlencode value = Forms.quotePlus value := by
  have hbyte (b : ℕ) (hb : b ∈ Forms.encodeUtf8 value.toList) :
      RustForms.urlencodedByte b = Forms.quoteByte b :=
    of_decide_eq_true
      (List.all_eq_true.mp urlencodedByte_all b (List.mem_range.mpr (Forms.encodeUtf8_lt _ b hb)))
  exact List.flatMap_congr hbyte

/-- `basic_auth_header` writes what `SetBasicAuth` does with the escaped pair. -/
theorem basicAuthHeader_eq (clientId clientSecret : String) :
    RustForms.basicAuthHeader clientId clientSecret =
      BasicCredentials.header (GoToken.queryEscape clientId, GoToken.queryEscape clientSecret) := by
  simp only [RustForms.basicAuthHeader, BasicCredentials.header, BasicCredentials.userpass,
    GoToken.queryEscape, String.toList_ofList, formUrlencode_eq]

def goAuth : RustForms.ClientAuthMethod → GoToken.ClientAuthMethod
  | .clientSecretBasic => .clientSecretBasic
  | .clientSecretPost => .clientSecretPost

/-- The rows of a table, value by value. -/
def expand (table : List (String × List String)) : Form :=
  table.flatMap fun row => row.2.map fun value => (row.1, value)

theorem values_expand {table : List (String × List String)} (hnodup : (table.map Prod.fst).Nodup)
    (name : String) : values id (expand table) name = (table.lookup name).getD [] := by
  induction table with
  | nil => rfl
  | cons row table ih =>
      obtain ⟨key, column⟩ := row
      obtain ⟨hkey, hrest⟩ := List.nodup_cons.mp hnodup
      have hcons : expand ((key, column) :: table) =
          (column.map fun value => (key, value)) ++ expand table := List.flatMap_cons
      rw [hcons, RustForms.values_append, ih hrest]
      by_cases hname : name = key
      · subst hname
        have hnone : table.lookup name = none := by
          rw [List.lookup_eq_none_iff]
          intro row hrow
          have hne : name ≠ row.1 := fun heq => hkey (List.mem_map.mpr ⟨row, hrow, heq.symm⟩)
          simpa using hne
        have hcolumn : values id (column.map fun value => (name, value)) name = column := by
          simp [values, List.filter_map, Function.comp_def]
        rw [hcolumn, hnone, List.lookup_cons_self, Option.getD_none, List.append_nil, Option.getD_some]
      · have hother : values id (column.map fun value => (key, value)) name = [] := by
          apply RustForms.values_eq_nil
          intro field hfield heq
          obtain ⟨value, -, rfl⟩ := List.mem_map.mp hfield
          exact hname heq.symm
        have hlookup : ((key, column) :: table).lookup name = table.lookup name := by
          rw [List.lookup_cons, beq_false_of_ne hname]
        rw [hother, List.nil_append, hlookup]

/-- A call of the Rust token client, with its arguments. -/
inductive TokenMethod
  | clientCredentials (scope : Option String)
  | exchangeCode (code redirectUri : String) (codeVerifier : Option String)
  | tokenExchange (request : TokenExchangeRequest)

namespace TokenMethod

def call (m : TokenMethod) (client : TokenClient) : Call :=
  match m with
  | .clientCredentials scope => .clientCredentials client scope
  | .exchangeCode code redirectUri codeVerifier => .exchangeCode client code redirectUri codeVerifier
  | .tokenExchange request => .tokenExchange client request

/-- The call itself; the extra parameters are those of the client. -/
def request (m : TokenMethod) (lib : RustForms.Library) (client : TokenClient)
    (visit : Visit client.extraParams) : Except RustForms.IdentityError RustForms.Request :=
  match m with
  | .clientCredentials scope => client.clientCredentials lib scope visit
  | .exchangeCode code redirectUri codeVerifier =>
      client.exchangeCode lib code redirectUri codeVerifier visit
  | .tokenExchange request => client.tokenExchange lib request visit

/-- The options of the same call in Go: an exchange names no empty value. -/
def goConfig (m : TokenMethod) (client : TokenClient) : GoToken.Config :=
  let c : GoToken.Config :=
    { authMethod := goAuth client.authMethod
      clientSecret := client.clientSecret.getD ""
      extraParams := client.extraParams
      allowHTTP := client.allowHttp }
  match m with
  | .clientCredentials scope => { c with scopes := scope.toList }
  | .exchangeCode _ _ codeVerifier => { c with codeVerifier := codeVerifier.getD "" }
  | .tokenExchange request =>
      { c with
        actorToken := request.actorToken.getD ""
        actorTokenType := request.actorTokenType.getD ""
        actorTokenSet := request.actorToken.isSome
        requestedTokenType := request.requestedTokenType.getD ""
        scopes := (request.scope.filter fun s => s ≠ "").toList
        resources := request.resources.filter fun s => s ≠ ""
        audiences := request.audiences.filter fun s => s ≠ "" }

/-- The same call in Go. -/
def goGrant (m : TokenMethod) (client : TokenClient) : GoToken.Grant :=
  let secret := client.clientSecret.getD ""
  match m with
  | .clientCredentials _ => .clientCredentials client.clientId secret
  | .exchangeCode code redirectUri _ => .authorizationCode client.clientId code redirectUri
  | .tokenExchange request =>
      .tokenExchange client.clientId secret request.subjectToken request.subjectTokenType

/-- What the Rust call refuses of its own arguments. -/
def Valid : TokenMethod → Prop
  | .clientCredentials _ => True
  | .exchangeCode _ _ codeVerifier => ∀ verifier ∈ codeVerifier, RustForms.validCodeVerifier verifier = true
  | .tokenExchange request => request.validate = .ok ()

/-- A verifier that is given is not the empty text, which Go takes for none. -/
def Given : TokenMethod → Prop
  | .exchangeCode _ _ codeVerifier => codeVerifier ≠ some ""
  | _ => True

end TokenMethod

theorem goConfig_extraParams (m : TokenMethod) (client : TokenClient) :
    (m.goConfig client).extraParams = client.extraParams := by
  cases m <;> rfl

theorem goConfig_authMethod (m : TokenMethod) (client : TokenClient) :
    (m.goConfig client).authMethod = goAuth client.authMethod := by
  cases m <;> rfl

section Tokens

variable {client : TokenClient} {m : TokenMethod}

/-- The credentials in the body are those of Go. -/
theorem authenticate_expand (c : GoToken.Config) (hmethod : c.authMethod = goAuth client.authMethod) :
    client.authenticate.1 =
      expand (GoToken.credentialFields c client.clientId (client.clientSecret.getD "")) := by
  rw [TokenClient.authenticate, GoToken.credentialFields, hmethod]
  cases hsecret : client.clientSecret with
  | none => simp [expand, client.clientId_ne]
  | some secret =>
      have hne : secret ≠ "" := fun heq => client.clientSecret_ne (heq ▸ hsecret)
      cases client.authMethod <;> simp [expand, goAuth, hne]

theorem joinScopes_toList (scope : Option String) (c : GoToken.Config) (h : c.scopes = scope.toList) :
    GoToken.scopeValues c = scope.toList := by
  rw [GoToken.scopeValues, GoToken.joinScopes, h]
  cases scope with
  | none => rfl
  | some s => rfl

theorem expand_append (table table' : List (String × List String)) :
    expand (table ++ table') = expand table ++ expand table' := List.flatMap_append

/-- A valid exchange names both halves of an actor or none. -/
theorem validate_ok_iff {request : TokenExchangeRequest} : request.validate = .ok () ↔
    request.subjectToken ≠ "" ∧ request.subjectTokenType ≠ "" ∧
      ∀ token ∈ request.actorToken, token ≠ "" ∧ ∃ tokenType ∈ request.actorTokenType, tokenType ≠ "" := by
  unfold TokenExchangeRequest.validate
  cases request.actorToken with
  | none => split_ifs <;> simp_all
  | some token =>
      cases request.actorTokenType with
      | none => split_ifs <;> simp_all
      | some tokenType => split_ifs <;> simp_all

/-- What a valid call writes itself are the rows of Go. -/
theorem own_expand (h : m.Valid) :
    (m.call client).own = expand ((m.goGrant client).ownFields (m.goConfig client)) := by
  cases m with
  | clientCredentials scope =>
      have hscope := joinScopes_toList scope
        ((TokenMethod.clientCredentials scope).goConfig client) rfl
      have hcredentials := authenticate_expand _ (goConfig_authMethod (.clientCredentials scope) client)
      rw [TokenMethod.call, Call.own, TokenMethod.goGrant, GoToken.Grant.ownFields, expand_append, hscope,
        hcredentials]
      cases scope <;> rfl
  | exchangeCode code redirectUri codeVerifier =>
      have hcredentials := authenticate_expand _
        (goConfig_authMethod (.exchangeCode code redirectUri codeVerifier) client)
      rw [TokenMethod.call, Call.own, TokenMethod.goGrant, GoToken.Grant.ownFields, expand_append,
        hcredentials]
      congr 1
      cases codeVerifier with
      | none =>
          by_cases hredirect : redirectUri = "" <;>
            simp [expand, TokenMethod.goConfig, TokenClient.codeForm, hredirect]
      | some verifier =>
          have hne : verifier ≠ "" := fun heq => absurd (heq ▸ h verifier rfl) (by decide)
          by_cases hredirect : redirectUri = "" <;>
            simp [expand, TokenMethod.goConfig, TokenClient.codeForm, hredirect, hne]
  | tokenExchange request =>
      obtain ⟨-, -, hactor⟩ := validate_ok_iff.mp h
      have hscope := joinScopes_toList (request.scope.filter fun s => s ≠ "")
        ((TokenMethod.tokenExchange request).goConfig client) rfl
      have hcredentials := authenticate_expand _ (goConfig_authMethod (.tokenExchange request) client)
      rw [TokenMethod.call, Call.own, TokenMethod.goGrant, GoToken.Grant.ownFields, expand_append, hscope,
        hcredentials]
      congr 1
      obtain ⟨subjectToken, subjectTokenType, actorToken, actorTokenType, requested, scope, resources,
        audiences⟩ := request
      cases actorToken with
      | none =>
          cases requested with
          | none => simp [expand, TokenMethod.goConfig, TokenExchangeRequest.form]
          | some t =>
              by_cases ht : t = "" <;>
                simp [expand, TokenMethod.goConfig, TokenExchangeRequest.form, Option.filter, ht]
      | some token =>
          obtain ⟨-, tokenType, htype, -⟩ := hactor token rfl
          obtain rfl : actorTokenType = some tokenType := htype
          cases requested with
          | none => simp [expand, TokenMethod.goConfig, TokenExchangeRequest.form]
          | some t =>
              by_cases ht : t = "" <;>
                simp [expand, TokenMethod.goConfig, TokenExchangeRequest.form, Option.filter, ht]

theorem ownNames_nodup (g : GoToken.Grant) : g.ownNames.Nodup := by
  cases g <;> (rw [GoToken.Grant.ownNames]; decide)

/-- The values of a Go request under each name. -/
theorem go_values {lib : GoToken.Library} {g : GoToken.Grant} {c : GoToken.Config} {endpoint : String}
    {first second : Visit c.extraParams} {r : GoToken.Request}
    (h : g.request lib c endpoint first second = .ok r) (name : String) :
    r.values name = if g.Reserves lib name then g.ownValues c name
      else (c.extraParams.lookup name).toList := by
  have hclean := GoToken.request_unpolluted h
  split
  · rename_i hreserved
    exact hclean.own name hreserved
  · rename_i hfree
    cases hextra : c.extraParams.lookup name with
    | some value => exact hclean.extra name value hextra hfree
    | none =>
        obtain ⟨own, hown, hfields⟩ := GoToken.request_spec h
        have hother : name ∉ (g.ownFields c).map Prod.fst := by
          rw [GoToken.ownFields_names]
          exact fun hmem => hfree (GoToken.reserves_own hmem)
        have hvisit : second.val.dlookup name = none := by
          rw [← hextra]
          exact (List.perm_dlookup name c.extraParams.nodupKeys second.property.symm).symm
        rw [GoToken.Request.values, hfields, Values.fields_filter, GoToken.lookup_applyExtras,
          (hown.not_mem hother).1, hvisit]
        split <;> rfl

/-- The parameters a call owns besides those of every grant. -/
def TokenMethod.grantReserved : TokenMethod → List String
  | .tokenExchange _ => RustForms.exchangeReservedParams
  | _ => []

theorem reserved_eq (m : TokenMethod) (client : TokenClient) :
    (m.call client).reserved = RustForms.reservedParams ++ m.grantReserved := by
  cases m <;> rfl

theorem reads_eq (m : TokenMethod) (client : TokenClient) (name : String) :
    (m.call client).reads name = RustForms.normalizeParamKey name := by
  cases m <;> rfl

theorem mem_goReserved {name : String} : name ∈ (m.goGrant client).grantReserved ↔ name ∈ m.grantReserved := by
  cases m with
  | clientCredentials scope => exact Iff.rfl
  | exchangeCode code redirectUri codeVerifier => exact Iff.rfl
  | tokenExchange request =>
      simp only [TokenMethod.goGrant, GoToken.Grant.grantReserved, TokenMethod.grantReserved,
        GoToken.exchangeReservedParams, RustForms.exchangeReservedParams, List.mem_cons, List.not_mem_nil,
        or_false]
      exact or_rotate.symm

/-- A name that ASCII folds to plain letters is folded the same in Go. -/
theorem goNormalize_eq {lib : GoToken.Library} {name : String}
    (h : ∀ c ∈ (RustForms.normalizeParamKey name).toList, GoToken.isPlain c = true) :
    GoToken.normalizeParamKey lib name = RustForms.normalizeParamKey name := by
  rw [RustForms.normalizeParamKey, String.toList_ofList] at h
  have hplain : ∀ c, GoToken.isPlain c = true → c.toNat < 128 := by
    intro c hc
    simp only [GoToken.isPlain, Bool.or_eq_true, Bool.and_eq_true, decide_eq_true_eq] at hc
    obtain ⟨-, hhigh⟩ | rfl := hc
    · have hhigh' : c.toNat ≤ 'z'.toNat := hhigh
      have hz : 'z'.toNat = 122 := rfl
      omega
    · decide
  have hmap : (RustJwks.trim name).toList.map (GoToken.lower lib) =
      (RustJwks.trim name).toList.map RustJwks.toAsciiLowercase := by
    apply List.map_congr_left
    intro c hc
    have hsmall : c.toNat < 128 := by
      by_cases hupper : 'A' ≤ c ∧ c ≤ 'Z'
      · have hhigh : c.toNat ≤ 'Z'.toNat := hupper.2
        have hZ : 'Z'.toNat = 90 := rfl
        omega
      · have hsame : RustJwks.toAsciiLowercase c = c := if_neg hupper
        exact hplain c (hsame ▸ h _ (List.mem_map_of_mem hc))
    exact if_pos hsmall
  exact congrArg String.ofList hmap

theorem reserved_plain : ((RustForms.reservedParams ++ RustForms.exchangeReservedParams).all fun name =>
    name.toList.all GoToken.isPlain) = true := by
  decide

/-- What Rust reserves is read the same in Go. -/
theorem goNormalize_of_reserved {lib : GoToken.Library} {name : String}
    (h : RustForms.normalizeParamKey name ∈ RustForms.reservedParams ++ m.grantReserved) :
    GoToken.normalizeParamKey lib name = RustForms.normalizeParamKey name := by
  have hmem : RustForms.normalizeParamKey name ∈
      RustForms.reservedParams ++ RustForms.exchangeReservedParams := by
    cases m with
    | tokenExchange request => exact h
    | clientCredentials scope => exact List.mem_append_left _ (by simpa [TokenMethod.grantReserved] using h)
    | exchangeCode code redirectUri codeVerifier =>
        exact List.mem_append_left _ (by simpa [TokenMethod.grantReserved] using h)
  exact goNormalize_eq (List.all_eq_true.mp (List.all_eq_true.mp reserved_plain _ hmem))

/-- What Rust reserves is reserved in Go. -/
theorem reserves_of_reserved {lib : GoToken.Library} {name : String}
    (h : RustForms.normalizeParamKey name ∈ RustForms.reservedParams ++ m.grantReserved) :
    (m.goGrant client).Reserves lib name := by
  have htable : ∀ name ∈ RustForms.reservedParams, name ∈ GoToken.reservedParams := by decide
  rw [GoToken.Grant.Reserves, goNormalize_of_reserved h]
  obtain hall | hgrant := List.mem_append.mp h
  · exact .inl (htable _ hall)
  · exact .inr (mem_goReserved.mpr hgrant)

theorem validCodeVerifier_eq (verifier : String) :
    RustForms.validCodeVerifier verifier = GoToken.validCodeVerifier verifier := by
  have hsize : (!(verifier.utf8ByteSize < 43 || 128 < verifier.utf8ByteSize)) =
      (43 ≤ verifier.utf8ByteSize && verifier.utf8ByteSize ≤ 128) := by
    rw [Bool.eq_iff_iff]
    simp
  rw [RustForms.validCodeVerifier, GoToken.validCodeVerifier, hsize]

theorem rust_ok_iff {lib : RustForms.Library} {visit : Visit client.extraParams}
    (hscheme : RustHttp.schemeOk client.allowHttp client.tokenEndpoint.toList = true) :
    (∃ r, m.request lib client visit = .ok r) ↔ m.Valid ∧
      ∀ name ∈ client.extraParams, RustForms.normalizeParamKey name ∉ m.grantReserved := by
  have hsent {form : Form} {grantReserved : List String} :
      ∃ r, client.doRequest lib form grantReserved visit = .ok r :=
    ⟨_, RustForms.doRequest_ok_iff.mpr ⟨hscheme, rfl⟩⟩
  cases m with
  | clientCredentials scope => exact ⟨fun _ => ⟨trivial, by simp [TokenMethod.grantReserved]⟩, fun _ => hsent⟩
  | exchangeCode code redirectUri codeVerifier =>
      simp only [TokenMethod.request, RustForms.exchangeCode_ok_iff, exists_and_left, hsent, and_true]
      exact ⟨fun h => ⟨h, by simp [TokenMethod.grantReserved]⟩, fun h => h.1⟩
  | tokenExchange request =>
      have hkeys : (RustForms.colliding visit).head? = none ↔
          ∀ name ∈ client.extraParams, RustForms.normalizeParamKey name ∉ RustForms.exchangeReservedParams := by
        simp only [RustForms.colliding_eq_none_iff, RustForms.mem_visited_keys]
      simp only [TokenMethod.request, RustForms.tokenExchange_ok_iff, exists_and_left, hsent, and_true, hkeys]
      exact Iff.rfl

theorem exists_ok_iff {ε α : Type} {result : Except ε α} :
    (∃ a, result = .ok a) ↔ ¬∃ e, result = .error e := by
  cases result <;> simp

/-- An actor is incomplete in Go where a request that names its subject is not valid in Rust. -/
theorem actorIncomplete_iff {request : TokenExchangeRequest} :
    (request.subjectToken = "" ∨ request.subjectTokenType = "" ∨
      GoToken.ActorIncomplete ((TokenMethod.tokenExchange request).goConfig client)) ↔
        ¬request.validate = .ok () := by
  have hactor : GoToken.ActorIncomplete ((TokenMethod.tokenExchange request).goConfig client) ↔
      request.actorToken.isSome = true ∧
        (request.actorToken.getD "" = "" ∨ request.actorTokenType.getD "" = "") := Iff.rfl
  rw [validate_ok_iff, hactor]
  cases request.actorToken with
  | none => simp only [Option.isSome_none, Option.mem_def]; grind
  | some token =>
      cases request.actorTokenType with
      | none => simp
      | some tokenType => simp only [Option.isSome_some, Option.getD_some, Option.mem_def]; grind

theorem go_ok_iff {lib : GoToken.Library} {first second : Visit (m.goConfig client).extraParams}
    (hgiven : m.Given) (hendpoint : GoToken.ValidEndpoint lib (m.goConfig client) client.tokenEndpoint) :
    (∃ g, (m.goGrant client).request lib (m.goConfig client) client.tokenEndpoint first second = .ok g) ↔
      m.Valid ∧ ∀ name ∈ client.extraParams, GoToken.normalizeParamKey lib name ∉ m.grantReserved := by
  have hsent {c : GoToken.Config} {clientID clientSecret : String} {form : Values}
      {grantReserved : List String} {visit : Visit c.extraParams}
      (h : GoToken.ValidEndpoint lib c client.tokenEndpoint) : ∃ g,
        GoToken.doTokenRequest lib c client.tokenEndpoint clientID clientSecret form grantReserved visit =
          .ok g := by
    rw [GoToken.doTokenRequest, GoToken.checkEndpoint_ok h]
    exact ⟨_, rfl⟩
  cases m with
  | clientCredentials scope =>
      exact ⟨fun _ => ⟨trivial, by simp [TokenMethod.grantReserved]⟩, fun _ => hsent hendpoint⟩
  | exchangeCode code redirectUri codeVerifier =>
      have hvalid : (codeVerifier.getD "" ≠ "" ∧ !GoToken.validCodeVerifier (codeVerifier.getD "")) ↔
          ¬∀ verifier ∈ codeVerifier, RustForms.validCodeVerifier verifier = true := by
        cases codeVerifier with
        | none => simp
        | some verifier =>
            have hne : verifier ≠ "" := fun heq => hgiven (congrArg some heq)
            simp [hne, validCodeVerifier_eq]
      have hrefused : ((TokenMethod.exchangeCode code redirectUri codeVerifier).goConfig client).codeVerifier =
          codeVerifier.getD "" := rfl
      simp only [TokenMethod.goGrant, GoToken.Grant.request, GoToken.authorizationCode, hrefused, hvalid]
      by_cases h : ∀ verifier ∈ codeVerifier, RustForms.validCodeVerifier verifier = true
      · rw [if_neg (not_not.mpr h)]
        exact ⟨fun _ => ⟨h, by simp [TokenMethod.grantReserved]⟩, fun _ => hsent hendpoint⟩
      · rw [if_pos h]
        constructor
        · intro hok
          obtain ⟨g, herror⟩ := hok
          cases herror
        · exact fun hboth => absurd hboth.1 h
  | tokenExchange request =>
      have hnames {name : String} : GoToken.normalizeParamKey lib name ∈ GoToken.exchangeReservedParams ↔
          GoToken.normalizeParamKey lib name ∈ RustForms.exchangeReservedParams :=
        @mem_goReserved client (.tokenExchange request) _
      have hrefused := @GoToken.tokenExchange_refused_iff lib
        ((TokenMethod.tokenExchange request).goConfig client) client.tokenEndpoint client.clientId
        (client.clientSecret.getD "") request.subjectToken request.subjectTokenType first second hendpoint
      have hextras : (∃ k ∈ ((TokenMethod.tokenExchange request).goConfig client).extraParams,
          GoToken.normalizeParamKey lib k ∈ GoToken.exchangeReservedParams) ↔
            ¬∀ name ∈ client.extraParams, GoToken.normalizeParamKey lib name ∉
              RustForms.exchangeReservedParams := by
        simp only [hnames, not_forall, not_not, exists_prop]
        exact Iff.rfl
      rw [exists_ok_iff, ← not_iff_not, not_not]
      refine hrefused.trans ?_
      rw [hextras, ← or_assoc, ← or_assoc, or_assoc (a := request.subjectToken = ""), actorIncomplete_iff,
        ← not_and_or]
      exact Iff.rfl

/-- Only Go reserves a name. -/
def OnlyGo (lib : GoToken.Library) (m : TokenMethod) (client : TokenClient) (name : String) : Prop :=
  (m.goGrant client).Reserves lib name ∧
    RustForms.normalizeParamKey name ∉ RustForms.reservedParams ++ m.grantReserved

/-- The endpoint and the credentials are the same, and so are the values of each name, but for an extra
parameter whose name only Go reserves: Rust sends it, and Go does not. -/
structure SameRequest (lib : GoToken.Library) (m : TokenMethod) (client : TokenClient)
    (r : RustForms.Request) (g : GoToken.Request) : Prop where
  endpoint : r.endpoint = g.endpoint
  credentials : r.authorization = g.basicAuth.map BasicCredentials.header
  same : ∀ name, ¬OnlyGo lib m client name → values id r.form name = g.values name
  dropped : ∀ name, OnlyGo lib m client name →
    values id r.form name = (client.extraParams.lookup name).toList ∧ g.values name = []

theorem rust_request_eq (m : TokenMethod) (client : TokenClient) (lib : RustForms.Library)
    (visit : Visit client.extraParams) (r : RustForms.Request) (h : m.request lib client visit = .ok r) :
    r.endpoint = client.tokenEndpoint ∧ r.authorization = client.authenticate.2 ∧ ∀ name,
      values id r.form name = if (m.call client).reads name ∈ (m.call client).reserved then
        values id (m.call client).own name else (client.extraParams.lookup name).toList := by
  cases m with
  | clientCredentials scope =>
      obtain ⟨rfl, -⟩ := @RustForms.request_ok lib (.clientCredentials client scope) visit r h
      exact ⟨rfl, rfl, @RustForms.values_sent (.clientCredentials client scope) trivial visit⟩
  | exchangeCode code redirectUri codeVerifier =>
      obtain ⟨rfl, -⟩ := @RustForms.request_ok lib
        (.exchangeCode client code redirectUri codeVerifier) visit r h
      exact ⟨rfl, rfl, @RustForms.values_sent (.exchangeCode client code redirectUri codeVerifier) trivial
        visit⟩
  | tokenExchange request =>
      obtain ⟨rfl, -⟩ := @RustForms.request_ok lib (.tokenExchange client request) visit r h
      exact ⟨rfl, rfl, @RustForms.values_sent (.tokenExchange client request) trivial visit⟩

/-- The credentials besides the form are those of Go. -/
theorem doTokenRequest_credentials {lib : GoToken.Library} {c : GoToken.Config} {form : Values}
    {grantReserved : List String} {visit : Visit c.extraParams} {g : GoToken.Request}
    (hmethod : c.authMethod = goAuth client.authMethod)
    (h : GoToken.doTokenRequest lib c client.tokenEndpoint client.clientId (client.clientSecret.getD "")
      form grantReserved visit = .ok g) :
    g.endpoint = client.tokenEndpoint ∧
      client.authenticate.2 = g.basicAuth.map BasicCredentials.header := by
  obtain ⟨-, -, rfl⟩ := Results.map_eq_ok.mp h
  refine ⟨rfl, ?_⟩
  rw [TokenClient.authenticate, GoToken.authenticate, hmethod]
  cases hsecret : client.clientSecret with
  | none => simp
  | some secret =>
      have hne : secret ≠ "" := fun heq => client.clientSecret_ne (heq ▸ hsecret)
      cases client.authMethod <;> simp [goAuth, hne, basicAuthHeader_eq]

theorem go_credentials {lib : GoToken.Library} {first second : Visit (m.goConfig client).extraParams}
    {g : GoToken.Request}
    (h : (m.goGrant client).request lib (m.goConfig client) client.tokenEndpoint first second = .ok g) :
    g.endpoint = client.tokenEndpoint ∧
      client.authenticate.2 = g.basicAuth.map BasicCredentials.header := by
  have hmethod := goConfig_authMethod m client
  cases m with
  | clientCredentials scope => exact doTokenRequest_credentials hmethod h
  | exchangeCode code redirectUri codeVerifier =>
      rw [TokenMethod.goGrant, GoToken.Grant.request, GoToken.authorizationCode] at h
      split at h
      · cases h
      · exact doTokenRequest_credentials hmethod h
  | tokenExchange request =>
      rw [TokenMethod.goGrant, GoToken.Grant.request, GoToken.tokenExchange] at h
      split_ifs at h
      split at h
      · cases h
      · split at h
        · cases h
        · exact doTokenRequest_credentials hmethod h

theorem sameRequest {rust : RustForms.Library} {go : GoToken.Library} {visit : Visit client.extraParams}
    {first second : Visit (m.goConfig client).extraParams} {r : RustForms.Request} {g : GoToken.Request}
    (hvalid : m.Valid) (hr : m.request rust client visit = .ok r)
    (hg : (m.goGrant client).request go (m.goConfig client) client.tokenEndpoint first second = .ok g) :
    SameRequest go m client r g := by
  obtain ⟨hendpoint, hauth, hvalues⟩ := rust_request_eq m client rust visit r hr
  obtain ⟨hgoEndpoint, hgoAuth⟩ := go_credentials hg
  have hown (name : String) : values id (m.call client).own name =
      (m.goGrant client).ownValues (m.goConfig client) name := by
    rw [own_expand hvalid, values_expand]
    · rfl
    · rw [GoToken.ownFields_names]
      exact ownNames_nodup _
  refine ⟨hendpoint.trans hgoEndpoint.symm, hauth.trans hgoAuth, ?_, ?_⟩
  · intro name hname
    rw [hvalues, go_values hg, reads_eq, reserved_eq, goConfig_extraParams, hown]
    by_cases hrust : RustForms.normalizeParamKey name ∈ RustForms.reservedParams ++ m.grantReserved
    · rw [if_pos hrust, if_pos (reserves_of_reserved hrust)]
    · rw [if_neg hrust, if_neg fun hreserves => hname ⟨hreserves, hrust⟩]
  · rintro name ⟨hreserves, hrust⟩
    rw [hvalues, go_values hg, reads_eq, reserved_eq, if_neg hrust, if_pos hreserves]
    refine ⟨rfl, ?_⟩
    rw [← hown]
    apply RustForms.values_eq_nil
    rintro field hfield rfl
    have hmem := RustForms.own_reserved field hfield
    have hreads := RustForms.reads_reserved hmem
    rw [reads_eq] at hreads
    rw [reserved_eq, ← hreads] at hmem
    exact hrust hmem

/-- The three grants make the same request in both languages. What Go sends, Rust sends, and Rust sends
nothing that Go refuses but an exchange with an extra parameter that only Go takes for one of its own. -/
theorem token_requests_agree (rust : RustForms.Library) (go : GoToken.Library) (client : TokenClient)
    (m : TokenMethod) (visit : Visit client.extraParams)
    (first second : Visit (m.goConfig client).extraParams) (hgiven : m.Given)
    (hscheme : RustHttp.schemeOk client.allowHttp client.tokenEndpoint.toList = true)
    (hendpoint : GoToken.ValidEndpoint go (m.goConfig client) client.tokenEndpoint) :
    (∀ g, (m.goGrant client).request go (m.goConfig client) client.tokenEndpoint first second = .ok g →
      ∃ r, m.request rust client visit = .ok r ∧ SameRequest go m client r g) ∧
    ∀ r, m.request rust client visit = .ok r →
      (∃ g, (m.goGrant client).request go (m.goConfig client) client.tokenEndpoint first second = .ok g ∧
        SameRequest go m client r g) ∨
      ∃ name ∈ client.extraParams, GoToken.normalizeParamKey go name ∈ m.grantReserved ∧
        RustForms.normalizeParamKey name ∉ m.grantReserved := by
  have hrustOk := @rust_ok_iff client m rust visit hscheme
  have hgoOk := @go_ok_iff client m go first second hgiven hendpoint
  constructor
  · intro g hg
    obtain ⟨hvalid, hfree⟩ := hgoOk.mp ⟨g, hg⟩
    have hrustFree : ∀ name ∈ client.extraParams, RustForms.normalizeParamKey name ∉ m.grantReserved := by
      intro name hname hmem
      have hsame := @goNormalize_of_reserved m go name (List.mem_append_right _ hmem)
      exact hfree name hname (hsame ▸ hmem)
    obtain ⟨r, hr⟩ := hrustOk.mpr ⟨hvalid, hrustFree⟩
    exact ⟨r, hr, sameRequest hvalid hr hg⟩
  · intro r hr
    obtain ⟨hvalid, hfree⟩ := hrustOk.mp ⟨r, hr⟩
    by_cases hclash : ∃ name ∈ client.extraParams, GoToken.normalizeParamKey go name ∈ m.grantReserved
    · obtain ⟨name, hname, hmem⟩ := hclash
      exact .inr ⟨name, hname, hmem, hfree name hname⟩
    · obtain ⟨g, hg⟩ := hgoOk.mpr ⟨hvalid, fun name hname hmem => hclash ⟨name, hname, hmem⟩⟩
      exact .inl ⟨g, hg, sameRequest hvalid hr hg⟩

/-- The Rust client may send an assertion as an extra parameter, the Go client does not. -/
example : OnlyGo RustForms.asciiLibrary (.clientCredentials none) RustForms.sampleClient
    "client_assertion" := ⟨by decide, by decide⟩

theorem token_requests_agree_exchange :
    ∃ g, ((TokenMethod.tokenExchange RustForms.sampleRequest).goGrant RustForms.sampleClient).request
        RustForms.asciiLibrary ((TokenMethod.tokenExchange RustForms.sampleRequest).goConfig
          RustForms.sampleClient) "https://as/token" (.stored _) (.stored _) = .ok g ∧
      SameRequest RustForms.asciiLibrary (.tokenExchange RustForms.sampleRequest) RustForms.sampleClient
        RustForms.sampleSent g := by
  obtain ⟨-, hrust⟩ := token_requests_agree RustForms.sampleLibrary RustForms.asciiLibrary
    RustForms.sampleClient (.tokenExchange RustForms.sampleRequest) RustForms.sampleVisit (.stored _)
    (.stored _) trivial (by decide) (.inl rfl)
  obtain hsame | ⟨name, -, hgo, hfree⟩ := hrust RustForms.sampleSent RustForms.sampleSent_ok
  · exact hsame
  · exact absurd hgo (RustForms.normalizeParamKey_eq name ▸ hfree)

end Tokens

section Protected

variable {client : ProtectedClient} {token : String} {hint : Option String}

/-- The options of the same call in Go. -/
def protectedConfig (client : ProtectedClient) (hint : Option String) : GoForms.Config :=
  { authMethod := goAuth client.authMethod
    tokenTypeHint := hint.getD ""
    extraParams := client.extraParams
    allowHTTP := client.allowHttp }

/-- The endpoint and the credentials are the same. -/
structure SameEnvelope (r : RustForms.Request) (g : GoToken.Request) : Prop where
  endpoint : r.endpoint = g.endpoint
  credentials : r.authorization = g.basicAuth.map BasicCredentials.header

/-- A name that Rust leaves out of a revocation: it reads as a reserved one, or another one is there that
differs in case and space only. -/
def LeftOut (r : RustForms.Request) (name : String) : Prop :=
  name ∉ RustForms.tokenParams ∧ values id r.form name = [] ∧
    (RustForms.normalizeParamKey name ∈ RustForms.tokenParams ∨
      ∃ field ∈ r.form, field.1 ≠ name ∧
        RustForms.folded field.1 = (RustForms.normalizeParamKey name).toList)

/-- What the Rust clients write themselves are the rows of Go. -/
theorem protected_own (client : ProtectedClient) (token : String) (hint : Option String) :
    ProtectedClient.tokenForm token hint ++ client.authenticate.1 =
      expand (GoForms.ownFields (protectedConfig client hint) client.clientId client.clientSecret token) := by
  obtain ⟨endpoint, clientId, clientSecret, method, extras, allowHttp, hid, hsecret⟩ := client
  cases hint with
  | none =>
      cases method <;>
        simp [expand, goAuth, GoForms.ownFields, protectedConfig, ProtectedClient.tokenForm,
          ProtectedClient.authenticate]
  | some h =>
      by_cases hh : h = "" <;> cases method <;>
        simp [expand, goAuth, GoForms.ownFields, protectedConfig, ProtectedClient.tokenForm,
          ProtectedClient.authenticate, Option.filter, hh]

theorem send_eq {what rfc : String} (client : ProtectedClient) (token : String) (hint : Option String)
    (visit : Visit client.extraParams) : ∃ g, GoForms.send (protectedConfig client hint) what rfc
        client.endpoint client.clientId client.clientSecret token visit = .ok g ∧
      g.endpoint = client.endpoint ∧ client.authenticate.2 = g.basicAuth.map BasicCredentials.header := by
  have hfull : ¬(client.clientId = "" ∨ client.clientSecret = "") :=
    not_or.mpr ⟨client.clientId_ne, client.clientSecret_ne⟩
  refine ⟨_, if_neg hfull, rfl, ?_⟩
  obtain ⟨endpoint, clientId, clientSecret, method, extras, allowHttp, hid, hsecret⟩ := client
  cases method <;>
    simp [ProtectedClient.authenticate, GoForms.authenticate, protectedConfig, goAuth, basicAuthHeader_eq]

theorem go_protected_values {what rfc : String} {visit : Visit client.extraParams} {g : GoToken.Request}
    (h : GoForms.send (protectedConfig client hint) what rfc client.endpoint client.clientId
      client.clientSecret token visit = .ok g) (name : String) :
    g.values name = if name ∈ RustForms.tokenParams then
        values id (ProtectedClient.tokenForm token hint ++ client.authenticate.1) name
      else (client.extraParams.lookup name).toList := by
  have hnodup : ((GoForms.ownFields (protectedConfig client hint) client.clientId client.clientSecret
      token).map Prod.fst).Nodup := by
    have hnames : (GoForms.ownFields (protectedConfig client hint) client.clientId client.clientSecret
        token).map Prod.fst = RustForms.tokenParams := rfl
    rw [hnames]
    decide
  rw [GoForms.values_send h, protected_own, values_expand hnodup]
  rfl

/-- A revocation holds under each name what it should, or leaves the name out. -/
theorem revocation_values (visit : Visit client.extraParams) (name : String) :
    (values id ((Call.revoke client token hint).sent visit).form name =
      if name ∈ RustForms.tokenParams then values id (Call.revoke client token hint).own name
      else (client.extraParams.lookup name).toList) ∨
    LeftOut ((Call.revoke client token hint).sent visit) name := by
  obtain ⟨added, hsub, hfree, hform⟩ := @RustForms.sent_form (.revoke client token hint) visit
  have hkept := (RustForms.sent_unjoined client token hint visit).kept
  have hadded : (values id added name).Sublist (client.extraParams.lookup name).toList := by
    have hall := RustForms.values_visited visit (fun _ => true) name
    rw [List.filter_true] at hall
    have hlookup : (client.extraParams.lookup name).filter (fun _ => true) = client.extraParams.lookup name := by
      cases client.extraParams.lookup name <;> rfl
    rw [hlookup] at hall
    exact hall ▸ (hsub.filter _).map _
  by_cases hname : name ∈ RustForms.tokenParams
  · have hnone : values id added name = [] := by
      apply RustForms.values_eq_nil
      rintro field hfield rfl
      have hreads : RustForms.normalizeParamKey field.1 = field.1 :=
        @RustForms.reads_reserved (.revoke client token hint) _ hname
      have hreserved : RustForms.normalizeParamKey field.1 ∈ RustForms.tokenParams := by
        rw [hreads]
        exact hname
      exact hfree field hfield hreserved
    rw [if_pos hname, hform, RustForms.values_append, hnone, List.append_nil]
    exact .inl rfl
  · have hown : values id (Call.revoke client token hint).own name = [] := by
      apply RustForms.values_eq_nil
      rintro field hfield rfl
      exact hname (@RustForms.own_reserved (.revoke client token hint) field hfield)
    rw [if_neg hname, LeftOut, hform, RustForms.values_append, hown, List.nil_append]
    cases hextra : client.extraParams.lookup name with
    | none =>
        rw [hextra] at hadded
        exact .inl (List.sublist_nil.mp hadded)
    | some value =>
        rw [hextra] at hadded
        obtain hnone | hsome := List.sublist_singleton.mp hadded
        · have hmissing (held : String) : (name, held) ∉ added := by
            intro hmem
            have hvalue : held ∈ values id added name :=
              List.mem_map.mpr ⟨_, List.mem_filter.mpr ⟨hmem, decide_eq_true rfl⟩, rfl⟩
            rw [hnone] at hvalue
            cases hvalue
          refine .inr ⟨hname, hnone, ?_⟩
          by_cases hnormal : RustForms.normalizeParamKey name ∈ RustForms.tokenParams
          · exact .inl hnormal
          · obtain hmem | ⟨field, hfield, hfolded⟩ := hkept name value hextra hnormal
            · rw [hform] at hmem
              obtain hmem | hmem := List.mem_append.mp hmem
              · exact absurd (@RustForms.own_reserved (.revoke client token hint) _ hmem) hname
              · exact absurd hmem (hmissing value)
            · rw [hform] at hfield
              refine .inr ⟨field, hfield, ?_, hfolded⟩
              rintro rfl
              obtain hmem | hmem := List.mem_append.mp hfield
              · exact hname (@RustForms.own_reserved (.revoke client token hint) _ hmem)
              · exact hmissing _ hmem
        · exact .inl hsome

theorem go_introspect_eq {lib : GoForms.Library} {c : GoForms.Config}
    {endpoint clientID clientSecret token : String} {visit : Visit c.extraParams}
    (h : GoForms.ValidEndpoint lib c endpoint) :
    GoForms.introspect lib c endpoint clientID clientSecret token visit =
      GoForms.send c "introspection" "RFC 7662" endpoint clientID clientSecret token visit := by
  rw [GoForms.introspect, GoForms.checkEndpoint_ok h]

theorem go_revoke_eq {lib : GoForms.Library} {c : GoForms.Config}
    {endpoint clientID clientSecret token : String} {visit : Visit c.extraParams}
    (h : GoForms.ValidEndpoint lib c endpoint) (htoken : token ≠ "") :
    GoForms.revoke lib c endpoint clientID clientSecret token visit =
      GoForms.send c "revocation" "RFC 7009" endpoint clientID clientSecret token visit := by
  rw [GoForms.revoke, GoForms.checkEndpoint_ok h]
  exact if_neg htoken

/-- Both languages introspect with the same request. A revocation differs only in extra parameters that
Rust leaves out, since a server may read them as others, and neither language revokes an empty token. -/
theorem protected_requests_agree (rust : RustForms.Library) (go : GoForms.Library)
    (client : ProtectedClient) (token : String) (hint : Option String)
    (visit : Visit client.extraParams) (goVisit : Visit (protectedConfig client hint).extraParams)
    (hscheme : RustHttp.schemeOk client.allowHttp client.endpoint.toList = true)
    (hendpoint : GoForms.ValidEndpoint go (protectedConfig client hint) client.endpoint) :
    (∃ r g, client.introspect rust token hint visit = .ok r ∧
      GoForms.introspect go (protectedConfig client hint) client.endpoint client.clientId
        client.clientSecret token goVisit = .ok g ∧
      SameEnvelope r g ∧ ∀ name, values id r.form name = g.values name) ∧
    (token ≠ "" → ∃ r g, client.revoke rust token hint visit = .ok r ∧
      GoForms.revoke go (protectedConfig client hint) client.endpoint client.clientId
        client.clientSecret token goVisit = .ok g ∧
      SameEnvelope r g ∧ ∀ name, values id r.form name = g.values name ∨ LeftOut r name) ∧
    (token = "" → (∃ e, client.revoke rust token hint visit = .error e) ∧
      ∃ e, GoForms.revoke go (protectedConfig client hint) client.endpoint client.clientId
        client.clientSecret token goVisit = .error e) := by
  refine ⟨?_, ?_, ?_⟩
  · obtain ⟨g, hg, hgoEndpoint, hgoAuth⟩ := send_eq client token hint goVisit
    refine ⟨(Call.introspect client token hint).sent visit, g,
      RustForms.checkScheme_ok_iff.mpr ⟨hscheme, rfl⟩, (go_introspect_eq hendpoint).trans hg,
      ⟨hgoEndpoint.symm, hgoAuth⟩, ?_⟩
    intro name
    have hsent := @RustForms.values_sent (.introspect client token hint) trivial visit name
    exact hsent.trans (go_protected_values hg name).symm
  · intro htoken
    obtain ⟨g, hg, hgoEndpoint, hgoAuth⟩ := send_eq client token hint goVisit
    refine ⟨(Call.revoke client token hint).sent visit, g,
      RustForms.revoke_ok_iff.mpr ⟨htoken, hscheme, rfl⟩, (go_revoke_eq hendpoint htoken).trans hg,
      ⟨hgoEndpoint.symm, hgoAuth⟩, ?_⟩
    intro name
    rw [go_protected_values hg]
    exact revocation_values visit name
  · intro htoken
    refine ⟨⟨_, if_pos htoken⟩, ?_⟩
    rw [GoForms.revoke, GoForms.checkEndpoint_ok hendpoint]
    exact ⟨_, if_pos htoken⟩

/-- Every URL is one of the sample server. -/
def sampleGo : GoForms.Library := ⟨fun _ => .ok ("https", "as"), id⟩

theorem protected_requests_agree_case :
    ∃ r g, RustForms.sampleRevoker.revoke RustForms.sampleLibrary "opaque" none RustForms.sampleForward =
        .ok r ∧
      GoForms.revoke sampleGo (protectedConfig RustForms.sampleRevoker none) "https://as/revoke" "c" "s"
        "opaque" (.stored _) = .ok g ∧
      SameEnvelope r g ∧ ∀ name, values id r.form name = g.values name ∨ LeftOut r name := by
  have hendpoint : GoForms.ValidEndpoint sampleGo (protectedConfig RustForms.sampleRevoker none)
      "https://as/revoke" := ⟨"https", "as", rfl, by decide, .inl rfl⟩
  obtain ⟨-, hrevoked, -⟩ := protected_requests_agree RustForms.sampleLibrary sampleGo
    RustForms.sampleRevoker "opaque" none RustForms.sampleForward (.stored _) (by decide) hendpoint
  exact hrevoked (by decide)

end Protected

end IdentityModel.FormsParity
