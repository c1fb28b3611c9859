import IdentityModel.RustForms
import IdentityModel.RustValidate

/-!
# The guards of the forms

What a server finds in the forms of the Rust clients. A server may read names as they stand, or fold
their case and trim them; under a name that a client reserves it finds what the client itself put there,
whatever the extra parameters are and whatever order they are visited in.
-/
namespace IdentityModel.RustForms

open Gathering
open GoToken (Visit)
open RustJwks (trim toAsciiLowercase isWhitespace)

/-- The values found under a name, where names are read in some way. -/
def values (read : String → String) (form : Form) (name : String) : List String :=
  (form.filter fun field => read field.1 = name).map Prod.snd

namespace Call

/-- The names a call reserves. -/
def reserved : Call → List String
  | .clientCredentials _ _ | .exchangeCode _ _ _ _ => reservedParams
  | .tokenExchange _ _ => reservedParams ++ exchangeReservedParams
  | .introspect _ _ _ | .revoke _ _ _ => tokenParams

/-- How a call reads the name of an extra parameter. -/
def reads : Call → String → String
  | .introspect _ _ _, name => name
  | _, name => normalizeParamKey name

/-- What a call itself writes. -/
def own : Call → Form
  | .clientCredentials client scope => TokenClient.credentialsForm scope ++ client.authenticate.1
  | .exchangeCode client code redirectUri codeVerifier =>
      TokenClient.codeForm code redirectUri codeVerifier ++ client.authenticate.1
  | .tokenExchange client request => request.form ++ client.authenticate.1
  | .introspect client token hint | .revoke client token hint =>
      ProtectedClient.tokenForm token hint ++ client.authenticate.1

def skips : Call → Form → String → Bool
  | .clientCredentials _ _ | .exchangeCode _ _ _ _ => tokenSkips []
  | .tokenExchange _ _ => tokenSkips exchangeReservedParams
  | .introspect _ _ _ => ProtectedClient.introspectionSkips
  | .revoke _ _ _ => ProtectedClient.revocationSkips

/-- The names of the extras are compared as they stand with those in the form. -/
def Exact : Call → Prop
  | .revoke _ _ _ => False
  | _ => True

def endpoint : Call → String
  | .clientCredentials client _ | .exchangeCode client _ _ _ | .tokenExchange client _ =>
      client.tokenEndpoint
  | .introspect client _ _ | .revoke client _ _ => client.endpoint

def authorization : Call → Option (List Char)
  | .clientCredentials client _ | .exchangeCode client _ _ _ | .tokenExchange client _ =>
      client.authenticate.2
  | .introspect client _ _ | .revoke client _ _ => client.authenticate.2

/-- What a call sends when nothing is wrong. -/
def sent (call : Call) (visit : Visit call.extraParams) : Request :=
  { endpoint := call.endpoint
    form := addExtras call.skips call.own (visited visit)
    authorization := call.authorization }

end Call

/-- Under reserved names stand the call's own values and nothing else, and the names of the rest are
not reserved; any other extra parameter stands once, where names are compared as they stand. -/
structure Guarded (call : Call) (form : Form) : Prop where
  own : ∀ name ∈ call.reserved, values call.reads form name = values id call.own name
  spelled : ∀ field ∈ form, call.reads field.1 ∈ call.reserved → call.reads field.1 = field.1
  extra : call.Exact → ∀ name value, call.extraParams.lookup name = some value →
    call.reads name ∉ call.reserved → values id form name = [value]

section Names

/-- A Go library that folds ASCII only. -/
def asciiLibrary : GoToken.Library := ⟨id, fun _ => .ok "https", id⟩

theorem toAsciiLowercase_eq (c : Char) : toAsciiLowercase c = GoToken.lower asciiLibrary c := by
  unfold GoToken.lower
  split
  · rfl
  · rename_i hwide
    unfold toAsciiLowercase
    rw [if_neg]
    · rfl
    · rintro ⟨-, hupper⟩
      have hupper' : c.toNat ≤ 'Z'.toNat := hupper
      have hZ : 'Z'.toNat = 90 := rfl
      omega

/-- The names are read as in Go, as far as ASCII goes. -/
theorem normalizeParamKey_eq (key : String) :
    normalizeParamKey key = GoToken.normalizeParamKey asciiLibrary key := by
  have hmap := List.map_congr_left fun c (_ : c ∈ (trim key).toList) => toAsciiLowercase_eq c
  exact congrArg String.ofList hmap

theorem normalize_of_reserved {name : String}
    (h : name ∈ GoToken.reservedParams ++ GoToken.exchangeReservedParams) :
    normalizeParamKey name = name := by
  rw [normalizeParamKey_eq]
  exact GoToken.normalize_reserved h

theorem tokenParams_plain : ∀ name ∈ tokenParams, ∀ c ∈ name.toList, GoToken.isPlain c = true := by
  have hall : (tokenParams.all fun name => name.toList.all GoToken.isPlain) = true := by rfl
  simpa [List.all_eq_true] using hall

theorem reserved_subset : ∀ name ∈ reservedParams ++ exchangeReservedParams,
    name ∈ GoToken.reservedParams ++ GoToken.exchangeReservedParams := by
  decide

/-- A reserved name is read as it stands. -/
theorem reads_reserved {call : Call} {name : String} (h : name ∈ call.reserved) : call.reads name = name := by
  have htoken (hname : name ∈ reservedParams ++ exchangeReservedParams) : normalizeParamKey name = name :=
    normalize_of_reserved (reserved_subset name hname)
  cases call with
  | clientCredentials client scope => exact htoken (List.mem_append_left _ h)
  | exchangeCode client code redirectUri codeVerifier => exact htoken (List.mem_append_left _ h)
  | tokenExchange client request => exact htoken h
  | introspect client token hint => rfl
  | revoke client token hint =>
      have hplain := @GoToken.normalize_of_plain asciiLibrary _ (tokenParams_plain name h)
      exact (normalizeParamKey_eq name).trans hplain

/-- What holds of each upper-case letter and its fold, and of what folds to itself. -/
theorem fold_cases {p : Char → Char → Bool}
    (hletters : ((List.range 26).all fun k => p (Char.ofNat (65 + k)) (Char.ofNat (65 + k + 32))) = true)
    (hother : ∀ c, toAsciiLowercase c = c → p c c = true) (c : Char) : p c (toAsciiLowercase c) = true := by
  by_cases hupper : 'A' ≤ c ∧ c ≤ 'Z'
  · have hlow : 65 ≤ c.toNat := hupper.1
    have hhigh : c.toNat ≤ 90 := hupper.2
    have hmem : c.toNat - 65 ∈ List.range 26 := List.mem_range.mpr (by omega)
    have hletter := List.all_eq_true.mp hletters _ hmem
    rw [Nat.add_sub_cancel' hlow, Char.ofNat_toNat] at hletter
    rwa [toAsciiLowercase, if_pos hupper]
  · have hsame : toAsciiLowercase c = c := if_neg hupper
    rw [hsame]
    exact hother c hsame

theorem isWhitespace_toAsciiLowercase (c : Char) : isWhitespace (toAsciiLowercase c) = isWhitespace c :=
  of_decide_eq_true (fold_cases (p := fun c d => isWhitespace d = isWhitespace c) (by decide)
    (fun _ _ => decide_eq_true rfl) c)

theorem toAsciiLowercase_twice (c : Char) : toAsciiLowercase (toAsciiLowercase c) = toAsciiLowercase c :=
  of_decide_eq_true (fold_cases (p := fun _ d => toAsciiLowercase d = d) (by decide)
    (fun _ hsame => decide_eq_true hsame) c)

/-- Folding and trimming may change places. -/
theorem trim_fold (name : String) :
    trim (String.ofList (name.toList.map toAsciiLowercase)) = normalizeParamKey name := by
  have hwhitespace : isWhitespace ∘ toAsciiLowercase = isWhitespace := funext isWhitespace_toAsciiLowercase
  rw [normalizeParamKey, trim, trim, String.toList_ofList, String.toList_ofList, List.dropWhile_map,
    hwhitespace, ← List.map_reverse, List.dropWhile_map, hwhitespace, ← List.map_reverse]

/-- Trimming what has been trimmed and folded changes nothing. -/
theorem trim_normalizeParamKey (key : String) : trim (normalizeParamKey key) = normalizeParamKey key := by
  have htwice : trim (trim key) = trim key := RustValidate.trimSpace_trimSpace key
  rw [normalizeParamKey, trim_fold, normalizeParamKey, htwice]

theorem eqIgnoreAsciiCase_iff {a b : String} :
    eqIgnoreAsciiCase a b = true ↔ a.toList.map toAsciiLowercase = b.toList.map toAsciiLowercase :=
  decide_eq_true_iff

end Names

section Sent

variable {lib : Library} {call : Call}

theorem visited_keys {extras : Dict String String} (visit : Visit extras) :
    ((visited visit).map Prod.fst).Nodup := by
  have hkeys : (visited visit).map Prod.fst = visit.val.keys := by
    rw [visited, List.map_map]
    rfl
  rw [hkeys]
  exact (List.perm_nodupKeys visit.property).mpr extras.nodupKeys

theorem visited_perm {extras : Dict String String} (visit visit' : Visit extras) :
    (visited visit).Perm (visited visit') :=
  (visit.property.trans visit'.property.symm).map _

theorem mem_visited {extras : Dict String String} (visit : Visit extras) {name value : String} :
    (name, value) ∈ visited visit ↔ extras.lookup name = some value := by
  have hentry : (⟨name, value⟩ : Sigma fun _ : String => String) ∈ visit.val ↔
      extras.lookup name = some value :=
    visit.property.mem_iff.trans AList.mem_lookup_iff.symm
  rw [← hentry, visited, List.mem_map]
  constructor
  · rintro ⟨⟨key, held⟩, hmem, heq⟩
    cases heq
    exact hmem
  · exact fun hmem => ⟨_, hmem, rfl⟩

theorem mem_visited_keys {extras : Dict String String} (visit : Visit extras) {name : String} :
    name ∈ (visited visit).map Prod.fst ↔ name ∈ extras := by
  have hkeys : (visited visit).map Prod.fst = visit.val.keys := by
    rw [visited, List.map_map]
    rfl
  rw [hkeys]
  exact (visit.property.map Sigma.fst).mem_iff

theorem colliding_visit {extras : Dict String String} (visit visit' : Visit extras) :
    colliding visit = colliding visit' := by
  apply List.Perm.eq_of_pairwise' (r := (· ≤ ·))
  · exact List.pairwise_mergeSort' _ _
  · exact List.pairwise_mergeSort' _ _
  · have hkeys := ((visited_perm visit visit').map Prod.fst).filter fun key =>
      normalizeParamKey key ∈ exchangeReservedParams
    exact ((List.mergeSort_perm _ _).trans hkeys).trans (List.mergeSort_perm _ _).symm

theorem colliding_eq_none_iff {extras : Dict String String} {visit : Visit extras} :
    (colliding visit).head? = none ↔
      ∀ name ∈ (visited visit).map Prod.fst, normalizeParamKey name ∉ exchangeReservedParams := by
  rw [colliding, List.head?_eq_none_iff, ← List.length_eq_zero_iff, List.length_mergeSort,
    List.length_eq_zero_iff, List.filter_eq_nil_iff]
  simp

theorem doRequest_ok_iff {client : TokenClient} {form : Form} {grantReserved : List String}
    {visit : Visit client.extraParams} {r : Request} :
    client.doRequest lib form grantReserved visit = .ok r ↔
      RustHttp.schemeOk client.allowHttp client.tokenEndpoint.toList = true ∧
        r = ⟨client.tokenEndpoint, addExtras (tokenSkips grantReserved) (form ++ client.authenticate.1)
          (visited visit), client.authenticate.2⟩ := by
  unfold TokenClient.doRequest
  cases RustHttp.schemeOk client.allowHttp client.tokenEndpoint.toList with
  | false => simp
  | true => simp [eq_comm]

theorem checkScheme_ok_iff {client : ProtectedClient} {what : String} {send r : Request} :
    ((client.checkScheme lib what).map fun _ => send) = .ok r ↔
      RustHttp.schemeOk client.allowHttp client.endpoint.toList = true ∧ r = send := by
  unfold ProtectedClient.checkScheme
  cases RustHttp.schemeOk client.allowHttp client.endpoint.toList with
  | false => simp [Except.map]
  | true => simp [Except.map, eq_comm]

theorem tokenExchange_ok_iff {client : TokenClient} {request : TokenExchangeRequest}
    {visit : Visit client.extraParams} {r : Request} :
    client.tokenExchange lib request visit = .ok r ↔ request.validate = .ok () ∧
      (colliding visit).head? = none ∧
      client.doRequest lib request.form exchangeReservedParams visit = .ok r := by
  unfold TokenClient.tokenExchange
  cases request.validate with
  | error e => simp
  | ok _ =>
      cases (colliding visit).head? with
      | none => simp
      | some key => simp

theorem exchangeCode_ok_iff {client : TokenClient} {code redirectUri : String}
    {codeVerifier : Option String} {visit : Visit client.extraParams} {r : Request} :
    client.exchangeCode lib code redirectUri codeVerifier visit = .ok r ↔
      (∀ verifier ∈ codeVerifier, validCodeVerifier verifier = true) ∧
        client.doRequest lib (TokenClient.codeForm code redirectUri codeVerifier) [] visit = .ok r := by
  unfold TokenClient.exchangeCode
  cases codeVerifier with
  | none => simp
  | some verifier => cases hvalid : validCodeVerifier verifier <;> simp [hvalid]

theorem revoke_ok_iff {client : ProtectedClient} {token : String} {hint : Option String}
    {visit : Visit client.extraParams} {r : Request} :
    client.revoke lib token hint visit = .ok r ↔ token ≠ "" ∧
      RustHttp.schemeOk client.allowHttp client.endpoint.toList = true ∧
        r = client.send ProtectedClient.revocationSkips token hint visit := by
  unfold ProtectedClient.revoke
  by_cases hempty : token = ""
  · simp [hempty]
  · rw [if_neg hempty, checkScheme_ok_iff]
    simp [hempty]

/-- A request is what the call sends, and other visits would have sent theirs. -/
theorem request_ok {visit : Visit call.extraParams} {r : Request} (h : call.request lib visit = .ok r) :
    r = call.sent visit ∧ ∀ visit', call.request lib visit' = .ok (call.sent visit') := by
  cases call with
  | clientCredentials client scope =>
      obtain ⟨hscheme, rfl⟩ := doRequest_ok_iff.mp h
      exact ⟨rfl, fun visit' => doRequest_ok_iff.mpr ⟨hscheme, rfl⟩⟩
  | exchangeCode client code redirectUri codeVerifier =>
      obtain ⟨hvalid, hsent⟩ := exchangeCode_ok_iff.mp h
      obtain ⟨hscheme, rfl⟩ := doRequest_ok_iff.mp hsent
      exact ⟨rfl, fun visit' => exchangeCode_ok_iff.mpr ⟨hvalid, doRequest_ok_iff.mpr ⟨hscheme, rfl⟩⟩⟩
  | tokenExchange client request =>
      obtain ⟨hvalid, hnone, hsent⟩ := tokenExchange_ok_iff.mp h
      obtain ⟨hscheme, rfl⟩ := doRequest_ok_iff.mp hsent
      refine ⟨rfl, fun visit' => tokenExchange_ok_iff.mpr ⟨hvalid, ?_, ?_⟩⟩
      · rw [← hnone]
        exact congrArg List.head? (colliding_visit visit' visit)
      · exact doRequest_ok_iff.mpr ⟨hscheme, rfl⟩
  | introspect client token hint =>
      obtain ⟨hscheme, rfl⟩ := checkScheme_ok_iff.mp h
      exact ⟨rfl, fun visit' => checkScheme_ok_iff.mpr ⟨hscheme, rfl⟩⟩
  | revoke client token hint =>
      obtain ⟨htoken, hscheme, rfl⟩ := revoke_ok_iff.mp h
      exact ⟨rfl, fun visit' => revoke_ok_iff.mpr ⟨htoken, hscheme, rfl⟩⟩

/-- The names a call writes itself are reserved. -/
theorem own_reserved : ∀ field ∈ call.own, field.1 ∈ call.reserved := by
  intro field hfield
  have hcredentials (client : TokenClient) (hmem : field ∈ client.authenticate.1) :
      field.1 ∈ reservedParams := by
    simp only [TokenClient.authenticate] at hmem
    split at hmem
    · split at hmem
      · obtain rfl := List.mem_singleton.mp hmem
        simp [reservedParams]
      · cases hmem
    · split at hmem
      · simp only [List.mem_cons, List.not_mem_nil, or_false] at hmem
        obtain rfl | rfl := hmem <;> simp [reservedParams]
      · cases hmem
  have hprotected (client : ProtectedClient) (token : String) (hint : Option String)
      (hmem : field ∈ ProtectedClient.tokenForm token hint ++ client.authenticate.1) :
      field.1 ∈ tokenParams := by
    simp only [ProtectedClient.authenticate, ProtectedClient.tokenForm, List.mem_append, List.mem_cons,
      List.mem_map] at hmem
    obtain (rfl | ⟨hint, -, rfl⟩) | hmem := hmem
    · simp [tokenParams]
    · simp [tokenParams]
    · split at hmem
      · simp only [List.mem_cons, List.not_mem_nil, or_false] at hmem
        obtain rfl | rfl := hmem <;> simp [tokenParams]
      · cases hmem
  cases call with
  | clientCredentials client scope =>
      obtain hform | hmem := List.mem_append.mp hfield
      · simp only [TokenClient.credentialsForm, List.mem_cons, List.mem_map] at hform
        obtain rfl | ⟨s, -, rfl⟩ := hform <;> simp [Call.reserved, reservedParams]
      · exact hcredentials client hmem
  | exchangeCode client code redirectUri codeVerifier =>
      obtain hform | hmem := List.mem_append.mp hfield
      · simp only [TokenClient.codeForm, List.mem_append, List.mem_cons, List.not_mem_nil, or_false,
          List.mem_map] at hform
        obtain ((rfl | rfl) | hredirect) | ⟨verifier, -, rfl⟩ := hform
        · simp [Call.reserved, reservedParams]
        · simp [Call.reserved, reservedParams]
        · split at hredirect
          · obtain rfl := List.mem_singleton.mp hredirect
            simp [Call.reserved, reservedParams]
          · cases hredirect
        · simp [Call.reserved, reservedParams]
      · exact hcredentials client hmem
  | tokenExchange client request =>
      obtain hform | hmem := List.mem_append.mp hfield
      · simp only [TokenExchangeRequest.form, List.mem_append, List.mem_cons, List.not_mem_nil, or_false,
          List.mem_map] at hform
        obtain (((((rfl | rfl | rfl) | hactor) | ⟨t, -, rfl⟩) | ⟨s, -, rfl⟩) | ⟨s, -, rfl⟩) | ⟨s, -, rfl⟩ :=
          hform
        · simp [Call.reserved, reservedParams]
        · simp [Call.reserved, reservedParams]
        · simp [Call.reserved, reservedParams]
        · split at hactor
          · simp only [List.mem_cons, List.not_mem_nil, or_false] at hactor
            obtain rfl | rfl := hactor <;> simp [Call.reserved, reservedParams]
          · cases hactor
        all_goals simp [Call.reserved, reservedParams, exchangeReservedParams]
      · exact List.mem_append_left _ (hcredentials client hmem)
  | introspect client token hint => exact hprotected client token hint hfield
  | revoke client token hint => exact hprotected client token hint hfield

/-- An extra parameter that is not skipped has no reserved name. -/
theorem reads_of_not_skipped {form : Form} {name : String} (h : call.skips form name = false) :
    call.reads name ∉ call.reserved := by
  cases call with
  | clientCredentials client scope =>
      simp only [Call.skips, tokenSkips, Bool.or_eq_false_iff, decide_eq_false_iff_not] at h
      exact h.1.1
  | exchangeCode client code redirectUri codeVerifier =>
      simp only [Call.skips, tokenSkips, Bool.or_eq_false_iff, decide_eq_false_iff_not] at h
      exact h.1.1
  | tokenExchange client request =>
      simp only [Call.skips, tokenSkips, Bool.or_eq_false_iff, decide_eq_false_iff_not] at h
      simpa [Call.reserved, Call.reads] using h.1
  | introspect client token hint =>
      simp only [Call.skips, ProtectedClient.introspectionSkips, Bool.or_eq_false_iff,
        decide_eq_false_iff_not] at h
      exact h.1
  | revoke client token hint =>
      simp only [Call.skips, ProtectedClient.revocationSkips, Bool.or_eq_false_iff,
        decide_eq_false_iff_not] at h
      exact h.1

/-- Where names are compared as they stand, the guard looks for the name of an extra. -/
theorem looksFor_of_exact (h : call.Exact) :
    LooksFor Prod.fst (fun field => !decide (call.reads field.1 ∈ call.reserved))
      fun form field => !call.skips form field.1 := by
  intro form field
  rw [Bool.eq_iff_iff, Bool.and_eq_true, Bool.not_eq_true', Bool.not_eq_true', decide_eq_false_iff_not,
    decide_eq_true_eq]
  cases call with
  | clientCredentials client scope => simp [Call.skips, tokenSkips, inForm, Call.reads, Call.reserved]
  | exchangeCode client code redirectUri codeVerifier =>
      simp [Call.skips, tokenSkips, inForm, Call.reads, Call.reserved]
  | tokenExchange client request =>
      simp [Call.skips, tokenSkips, inForm, Call.reads, Call.reserved, and_assoc]
  | introspect client token hint =>
      simp [Call.skips, ProtectedClient.introspectionSkips, inForm, Call.reads, Call.reserved]
  | revoke client token hint => exact absurd h id

end Sent

section Found

variable {lib : Library} {call : Call} {read : String → String} {form form' : Form} {name : String}

theorem values_append : values read (form ++ form') name = values read form name ++ values read form' name := by
  rw [values, List.filter_append, List.map_append]
  rfl

theorem values_eq_nil (h : ∀ field ∈ form, read field.1 ≠ name) : values read form name = [] := by
  rw [values, List.map_eq_nil_iff, List.filter_eq_nil_iff]
  simpa using h

/-- Two readings that agree on the names of a form find the same. -/
theorem values_congr {read' : String → String} (h : ∀ field ∈ form, read field.1 = read' field.1) :
    values read form name = values read' form name := by
  have hfilter : (form.filter fun field => read field.1 = name) =
      form.filter fun field => read' field.1 = name :=
    List.filter_congr fun field hfield => by rw [h field hfield]
  rw [values, hfilter]
  rfl

/-- A map's entries give the value of each key. -/
theorem values_visited {extras : Dict String String} (visit : Visit extras) (p : String × String → Bool)
    (name : String) : values id ((visited visit).filter p) name =
      ((extras.lookup name).filter fun value => p (name, value)).toList := by
  have hother {fields : Form} (h : name ∉ fields.map Prod.fst) : values id (fields.filter p) name = [] := by
    apply values_eq_nil
    intro field hfield heq
    exact h (List.mem_map.mpr ⟨field, List.mem_of_mem_filter hfield, heq⟩)
  cases hlookup : extras.lookup name with
  | none =>
      rw [hother]
      · rfl
      · intro hmem
        obtain ⟨⟨key, value⟩, hfield, rfl⟩ := List.mem_map.mp hmem
        rw [(mem_visited visit).mp hfield] at hlookup
        cases hlookup
  | some value =>
      obtain ⟨before, after, hsplit⟩ := List.append_of_mem ((mem_visited visit).mpr hlookup)
      have hnodup := visited_keys visit
      rw [hsplit, List.map_append, List.map_cons] at hnodup
      have hbefore : name ∉ before.map Prod.fst := fun hmem =>
        (List.nodup_append.mp hnodup).2.2 name hmem name List.mem_cons_self rfl
      have hafter : name ∉ after.map Prod.fst :=
        (List.nodup_cons.mp (List.nodup_append.mp hnodup).2.1).1
      rw [hsplit, List.filter_append, values_append, hother hbefore, List.nil_append, List.filter_cons]
      cases hp : p (name, value) with
      | true =>
          have hcons : values id ((name, value) :: after.filter p) name =
              value :: values id (after.filter p) name := by
            simp [values]
          rw [if_pos rfl, hcons, hother hafter]
          simp [Option.filter, hp]
      | false =>
          rw [if_neg (by decide), hother hafter]
          simp [Option.filter, hp]

/-- Nothing that was added has a reserved name, and what the call wrote stands before it. -/
theorem sent_form (visit : Visit call.extraParams) : ∃ added : Form, added.Sublist (visited visit) ∧
    (∀ field ∈ added, call.reads field.1 ∉ call.reserved) ∧ (call.sent visit).form = call.own ++ added := by
  obtain ⟨added, hsub, hadmitted, heq⟩ :=
    gather_eq_append (fun form field => !call.skips form field.1) call.own (visited visit)
  refine ⟨added, hsub, ?_, heq⟩
  intro field hfield
  obtain ⟨held, hheld⟩ := hadmitted field hfield
  exact reads_of_not_skipped (by simpa using hheld)

/-- The values of each name in what is sent, where names are compared as they stand. -/
theorem values_sent (hexact : call.Exact) (visit : Visit call.extraParams) (name : String) :
    values id (call.sent visit).form name = if call.reads name ∈ call.reserved then values id call.own name
      else (call.extraParams.lookup name).toList := by
  have hgather := gather_eq_filter (looksFor_of_exact hexact) call.own (visited_keys visit)
  have hsent : (call.sent visit).form = call.own ++ (visited visit).filter fun field =>
      (!decide (call.reads field.1 ∈ call.reserved)) && decide (field.1 ∉ call.own.map Prod.fst) :=
    hgather
  rw [hsent, values_append, values_visited]
  by_cases hname : call.reads name ∈ call.reserved
  · rw [if_pos hname]
    simp [hname]
  · have hother : ∀ field ∈ call.own, id field.1 ≠ name := by
      intro field hfield heq
      have hreserved := own_reserved field hfield
      rw [← reads_reserved hreserved] at hreserved
      exact hname (heq ▸ hreserved)
    have hkey : name ∉ call.own.map Prod.fst := by
      intro hmem
      obtain ⟨field, hfield, heq⟩ := List.mem_map.mp hmem
      exact hother field hfield heq
    rw [if_neg hname, values_eq_nil hother, List.nil_append]
    cases call.extraParams.lookup name <;> simp [Option.filter, hname, hkey]

theorem sent_guarded (visit : Visit call.extraParams) : Guarded call (call.sent visit).form := by
  obtain ⟨added, hsub, hfree, hform⟩ := sent_form visit
  have hown : ∀ field ∈ call.own, call.reads field.1 = id field.1 :=
    fun field hfield => reads_reserved (own_reserved field hfield)
  refine ⟨?_, ?_, ?_⟩
  · intro name hname
    have hnone : values call.reads added name = [] :=
      values_eq_nil fun field hfield heq => hfree field hfield (heq ▸ hname)
    rw [hform, values_append, hnone, List.append_nil, values_congr hown]
  · intro field hfield hreserved
    rw [hform, List.mem_append] at hfield
    obtain hfield | hfield := hfield
    · exact hown field hfield
    · exact absurd hreserved (hfree field hfield)
  · intro hexact name value hextra hname
    rw [values_sent hexact, if_neg hname, hextra]
    rfl

/-- Whatever the extra parameters are and however they are visited, a request holds under its reserved
names what the call wrote there. But for revocations, another order only puts the extras in another
order. -/
theorem form_guarded (lib : Library) (call : Call) (visit : Visit call.extraParams) (r : Request)
    (h : call.request lib visit = .ok r) :
    Guarded call r.form ∧ ∀ visit', ∃ r', call.request lib visit' = .ok r' ∧ r'.endpoint = r.endpoint ∧
      r'.authorization = r.authorization ∧ (call.Exact → r'.form.Perm r.form) := by
  obtain ⟨rfl, hothers⟩ := request_ok h
  refine ⟨sent_guarded visit, fun visit' => ⟨_, hothers visit', rfl, rfl, fun hexact => ?_⟩⟩
  exact gather_perm (looksFor_of_exact hexact) call.own (visited_keys visit') (visited_perm visit' visit)

/-- Its extra parameters spell a reserved name in their own way. -/
def sampleClient : TokenClient where
  tokenEndpoint := "https://as/token"
  clientId := "c"
  clientSecret := some "s"
  authMethod := .clientSecretPost
  extraParams := AList.insert "tenant" "t" (AList.insert " Grant_Type" "password" ∅)
  allowHttp := false
  clientId_ne := by decide
  clientSecret_ne := by decide

def sampleRequest : TokenExchangeRequest where
  subjectToken := "jwt"
  subjectTokenType := "urn:ietf:params:oauth:token-type:jwt"
  audiences := ["api", "", "app"]

def sampleVisit : Visit sampleClient.extraParams := ⟨sampleClient.extraParams.entries, .refl _⟩

def sampleLibrary : Library := ⟨id, some⟩

def sampleSent : Request := (Call.tokenExchange sampleClient sampleRequest).sent sampleVisit

theorem sampleSent_ok :
    sampleClient.tokenExchange sampleLibrary sampleRequest sampleVisit = .ok sampleSent := by
  apply tokenExchange_ok_iff.mpr
  exact ⟨by decide, colliding_eq_none_iff.mpr (by decide), doRequest_ok_iff.mpr ⟨by decide, rfl⟩⟩

theorem form_guarded_exchange : Guarded (.tokenExchange sampleClient sampleRequest) sampleSent.form ∧
    sampleSent.form.map Prod.fst = ["grant_type", "subject_token", "subject_token_type", "audience",
      "audience", "client_id", "client_secret", "tenant"] :=
  ⟨(form_guarded sampleLibrary (.tokenExchange sampleClient sampleRequest) sampleVisit sampleSent
    sampleSent_ok).1, by decide⟩

end Found

section Revocation

variable {client : ProtectedClient} {token : String} {hint : Option String}

/-- A name as a server reads it that folds case. -/
def folded (name : String) : List Char := name.toList.map toAsciiLowercase

/-- The names of a form that have no space around them, folded. -/
def plainNames (form : Form) : List (List Char) :=
  ((form.map Prod.fst).filter fun name => trim name = name).map folded

/-- The form of a revocation: no two of its names that have no space around them differ in case only; an
extra parameter whose name is not reserved is sent, or one is whose name differs in case and space only,
and all of them are where no two names do. -/
structure Unjoined (client : ProtectedClient) (form : Form) : Prop where
  distinct : (plainNames form).Nodup
  kept : ∀ name value, client.extraParams.lookup name = some value → normalizeParamKey name ∉ tokenParams →
    (name, value) ∈ form ∨ ∃ field ∈ form, folded field.1 = (normalizeParamKey name).toList
  all : (∀ name ∈ client.extraParams, ∀ other ∈ client.extraParams,
      normalizeParamKey name = normalizeParamKey other → name = other) →
    ∀ name value, client.extraParams.lookup name = some value → normalizeParamKey name ∉ tokenParams →
      (name, value) ∈ form

/-- A name already folded is compared as it is. -/
theorem folded_normalizeParamKey (name : String) :
    folded (normalizeParamKey name) = (normalizeParamKey name).toList := by
  rw [folded, normalizeParamKey, String.toList_ofList, List.map_map]
  exact List.map_congr_left fun c _ => toAsciiLowercase_twice c

/-- An extra is refused for a reserved name or for one that a server could not tell from it. -/
theorem revocationSkips_iff {form : Form} {name : String} :
    ProtectedClient.revocationSkips form name = true ↔ normalizeParamKey name ∈ tokenParams ∨
      ∃ field ∈ form, folded field.1 = (normalizeParamKey name).toList := by
  simp only [ProtectedClient.revocationSkips, trim_normalizeParamKey, Bool.or_eq_true, decide_eq_true_eq,
    List.any_eq_true, eqIgnoreAsciiCase_iff]
  rw [show ((normalizeParamKey name).toList.map toAsciiLowercase) = _ from folded_normalizeParamKey name]
  rfl

theorem trim_of_folded {name : String} (h : trim name = name) :
    trim (String.ofList (folded name)) = String.ofList (folded name) := by
  rw [folded, trim_fold, normalizeParamKey, h]

/-- A name without space around it that folds to another's normal form has that normal form. -/
theorem normalizeParamKey_of_folded {name other : String}
    (h : folded name = (normalizeParamKey other).toList) : normalizeParamKey name = normalizeParamKey other := by
  rw [← trim_fold, ← folded, h, String.ofList_toList, trim_normalizeParamKey]

theorem plainNames_append (form : Form) (field : String × String) :
    plainNames (form ++ [field]) = plainNames form ∨
      (trim field.1 = field.1 ∧ plainNames (form ++ [field]) = plainNames form ++ [folded field.1]) := by
  by_cases htrim : trim field.1 = field.1
  · exact .inr ⟨htrim, by simp [plainNames, htrim]⟩
  · exact .inl (by simp [plainNames, htrim])

/-- What a revocation itself writes. -/
theorem own_distinct : (plainNames (Call.revoke client token hint).own).Nodup := by
  have hnames : ((Call.revoke client token hint).own.map Prod.fst).Sublist tokenParams := by
    have hhint : (((hint.filter fun hint => hint ≠ "").toList.map fun hint =>
        ("token_type_hint", hint)).map Prod.fst).Sublist ["token_type_hint"] := by
      cases hint.filter fun hint => hint ≠ "" <;> simp
    have hcredentials : (client.authenticate.1.map Prod.fst).Sublist ["client_id", "client_secret"] := by
      rw [ProtectedClient.authenticate]
      cases client.authMethod <;> simp
    rw [Call.own, List.map_append]
    exact ((hhint.cons_cons "token").append hcredentials)
  have htable : (tokenParams.map folded).Nodup := by decide
  exact htable.sublist ((List.filter_sublist.trans hnames).map folded)

/-- A name that is let in is new to those without space around them. -/
theorem plainNames_step {held : Form} {field : String × String} (h : (plainNames held).Nodup)
    (hskips : ProtectedClient.revocationSkips held field.1 = false) :
    (plainNames (held ++ [field])).Nodup := by
  obtain hsame | ⟨htrim, hnames⟩ := plainNames_append held field
  · exact hsame ▸ h
  · have hnormal : folded field.1 = (normalizeParamKey field.1).toList := by
      rw [← trim_fold, ← folded, trim_of_folded htrim, String.toList_ofList]
    have hnew : folded field.1 ∉ plainNames held := by
      intro hmem
      obtain ⟨name, hname, heq⟩ := List.mem_map.mp hmem
      obtain ⟨other, hother, rfl⟩ := List.mem_map.mp (List.mem_of_mem_filter hname)
      have htrue := revocationSkips_iff.mpr (.inr ⟨other, hother, heq.trans hnormal⟩)
      rw [hskips] at htrue
      cases htrue
    rw [hnames]
    exact h.append (List.nodup_singleton _) (by simpa using hnew)

theorem sent_unjoined (client : ProtectedClient) (token : String) (hint : Option String)
    (visit : Visit client.extraParams) :
    Unjoined client ((Call.revoke client token hint).sent visit).form := by
  let form := ((Call.revoke client token hint).sent visit).form
  have hkept : ∀ name value, client.extraParams.lookup name = some value →
      normalizeParamKey name ∉ tokenParams →
        (name, value) ∈ form ∨ ∃ field ∈ form, folded field.1 = (normalizeParamKey name).toList := by
    intro name value hextra hname
    obtain hmem | ⟨held, hheld, hrefused⟩ := mem_gather_or_refused
      (fun form field => !ProtectedClient.revocationSkips form field.1)
      (Call.revoke client token hint).own ((mem_visited visit).mpr hextra)
    · exact .inl hmem
    · have hskips : ProtectedClient.revocationSkips held name = true := by simpa using hrefused
      obtain hreserved | ⟨field, hfield, hfolded⟩ := revocationSkips_iff.mp hskips
      · exact absurd hreserved hname
      · exact .inr ⟨field, hheld.subset hfield, hfolded⟩
  refine ⟨?_, hkept, ?_⟩
  · refine gather_keeps (motive := fun form => (plainNames form).Nodup) own_distinct ?_
    intro held field _ hnodup hadmits
    have hskips : (Call.revoke client token hint).skips held field.1 = false := by simpa using hadmits
    exact plainNames_step hnodup hskips
  · intro hdistinct name value hextra hname
    obtain hmem | ⟨field, hfield, hfolded⟩ := hkept name value hextra hname
    · exact hmem
    · have hnormal := normalizeParamKey_of_folded hfolded
      obtain ⟨added, hsub, -, hform⟩ := @sent_form (.revoke client token hint) visit
      rw [show form = _ from hform, List.mem_append] at hfield
      obtain hown | hadded := hfield
      · have hreserved := own_reserved field hown
        have hreads : normalizeParamKey field.1 = field.1 :=
          @reads_reserved (.revoke client token hint) _ hreserved
        exact absurd (hnormal.symm.trans hreads ▸ hreserved) hname
      · have hvisited := (mem_visited visit).mp (hsub.subset hadded)
        obtain ⟨other, held⟩ := field
        have hother : other ∈ client.extraParams := AList.lookup_isSome.mp (Option.isSome_of_mem hvisited)
        have hmem : name ∈ client.extraParams := AList.lookup_isSome.mp (Option.isSome_of_mem hextra)
        obtain rfl := hdistinct other hother name hmem hnormal
        obtain rfl : held = value := Option.some.inj (hvisited.symm.trans hextra)
        have hsent : (other, held) ∈ ((Call.revoke client token hint).sent visit).form := by
          rw [hform]
          exact List.mem_append_right _ hadded
        exact hsent

/-- No revocation holds two names without space around them that a server which folds case would join,
and none of its extra parameters is lost to more than such a name. -/
theorem revocation_unjoined (lib : Library) (client : ProtectedClient) (token : String)
    (hint : Option String) (visit : Visit client.extraParams) (r : Request)
    (h : client.revoke lib token hint visit = .ok r) : Unjoined client r.form := by
  obtain ⟨-, -, rfl⟩ := revoke_ok_iff.mp h
  exact sent_unjoined client token hint visit

/-- A client with two extra parameters that differ in case. -/
def sampleRevoker : ProtectedClient where
  endpoint := "https://as/revoke"
  clientId := "c"
  clientSecret := "s"
  authMethod := .clientSecretBasic
  extraParams := AList.insert "Tenant" "t" (AList.insert "tenant" "u" ∅)
  allowHttp := false
  clientId_ne := by decide
  clientSecret_ne := by decide

def sampleRevocation (visit : Visit sampleRevoker.extraParams) : Request :=
  sampleRevoker.send ProtectedClient.revocationSkips "opaque" none visit

def sampleForward : Visit sampleRevoker.extraParams := ⟨sampleRevoker.extraParams.entries, .refl _⟩

def sampleBackward : Visit sampleRevoker.extraParams :=
  ⟨sampleRevoker.extraParams.entries.reverse, List.reverse_perm _⟩

theorem sampleRevocation_ok (visit : Visit sampleRevoker.extraParams) :
    sampleRevoker.revoke sampleLibrary "opaque" none visit = .ok (sampleRevocation visit) :=
  revoke_ok_iff.mpr ⟨by decide, by decide, rfl⟩

theorem revocation_unjoined_case :
    (Unjoined sampleRevoker (sampleRevocation sampleForward).form ∧
      (sampleRevocation sampleForward).form = [("token", "opaque"), ("Tenant", "t")]) ∧
    Unjoined sampleRevoker (sampleRevocation sampleBackward).form ∧
      (sampleRevocation sampleBackward).form = [("token", "opaque"), ("tenant", "u")] :=
  ⟨⟨revocation_unjoined sampleLibrary sampleRevoker "opaque" none sampleForward _
      (sampleRevocation_ok _), by decide⟩,
    revocation_unjoined sampleLibrary sampleRevoker "opaque" none sampleBackward _
      (sampleRevocation_ok _), by decide⟩

end Revocation

end IdentityModel.RustForms
