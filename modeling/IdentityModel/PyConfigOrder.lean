import IdentityModel.PyConfigLayers

/-!
# The order of configuration issues

`Config.build` collects issues in phases: each source in its turn, the values that are typed, and the
rules of the group. Each phase walks the registry by itself, and its issues follow those of the phases
before it. The keys the issues name are in registry order where no phase comes after a key that a
later phase names.
-/
namespace IdentityModel.Py.Settings

open Url Results

/-- The configuration keys that issues name, as they are listed. -/
def namedKeys (issues : List ConfigIssue) : List String :=
  issues.flatMap fun issue => issue.keys.filter fun key => key ∈ logicalKeys

/-- The place of a key in the registry. -/
def place (key : String) : ℕ := logicalKeys.idxOf key

/-- Issues are in the order of the keys they name. -/
def Ordered (issues : List ConfigIssue) : Prop := (namedKeys issues).Pairwise fun a b => place a ≤ place b

instance (issues : List ConfigIssue) : Decidable (Ordered issues) :=
  inferInstanceAs (Decidable ((namedKeys issues).Pairwise fun a b => place a ≤ place b))

/-- The keys that each source answers with something else than a string. -/
def refusals : List Source → List String → List (List String)
  | [], _ => []
  | source :: chain, remaining =>
      match source.resolve remaining with
      | .raised => refusals chain remaining
      | .mapping values =>
          (remaining.filter fun key => values key = some .other) ::
            refusals chain (remaining.filter fun key => values key = none)

/-- A value that `_parse` does not accept. -/
def isInvalid (p : Platform) (spec : KeySpec) (raw : Option String) : Bool :=
  match typed p spec raw with
  | .ok (some (.error _)) => true
  | _ => false

section Phases

variable (p : Platform) (chain : List Source) (overrides : String → Option String)

def invalidKeys : List String :=
  (registry.filter fun spec => isInvalid p spec (supplied chain overrides spec.logical)).map
    KeySpec.logical

/-- The required keys that nothing supplies. -/
def missingKeys : List String :=
  clientRequired.filter fun key => (supplied chain overrides key).isNone

/-- No secret is supplied, or a blank one. -/
def lacksSecret : Bool :=
  (supplied chain overrides "client.secret").all fun raw => pyStrip raw.toList = []

/-- A key of the client group is supplied, without the discovery URL. -/
def isStray : Bool :=
  (logicalKeys.any fun key =>
    "client.".toList.isPrefixOf key.toList && (supplied chain overrides key).isSome) &&
    (supplied chain overrides "client.discovery_url").isNone

/-- The keys that the rules of the group name. -/
def groupKeys (request : Request) : List (List String) :=
  if request.group = some "client" then
    [missingKeys chain overrides,
      if request.clientAuthMethod.requiresSecret && lacksSecret chain overrides then
        ["client.secret"]
      else []]
  else [if isStray chain overrides then ["client.discovery_url"] else []]

/-- The keys that fail in each phase. -/
def phases (request : Request) : List (List String) :=
  refusals chain (logicalKeys.filter fun key => overrides key = none) ++
    [invalidKeys p chain overrides] ++ groupKeys chain overrides request

end Phases

/-- No key of a phase comes after a key of a later one. -/
def InOrder (phases : List (List String)) : Prop :=
  phases.Pairwise fun earlier later => ∀ a ∈ earlier, ∀ b ∈ later, place a ≤ place b

instance (phases : List (List String)) : Decidable (InOrder phases) :=
  inferInstanceAs (Decidable (phases.Pairwise _))

section Issues

variable {p : Platform} {chain : List Source} {overrides : String → Option String}

theorem namedKeys_append (issues issues' : List ConfigIssue) :
    namedKeys (issues ++ issues') = namedKeys issues ++ namedKeys issues' :=
  List.flatMap_append

/-- A source is no key. -/
theorem source_not_mem (name : String) : "source:" ++ name ∉ logicalKeys := by
  have hhead : ∀ key ∈ logicalKeys, key.toList.head? ≠ some 's' := by decide
  intro hmem
  apply hhead _ hmem
  rw [String.toList_append]
  rfl

theorem namedKeys_raised (name : String) : namedKeys [failedToResolve p name] = [] := by
  simp [namedKeys, failedToResolve, source_not_mem]

theorem namedKeys_nonStrings {name : String} {values : String → Option Supplied} {keys : List String}
    (hkeys : keys ⊆ logicalKeys) :
    namedKeys (nonStrings p name values keys) = keys.filter fun key => values key = some .other := by
  have hall (keys : List String) (hkeys : keys ⊆ logicalKeys) :
      namedKeys (keys.map (nonString p name)) = keys := by
    induction keys with
    | nil => rfl
    | cons key keys ih =>
        obtain ⟨hkey, hrest⟩ := List.cons_subset.mp hkeys
        have hthis : ((nonString p name key).keys.filter fun key => key ∈ logicalKeys) = [key] := by
          simp [nonString, source_not_mem, hkey]
        rw [List.map_cons, namedKeys, List.flatMap_cons, hthis]
        exact congrArg (key :: ·) (ih hrest)
  exact hall _ fun key hkey => hkeys (List.mem_of_mem_filter hkey)

theorem refusals_nil (chain : List Source) : (refusals chain []).flatten = [] := by
  induction chain with
  | nil => rfl
  | cons source chain ih =>
      rw [refusals]
      cases source.resolve [] with
      | raised => exact ih
      | mapping values => exact ih

/-- What the sources are found to answer, source by source. -/
theorem namedKeys_resolved {st : Resolving} (hkeys : st.remaining.Sublist logicalKeys) :
    namedKeys (chain.foldl (consult p) st).issues =
      namedKeys st.issues ++ (refusals chain st.remaining).flatten := by
  induction chain generalizing st with
  | nil => simp [refusals]
  | cons source chain ih =>
      rw [List.foldl_cons, refusals]
      have hnodup := hkeys.nodup logicalKeys_nodup
      by_cases hremaining : st.remaining = []
      · have hstep : consult p st source = st := by rw [consult, if_pos hremaining]
        rw [hstep, ih hkeys, hremaining, refusals_nil]
        cases source.resolve [] with
        | raised => exact congrArg _ (refusals_nil chain).symm
        | mapping values => exact congrArg _ (refusals_nil chain).symm
      · cases hanswer : source.resolve st.remaining with
        | raised =>
            have hrest := @ih { st with issues := st.issues ++ [failedToResolve p source.name] } hkeys
            rw [consult_raised hremaining hanswer, hrest, namedKeys_append, namedKeys_raised,
              List.append_nil]
        | mapping values =>
            rw [consult_mapping hnodup hremaining hanswer, ih (List.filter_sublist.trans hkeys),
              namedKeys_append, namedKeys_nonStrings hkeys.subset, List.flatten_cons,
              List.append_assoc]

theorem keys_of_keyIssues {spec : KeySpec} {issue : ConfigIssue} (h : issue ∈ keyIssues spec) :
    issue.keys = [spec.logical] := by
  obtain ⟨message, -, rfl⟩ := List.mem_map.mp h
  rfl

/-- The issues of the values that are typed. -/
theorem namedKeys_typed {results : KeySpec → Option (Except ConfigIssue Value)}
    (hresults : ∀ spec ∈ registry, keyResult p chain overrides spec = .ok (results spec)) :
    namedKeys (issuesOf results registry) = invalidKeys p chain overrides := by
  have hall (specs : List KeySpec) (hspecs : specs ⊆ registry) :
      namedKeys (issuesOf results specs) =
        (specs.filter fun spec => isInvalid p spec (supplied chain overrides spec.logical)).map
          KeySpec.logical := by
    induction specs with
    | nil => rfl
    | cons spec specs ih =>
        obtain ⟨hspec, hrest⟩ := List.cons_subset.mp hspecs
        have hresult := hresults spec hspec
        have hinvalid : isInvalid p spec (supplied chain overrides spec.logical) =
            (typedIssue (results spec)).isSome := by
          rw [keyResult] at hresult
          rw [isInvalid, hresult]
          obtain _ | (issue | value) := results spec <;> rfl
        have hcons : issuesOf results (spec :: specs) =
            (typedIssue (results spec)).toList ++ issuesOf results specs := by
          rw [issuesOf, List.filterMap_cons]
          cases typedIssue (results spec) <;> rfl
        rw [hcons, namedKeys_append, ih hrest, List.filter_cons, hinvalid]
        cases hissue : typedIssue (results spec) with
        | none => rfl
        | some issue =>
            have hkeys := keys_of_keyIssues ((keyResult_sound hspec hresult).2 issue hissue)
            simp [namedKeys, hkeys, mem_logicalKeys hspec]
  exact hall registry (List.Subset.refl _)

/-- The fields of typed values go by their own names. -/
theorem lookup_logical {results : KeySpec → Option (Except ConfigIssue Value)} {key : String}
    (hkey : key ∉ registry.map KeySpec.attr) : (valuesOf results registry).lookup key = none := by
  rw [List.lookup_eq_none_iff]
  intro v hv
  obtain ⟨spec, hspec, hvalue⟩ := List.mem_filterMap.mp hv
  obtain ⟨w, -, rfl⟩ := Option.map_eq_some_iff.mp hvalue
  have hne : key ≠ spec.attr := fun h => hkey (h ▸ List.mem_map_of_mem hspec)
  simpa using hne

/-- The secret is unset where none is supplied, or a blank one. -/
theorem isUnset_secret {results : KeySpec → Option (Except ConfigIssue Value)}
    (hresults : ∀ spec ∈ registry, keyResult p chain overrides spec = .ok (results spec)) :
    isUnset (valuesOf results registry) "client_secret" = lacksSecret chain overrides := by
  obtain ⟨spec, hspec, hattr, hlogical, hkind, hdefault⟩ : ∃ spec ∈ registry,
      spec.attr = "client_secret" ∧ spec.logical = "client.secret" ∧ spec.kind = .str ∧
        spec.default = some .none := by decide
  have hresult := hresults spec hspec
  have hlookup : (valuesOf results registry).lookup spec.attr = typedValue (results spec) :=
    lookup_valuesOf attrs_nodup hspec
  rw [hattr] at hlookup
  rw [isUnset, hlookup, lacksSecret]
  rw [keyResult, hlogical] at hresult
  cases hraw : supplied chain overrides "client.secret" with
  | none =>
      rw [hraw, typed, hdefault] at hresult
      rw [← Except.ok.inj hresult]
      rfl
  | some raw =>
      rw [hraw, typed] at hresult
      by_cases htext : pyStrip raw.toList = []
      · rw [parse_empty (by rw [hkind]; exact Kind.noConfusion) htext] at hresult
        rw [← Except.ok.inj hresult]
        simp [typedValue, htext]
      · rw [parse_str hkind htext] at hresult
        rw [← Except.ok.inj hresult]
        simp [typedValue, htext]

/-- The issues of the group's rules. -/
theorem namedKeys_group {results : KeySpec → Option (Except ConfigIssue Value)} {request : Request}
    (hresults : ∀ spec ∈ registry, keyResult p chain overrides spec = .ok (results spec)) :
    namedKeys (groupIssues p request.group request.clientAuthMethod
      (resolveRaw p chain overrides).raw (valuesOf results registry)) =
        (groupKeys chain overrides request).flatten := by
  have hrequired : ∀ key ∈ clientRequired,
      key ∈ logicalKeys ∧ key ∉ registry.map KeySpec.attr := by decide
  have hsecret : "client.secret" ∈ logicalKeys := by decide
  have hurl : "client.discovery_url" ∈ logicalKeys := by decide
  have hclient : "client" ∉ logicalKeys := by decide
  rw [groupIssues, groupKeys]
  by_cases hgroup : request.group = some "client"
  · rw [if_pos hgroup, if_pos hgroup, namedKeys_append, isUnset_secret hresults]
    have hmissing : (clientRequired.filter fun key =>
        ((valuesOf results registry).lookup key).isNone &&
          ((resolveRaw p chain overrides).raw.lookup key).isNone) = missingKeys chain overrides := by
      apply List.filter_congr
      intro key hkey
      obtain ⟨hlogical, hattr⟩ := hrequired key hkey
      rw [lookup_logical hattr, lookup_resolveRaw hlogical]
      rfl
    have hkeys (keys : List String) (hkeys : keys ⊆ logicalKeys) :
        namedKeys (keys.map (missing p)) = keys := by
      induction keys with
      | nil => rfl
      | cons key keys ih =>
          obtain ⟨hkey, hrest⟩ := List.cons_subset.mp hkeys
          rw [List.map_cons, namedKeys, List.flatMap_cons]
          simp only [missing, List.filter_cons, hkey, decide_true, if_true, List.filter_nil]
          exact congrArg (key :: ·) (ih hrest)
    have hsubset : missingKeys chain overrides ⊆ logicalKeys := fun key hkey =>
      (hrequired key (List.mem_of_mem_filter hkey)).1
    rw [hmissing, hkeys _ hsubset]
    by_cases hlacks : request.clientAuthMethod.requiresSecret && lacksSecret chain overrides
    · rw [if_pos hlacks, if_pos hlacks]
      simp [namedKeys, secretRequired, hclient, hsecret]
    · rw [if_neg hlacks, if_neg hlacks]
      simp [namedKeys]
  · rw [if_neg hgroup, if_neg hgroup]
    have hany : (logicalKeys.any fun key => "client.".toList.isPrefixOf key.toList &&
        ((resolveRaw p chain overrides).raw.lookup key).isSome) =
          logicalKeys.any fun key => "client.".toList.isPrefixOf key.toList &&
            (supplied chain overrides key).isSome := by
      rw [Bool.eq_iff_iff, List.any_eq_true, List.any_eq_true]
      apply exists_congr
      intro key
      apply and_congr_right
      intro hkey
      rw [lookup_resolveRaw hkey]
    rw [hany, lookup_resolveRaw hurl, ← isStray]
    cases isStray chain overrides with
    | false => rfl
    | true => simp [namedKeys, strayClientKey, hclient, hurl]

/-- The issues name the keys that fail in each phase. -/
theorem namedKeys_build {issues : List ConfigIssue} {request : Request}
    (h : buildChain p chain overrides request = .ok (.error issues)) :
    namedKeys issues = (phases p chain overrides request).flatten := by
  obtain ⟨results, hresults⟩ := keyResults_of_ok h
  rw [buildChain_eq hresults] at h
  dsimp only at h
  split at h
  · cases h
  · rw [← Except.error.inj (Except.ok.inj h), namedKeys_append, namedKeys_append,
      namedKeys_typed hresults, namedKeys_group hresults, resolveRaw,
      namedKeys_resolved List.filter_sublist]
    simp [phases, overridden, namedKeys]

end Issues

section Order

variable {p : Platform} {chain : List Source} {overrides : String → Option String}

/-- Keys picked from the registry are in its order. -/
theorem pairwise_of_sublist {keys : List String} (h : keys.Sublist logicalKeys) :
    keys.Pairwise fun a b => place a ≤ place b := by
  have hall : logicalKeys.Pairwise fun a b => place a ≤ place b := by decide
  exact hall.sublist h

theorem refusals_sublist {remaining : List String} (hkeys : remaining.Sublist logicalKeys) :
    ∀ phase ∈ refusals chain remaining, phase.Sublist logicalKeys := by
  induction chain generalizing remaining with
  | nil =>
      intro phase hphase
      cases hphase
  | cons source chain ih =>
      rw [refusals]
      cases source.resolve remaining with
      | raised => exact ih hkeys
      | mapping values =>
          intro phase hphase
          obtain rfl | hphase := List.mem_cons.mp hphase
          · exact List.filter_sublist.trans hkeys
          · exact ih (List.filter_sublist.trans hkeys) phase hphase

theorem phases_sublist {request : Request} :
    ∀ phase ∈ phases p chain overrides request, phase.Sublist logicalKeys := by
  intro phase hphase
  rw [phases, List.append_assoc, List.mem_append] at hphase
  obtain hsource | hphase := hphase
  · exact refusals_sublist List.filter_sublist phase hsource
  · obtain rfl | hgroup := List.mem_cons.mp hphase
    · exact List.Sublist.map _ List.filter_sublist
    · have hrequired : clientRequired.Sublist logicalKeys := by decide
      have hsingle {key : String} (hkey : key ∈ logicalKeys) (c : Bool) :
          (if c then [key] else []).Sublist logicalKeys := by
        cases c with
        | false => exact List.nil_sublist _
        | true => exact List.singleton_sublist.mpr hkey
      rw [groupKeys] at hgroup
      split at hgroup
      · obtain rfl | hgroup := List.mem_cons.mp hgroup
        · exact List.filter_sublist.trans hrequired
        · rw [List.mem_singleton.mp hgroup]
          exact hsingle (by decide) _
      · rw [List.mem_singleton.mp hgroup]
        exact hsingle (by decide) _

end Order

/-- The issues of a build are in registry order if and only if no key that fails in a phase comes
after a key that fails in a later one. -/
theorem issues_ordered_iff (p : Platform) (environ : String → Option String) (sources : List Source)
    (overrides : String → Option String) (env : Bool) (request : Request) (issues : List ConfigIssue)
    (h : build p environ sources overrides env request = .ok (.error issues)) :
    Ordered issues ↔ InOrder (phases p (chainOf environ sources env) overrides request) := by
  rw [Ordered, namedKeys_build h, List.pairwise_flatten]
  constructor
  · exact fun hordered => hordered.2
  · intro hphases
    exact ⟨fun phase hphase => pairwise_of_sublist (phases_sublist phase hphase), hphases⟩

/-- A client group without a client id, with these two addresses. -/
def addressed (discovery redirect : String) (key : String) : Option String :=
  if key = "client.discovery_url" then some discovery
  else if key = "client.redirect_uri" then some redirect
  else none

/-- The issue of a blank value. -/
def blank (key : String) : ConfigIssue :=
  invalid { logical := key, attr := "", env := [], kind := .url } "value is empty or whitespace-only"

/-- A blank discovery URL is listed before the client id, which comes after it. -/
theorem issues_ordered_iff_sample :
    Ordered [blank "client.discovery_url", missing asciiSettings "client.id"] := by
  have hbuild : build asciiSettings (fun _ => none) [] (addressed "" "https://app/") false
      { group := some "client" } =
        .ok (.error [blank "client.discovery_url", missing asciiSettings "client.id"]) := by
    decide
  apply (issues_ordered_iff asciiSettings (fun _ => none) [] (addressed "" "https://app/") false
    { group := some "client" } _ hbuild).mpr
  decide

/-- A blank redirect URI is listed before the client id that comes before it. -/
theorem typed_before_missing :
    let issues := [blank "client.redirect_uri", missing asciiSettings "client.id"]
    build asciiSettings (fun _ => none) [] (addressed "https://op/" "") false
        { group := some "client" } = .ok (.error issues) ∧ ¬ Ordered issues := by
  decide

end IdentityModel.Py.Settings
