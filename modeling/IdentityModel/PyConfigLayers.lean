import IdentityModel.PyConfigContained

/-!
# Precedence of configuration layers

Under each key, the overrides, the sources in order and the environment form a column of
values that are absent or present. A field is the parse of the first value that is present,
and what stands below it in the column has no effect on the outcome of `Config.build`.
-/
namespace IdentityModel.Py.Settings

/-- A source of strings. -/
inductive Layer
  | mapping (values : String → Option String) (name : String)
  | env (pre name : String)

/-- What a layer has under a key. -/
def Layer.lookup (environ : String → Option String) : Layer → String → Option String
  | mapping values _, key => values key
  | env pre _, key => envLookup environ pre key

def Layer.source (environ : String → Option String) : Layer → Source
  | mapping values name => mappingSource values name
  | env pre name => envSource environ pre name

/-- What `Config.build` takes its values from. -/
structure Inputs where
  overrides : String → Option String
  sources : List Layer
  env : Bool
  environ : String → Option String

def Inputs.build (p : Platform) (inputs : Inputs) (request : Request) :
    Except String (Except (List ConfigIssue) Config) :=
  Settings.build p inputs.environ (inputs.sources.map (Layer.source inputs.environ))
    inputs.overrides inputs.env request

/-- The sources, with the environment as the last of them. -/
def Inputs.layers (inputs : Inputs) : List Layer :=
  inputs.sources ++ if inputs.env then [.env "OIDC_" "env"] else []

/-- The values under a key, the highest precedence first. -/
def Inputs.column (inputs : Inputs) (key : String) : List (Option String) :=
  inputs.overrides key :: inputs.layers.map fun layer => layer.lookup inputs.environ key

/-- The first value that is present. -/
def firstPresent (column : List (Option String)) : Option String := column.findSome? id

/-- Two columns that differ at most below a value that is present in both. -/
def SameAbove (column column' : List (Option String)) : Prop :=
  column = column' ∨ ∃ i value, column[i]? = some (some value) ∧
    column.take (i + 1) = column'.take (i + 1)

/-- The value of a field, from the raw value of its key. -/
def IsParse (p : Platform) (spec : KeySpec) : Option String → Value → Prop
  | some raw, v => ∃ parsed, parse p spec raw = .ok (.ok parsed) ∧ v = sealed spec.attr parsed
  | none, v => v = spec.default.getD .none

theorem firstPresent_of_get {column : List (Option String)} {i : ℕ} {value : String}
    (hvalue : column[i]? = some (some value)) :
    firstPresent column = firstPresent (column.take (i + 1)) := by
  induction column generalizing i with
  | nil => simp
  | cons head column ih =>
      cases head with
      | some v => simp [firstPresent]
      | none =>
          cases i with
          | zero => simp at hvalue
          | succ i =>
              have htail := ih (i := i) (by simpa using hvalue)
              simpa [firstPresent] using htail

theorem firstPresent_sameAbove {column column' : List (Option String)}
    (h : SameAbove column column') : firstPresent column = firstPresent column' := by
  obtain rfl | ⟨i, value, hvalue, htake⟩ := h
  · rfl
  · have hvalue' : column'[i]? = some (some value) := by
      have hget : (column.take (i + 1))[i]? = some (some value) := by
        simpa [List.getElem?_take] using hvalue
      rw [htake] at hget
      simpa [List.getElem?_take] using hget
    rw [firstPresent_of_get hvalue, firstPresent_of_get hvalue', htake]

section Layers

variable {p : Platform} {environ : String → Option String}

theorem Layer.resolve_source (layer : Layer) (keys : List String) :
    (layer.source environ).resolve keys = .mapping fun key =>
      if key ∈ keys then (layer.lookup environ key).map .str else none := by
  cases layer <;> rfl

theorem fromSources_layers (layers : List Layer) {remaining : List String} {key : String}
    (hkey : key ∈ remaining) :
    fromSources (layers.map (Layer.source environ)) remaining key =
      firstPresent (layers.map fun layer => layer.lookup environ key) := by
  induction layers generalizing remaining with
  | nil => rfl
  | cons layer layers ih =>
      have hremaining : remaining ≠ [] := List.ne_nil_of_mem hkey
      rw [List.map_cons, fromSources, if_neg hremaining, layer.resolve_source]
      cases hvalue : layer.lookup environ key with
      | some value => simp [hkey, hvalue, firstPresent]
      | none =>
          have hrest : key ∈ remaining.filter fun k =>
              (if k ∈ remaining then (layer.lookup environ k).map Supplied.str else none) = none := by
            simp [hkey, hvalue]
          simpa [hkey, hvalue, firstPresent] using ih hrest

theorem Inputs.supplied_eq (inputs : Inputs) {key : String} (hkey : key ∈ logicalKeys) :
    supplied (inputs.layers.map (Layer.source inputs.environ)) inputs.overrides key =
      firstPresent (inputs.column key) := by
  rw [supplied, Inputs.column]
  cases hover : inputs.overrides key with
  | some value => simp [firstPresent]
  | none =>
      have hremaining : key ∈ logicalKeys.filter fun k => inputs.overrides k = none := by
        simp [hkey, hover]
      rw [fromSources_layers inputs.layers hremaining]
      simp [firstPresent]

/-- Layers of strings never fail. -/
theorem resolved_layers (layers : List Layer) {st : Resolving} (hnodup : st.remaining.Nodup) :
    ((layers.map (Layer.source environ)).foldl (consult p) st).issues = st.issues := by
  induction layers generalizing st with
  | nil => rfl
  | cons layer layers ih =>
      rw [List.map_cons, List.foldl_cons,
        ih ((remaining_consult p (layer.source environ) hnodup).nodup hnodup)]
      by_cases hremaining : st.remaining = []
      · rw [consult, if_pos hremaining]
      · rw [consult_mapping hnodup hremaining (layer.resolve_source st.remaining)]
        have hnone : nonStrings p (layer.source environ).name (fun key =>
            if key ∈ st.remaining then (layer.lookup environ key).map .str else none)
            st.remaining = [] := by
          rw [nonStrings, List.map_eq_nil_iff, List.filter_eq_nil_iff]
          intro key hkey
          cases layer.lookup environ key <;> simp [hkey]
        simp only [hnone, List.append_nil]

theorem Inputs.chainOf_eq (inputs : Inputs) :
    chainOf inputs.environ (inputs.sources.map (Layer.source inputs.environ)) inputs.env =
      inputs.layers.map (Layer.source inputs.environ) := by
  rw [chainOf, layers, List.map_append]
  cases inputs.env <;> rfl

theorem Inputs.build_eq (inputs : Inputs) (request : Request) :
    inputs.build p request = buildChain p (inputs.layers.map (Layer.source inputs.environ))
      inputs.overrides request := by
  rw [Inputs.build, Settings.build, ← inputs.chainOf_eq, chainOf]

end Layers

section Outcome

variable {p : Platform} {chain : List Source} {overrides : String → Option String}
  {request : Request} {raw raw' : List (String × String)}

/-- A build that does not let an error out has a result for every key. -/
theorem keyResults_of_ok {outcome : Except (List ConfigIssue) Config}
    (h : buildChain p chain overrides request = .ok outcome) :
    ∃ results : KeySpec → Option (Except ConfigIssue Value),
      ∀ spec ∈ registry, keyResult p chain overrides spec = .ok (results spec) := by
  apply exists_keyResults
  rintro spec hspec ⟨error, hresult⟩
  obtain ⟨e, he⟩ := buildChain_escapes request hspec hresult
  rw [h] at he
  cases he

/-- Where a build succeeds no key has an issue, and the fields are those of the results. -/
theorem config_of_ok {config : Config}
    (h : buildChain p chain overrides request = .ok (.ok config))
    {results : KeySpec → Option (Except ConfigIssue Value)}
    (hresults : ∀ spec ∈ registry, keyResult p chain overrides spec = .ok (results spec)) :
    config = ⟨complete (wrapClientSecret (valuesOf results registry))⟩ ∧
      ∀ spec ∈ registry, typedIssue (results spec) = none := by
  rw [buildChain_eq hresults] at h
  simp only [Except.ok.injEq] at h
  split at h
  · next hissues =>
      refine ⟨(Except.ok.inj h).symm, ?_⟩
      have hnone : issuesOf results registry = [] := by
        simp only [List.append_eq_nil_iff] at hissues
        exact hissues.1.2
      exact List.filterMap_eq_nil_iff.mp hnone
  · cases h

theorem sealed_default {spec : KeySpec} (hspec : spec ∈ registry) :
    spec.default.map (sealed spec.attr) = spec.default := by
  have hall : ∀ spec ∈ registry, spec.default.map (sealed spec.attr) = spec.default := by
    simp [registry, sealed]
  exact hall spec hspec

theorem isParse_ownValue {spec : KeySpec} (hspec : spec ∈ registry)
    {results : KeySpec → Option (Except ConfigIssue Value)}
    (hresult : keyResult p chain overrides spec = .ok (results spec))
    (hissue : typedIssue (results spec) = none) :
    IsParse p spec (supplied chain overrides spec.logical) (ownValue results spec) := by
  rw [keyResult] at hresult
  cases hraw : supplied chain overrides spec.logical with
  | none =>
      rw [hraw] at hresult
      have hdefault : typedValue (results spec) = spec.default := by
        rw [← Except.ok.inj hresult]
        cases spec.default <;> rfl
      rw [IsParse, ownValue, hdefault, sealed_default hspec]
      cases spec.default <;> rfl
  | some text =>
      rw [hraw] at hresult
      obtain ⟨r, hparse, hr⟩ := Results.map_eq_ok.mp hresult
      cases r with
      | ok v =>
          refine ⟨v, hparse, ?_⟩
          rw [ownValue, ← hr]
          rfl
      | error issue =>
          rw [← hr] at hissue
          cases hissue

theorem groupIssues_congr (group : Option String) (m : ClientAuthMethod)
    (values : List (String × Value))
    (hraw : ∀ key ∈ logicalKeys, raw.lookup key = raw'.lookup key) :
    groupIssues p group m raw values = groupIssues p group m raw' values := by
  have hrequired : ∀ key ∈ clientRequired, key ∈ logicalKeys := by
    simp [clientRequired, logicalKeys, registry]
  have hfilter : (clientRequired.filter fun key =>
        (values.lookup key).isNone && (raw.lookup key).isNone) =
      clientRequired.filter fun key => (values.lookup key).isNone && (raw'.lookup key).isNone := by
    apply List.filter_congr
    intro key hkey
    rw [hraw key (hrequired key hkey)]
  have hany : (logicalKeys.any fun key =>
        "client.".toList.isPrefixOf key.toList && (raw.lookup key).isSome) =
      logicalKeys.any fun key =>
        "client.".toList.isPrefixOf key.toList && (raw'.lookup key).isSome := by
    rw [Bool.eq_iff_iff, List.any_eq_true, List.any_eq_true]
    constructor
    · rintro ⟨key, hkey, h⟩
      exact ⟨key, hkey, hraw key hkey ▸ h⟩
    · rintro ⟨key, hkey, h⟩
      exact ⟨key, hkey, (hraw key hkey).symm ▸ h⟩
  rw [groupIssues, groupIssues, hfilter, hany,
    hraw "client.discovery_url" (hrequired _ List.mem_cons_self)]

theorem parseKeys_congr (p : Platform) {specs : List KeySpec}
    (hraw : ∀ spec ∈ specs, raw.lookup spec.logical = raw'.lookup spec.logical) (st : Building) :
    specs.foldlM (parseKey p raw) st = specs.foldlM (parseKey p raw') st := by
  induction specs generalizing st with
  | nil => rfl
  | cons spec specs ih =>
      have hstep : parseKey p raw st spec = parseKey p raw' st spec := by
        rw [parseKey, parseKey, hraw spec List.mem_cons_self]
      rw [List.foldlM_cons, List.foldlM_cons, hstep]
      congr 1
      funext st'
      exact ih (fun s hs => hraw s (List.mem_cons_of_mem _ hs)) st'

/-- Builds that find the same raw values and the same issues end alike. -/
theorem buildChain_congr {chain' : List Source} {overrides' : String → Option String}
    (hissues : (resolveRaw p chain overrides).issues = (resolveRaw p chain' overrides').issues)
    (hsupplied : ∀ key ∈ logicalKeys, supplied chain overrides key = supplied chain' overrides' key) :
    buildChain p chain overrides request = buildChain p chain' overrides' request := by
  have hraw (key : String) (hkey : key ∈ logicalKeys) :
      (resolveRaw p chain overrides).raw.lookup key =
        (resolveRaw p chain' overrides').raw.lookup key := by
    rw [lookup_resolveRaw hkey, lookup_resolveRaw hkey, hsupplied key hkey]
  have hloop := parseKeys_congr p
    (fun spec hspec => hraw spec.logical (mem_logicalKeys hspec))
    ⟨[], (resolveRaw p chain overrides).issues⟩
  rw [buildChain, buildChain, hloop, hissues]
  congr 1
  funext st
  rw [groupIssues_congr request.group request.clientAuthMethod st.values hraw]

end Outcome

/-- A field is the parse of the first value present under its key, and what stands below a
present value does not matter. -/
theorem layers_precedence (p : Platform) (request : Request) (inputs : Inputs) :
    (∀ config, inputs.build p request = .ok (.ok config) → ∀ spec ∈ registry, ∃ own,
      IsParse p spec (firstPresent (inputs.column spec.logical)) own ∧
      config.field spec.attr =
        if spec.attr = "client_audience" ∧ own = .none then config.field "client_id"
        else some own) ∧
    ∀ inputs' : Inputs,
      (∀ key ∈ logicalKeys, SameAbove (inputs.column key) (inputs'.column key)) →
      inputs.build p request = inputs'.build p request := by
  constructor
  · intro config hconfig spec hspec
    rw [inputs.build_eq] at hconfig
    obtain ⟨results, hresults⟩ := keyResults_of_ok hconfig
    obtain ⟨rfl, hissues⟩ := config_of_ok hconfig hresults
    refine ⟨ownValue results spec, ?_, field_complete results hspec⟩
    rw [← inputs.supplied_eq (mem_logicalKeys hspec)]
    exact isParse_ownValue hspec (hresults spec hspec) (hissues spec hspec)
  · intro inputs' habove
    rw [inputs.build_eq, inputs'.build_eq]
    apply buildChain_congr
    · have hnodup := (remaining_overridden inputs.overrides).1
      have hnodup' := (remaining_overridden inputs'.overrides).1
      rw [resolveRaw, resolveRaw, resolved_layers inputs.layers hnodup,
        resolved_layers inputs'.layers hnodup']
      rfl
    · intro key hkey
      rw [inputs.supplied_eq hkey, inputs'.supplied_eq hkey]
      exact firstPresent_sameAbove (habove key hkey)

/-- An override over a mapping that has a value of its own, or none. -/
def overridingInputs (below : Option String) : Inputs where
  overrides key := if key = "jwks.max_keys" then some "7" else none
  sources := [.mapping (fun key => if key = "jwks.max_keys" then below else none) "mapping"]
  env := false
  environ _ := none

theorem override_wins :
    (∃ config, (overridingInputs (some "no number")).build asciiSettings {} = .ok (.ok config) ∧
      ∃ spec ∈ registry, spec.attr = "jwks_max_keys" ∧ ∃ own,
        IsParse asciiSettings spec (some "7") own ∧ config.field spec.attr = some own) ∧
    (overridingInputs (some "no number")).build asciiSettings {} =
      (overridingInputs none).build asciiSettings {} := by
  have hprecedence := layers_precedence asciiSettings {} (overridingInputs (some "no number"))
  constructor
  · obtain ⟨config, hconfig⟩ :
        ∃ config, (overridingInputs (some "no number")).build asciiSettings {} = .ok (.ok config) :=
      ⟨⟨_⟩, rfl⟩
    obtain ⟨spec, hspec, hattr⟩ : ∃ spec ∈ registry, spec.attr = "jwks_max_keys" ∧
        firstPresent ((overridingInputs (some "no number")).column spec.logical) = some "7" := by
      decide +kernel
    obtain ⟨own, hparse, hfield⟩ := hprecedence.1 config hconfig spec hspec
    rw [hattr.2] at hparse
    rw [if_neg (by simp [hattr.1])] at hfield
    exact ⟨config, hconfig, spec, hspec, hattr.1, own, hparse, hfield⟩
  · apply hprecedence.2
    intro key _
    by_cases hkey : key = "jwks.max_keys"
    · subst hkey
      exact .inr ⟨0, "7", rfl, rfl⟩
    · left
      simp [overridingInputs, Inputs.column, Inputs.layers, Layer.lookup, hkey]

end IdentityModel.Py.Settings
