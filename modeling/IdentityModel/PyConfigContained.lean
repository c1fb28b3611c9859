import IdentityModel.PyConfigBuild

/-!
# Failures of `Config.build`

`Config.build` ends with a `Config` within the bounds of the registry or with issues that are
the same whatever the values are, unless a URL makes `urlparse` raise: nothing catches that
exception.
-/
namespace IdentityModel.Py.Settings

open Url

/-- What a key comes to. -/
def keyResult (p : Platform) (chain : List Source) (overrides : String → Option String)
    (spec : KeySpec) : Except String (Option (Except ConfigIssue Value)) :=
  typed p spec (supplied chain overrides spec.logical)

/-- Everything `Config.build` can find wrong. No value is among what it is made from. -/
def knownIssues (p : Platform) (names : List String) (m : ClientAuthMethod) : List ConfigIssue :=
  names.flatMap (sourceIssues p) ++ registry.flatMap keyIssues ++ clientRequired.map (missing p) ++
    [secretRequired p m, strayClientKey]

/-- A field holds an admitted value, and a secret is wrapped. -/
def Config.Valid (config : Config) : Prop :=
  ∀ spec ∈ registry, ∃ v, config.field spec.attr = some v ∧ Admitted spec v ∧
    (spec.secret = true → v = .none ∨ ∃ s, v = .secret s)

/-- A build that ends with a valid `Config` or with a `ConfigError` of known issues. -/
def Contained (p : Platform) (names : List String) (m : ClientAuthMethod) :
    Except String (Except (List ConfigIssue) Config) → Prop
  | .ok (.ok config) => config.Valid
  | .ok (.error issues) => issues ≠ [] ∧ issues ⊆ knownIssues p names m
  | .error _ => False

section Contained

variable {p : Platform} {chain : List Source} {overrides : String → Option String}
  {results : KeySpec → Option (Except ConfigIssue Value)} {request : Request}

theorem mem_logicalKeys {spec : KeySpec} (hspec : spec ∈ registry) : spec.logical ∈ logicalKeys :=
  List.mem_map_of_mem hspec

/-- What a build ends with, from what its keys come to. -/
theorem buildChain_eq (hresults : ∀ spec ∈ registry,
    keyResult p chain overrides spec = .ok (results spec)) :
    buildChain p chain overrides request =
      let resolved := resolveRaw p chain overrides
      let values := valuesOf results registry
      let issues := resolved.issues ++ issuesOf results registry ++
        groupIssues p request.group request.clientAuthMethod resolved.raw values
      .ok (if issues = [] then .ok ⟨complete (wrapClientSecret values)⟩ else .error issues) := by
  have htyped (spec : KeySpec) (hspec : spec ∈ registry) :
      typed p spec ((resolveRaw p chain overrides).raw.lookup spec.logical) =
        .ok (results spec) := by
    rw [lookup_resolveRaw (mem_logicalKeys hspec)]
    exact hresults spec hspec
  have hloop := parseKeys_ok p (resolveRaw p chain overrides).raw htyped
    ⟨[], (resolveRaw p chain overrides).issues⟩
  rw [buildChain, hloop]
  simp only [Bind.bind, Except.bind, List.nil_append]
  split <;> rfl

theorem buildChain_escapes (request : Request) {spec : KeySpec} (hspec : spec ∈ registry) {error : String}
    (herror : keyResult p chain overrides spec = .error error) :
    ∃ error, buildChain p chain overrides request = .error error := by
  have htyped : typed p spec ((resolveRaw p chain overrides).raw.lookup spec.logical) =
      .error error := by
    rw [lookup_resolveRaw (mem_logicalKeys hspec)]
    exact herror
  obtain ⟨e, he⟩ := parseKeys_error p (resolveRaw p chain overrides).raw
    ⟨spec, hspec, error, htyped⟩ ⟨[], (resolveRaw p chain overrides).issues⟩
  refine ⟨e, ?_⟩
  rw [buildChain, he]
  rfl

theorem keyResult_error {spec : KeySpec} :
    (∃ error, keyResult p chain overrides spec = .error error) ↔
      ∃ raw, supplied chain overrides spec.logical = some raw ∧ Escapes p spec raw := by
  rw [keyResult]
  cases supplied chain overrides spec.logical with
  | none => simp [typed]
  | some raw =>
      have hparse := parse_escapes p spec raw
      cases hresult : parse p spec raw with
      | error e =>
          rw [hresult] at hparse
          simp [typed, hresult, Except.map, hparse.mp ⟨e, rfl⟩]
      | ok r =>
          rw [hresult] at hparse
          have hnot : ¬ Escapes p spec raw := fun h => by
            obtain ⟨e, he⟩ := hparse.mpr h
            cases he
          simp [typed, hresult, Except.map, hnot]

/-- Where no key lets an error out, every key has a result. -/
theorem exists_keyResults
    (h : ∀ spec ∈ registry, ¬ ∃ error, keyResult p chain overrides spec = .error error) :
    ∃ results : KeySpec → Option (Except ConfigIssue Value),
      ∀ spec ∈ registry, keyResult p chain overrides spec = .ok (results spec) := by
  have hkey (spec : KeySpec) (hspec : spec ∈ registry) :
      ∃ result, keyResult p chain overrides spec = .ok result := by
    cases hresult : keyResult p chain overrides spec with
    | ok result => exact ⟨result, rfl⟩
    | error e => exact absurd ⟨e, hresult⟩ (h spec hspec)
  choose! results hresults using hkey
  exact ⟨results, hresults⟩

theorem defaults_admitted : ∀ spec ∈ registry, Admitted spec (spec.default.getD .none) := by
  simp [registry, Admitted, InBounds]
  norm_num

theorem secret_spec {spec : KeySpec} (hspec : spec ∈ registry) (hsecret : spec.secret = true) :
    spec.attr = "client_secret" ∧ spec.kind = .str ∧ spec.default = some .none := by
  have hall : ∀ spec ∈ registry, spec.secret = true →
      spec.attr = "client_secret" ∧ spec.kind = .str ∧ spec.default = some .none := by
    simp [registry]
  exact hall spec hspec hsecret

/-- A value that a key comes to is admitted; that of a textual key is a string. -/
theorem keyResult_sound {spec : KeySpec} (hspec : spec ∈ registry)
    {result : Option (Except ConfigIssue Value)} (hresult : keyResult p chain overrides spec = .ok result) :
    (∀ v, typedValue result = some v → Admitted spec v) ∧
      ∀ issue, typedIssue result = some issue → issue ∈ keyIssues spec := by
  rw [keyResult] at hresult
  cases hraw : supplied chain overrides spec.logical with
  | none =>
      rw [hraw] at hresult
      obtain rfl := Except.ok.inj hresult
      have hdefault := defaults_admitted spec hspec
      cases h : spec.default with
      | none => simp [typedValue, typedIssue]
      | some v => simpa [typedValue, typedIssue, h] using hdefault
  | some raw =>
      rw [hraw] at hresult
      obtain ⟨r, hr, rfl⟩ := Results.map_eq_ok.mp hresult
      have hsound := parse_sound hr
      cases r with
      | ok v => simpa [typedValue, typedIssue] using hsound.1
      | error issue => simpa [typedValue, typedIssue, Sound] using hsound

theorem keyResult_secret {spec : KeySpec} (hspec : spec ∈ registry) (hsecret : spec.secret = true)
    {result : Option (Except ConfigIssue Value)} (hresult : keyResult p chain overrides spec = .ok result)
    {v : Value} (hv : typedValue result = some v) : v = .none ∨ ∃ s, v = .str s := by
  have ⟨_, hkind, hdefault⟩ := secret_spec hspec hsecret
  rw [keyResult] at hresult
  cases hraw : supplied chain overrides spec.logical with
  | none =>
      rw [hraw] at hresult
      obtain rfl := Except.ok.inj hresult
      left
      simpa [typedValue, hdefault] using hv.symm
  | some raw =>
      rw [hraw] at hresult
      obtain ⟨r, hr, rfl⟩ := Results.map_eq_ok.mp hresult
      cases r with
      | ok w =>
          obtain rfl := Option.some.inj hv
          exact .inr ((parse_sound hr).2 hkind)
      | error issue => cases hv

theorem admitted_sealed {spec : KeySpec} {v : Value} (h : Admitted spec v) :
    Admitted spec (sealed spec.attr v) := by
  cases v with
  | str s =>
      have hint : spec.kind ≠ .int := fun hk => by
        obtain ⟨n, hn, _⟩ := h.1 hk
        cases hn
      have hfloat : spec.kind ≠ .float := fun hk => by
        obtain ⟨q, hq, _⟩ := h.2 hk
        cases hq
      exact ⟨fun hk => absurd hk hint, fun hk => absurd hk hfloat⟩
  | none | int n | float x | strs items | secret s => exact h

/-- What a field holds before an audience is given the client id. -/
def ownValue (results : KeySpec → Option (Except ConfigIssue Value)) (spec : KeySpec) : Value :=
  ((typedValue (results spec)).map (sealed spec.attr)).getD (spec.default.getD .none)

theorem clientId_spec : ∃ spec ∈ registry, spec.attr = "client_id" := by
  simp [registry]

/-- A field is its own value, but an audience that is not set is the client id. -/
theorem field_complete (results : KeySpec → Option (Except ConfigIssue Value)) {spec : KeySpec}
    (hspec : spec ∈ registry) :
    (Config.mk (complete (wrapClientSecret (valuesOf results registry)))).field spec.attr =
      if spec.attr = "client_audience" ∧ ownValue results spec = .none then
        (Config.mk (complete (wrapClientSecret (valuesOf results registry)))).field "client_id"
      else some (ownValue results spec) := by
  have hlookup (s : KeySpec) (hs : s ∈ registry) :
      ((wrapClientSecret (valuesOf results registry)).lookup s.attr).getD (s.default.getD .none) =
        ownValue results s := by
    rw [lookup_wrapClientSecret, lookup_valuesOf attrs_nodup hs, ownValue]
  simp only [Config.field]
  rw [lookup_complete hspec, hlookup spec hspec]
  by_cases haudience : spec.attr = "client_audience" ∧ ownValue results spec = .none
  · rw [if_pos haudience, if_pos haudience]
    obtain ⟨s, hs, hid⟩ := clientId_spec
    have hother : ¬ (s.attr = "client_audience" ∧ ownValue results s = .none) := by
      simp [hid]
    rw [← hid, lookup_complete hs, hlookup s hs, if_neg hother, lookup_filled _ hs, hlookup s hs,
      Option.getD_some]
  · rw [if_neg haudience, if_neg haudience]

theorem audience_spec {spec : KeySpec} (hspec : spec ∈ registry)
    (hattr : spec.attr = "client_audience") : spec.kind = .str ∧ spec.secret = false := by
  have hall : ∀ spec ∈ registry, spec.attr = "client_audience" →
      spec.kind = .str ∧ spec.secret = false := by
    simp [registry]
  exact hall spec hspec hattr

theorem complete_valid (hresults : ∀ spec ∈ registry,
    keyResult p chain overrides spec = .ok (results spec)) :
    (Config.mk (complete (wrapClientSecret (valuesOf results registry)))).Valid := by
  intro spec hspec
  have hfield := field_complete results hspec
  split at hfield
  · next hattr =>
      have ⟨hkind, hsecret⟩ := audience_spec hspec hattr.1
      obtain ⟨s, hs, hid⟩ := clientId_spec
      rw [← hid, field_complete results hs, if_neg (by simp [hid])] at hfield
      refine ⟨ownValue results s, hfield, ⟨?_, ?_⟩, ?_⟩
      · simp [hkind]
      · simp [hkind]
      · simp [hsecret]
  · refine ⟨ownValue results spec, hfield, ?_, ?_⟩
    · rw [ownValue]
      cases hv : typedValue (results spec) with
      | none => exact defaults_admitted spec hspec
      | some v => exact admitted_sealed ((keyResult_sound hspec (hresults spec hspec)).1 v hv)
    · intro hsecret
      have ⟨hattr, _, hdefault⟩ := secret_spec hspec hsecret
      rw [ownValue]
      cases hv : typedValue (results spec) with
      | none => simp [hdefault]
      | some v =>
          obtain rfl | ⟨s, rfl⟩ := keyResult_secret hspec hsecret (hresults spec hspec) hv
          · simp [sealed]
          · simp [sealed, hattr]

theorem groupIssues_subset {group : Option String} {m : ClientAuthMethod}
    {raw : List (String × String)} {values : List (String × Value)} {names : List String} :
    groupIssues p group m raw values ⊆ knownIssues p names m := by
  intro issue hissue
  simp only [knownIssues, List.mem_append]
  rw [groupIssues] at hissue
  split at hissue
  · obtain hissue | hissue := List.mem_append.mp hissue
    · obtain ⟨key, hkey, rfl⟩ := List.mem_map.mp hissue
      exact .inl (.inr (List.mem_map_of_mem (List.mem_of_mem_filter hkey)))
    · split at hissue
      · exact .inr (List.mem_cons.mpr (.inl (List.mem_singleton.mp hissue)))
      · cases hissue
  · split at hissue
    · exact .inr (List.mem_cons_of_mem _ hissue)
    · cases hissue

theorem issues_subset (hresults : ∀ spec ∈ registry,
    keyResult p chain overrides spec = .ok (results spec)) (m : ClientAuthMethod) :
    (resolveRaw p chain overrides).issues ++ issuesOf results registry ⊆
      knownIssues p (chain.map Source.name) m := by
  intro issue hissue
  simp only [knownIssues, List.mem_append, List.mem_flatMap, List.mem_map]
  obtain hissue | hissue := List.mem_append.mp hissue
  · obtain ⟨source, hsource, h⟩ := issues_resolveRaw hissue
    exact .inl (.inl (.inl ⟨source.name, ⟨source, hsource, rfl⟩, h⟩))
  · obtain ⟨spec, hspec, h⟩ := List.mem_filterMap.mp hissue
    exact .inl (.inl (.inr ⟨spec, hspec, (keyResult_sound hspec (hresults spec hspec)).2 issue h⟩))

end Contained

/-- Where the build of a chain is contained. -/
theorem chain_contained_iff (p : Platform) (chain : List Source)
    (overrides : String → Option String) (request : Request) :
    Contained p (chain.map Source.name) request.clientAuthMethod
        (buildChain p chain overrides request) ↔
      ∀ spec ∈ registry, ∀ raw, supplied chain overrides spec.logical = some raw →
        ¬ Escapes p spec raw := by
  constructor
  · intro hcontained spec hspec raw hraw hescapes
    obtain ⟨error, herror⟩ := keyResult_error.mpr ⟨raw, hraw, hescapes⟩
    obtain ⟨e, he⟩ := buildChain_escapes request hspec herror
    rw [he] at hcontained
    exact hcontained
  · intro hquiet
    have hkeys (spec : KeySpec) (hspec : spec ∈ registry) :
        ¬ ∃ error, keyResult p chain overrides spec = .error error := by
      intro herror
      obtain ⟨raw, hraw, hescapes⟩ := keyResult_error.mp herror
      exact hquiet spec hspec raw hraw hescapes
    obtain ⟨results, hresults⟩ := exists_keyResults hkeys
    have hissues := issues_subset hresults request.clientAuthMethod
    rw [buildChain_eq hresults]
    simp only
    split
    · exact complete_valid hresults
    · next hfound => exact ⟨hfound, List.append_subset.mpr ⟨hissues, groupIssues_subset⟩⟩

/-- The sources that `build` asks. -/
def chainOf (environ : String → Option String) (sources : List Source) (env : Bool) : List Source :=
  sources ++ if env then [envSource environ "OIDC_" "env"] else []

/-- `Config.build` is contained exactly where `urlparse` accepts every URL it is given. -/
theorem build_contained_iff (p : Platform) (environ : String → Option String)
    (sources : List Source) (overrides : String → Option String) (env : Bool)
    (request : Request) :
    Contained p ((chainOf environ sources env).map Source.name) request.clientAuthMethod
        (build p environ sources overrides env request) ↔
      ∀ spec ∈ registry, ∀ raw,
        supplied (chainOf environ sources env) overrides spec.logical = some raw →
        ¬ Escapes p spec raw :=
  chain_contained_iff p (chainOf environ sources env) overrides request

/-- A discovery URL with an open bracket, and the error that escapes. -/
theorem open_bracket_escapes :
    let overrides := fun key => if key = "client.discovery_url" then some "https://[::1" else none
    let outcome := build asciiSettings (fun _ => none) [] overrides false {}
    outcome = .error "Invalid IPv6 URL" ∧ ¬ Contained asciiSettings [] .none outcome := by
  intro overrides outcome
  have houtcome : outcome = .error "Invalid IPv6 URL" := by decide +kernel
  refine ⟨houtcome, ?_⟩
  rw [houtcome]
  exact id

end IdentityModel.Py.Settings
