import IdentityModel.PyConfig

/-!
# What `Config.build` comes to

The value of a key is that of the first layer that supplies it. Each key is then typed by
itself; what is found wrong says nothing of the value. Only `urlparse` lets an exception
out.
-/
namespace IdentityModel.Py.Settings

open Url Results

/-- The string a key gets from a chain of sources that are asked for what remains. -/
def fromSources : List Source → List String → String → Option String
  | [], _, _ => none
  | source :: rest, remaining, key =>
      if remaining = [] then none
      else
        match source.resolve remaining with
        | .raised => fromSources rest remaining key
        | .mapping values =>
            match values key with
            | some (.str value) => if key ∈ remaining then some value else none
            | some .other => none
            | none => fromSources rest (remaining.filter fun k => values k = none) key

/-- The string a key gets: an override, or that of the first source that has it. -/
def supplied (chain : List Source) (overrides : String → Option String) (key : String) :
    Option String :=
  (overrides key).or (fromSources chain (logicalKeys.filter fun k => overrides k = none) key)

/-- What a source that answers has for the keys. -/
def found (values : String → Option Supplied) (keys : List String) : List (String × String) :=
  keys.filterMap fun key =>
    match values key with
    | some (.str value) => some (key, value)
    | _ => none

/-- What is wrong with the answer of a source. -/
def nonStrings (p : Platform) (name : String) (values : String → Option Supplied)
    (keys : List String) : List ConfigIssue :=
  (keys.filter fun key => values key = some .other).map (nonString p name)

section Resolution

variable {p : Platform} {chain : List Source} {overrides : String → Option String}

theorem lookup_found (values : String → Option Supplied) (key : String) (keys : List String) :
    (found values keys).lookup key =
      if key ∈ keys then
        match values key with
        | some (.str value) => some value
        | _ => none
      else none := by
  induction keys with
  | nil => rfl
  | cons k keys ih =>
      by_cases hk : key = k
      · subst hk
        rcases hvalue : values key with _ | (value | _) <;>
          simp [found, hvalue] at ih ⊢
        · exact ih
        · exact ih
      · have hne : (key == k) = false := beq_false_of_ne hk
        rcases hvalue : values k with _ | (value | _) <;>
          simpa [found, hvalue, List.lookup_cons, hne, hk] using ih

/-- The loop over what remains: a key that the source has is taken, whatever it has. -/
theorem takeKeys (p : Platform) (name : String) (values : String → Option Supplied)
    (keys : List String) {st : Resolving} (hnodup : st.remaining.Nodup) :
    keys.foldl (takeKey p name values) st =
      ⟨st.raw ++ found values keys, st.remaining.filter fun k => k ∉ keys ∨ values k = none,
        st.issues ++ nonStrings p name values keys⟩ := by
  induction keys generalizing st with
  | nil => simp [found, nonStrings]
  | cons key keys ih =>
      have herase (hvalue : values key ≠ none) :
          ((st.remaining.erase key).filter fun k => k ∉ keys ∨ values k = none) =
            st.remaining.filter fun k => k ∉ key :: keys ∨ values k = none := by
        rw [hnodup.erase_eq_filter, List.filter_filter]
        apply List.filter_congr
        intro k _
        by_cases hk : k = key
        · subst hk
          simp [hvalue]
        · simp [hk]
      rw [List.foldl_cons]
      rcases hvalue : values key with _ | (value | _)
      · have hstep : takeKey p name values st key = st := by simp only [takeKey, hvalue]
        rw [hstep, ih hnodup]
        have hfilter : (st.remaining.filter fun k => k ∉ keys ∨ values k = none) =
            st.remaining.filter fun k => k ∉ key :: keys ∨ values k = none := by
          apply List.filter_congr
          intro k _
          by_cases hk : k = key
          · subst hk
            simp [hvalue]
          · simp [hk]
        rw [hfilter]
        simp [found, nonStrings, hvalue]
      · have hstep : takeKey p name values st key =
            { st with
              raw := st.raw ++ [(key, value)]
              remaining := st.remaining.erase key } := by
          simp only [takeKey, hvalue]
        rw [hstep, ih (hnodup.erase key), herase (by simp [hvalue])]
        simp [found, nonStrings, hvalue]
      · have hstep : takeKey p name values st key =
            { st with
              remaining := st.remaining.erase key
              issues := st.issues ++ [nonString p name key] } := by
          simp only [takeKey, hvalue]
        rw [hstep, ih (hnodup.erase key), herase (by simp [hvalue])]
        simp [found, nonStrings, hvalue]

theorem consult_mapping {source : Source} {values : String → Option Supplied} {st : Resolving}
    (hnodup : st.remaining.Nodup) (hremaining : st.remaining ≠ [])
    (hvalues : source.resolve st.remaining = .mapping values) :
    consult p st source =
      ⟨st.raw ++ found values st.remaining, st.remaining.filter fun k => values k = none,
        st.issues ++ nonStrings p source.name values st.remaining⟩ := by
  have hfilter : (st.remaining.filter fun k => k ∉ st.remaining ∨ values k = none) =
      st.remaining.filter fun k => values k = none := by
    apply List.filter_congr
    intro k hk
    simp [hk]
  rw [consult, if_neg hremaining, hvalues]
  simp only [takeKeys p source.name values st.remaining hnodup, hfilter]

theorem consult_raised {source : Source} {st : Resolving} (hremaining : st.remaining ≠ [])
    (hraised : source.resolve st.remaining = .raised) :
    consult p st source = { st with issues := st.issues ++ [failedToResolve p source.name] } := by
  rw [consult, if_neg hremaining, hraised]

theorem fromSources_of_not_mem {key : String} {remaining : List String} (hkey : key ∉ remaining) :
    fromSources chain remaining key = none := by
  induction chain generalizing remaining with
  | nil => rfl
  | cons source rest ih =>
      rw [fromSources]
      by_cases hremaining : remaining = []
      · exact if_pos hremaining
      rw [if_neg hremaining]
      cases source.resolve remaining with
      | raised => exact ih hkey
      | mapping values =>
          rcases hvalue : values key with _ | (value | _)
          · simp only [hvalue]
            exact ih fun h => hkey (List.mem_of_mem_filter h)
          · simp only [hvalue, if_neg hkey]
          · simp only [hvalue]

/-- What is found in the end is what was found before, or what the sources still asked have. -/
theorem lookup_resolved (p : Platform) (chain : List Source) {st : Resolving}
    (hnodup : st.remaining.Nodup) (key : String) :
    (chain.foldl (consult p) st).raw.lookup key =
      (st.raw.lookup key).or (fromSources chain st.remaining key) := by
  induction chain generalizing st with
  | nil => simp [fromSources]
  | cons source rest ih =>
      rw [List.foldl_cons, fromSources]
      by_cases hremaining : st.remaining = []
      · have hstep : consult p st source = st := by rw [consult, if_pos hremaining]
        have hkey : key ∉ st.remaining := by simp [hremaining]
        rw [hstep, ih hnodup, fromSources_of_not_mem hkey, if_pos hremaining]
      · rw [if_neg hremaining]
        cases hanswer : source.resolve st.remaining with
        | raised =>
            rw [consult_raised hremaining hanswer]
            exact ih hnodup
        | mapping values =>
            rw [consult_mapping hnodup hremaining hanswer, ih (hnodup.filter _), List.lookup_append,
              lookup_found, Option.or_assoc]
            congr 1
            rcases hvalue : values key with _ | (value | _)
            · simp [hvalue]
            · have hkey : key ∉ st.remaining.filter fun k => values k = none := by simp [hvalue]
              rw [fromSources_of_not_mem hkey]
              simp [hvalue]
            · have hkey : key ∉ st.remaining.filter fun k => values k = none := by simp [hvalue]
              rw [fromSources_of_not_mem hkey]
              simp [hvalue]

theorem logicalKeys_nodup : logicalKeys.Nodup := by
  simp [logicalKeys, registry]

theorem remaining_overridden (overrides : String → Option String) :
    (overridden overrides).remaining.Nodup ∧ (overridden overrides).remaining ⊆ logicalKeys := by
  have hremaining : (overridden overrides).remaining =
      logicalKeys.filter fun key => overrides key = none := rfl
  rw [hremaining]
  exact ⟨logicalKeys_nodup.filter _, fun _ h => List.mem_of_mem_filter h⟩

theorem lookup_overridden {key : String} (hkey : key ∈ logicalKeys) :
    (overridden overrides).raw.lookup key = overrides key := by
  have hfound : (overridden overrides).raw = found (fun k => (overrides k).map .str) logicalKeys := by
    simp only [overridden, found]
    apply List.filterMap_congr
    intro k _
    cases overrides k <;> rfl
  rw [hfound, lookup_found, if_pos hkey]
  cases overrides key <;> rfl

theorem lookup_resolveRaw {key : String} (hkey : key ∈ logicalKeys) :
    (resolveRaw p chain overrides).raw.lookup key = supplied chain overrides key := by
  have hnodup := (remaining_overridden overrides).1
  rw [resolveRaw, lookup_resolved p chain hnodup, lookup_overridden hkey]
  rfl

/-- What the resolution of sources can find wrong. -/
def sourceIssues (p : Platform) (name : String) : List ConfigIssue :=
  failedToResolve p name :: logicalKeys.map (nonString p name)

theorem issues_consult {st : Resolving} {source : Source} {issue : ConfigIssue}
    (hnodup : st.remaining.Nodup) (hkeys : st.remaining ⊆ logicalKeys)
    (hissue : issue ∈ (consult p st source).issues) :
    issue ∈ st.issues ∨ issue ∈ sourceIssues p source.name := by
  by_cases hremaining : st.remaining = []
  · rw [consult, if_pos hremaining] at hissue
    exact .inl hissue
  cases hanswer : source.resolve st.remaining with
  | raised =>
      rw [consult_raised hremaining hanswer] at hissue
      simp only [List.mem_append, List.mem_singleton] at hissue
      exact hissue.imp_right fun h => List.mem_cons.mpr (.inl h)
  | mapping values =>
      rw [consult_mapping hnodup hremaining hanswer] at hissue
      simp only [nonStrings, List.mem_append, List.mem_map, List.mem_filter] at hissue
      obtain hissue | ⟨key, ⟨hkey, _⟩, rfl⟩ := hissue
      · exact .inl hissue
      · exact .inr (List.mem_cons.mpr (.inr (List.mem_map_of_mem (hkeys hkey))))

theorem remaining_consult (p : Platform) (source : Source) {st : Resolving} (hnodup : st.remaining.Nodup) :
    (consult p st source).remaining.Sublist st.remaining := by
  by_cases hremaining : st.remaining = []
  · rw [consult, if_pos hremaining]
  cases hanswer : source.resolve st.remaining with
  | raised => rw [consult_raised hremaining hanswer]
  | mapping values =>
      rw [consult_mapping hnodup hremaining hanswer]
      exact List.filter_sublist

theorem issues_resolved {st : Resolving} (hnodup : st.remaining.Nodup)
    (hkeys : st.remaining ⊆ logicalKeys) {issue : ConfigIssue}
    (hissue : issue ∈ (chain.foldl (consult p) st).issues) :
    issue ∈ st.issues ∨ ∃ source ∈ chain, issue ∈ sourceIssues p source.name := by
  induction chain generalizing st with
  | nil => exact .inl hissue
  | cons source rest ih =>
      have hsub := remaining_consult p source hnodup
      obtain h | ⟨s, hs, h⟩ := ih (hsub.nodup hnodup) (fun _ hk => hkeys (hsub.subset hk)) hissue
      · exact (issues_consult hnodup hkeys h).imp_right fun h => ⟨source, List.mem_cons_self, h⟩
      · exact .inr ⟨s, List.mem_cons_of_mem _ hs, h⟩

theorem issues_resolveRaw {issue : ConfigIssue}
    (hissue : issue ∈ (resolveRaw p chain overrides).issues) :
    ∃ source ∈ chain, issue ∈ sourceIssues p source.name := by
  have ⟨hnodup, hkeys⟩ := remaining_overridden overrides
  obtain h | h := issues_resolved hnodup hkeys hissue
  · simp [overridden] at h
  · exact h

end Resolution

/-- A number that a key admits. -/
def InBounds (spec : KeySpec) (q : ℚ) : Prop :=
  (∀ lo ∈ spec.lo, if spec.loExclusive then lo.value < q else lo.value ≤ q) ∧
    ∀ hi ∈ spec.hi, q ≤ hi.value

/-- A value within what the registry says of its key. -/
def Admitted (spec : KeySpec) (v : Value) : Prop :=
  (spec.kind = .int → ∃ n : ℤ, v = .int n ∧ InBounds spec n) ∧
    (spec.kind = .float → ∃ q, v = .float (.finite q) ∧ InBounds spec q)

/-- What can be wrong with the value of a key. -/
def keyIssues (spec : KeySpec) : List ConfigIssue :=
  (["value is empty or whitespace-only", "value is not a valid number",
      "value is not a finite number", "value is not an absolute URL"] ++
    (spec.lo.toList.flatMap fun lo =>
      ["value must be greater than " ++ lo.text, "value is below the minimum " ++ lo.text]) ++
    spec.hi.toList.map fun hi => "value is above the maximum " ++ hi.text).map (invalid spec)

section Typing

variable {p : Platform} {spec : KeySpec}

theorem outOfBounds_eq_none {q : ℚ} : outOfBounds spec q = none ↔ InBounds spec q := by
  have hmax : outOfBounds.aboveMaximum spec q = none ↔ ∀ hi ∈ spec.hi, q ≤ hi.value := by
    cases hhi : spec.hi <;> simp [outOfBounds.aboveMaximum, hhi]
  cases hlo : spec.lo with
  | none => simp [outOfBounds, InBounds, hlo, hmax]
  | some lo =>
      by_cases hexclusive : spec.loExclusive = true
      · by_cases hq : q ≤ lo.value
        · simp [outOfBounds, InBounds, hlo, hexclusive, hq, not_lt.mpr hq]
        · simp [outOfBounds, InBounds, hlo, hexclusive, hq, not_le.mp hq, hmax]
      · by_cases hq : q < lo.value
        · simp [outOfBounds, InBounds, hlo, hexclusive, hq, not_le.mpr hq]
        · simp [outOfBounds, InBounds, hlo, hexclusive, hq, not_lt.mp hq, hmax]

theorem outOfBounds_mem {q : ℚ} {message : String} (h : outOfBounds spec q = some message) :
    invalid spec message ∈ keyIssues spec := by
  have hmax (h : outOfBounds.aboveMaximum spec q = some message) :
      invalid spec message ∈ keyIssues spec := by
    rw [outOfBounds.aboveMaximum] at h
    split at h
    · next hi hhi =>
        split at h
        · obtain rfl := Option.some.inj h
          simp [keyIssues, hhi]
        · cases h
    · cases h
  rw [outOfBounds] at h
  split at h
  · next lo hlo =>
      split at h
      · obtain rfl := Option.some.inj h
        simp [keyIssues, hlo]
      · split at h
        · obtain rfl := Option.some.inj h
          simp [keyIssues, hlo]
        · exact hmax h
  · exact hmax h

theorem checkBounds_ok {q : ℚ} {value v : Value} (h : checkBounds spec q value = .ok v) :
    v = value ∧ InBounds spec q := by
  rw [checkBounds] at h
  split at h
  · cases h
  · next hbounds => exact ⟨(Except.ok.inj h).symm, outOfBounds_eq_none.mp hbounds⟩

theorem checkBounds_issue {q : ℚ} {value : Value} {issue : ConfigIssue}
    (h : checkBounds spec q value = .error issue) : issue ∈ keyIssues spec := by
  rw [checkBounds] at h
  split at h
  · next message hbounds =>
      obtain rfl := Except.error.inj h
      exact outOfBounds_mem hbounds
  · cases h

theorem mem_keyIssues {message : String}
    (h : message ∈ ["value is empty or whitespace-only", "value is not a valid number",
      "value is not a finite number", "value is not an absolute URL"]) :
    invalid spec message ∈ keyIssues spec :=
  List.mem_map_of_mem (List.mem_append_left _ (List.mem_append_left _ h))

theorem parseNumber_ok {text : List Char} {v : Value} (h : parseNumber p spec text = .ok v) :
    Admitted spec v := by
  rw [parseNumber] at h
  split at h
  · next hint =>
      split at h
      · cases h
      · next n hn =>
          obtain ⟨rfl, hbounds⟩ := checkBounds_ok h
          exact ⟨fun _ => ⟨n, rfl, hbounds⟩, fun hfloat => by simp [hint] at hfloat⟩
  · next hint =>
      split at h
      · cases h
      · next q hq =>
          obtain ⟨rfl, hbounds⟩ := checkBounds_ok h
          exact ⟨fun h => absurd h hint, fun _ => ⟨q, rfl, hbounds⟩⟩
      · cases h

theorem parseNumber_issue {text : List Char} {issue : ConfigIssue}
    (h : parseNumber p spec text = .error issue) : issue ∈ keyIssues spec := by
  rw [parseNumber] at h
  split at h
  · split at h
    · obtain rfl := Except.error.inj h
      exact mem_keyIssues (by simp)
    · exact checkBounds_issue h
  · split at h
    · obtain rfl := Except.error.inj h
      exact mem_keyIssues (by simp)
    · exact checkBounds_issue h
    · obtain rfl := Except.error.inj h
      exact mem_keyIssues (by simp)

/-- `urlparse` raises on a value. -/
def Escapes (p : Platform) (spec : KeySpec) (raw : String) : Prop :=
  spec.kind = .url ∧ pyStrip raw.toList ≠ [] ∧
    ∀ parsed, urlparse p.urls (String.ofList (pyStrip raw.toList)) ≠ .ok parsed

theorem parse_url {raw : String} (hkind : spec.kind = .url) (htext : pyStrip raw.toList ≠ []) :
    parse p spec raw = parseUrl p spec (pyStrip raw.toList) := by
  simp only [parse, hkind, if_neg htext]

theorem parse_empty {raw : String} (hkind : spec.kind ≠ .strlist) (htext : pyStrip raw.toList = []) :
    parse p spec raw = .ok (.error (invalid spec "value is empty or whitespace-only")) := by
  cases h : spec.kind with
  | strlist => exact absurd h hkind
  | str | int | float | url => simp only [parse, h, if_pos htext]

theorem parse_number {raw : String} (hkind : spec.kind = .int ∨ spec.kind = .float)
    (htext : pyStrip raw.toList ≠ []) :
    parse p spec raw = .ok (parseNumber p spec (pyStrip raw.toList)) := by
  obtain hkind | hkind := hkind
  · simp only [parse, hkind, if_neg htext]
  · simp only [parse, hkind, if_neg htext]

theorem parse_str {raw : String} (hkind : spec.kind = .str) (htext : pyStrip raw.toList ≠ []) :
    parse p spec raw = .ok (.ok (.str raw)) := by
  simp only [parse, hkind, if_neg htext]

theorem parse_strlist {raw : String} (hkind : spec.kind = .strlist) :
    parse p spec raw = .ok (.ok (.strs (stringItems raw))) := by
  simp only [parse, hkind]

/-- What comes of a value that does not escape: an admitted value, or a known issue. -/
def Sound (spec : KeySpec) : Except ConfigIssue Value → Prop
  | .ok v => Admitted spec v ∧ (spec.kind = .str → ∃ s, v = .str s)
  | .error issue => issue ∈ keyIssues spec

theorem parseUrl_sound {text : List Char} {result : Except ConfigIssue Value}
    (hkind : spec.kind = .url) (h : parseUrl p spec text = .ok result) : Sound spec result := by
  rw [parseUrl] at h
  split at h
  · cases h
  · split at h
    · obtain rfl := Except.ok.inj h
      exact mem_keyIssues (by simp)
    · obtain rfl := Except.ok.inj h
      simp [Sound, Admitted, hkind]

theorem parse_sound {raw : String} {result : Except ConfigIssue Value}
    (h : parse p spec raw = .ok result) : Sound spec result := by
  by_cases hlist : spec.kind = .strlist
  · rw [parse_strlist hlist] at h
    obtain rfl := Except.ok.inj h
    simp [Sound, Admitted, hlist]
  by_cases htext : pyStrip raw.toList = []
  · rw [parse_empty hlist htext] at h
    obtain rfl := Except.ok.inj h
    exact mem_keyIssues (by simp)
  cases hkind : spec.kind with
  | strlist => exact absurd hkind hlist
  | str =>
      rw [parse_str hkind htext] at h
      obtain rfl := Except.ok.inj h
      simp [Sound, Admitted, hkind]
  | url => exact parseUrl_sound hkind (parse_url hkind htext ▸ h)
  | int | float =>
      rw [parse_number (by simp [hkind]) htext] at h
      obtain rfl := Except.ok.inj h
      cases hnumber : parseNumber p spec (pyStrip raw.toList) with
      | ok v => exact ⟨parseNumber_ok hnumber, by simp [hkind]⟩
      | error issue => exact parseNumber_issue hnumber

theorem parse_escapes (p : Platform) (spec : KeySpec) (raw : String) :
    (∃ error, parse p spec raw = .error error) ↔ Escapes p spec raw := by
  constructor
  · rintro ⟨error, h⟩
    by_cases hlist : spec.kind = .strlist
    · rw [parse_strlist hlist] at h
      cases h
    by_cases htext : pyStrip raw.toList = []
    · rw [parse_empty hlist htext] at h
      cases h
    cases hkind : spec.kind with
    | strlist => exact absurd hkind hlist
    | str =>
        rw [parse_str hkind htext] at h
        cases h
    | int | float =>
        rw [parse_number (by simp [hkind]) htext] at h
        cases h
    | url =>
        refine ⟨hkind, htext, ?_⟩
        intro parsed hparsed
        rw [parse_url hkind htext, parseUrl, hparsed] at h
        simp only at h
        split at h <;> cases h
  · rintro ⟨hkind, htext, hraises⟩
    rw [parse_url hkind htext, parseUrl]
    cases hparsed : urlparse p.urls (String.ofList (pyStrip raw.toList)) with
    | error e => exact ⟨e, rfl⟩
    | ok parsed => exact absurd hparsed (hraises parsed)

end Typing

/-- A key typed by itself; nothing comes of a key that is absent and has no default. -/
def typed (p : Platform) (spec : KeySpec) : Option String →
    Except String (Option (Except ConfigIssue Value))
  | some raw => (parse p spec raw).map some
  | none => .ok (spec.default.map .ok)

def typedValue : Option (Except ConfigIssue Value) → Option Value
  | some (.ok value) => some value
  | _ => none

def typedIssue : Option (Except ConfigIssue Value) → Option ConfigIssue
  | some (.error issue) => some issue
  | _ => none

/-- The values of keys that are typed. -/
def valuesOf (results : KeySpec → Option (Except ConfigIssue Value)) (specs : List KeySpec) :
    List (String × Value) :=
  specs.filterMap fun spec => (typedValue (results spec)).map fun v => (spec.attr, v)

def issuesOf (results : KeySpec → Option (Except ConfigIssue Value)) (specs : List KeySpec) :
    List ConfigIssue :=
  specs.filterMap fun spec => typedIssue (results spec)

section Loop

theorem parseKey_eq (p : Platform) (raw : List (String × String)) (st : Building) (spec : KeySpec) :
    parseKey p raw st spec = (typed p spec (raw.lookup spec.logical)).map fun result =>
      ⟨st.values ++ valuesOf (fun _ => result) [spec], st.issues ++ issuesOf (fun _ => result) [spec]⟩ := by
  rw [parseKey]
  cases raw.lookup spec.logical with
  | none =>
      cases hdefault : spec.default with
      | none => simp [typed, hdefault, valuesOf, issuesOf, typedValue, typedIssue, Except.map]
      | some v => simp [typed, hdefault, valuesOf, issuesOf, typedValue, typedIssue, Except.map]
  | some text =>
      rcases hparse : parse p spec text with e | (issue | v) <;>
        simp [typed, hparse, valuesOf, issuesOf, typedValue, typedIssue, Except.map]

theorem parseKeys_ok (p : Platform) (raw : List (String × String)) {specs : List KeySpec}
    {results : KeySpec → Option (Except ConfigIssue Value)}
    (hresults : ∀ spec ∈ specs, typed p spec (raw.lookup spec.logical) = .ok (results spec))
    (st : Building) :
    specs.foldlM (parseKey p raw) st =
      .ok ⟨st.values ++ valuesOf results specs, st.issues ++ issuesOf results specs⟩ := by
  induction specs generalizing st with
  | nil => simp [valuesOf, issuesOf, pure, Except.pure]
  | cons spec specs ih =>
      have hspec := hresults spec List.mem_cons_self
      have hrest := ih fun s hs => hresults s (List.mem_cons_of_mem _ hs)
      rw [List.foldlM_cons, parseKey_eq, hspec]
      simp only [Except.map, Bind.bind, Except.bind, hrest]
      cases hresult : results spec with
      | none => simp [valuesOf, issuesOf, hresult, typedValue, typedIssue]
      | some r => cases r <;> simp [valuesOf, issuesOf, hresult, typedValue, typedIssue]

theorem parseKeys_error (p : Platform) (raw : List (String × String)) {specs : List KeySpec}
    (hescapes : ∃ spec ∈ specs, ∃ error, typed p spec (raw.lookup spec.logical) = .error error)
    (st : Building) : ∃ error, specs.foldlM (parseKey p raw) st = .error error := by
  induction specs generalizing st with
  | nil => simp at hescapes
  | cons spec specs ih =>
      rw [List.foldlM_cons, parseKey_eq]
      cases hspec : typed p spec (raw.lookup spec.logical) with
      | error e => exact ⟨e, rfl⟩
      | ok result =>
          obtain ⟨s, hs, e, he⟩ := hescapes
          obtain rfl | hs := List.mem_cons.mp hs
          · rw [hspec] at he
            cases he
          · exact ih ⟨s, hs, e, he⟩ _

theorem lookup_cons_of_ne {β : Type} {a key : String} {b : β} {l : List (String × β)}
    (h : a ≠ key) : ((key, b) :: l).lookup a = l.lookup a := by
  rw [List.lookup_cons, beq_false_of_ne h]

theorem lookup_valuesOf {results : KeySpec → Option (Except ConfigIssue Value)}
    {specs : List KeySpec} (hnodup : (specs.map KeySpec.attr).Nodup) {spec : KeySpec}
    (hspec : spec ∈ specs) :
    (valuesOf results specs).lookup spec.attr = typedValue (results spec) := by
  induction specs with
  | nil => cases hspec
  | cons s specs ih =>
      have ⟨hs, hrest⟩ := List.nodup_cons.mp hnodup
      have hcons : valuesOf results (s :: specs) =
          valuesOf results [s] ++ valuesOf results specs := by
        simp only [valuesOf, ← List.filterMap_append, List.singleton_append]
      rw [hcons, List.lookup_append]
      obtain rfl | hspec := List.mem_cons.mp hspec
      · have hnone : (valuesOf results specs).lookup spec.attr = none := by
          rw [List.lookup_eq_none_iff]
          intro v hv
          obtain ⟨t, ht, hvalue⟩ := List.mem_filterMap.mp hv
          obtain ⟨w, _, rfl⟩ := Option.map_eq_some_iff.mp hvalue
          have hne : spec.attr ≠ t.attr := fun h => hs (h ▸ List.mem_map_of_mem ht)
          simpa using hne
        rw [hnone, Option.or_none]
        cases hresult : typedValue (results spec) <;> simp [valuesOf, hresult]
      · have hne : spec.attr ≠ s.attr := fun h => hs (h ▸ List.mem_map_of_mem hspec)
        rw [ih hrest hspec]
        cases hresult : typedValue (results s) <;>
          simp [valuesOf, hresult, lookup_cons_of_ne hne]

end Loop

/-- A value as its field holds it. -/
def sealed (attr : String) : Value → Value
  | .str s => if attr = "client_secret" then .secret s else .str s
  | v => v

/-- The fields still unset are filled. -/
def filled (values : List (String × Value)) : List (String × Value) :=
  registry.foldl (fun values spec =>
    if (values.lookup spec.attr).isSome then values
    else values ++ [(spec.attr, spec.default.getD .none)]) values

section Fields

variable {values : List (String × Value)}

theorem lookup_map_value (g : String → Value → Value) (values : List (String × Value))
    (attr : String) :
    (values.map fun v => (v.1, g v.1 v.2)).lookup attr = (values.lookup attr).map (g attr) := by
  induction values with
  | nil => rfl
  | cons v values ih =>
      rcases v with ⟨key, v⟩
      by_cases h : attr = key
      · subst h
        simp
      · rw [List.map_cons, lookup_cons_of_ne h, lookup_cons_of_ne h, ih]

theorem lookup_wrapClientSecret (attr : String) :
    (wrapClientSecret values).lookup attr = (values.lookup attr).map (sealed attr) := by
  have hwrap : wrapClientSecret values = values.map fun v => (v.1, sealed v.1 v.2) := by
    apply List.map_congr_left
    intro v _
    rcases v with ⟨attr, _ | s | _ | _ | _ | _⟩ <;> simp only [sealed]
    split <;> rfl
  rw [hwrap, lookup_map_value]

theorem lookup_fill (attr : String) (specs : List KeySpec) (values : List (String × Value)) :
    (specs.foldl (fun values spec =>
      if (values.lookup spec.attr).isSome then values
      else values ++ [(spec.attr, spec.default.getD .none)]) values).lookup attr =
      (values.lookup attr).or
        ((specs.find? fun spec => spec.attr = attr).map fun spec => spec.default.getD .none) := by
  induction specs generalizing values with
  | nil => simp
  | cons spec specs ih =>
      rw [List.foldl_cons, ih]
      by_cases hattr : spec.attr = attr
      · subst hattr
        cases hvalue : values.lookup spec.attr <;> simp [hvalue, List.lookup_append]
      · have hne : attr ≠ spec.attr := fun h => hattr h.symm
        cases values.lookup spec.attr <;>
          simp [hattr, List.lookup_append, lookup_cons_of_ne hne]

theorem attrs_nodup : (registry.map KeySpec.attr).Nodup := by
  simp [registry]

/-- Where names are unique, an element is found under its own. -/
theorem find?_of_nodup_map {α β : Type} [DecidableEq β] {f : α → β} :
    ∀ {xs : List α}, (xs.map f).Nodup → ∀ x ∈ xs, (xs.find? fun y => f y = f x) = some x
  | [], _, _, hx => by cases hx
  | y :: ys, hnodup, x, hx => by
      rw [List.map_cons, List.nodup_cons] at hnodup
      obtain rfl | hx := List.mem_cons.mp hx
      · rw [List.find?_cons_of_pos (by simp)]
      · have hne : f y ≠ f x := fun heq => hnodup.1 (heq ▸ List.mem_map_of_mem hx)
        rw [List.find?_cons_of_neg (by simpa using hne)]
        exact find?_of_nodup_map hnodup.2 x hx

theorem find_attr {spec : KeySpec} (hspec : spec ∈ registry) :
    (registry.find? fun s => s.attr = spec.attr) = some spec :=
  find?_of_nodup_map attrs_nodup spec hspec

theorem lookup_filled (values : List (String × Value)) {spec : KeySpec} (hspec : spec ∈ registry) :
    (filled values).lookup spec.attr =
      some ((values.lookup spec.attr).getD (spec.default.getD .none)) := by
  rw [filled, lookup_fill, find_attr hspec]
  cases values.lookup spec.attr <;> rfl

/-- A field is what was found or its default; an audience that is not set is the client id. -/
theorem lookup_complete {spec : KeySpec} (hspec : spec ∈ registry) :
    (complete values).lookup spec.attr =
      if spec.attr = "client_audience" ∧
          (values.lookup spec.attr).getD (spec.default.getD .none) = .none then
        some (((filled values).lookup "client_id").getD .none)
      else some ((values.lookup spec.attr).getD (spec.default.getD .none)) := by
  have hfilled := lookup_filled values hspec
  have hcomplete : complete values =
      if isUnset (filled values) "client_audience" then
        (filled values).map fun v =>
          (v.1, if v.1 = "client_audience" then ((filled values).lookup "client_id").getD .none
            else v.2)
      else filled values := by
    rw [complete, filled]
    split
    · apply List.map_congr_left
      intro v _
      split <;> rfl
    · rfl
  rw [hcomplete]
  by_cases hattr : spec.attr = "client_audience"
  · rw [hattr] at hfilled ⊢
    by_cases hnone : (values.lookup "client_audience").getD (spec.default.getD .none) = .none
    · have hunset : isUnset (filled values) "client_audience" = true := by
        simp [isUnset, hfilled, hnone]
      rw [if_pos hunset, if_pos ⟨rfl, hnone⟩, lookup_map_value fun attr v =>
        if attr = "client_audience" then ((filled values).lookup "client_id").getD .none else v,
        hfilled]
      simp
    · have hset : isUnset (filled values) "client_audience" = false := by
        simp [isUnset, hfilled, hnone]
      have hcond : ¬ ("client_audience" = "client_audience" ∧
          (values.lookup "client_audience").getD (spec.default.getD .none) = .none) :=
        fun h => hnone h.2
      rw [if_neg hcond, hset]
      exact hfilled
  · have hcond : ¬ (spec.attr = "client_audience" ∧
        (values.lookup spec.attr).getD (spec.default.getD .none) = .none) := fun h => hattr h.1
    rw [if_neg hcond]
    split
    · rw [lookup_map_value fun attr v =>
        if attr = "client_audience" then ((filled values).lookup "client_id").getD .none else v,
        hfilled]
      simp [hattr]
    · exact hfilled

end Fields

end IdentityModel.Py.Settings
