import IdentityModel.GoClaims
import IdentityModel.GoJwks
import IdentityModel.RustClaims
import IdentityModel.Words

/-!
# Required scopes in Python, Go and Rust

`require_scopes` of `core/claims_validation.py`, `RequireScopes` of
`go/pkg/jwt/claims_validation.go` and `require_scopes` of
`rust/src/jwt/claims_validation.rs` over the claims of one document. The Python
claims are the decoded object itself. A string is split at whitespace, which in
Go and Rust is the Unicode property and in Python also takes in the four
information separators.
-/
namespace IdentityModel.Scopes

open Combinators Words

def lacking (granted required : List String) : List String :=
  required.filter fun scope => scope ∉ granted

def missingScopes (missing : List String) : String :=
  "missing required scope(s): " ++ ", ".intercalate missing

namespace Py

/-- `str.isspace`. -/
def isSpace (c : Char) : Bool := GoJwks.isSpace c || (0x1C ≤ c.toNat && c.toNat ≤ 0x1F)

/-- `_granted_scopes`. -/
def grantedScopes (claims : Json) : List String :=
  let scope := claims.get "scope"
  let raw :=
    match scope with
    | .null => claims.get "scp"
    | .str "" => claims.get "scp"
    | _ => scope
  match raw with
  | .str s => words isSpace s
  | .arr elems => elems.filterMap Json.str?
  | _ => []

/-- `require_scopes`; the error is the text of its `ValueError`. -/
def requireScopes (scopes : List String) : Except String (Combinators.Py.ClaimsValidator Json) :=
  if scopes = [] then .error "require_scopes needs at least one scope"
  else
    .ok fun claims =>
      let missing := lacking (grantedScopes claims) scopes
      if missing ≠ [] then .error (.claimsValidationError (missingScopes missing) (some "scope"))
      else .ok ()

end Py

namespace Go

/-- A number beyond the range of a `float64`. -/
def beyondFloat (n : Number) : Bool :=
  match Float64.ofRat n.value with
  | .finite _ => false
  | _ => true

mutual

/-- `json.Unmarshal` into an `any` fails: some number is out of range. -/
def overflows : Json → Bool
  | .num n => beyondFloat n
  | .arr elems => anyOverflows elems
  | .obj members => anyMemberOverflows members
  | _ => false

def anyOverflows : List Json → Bool
  | [] => false
  | j :: js => overflows j || anyOverflows js

def anyMemberOverflows : List (String × Json) → Bool
  | [] => false
  | (_, j) :: ms => overflows j || anyMemberOverflows ms

end

/-- `decodeClaim`: the value, `null` for nil, and the presence. -/
def decodeClaim (claims : GoClaims.Claims) (name : String) : Json × Bool :=
  match claims.getClaim name with
  | none => (.null, false)
  | some raw => if overflows raw then (.null, true) else (raw, true)

/-- `scopesFromValue`; `strings.Fields` splits at `unicode.IsSpace`. -/
def scopesFromValue : Json → List String
  | .str s => words GoJwks.isSpace s
  | .arr elems => elems.filterMap Json.str?
  | _ => []

/-- `grantedScopes`. -/
def grantedScopes (claims : GoClaims.Claims) : List String :=
  let value :=
    match decodeClaim claims "scope" with
    | (_, false) => (decodeClaim claims "scp").1
    | (.null, _) => (decodeClaim claims "scp").1
    | (.str "", _) => (decodeClaim claims "scp").1
    | (value, _) => value
  scopesFromValue value

/-- `RequireScopes`. -/
def requireScopes (scopes : List String) : Except String (Combinators.Go.ClaimsValidator GoClaims.Claims) :=
  if scopes = [] then .error "jwt: RequireScopes needs at least one scope"
  else
    .ok fun claims =>
      let missing := lacking (grantedScopes claims) scopes
      if missing ≠ [] then some (.claimsValidation (missingScopes missing) "scope") else none

end Go

namespace Rust

/-- `granted_scopes`; `split_whitespace` splits at `char::is_whitespace`. -/
def grantedScopes (claims : RustClaims.Claims) : List String :=
  let scope := claims.get "scope"
  let fallThrough :=
    match scope with
    | none => true
    | some (.str s) => s.isEmpty
    | some _ => false
  match if fallThrough then claims.get "scp" else scope with
  | some (.str s) => words GoJwks.isSpace s
  | some (.arr items) => items.filterMap Json.str?
  | _ => []

/-- `require_scopes`. -/
def requireScopes (scopes : List String) :
    Except Rust.IdentityError (Combinators.Rust.ClaimsValidator RustClaims.Claims) :=
  if scopes = [] then .error (.configuration "require_scopes needs at least one scope")
  else
    .ok fun claims =>
      let missing := lacking (grantedScopes claims) scopes
      if missing = [] then .ok ()
      else .error (.claimsValidation (missingScopes missing) (some "scope"))

end Rust

/-- Null or the empty string; an absent claim reads as null. -/
def isUnset : Json → Bool
  | .null => true
  | .str s => s = ""
  | _ => false

/-- The claim the scopes are read from: `scope`, or `scp` when that is unset. -/
def source (payload : Json) : Json :=
  if isUnset (payload.get "scope") then payload.get "scp" else payload.get "scope"

/-- What a claim grants: the words of a string, the strings of an array. -/
def grants : Json → List String
  | .str s => words GoJwks.isSpace s
  | .arr elems => elems.filterMap Json.str?
  | _ => []

/-- The scopes a document grants. -/
def granted (payload : Json) : List String := grants (source payload)

variable {fmt : GoClaims.Fmt} {lib : RustClaims.Library} {payload : Json} {c : GoClaims.Claims}
  {rc : RustClaims.Claims} {required : List String}

theorem lacking_eq_nil {scopes : List String} :
    lacking scopes required = [] ↔ ∀ s ∈ required, s ∈ scopes := by
  simp [lacking, List.filter_eq_nil_iff]

/-- Python reads the same claim. -/
theorem py_grantedScopes (payload : Json) :
    Py.grantedScopes payload =
      match source payload with
      | .str s => words Py.isSpace s
      | .arr elems => elems.filterMap Json.str?
      | _ => [] := by
  unfold Py.grantedScopes source
  cases payload.get "scope" with
  | str s =>
      by_cases hs : s = ""
      · subst hs
        rfl
      · simp [isUnset, hs]
  | _ => rfl

/-- The claims Go decodes, each of them also by itself. -/
structure GoDecodes (fmt : GoClaims.Fmt) (payload : Json) (c : GoClaims.Claims) : Prop where
  parsed : GoClaims.parseClaims fmt payload = .ok c
  decoded : ∀ name j, payload.member? name = some j → Go.overflows j = false

theorem go_decodeClaim (h : GoDecodes fmt payload c) (name : String) :
    Go.decodeClaim c name = (payload.get name, (payload.member? name).isSome) := by
  obtain ⟨d, all, -, hall, rfl⟩ := GoClaims.parseClaims_ok h.parsed
  have hraw : GoClaims.Claims.getClaim { d with all := all, extra := GoClaims.extraOf all } name =
      payload.member? name := GoClaims.unmarshalMap_lookup hall name
  unfold Go.decodeClaim Json.get
  rw [hraw]
  cases hj : payload.member? name with
  | none => rfl
  | some j => simp [h.decoded name j hj]

theorem go_grantedScopes (h : GoDecodes fmt payload c) : Go.grantedScopes c = granted payload := by
  have hread : Go.grantedScopes c = Go.scopesFromValue (source payload) := by
    unfold Go.grantedScopes source
    rw [go_decodeClaim h "scope", go_decodeClaim h "scp"]
    cases hscope : payload.member? "scope" with
    | none => simp [Json.get, hscope, isUnset]
    | some j =>
        cases j with
        | str s =>
            by_cases hs : s = ""
            · subst hs
              simp [Json.get, hscope, isUnset]
            · simp [Json.get, hscope, isUnset, hs]
        | _ => simp [Json.get, hscope, isUnset]
  rw [hread]
  cases hs : source payload <;> simp [Go.scopesFromValue, granted, grants, hs]

theorem rust_get (h : RustClaims.Claims.fromValue lib payload = .ok rc) {name : String}
    (hname : name ∉ RustClaims.modelledClaims) : rc.get name = payload.member? name := by
  obtain ⟨members, rfl, -, rfl⟩ := RustClaims.fromValue_ok.mp h
  rw [RustClaims.claimsOf_get hname, Json.lookup_insertAll]

/-- Rust reads the same claim unless `scope` is null, which grants nothing there. -/
theorem rust_grantedScopes (h : RustClaims.Claims.fromValue lib payload = .ok rc) :
    Rust.grantedScopes rc =
      match payload.member? "scope" with
      | some .null => []
      | _ => granted payload := by
  unfold Rust.grantedScopes granted source
  rw [rust_get h (by decide), rust_get h (by decide)]
  have hscp : ∀ o : Option Json, (match o with
      | some (.str s) => words GoJwks.isSpace s
      | some (.arr items) => items.filterMap Json.str?
      | _ => []) = grants (o.getD .null) := by
    intro o
    cases o with
    | none => rfl
    | some j => cases j <;> rfl
  cases hscope : payload.member? "scope" with
  | none => simp [hscp, Json.get, hscope, isUnset]
  | some j =>
      cases j with
      | str s =>
          by_cases hs : s = ""
          · subst hs
            simp [hscp, Json.get, hscope, isUnset]
          · simp [Json.get, hscope, isUnset, hs, grants]
      | _ => simp [Json.get, hscope, isUnset, grants]

def pyAccepts (payload : Json) (required : List String) : Prop :=
  ∃ v, Py.requireScopes required = .ok v ∧ v payload = .ok ()

def goAccepts (c : GoClaims.Claims) (required : List String) : Prop :=
  ∃ v, Go.requireScopes required = .ok v ∧ v c = none

def rustAccepts (rc : RustClaims.Claims) (required : List String) : Prop :=
  ∃ v, Rust.requireScopes required = .ok v ∧ v rc = .ok ()

theorem pyAccepts_iff (hne : required ≠ []) :
    pyAccepts payload required ↔ ∀ s ∈ required, s ∈ Py.grantedScopes payload := by
  simp only [pyAccepts, Py.requireScopes, hne, if_false, Except.ok.injEq, exists_eq_left']
  rw [← lacking_eq_nil]
  by_cases hl : lacking (Py.grantedScopes payload) required = [] <;> simp [hl]

theorem goAccepts_iff (hne : required ≠ []) :
    goAccepts c required ↔ ∀ s ∈ required, s ∈ Go.grantedScopes c := by
  simp only [goAccepts, Go.requireScopes, hne, if_false, Except.ok.injEq, exists_eq_left']
  rw [← lacking_eq_nil]
  by_cases hl : lacking (Go.grantedScopes c) required = [] <;> simp [hl]

theorem rustAccepts_iff (hne : required ≠ []) :
    rustAccepts rc required ↔ ∀ s ∈ required, s ∈ Rust.grantedScopes rc := by
  simp only [rustAccepts, Rust.requireScopes, hne, if_false, Except.ok.injEq, exists_eq_left']
  rw [← lacking_eq_nil]
  by_cases hl : lacking (Rust.grantedScopes rc) required = [] <;> simp [hl]

/-- All three accept exactly when every required scope is granted. -/
structure Agree (payload : Json) (c : GoClaims.Claims) (rc : RustClaims.Claims)
    (required : List String) : Prop where
  py : pyAccepts payload required ↔ ∀ s ∈ required, s ∈ granted payload
  go : goAccepts c required ↔ ∀ s ∈ required, s ∈ granted payload
  rust : rustAccepts rc required ↔ ∀ s ∈ required, s ∈ granted payload

/-- The text the scopes are read from holds no information separator. -/
def NoSeparators (payload : Json) : Prop :=
  ∀ s, source payload = .str s → ∀ c ∈ s.toList, ¬ (0x1C ≤ c.toNat ∧ c.toNat ≤ 0x1F)

/-- A null `scope` stands beside an `scp` that grants nothing. -/
def NullGrantsNothing (payload : Json) : Prop :=
  payload.member? "scope" = some .null → grants (payload.get "scp") = []

theorem isSpace_of_separator {c : Char} (h : 0x1C ≤ c.toNat ∧ c.toNat ≤ 0x1F) :
    GoJwks.isSpace c = false ∧ Py.isSpace c = true := by
  simp only [GoJwks.isSpace, Py.isSpace]
  simp
  omega

theorem isSpace_congr {c : Char} (h : ¬ (0x1C ≤ c.toNat ∧ c.toNat ≤ 0x1F)) :
    Py.isSpace c = GoJwks.isSpace c := by
  simp [Py.isSpace, h]

theorem py_granted (h : NoSeparators payload) : Py.grantedScopes payload = granted payload := by
  rw [py_grantedScopes, granted]
  cases hs : source payload with
  | str s => exact words_congr fun c hc => isSpace_congr (h s hs c hc)
  | _ => rfl

theorem rust_granted (h : RustClaims.Claims.fromValue lib payload = .ok rc)
    (hnull : NullGrantsNothing payload) : Rust.grantedScopes rc = granted payload := by
  rw [rust_grantedScopes h]
  split
  · rename_i hscope
    have hunset : isUnset (payload.get "scope") = true := by simp [Json.get, hscope, isUnset]
    rw [granted, source, if_pos hunset, hnull hscope]
  · rfl

/-- The three agree on a document, whatever is required, exactly when its scopes
are read from a text without information separators and a null `scope` has no
other claim to fall back on. -/
theorem scopes_agree_iff (hgo : GoDecodes fmt payload c)
    (hrust : RustClaims.Claims.fromValue lib payload = .ok rc) :
    (∀ required, required ≠ [] → Agree payload c rc required) ↔
      NoSeparators payload ∧ NullGrantsNothing payload := by
  constructor
  · intro hagree
    constructor
    · intro s hs ch hch hsep
      obtain ⟨hkeep, hpy⟩ := isSpace_of_separator hsep
      obtain ⟨v, hv, hout⟩ := exists_word_of_not_sep hch hkeep hpy
      have hgranted : v ∈ granted payload := by
        rw [granted, hs]
        exact hv
      have haccepts := (hagree [v] (by simp)).py.mpr (by simpa using hgranted)
      rw [pyAccepts_iff (by simp), py_grantedScopes, hs] at haccepts
      exact hout (haccepts v (by simp))
    · intro hscope
      by_contra hne
      obtain ⟨v, hv⟩ := List.exists_mem_of_ne_nil _ hne
      have hunset : isUnset (payload.get "scope") = true := by simp [Json.get, hscope, isUnset]
      have hgranted : v ∈ granted payload := by
        rw [granted, source, if_pos hunset]
        exact hv
      have haccepts := (hagree [v] (by simp)).rust.mpr (by simpa using hgranted)
      rw [rustAccepts_iff (by simp), rust_grantedScopes hrust, hscope] at haccepts
      exact absurd (haccepts v (by simp)) List.not_mem_nil
  · rintro ⟨hsep, hnull⟩ required hne
    refine ⟨?_, ?_, ?_⟩
    · rw [pyAccepts_iff hne, py_granted hsep]
    · rw [goAccepts_iff hne, go_grantedScopes hgo]
    · rw [rustAccepts_iff hne, rust_granted hrust hnull]

def plainScopes : Json := .obj [("sub", .str "alice"), ("scope", .str "read write")]

/-- A null `scope` beside an `scp` that grants one. -/
def nullScope : Json := .obj [("scope", .null), ("scp", .str "read")]

theorem decoded_of_members {members : List (String × Json)}
    (h : ∀ m ∈ members, Go.overflows m.2 = false) (name : String) (j : Json)
    (hj : (Json.obj members).member? name = some j) : Go.overflows j = false := by
  simp only [Json.member?, Json.members, Option.map_eq_some_iff] at hj
  obtain ⟨m, hm, rfl⟩ := hj
  rw [List.findRev?_eq_find?_reverse] at hm
  exact h m (List.mem_reverse.mp (List.mem_of_find?_eq_some hm))

theorem scopes_agree_plain :
    ∃ c rc, GoDecodes ⟨id, fun _ => ""⟩ plainScopes c ∧
      RustClaims.Claims.fromValue RustClaims.plainLibrary plainScopes = .ok rc ∧
      ∀ required, required ≠ [] → Agree plainScopes c rc required := by
  obtain ⟨c, hc⟩ := Results.exists_of_isOk
    (show (GoClaims.parseClaims ⟨id, fun _ => ""⟩ plainScopes).isOk = true by decide)
  obtain ⟨rc, hrc⟩ := Results.exists_of_isOk
    (show (RustClaims.Claims.fromValue RustClaims.plainLibrary plainScopes).isOk = true by decide)
  have hgo : GoDecodes ⟨id, fun _ => ""⟩ plainScopes c :=
    ⟨hc, decoded_of_members (by simp [Go.overflows])⟩
  refine ⟨c, rc, hgo, hrc, (scopes_agree_iff hgo hrc).mpr ⟨?_, ?_⟩⟩
  · intro s hs
    obtain rfl : s = "read write" := by
      simpa [source, isUnset, plainScopes, Json.get, Json.member?, Json.members] using hs.symm
    have hplain : ("read write".toList.all fun ch => ¬ (0x1C ≤ ch.toNat ∧ ch.toNat ≤ 0x1F)) = true := by
      decide
    exact fun ch hch => of_decide_eq_true (List.all_eq_true.mp hplain ch hch)
  · intro hscope
    simp [plainScopes, Json.member?, Json.members] at hscope

/-- Rust lets a null `scope` shadow `scp`. -/
theorem null_scope_shadows :
    ¬ ∀ (fmt : GoClaims.Fmt) (lib : RustClaims.Library) (payload : Json) (c : GoClaims.Claims)
      (rc : RustClaims.Claims) (required : List String), GoDecodes fmt payload c →
      RustClaims.Claims.fromValue lib payload = .ok rc → required ≠ [] →
        Agree payload c rc required := by
  intro h
  obtain ⟨c, hc⟩ := Results.exists_of_isOk
    (show (GoClaims.parseClaims ⟨id, fun _ => ""⟩ nullScope).isOk = true by decide)
  obtain ⟨rc, hrc⟩ := Results.exists_of_isOk
    (show (RustClaims.Claims.fromValue RustClaims.plainLibrary nullScope).isOk = true by decide)
  have hagree := h _ _ nullScope c rc ["read"]
    ⟨hc, decoded_of_members (by simp [Go.overflows])⟩ hrc (by simp)
  have hgranted : ∀ s ∈ ["read"], s ∈ granted nullScope := by decide
  have haccepts := hagree.rust.mpr hgranted
  rw [rustAccepts_iff (by simp), rust_grantedScopes hrc,
    show nullScope.member? "scope" = some .null from rfl] at haccepts
  exact absurd (haccepts "read" (by simp)) List.not_mem_nil

end IdentityModel.Scopes
