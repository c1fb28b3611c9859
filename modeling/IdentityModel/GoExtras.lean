import IdentityModel.ClaimValues

/-!
# The members without a field

How the decoders in Go keep what they have no field for: the members of a map whose names are not among
the known ones, each decoded into an `any`. A number beyond a `float64` ends the loop, which visits the
map in some order.
-/
namespace IdentityModel.GoExtras

open Results

/-- What an `any` holds. -/
abbrev Any := Value (Scalar ℚ)

def toAny (j : Json) : Any := j.read.map ClaimValues.Go.scalar

/-- What is not of the package: the error of `encoding/json` for a document with a number beyond a
`float64`, and the order in which `range` visits a map. -/
structure Runtime where
  outOfRange : Json → String
  order : Dict String Json → List (Sigma fun _ : String => Json)
  perm : ∀ d, (order d).Perm d.entries

/-- The loop over the members without a field. -/
def decodeExtra (rt : Runtime) :
    List (Sigma fun _ : String => Json) → Dict String Any → Except String (Dict String Any)
  | [], extra => .ok extra
  | ⟨k, v⟩ :: rest, extra =>
      if Scopes.Go.overflows v = true then .error ("decode extra field " ++ k ++ ": " ++ rt.outOfRange v)
      else decodeExtra rt rest (extra.insert k (toAny v))

/-- What is left of a map once the known members are deleted; nothing left gives a nil map. -/
def decodeRest (rt : Runtime) (known : List String) (raw : Dict String Json) :
    Except String (Option (Dict String Any)) :=
  let rest := raw.restrict fun name => name ∉ known
  if 0 < rest.size then (decodeExtra rt (rt.order rest) ∅).map some else .ok none

section Rest

variable {rt : Runtime} {known : List String} {body : Json}

theorem decodeExtra_eq_ok {es : List (Sigma fun _ : String => Json)} {extra extra' : Dict String Any} :
    decodeExtra rt es extra = .ok extra' ↔ (∀ e ∈ es, Scopes.Go.overflows e.2 = false) ∧
      extra' = es.foldl (fun d e => d.insert e.1 (toAny e.2)) extra := by
  induction es generalizing extra with
  | nil =>
      simp only [decodeExtra, Except.ok.injEq, List.not_mem_nil, false_implies, implies_true, true_and,
        List.foldl_nil]
      exact eq_comm
  | cons e es ih =>
      rw [decodeExtra, List.forall_mem_cons, List.foldl_cons]
      by_cases hover : Scopes.Go.overflows e.2 = true
      · simp [hover]
      · rw [if_neg hover, ih]
        simp [hover]

theorem lookup_foldl_insert {es : List (Sigma fun _ : String => Json)} (hes : es.NodupKeys)
    (extra : Dict String Any) (name : String) :
    (es.foldl (fun d e => d.insert e.1 (toAny e.2)) extra).lookup name =
      ((es.dlookup name).map toAny).or (extra.lookup name) := by
  induction es generalizing extra with
  | nil => rfl
  | cons e es ih =>
      obtain ⟨k, v⟩ := e
      obtain ⟨hk, hes⟩ := List.nodupKeys_cons.mp hes
      rw [List.foldl_cons, ih hes]
      by_cases hname : k = name
      · subst hname
        rw [List.dlookup_eq_none.mpr hk, List.dlookup_cons_eq, AList.lookup_insert]
        rfl
      · rw [List.dlookup_cons_ne _ _ (Ne.symm hname), AList.lookup_insert_ne (Ne.symm hname)]

/-- The members that are not known. -/
def others (known : List String) (body : Json) : Dict String Json :=
  (Dict.insertAll body.members ∅).restrict fun name => name ∉ known

theorem lookup_others (known : List String) (body : Json) (name : String) :
    (others known body).lookup name = if name ∈ known then none else body.member? name := by
  rw [others, Dict.lookup_restrict, Json.lookup_insertAll]
  by_cases hname : name ∈ known
  · simp [hname]
  · simp only [hname, not_false_eq_true, decide_true, if_true, if_false]
    rfl

/-- Numbers of the members that are not known are within the range of a `float64`. -/
def InRange (known : List String) (body : Json) : Prop :=
  ∀ name j, name ∉ known → body.member? name = some j → Scopes.Go.overflows j = false

theorem inRange_iff (rt : Runtime) (known : List String) (body : Json) :
    InRange known body ↔ ∀ e ∈ rt.order (others known body), Scopes.Go.overflows e.2 = false := by
  have hmem : ∀ name j, (⟨name, j⟩ : Sigma fun _ : String => Json) ∈ rt.order (others known body) ↔
      name ∉ known ∧ body.member? name = some j := by
    intro name j
    rw [(rt.perm _).mem_iff, ← AList.mem_lookup_iff, lookup_others, Option.mem_def]
    by_cases hname : name ∈ known <;> simp [hname]
  constructor
  · intro h e he
    obtain ⟨hname, hj⟩ := (hmem e.1 e.2).mp he
    exact h e.1 e.2 hname hj
  · intro h name j hname hj
    exact h ⟨name, j⟩ ((hmem name j).mpr ⟨hname, hj⟩)

/-- What the loop makes of the members that are not known. -/
def extraOf (rt : Runtime) (known : List String) (body : Json) : Option (Dict String Any) :=
  if 0 < (others known body).size then
    some ((rt.order (others known body)).foldl (fun d e => d.insert e.1 (toAny e.2)) ∅)
  else none

theorem others_empty (h : ¬ 0 < (others known body).size) : (others known body).entries = [] :=
  List.eq_nil_of_length_eq_zero (Nat.eq_zero_of_not_pos h)

theorem decodeRest_eq_ok {extra : Option (Dict String Any)} :
    decodeRest rt known (Dict.insertAll body.members ∅) = .ok extra ↔
      InRange known body ∧ extra = extraOf rt known body := by
  have hothers : (Dict.insertAll body.members ∅ : Dict String Json).restrict (fun name => name ∉ known) =
      others known body := rfl
  rw [inRange_iff rt, extraOf, decodeRest, hothers]
  split
  · rw [map_eq_ok]
    simp only [decodeExtra_eq_ok]
    constructor
    · rintro ⟨extra, ⟨hrange, rfl⟩, rfl⟩
      exact ⟨hrange, rfl⟩
    · rintro ⟨hrange, rfl⟩
      exact ⟨_, ⟨hrange, rfl⟩, rfl⟩
  · rename_i hsize
    have hnil : rt.order (others known body) = [] := by
      have hperm := rt.perm (others known body)
      rw [others_empty hsize] at hperm
      exact hperm.eq_nil
    simp only [hnil, List.not_mem_nil, false_implies, implies_true, true_and, Except.ok.injEq]
    exact eq_comm

/-- The same of what is made with the members. -/
theorem map_decodeRest_eq_ok {α : Type} (f : Option (Dict String Any) → α) {a : α} :
    (decodeRest rt known (Dict.insertAll body.members ∅)).map f = .ok a ↔
      InRange known body ∧ a = f (extraOf rt known body) := by
  rw [map_eq_ok]
  simp only [decodeRest_eq_ok]
  constructor
  · rintro ⟨extra, ⟨hrange, rfl⟩, rfl⟩
    exact ⟨hrange, rfl⟩
  · rintro ⟨hrange, rfl⟩
    exact ⟨_, ⟨hrange, rfl⟩, rfl⟩

/-- Every member that is not known is found again. -/
theorem lookup_extraOf (name : String) :
    (extraOf rt known body).bind (fun extra => extra.lookup name) =
      (if name ∈ known then none else body.member? name).map toAny := by
  rw [← lookup_others]
  unfold extraOf
  split
  · have hperm := rt.perm (others known body)
    have hkeys : (rt.order (others known body)).NodupKeys :=
      (List.perm_nodupKeys hperm).mpr (others known body).nodupKeys
    rw [Option.bind_some, lookup_foldl_insert hkeys,
      List.perm_dlookup name hkeys hperm, AList.lookup_empty, Option.or_none]
    rfl
  · rename_i hsize
    have hnone : (others known body).lookup name = none := by
      show List.dlookup name _ = none
      rw [others_empty hsize]
      rfl
    rw [hnone]
    rfl

end Rest

/-- Maps are visited as they are stored. -/
def storedOrder : Runtime where
  outOfRange _ := ""
  order d := d.entries
  perm _ := .refl _

end IdentityModel.GoExtras
