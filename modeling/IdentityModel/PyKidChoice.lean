import IdentityModel.PyKeyChoice

/-!
# The key of a token that names one

Keys of different types may share a `kid`. `find_key_by_kid` takes the first of them, and only then
looks whether it goes with the algorithm of the token: one that does not stands in the way of one
behind it that does.
-/
namespace IdentityModel.Py

open Results

/-- The key can verify a token with this `alg`: it has the type that the table requires, and declares
this algorithm or none. Without an `alg` there is nothing to require; nothing is verified with
`none`, or with what is no string. -/
def JsonWebKey.fits (k : JsonWebKey) : Option HeaderAlg → Bool
  | none => true
  | some (.other _) => false
  | some (.str alg) =>
      alg = "" || (!isNone alg && (algToKty.lookup alg).all (fun kty => k.kty = kty) &&
        (truthy k.alg).all (fun declared => declared = alg))

/-- The keys with a `kid`, in their order. -/
def named (kid : String) (keys : List JsonWebKey) : List JsonWebKey :=
  keys.filter fun k => k.kid = some kid

section Selected

variable {key : JsonWebKey} {keys keys' : List JsonWebKey} {kid : String} {jwtAlg : Option HeaderAlg}

/-- The consistency check lets exactly the keys pass that fit. -/
theorem validateKeyAlgConsistency_isOk (key : JsonWebKey) (jwtAlg : Option HeaderAlg) :
    (validateKeyAlgConsistency key jwtAlg).isOk = key.fits jwtAlg := by
  have hdeclared (alg : String) :
      (validateKeyAlgConsistency.matchDeclaredAlg key alg).isOk =
        (truthy key.alg).all (fun declared => declared = alg) := by
    unfold validateKeyAlgConsistency.matchDeclaredAlg
    cases truthy key.alg with
    | none => rfl
    | some declared => by_cases h : declared = alg <;> simp [h, Except.isOk, Except.toBool]
  cases jwtAlg with
  | none => rfl
  | some header =>
      cases header with
      | other typeName => rfl
      | str alg =>
          by_cases hempty : alg = ""
          · simp [validateKeyAlgConsistency, rejectNonStringAlg, truthy, JsonWebKey.fits, hempty,
              Except.isOk, Except.toBool]
          · have htruthy : truthy (some alg) = some alg := by simp [truthy, hempty]
            simp only [validateKeyAlgConsistency, rejectNonStringAlg, htruthy, JsonWebKey.fits]
            cases hnone : isNone alg with
            | true => simp [hempty, Except.isOk, Except.toBool]
            | false =>
                cases halg : algToKty.lookup alg with
                | none => simp [hempty, hdeclared]
                | some kty =>
                    by_cases hkty : key.kty = kty
                    · simp [hempty, hkty, hdeclared]
                    · simp [hempty, hkty, Except.isOk, Except.toBool]

theorem selectKey_of_fits (h : key.fits jwtAlg = true) :
    selectKey key jwtAlg = .ok (key, resolveAlg key jwtAlg) := by
  rw [← validateKeyAlgConsistency_isOk] at h
  obtain ⟨_, hok⟩ := exists_of_isOk h
  rw [selectKey, hok]

theorem selectKey_of_not_fits (h : key.fits jwtAlg = false) (r : JsonWebKey × String) :
    selectKey key jwtAlg ≠ .ok r := by
  rw [← validateKeyAlgConsistency_isOk] at h
  rw [selectKey]
  cases hcheck : validateKeyAlgConsistency key jwtAlg with
  | error e => simp
  | ok _ =>
      rw [hcheck] at h
      cases h

/-- The first key of the name is the one selected. -/
theorem findKeyByKid_of_head (h : (named kid keys).head? = some key) :
    findKeyByKid (some kid) keys jwtAlg = selectKey key jwtAlg := by
  have hfind : (keys.find? fun k => k.kid = some kid) = some key := by
    rw [← List.head?_filter]
    exact h
  have hkeys : keys ≠ [] := by
    rintro rfl
    cases hfind
  rw [findKeyByKid, if_neg hkeys, hfind]

theorem named_perm (h : keys'.Perm keys) : (named kid keys').Perm (named kid keys) := h.filter _

/-- Any key of the name comes first in some order of the list. -/
theorem exists_perm_head (h : key ∈ named kid keys) :
    ∃ keys', keys'.Perm keys ∧ (named kid keys').head? = some key := by
  obtain ⟨hmem, hkid⟩ := List.mem_filter.mp h
  refine ⟨key :: keys.erase key, (List.perm_cons_erase hmem).symm, ?_⟩
  simp only [named, List.filter_cons, hkid, if_true, List.head?_cons]

end Selected

/-- A key of the name that fits the algorithm is found, and in every order of the list if it is the
only one, exactly when the first key of the name fits, and is the only one of the name if it is the
only one that fits. (Or when no key of the name fits.) -/
theorem key_choice_with_kid (keys : List JsonWebKey) (kid : String) (jwtAlg : Option HeaderAlg) :
    let found := fun keys => findKeyByKid (some kid) keys jwtAlg
    let fitting := (named kid keys).filter fun k => k.fits jwtAlg
    (fitting ≠ [] → (∃ key alg, found keys = .ok (key, alg) ∧ key ∈ fitting) ∧
      (fitting.length = 1 → ∀ keys', keys'.Perm keys → found keys' = found keys)) ↔
    (fitting = [] ∨ (∃ key, (named kid keys).head? = some key ∧ key.fits jwtAlg = true) ∧
      (fitting.length = 1 → (named kid keys).length = 1)) := by
  intro found fitting
  constructor
  · intro hclaim
    by_cases hnone : fitting = []
    · exact .inl hnone
    obtain ⟨⟨key, alg, hfound, -⟩, horder⟩ := hclaim hnone
    obtain ⟨first, rest, hnamed⟩ : ∃ first rest, named kid keys = first :: rest := by
      apply List.exists_cons_of_ne_nil
      intro hnil
      exact hnone (by simp [fitting, hnil])
    have hfirst : (named kid keys).head? = some first := by rw [hnamed, List.head?_cons]
    have hfits : first.fits jwtAlg = true := by
      by_contra hnot
      have hselect : selectKey first jwtAlg = .ok (key, alg) := by
        rw [← findKeyByKid_of_head hfirst]
        exact hfound
      exact selectKey_of_not_fits (by simpa using hnot) _ hselect
    refine .inr ⟨⟨first, hfirst, hfits⟩, fun hone => ?_⟩
    cases rest with
    | nil => rw [hnamed, List.length_singleton]
    | cons other rest =>
        -- The second key of the name does not fit, and stands first in another order.
        have hother : other.fits jwtAlg = false := by
          by_contra hnot
          have htwo : 2 ≤ fitting.length := by
            simp [fitting, hnamed, hfits, show other.fits jwtAlg = true by simpa using hnot]
          omega
        obtain ⟨keys', hperm, hhead⟩ : ∃ keys', keys'.Perm keys ∧
            (named kid keys').head? = some other := exists_perm_head (by simp [hnamed])
        have hsame : selectKey other jwtAlg = .ok (key, alg) := by
          rw [← findKeyByKid_of_head hhead, ← hfound]
          exact horder hone keys' hperm
        exact absurd hsame (selectKey_of_not_fits hother _)
  · rintro (hnone | ⟨⟨first, hfirst, hfits⟩, honly⟩) hsome
    · exact absurd hnone hsome
    have hfound : found keys = .ok (first, resolveAlg first jwtAlg) :=
      (findKeyByKid_of_head hfirst).trans (selectKey_of_fits hfits)
    have hmem : first ∈ fitting := List.mem_filter.mpr ⟨List.mem_of_mem_head? hfirst, hfits⟩
    refine ⟨⟨first, _, hfound, hmem⟩, fun hone keys' hperm => ?_⟩
    obtain ⟨only, hnamed⟩ := List.length_eq_one_iff.mp (honly hone)
    have hnamed' : named kid keys' = [only] := by
      have hperm' : (named kid keys').Perm (named kid keys) := named_perm hperm
      rw [hnamed] at hperm'
      exact List.perm_singleton.mp hperm'
    have hhead : (named kid keys').head? = some first := by
      rw [hnamed', ← hnamed]
      exact hfirst
    rw [hfound]
    exact (findKeyByKid_of_head hhead).trans (selectKey_of_fits hfits)

/-- An EC key and an RSA key of one name: a token for the RSA key is refused. -/
theorem first_key_in_the_way :
    let keys : List JsonWebKey := [{ kty := "EC", kid := some "k" }, { kty := "RSA", kid := some "k" }]
    JsonWebKey.fits { kty := "RSA", kid := some "k" } (some (.str "RS256")) = true ∧
      findKeyByKid (some "k") keys (some (.str "RS256")) =
        .error (.tokenValidation ("Key type 'EC' is incompatible with algorithm 'RS256' " ++
          "(expected key type 'RSA')") (some "header")) := by
  decide

end IdentityModel.Py
