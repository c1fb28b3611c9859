import IdentityModel.PyTokenLogic
import IdentityModel.Results

/-!
# The key of a token that names none

`_no_kid_candidates` narrows a key set in three steps, each skipped when it would leave nothing or
when one key is left, and the key that remains is checked once more. For an algorithm of the table
all of it comes to one rule: there has to be exactly one signing key of the right type that
declares this algorithm or none.
-/
namespace IdentityModel.Py

open Results

section Narrowing

variable {p q : JsonWebKey → Bool} {keys keys' : List JsonWebKey} {key : JsonWebKey}

theorem filterOrAll_of_mem (hkey : key ∈ keys) (hp : p key = true) :
    filterOrAll p keys = keys.filter p := by
  have hne : keys.filter p ≠ [] := by
    intro hnil
    have hmem : key ∈ keys.filter p := List.mem_filter.mpr ⟨hkey, hp⟩
    rw [hnil] at hmem
    cases hmem
  rw [filterOrAll, if_neg hne]

theorem mem_of_mem_filterOrAll (h : key ∈ filterOrAll p keys) : key ∈ keys := by
  unfold filterOrAll at h
  split at h
  · exact h
  · exact (List.mem_filter.mp h).1

/-- What two steps leave, if it passes both, is what passes both. -/
theorem narrow_eq_singleton :
    (filterOrAll q (filterOrAll p keys) = [key] ∧ p key = true ∧ q key = true) ↔
      keys.filter (fun k => p k && q k) = [key] := by
  have hboth : (keys.filter p).filter q = keys.filter (fun k => p k && q k) := by
    rw [List.filter_filter]
    exact List.filter_congr fun k _ => Bool.and_comm _ _
  constructor
  · rintro ⟨hleft, hp, hq⟩
    have hmem : key ∈ filterOrAll p keys := by
      apply mem_of_mem_filterOrAll
      rw [hleft]
      exact List.mem_singleton.mpr rfl
    have hkey : key ∈ keys := mem_of_mem_filterOrAll hmem
    rwa [filterOrAll_of_mem hmem hq, filterOrAll_of_mem hkey hp, hboth] at hleft
  · intro hfilter
    have hmem : key ∈ keys.filter (fun k => p k && q k) := by
      rw [hfilter]
      exact List.mem_singleton.mpr rfl
    obtain ⟨hkey, hpass⟩ := List.mem_filter.mp hmem
    obtain ⟨hp, hq⟩ := Bool.and_eq_true_iff.mp hpass
    refine ⟨?_, hp, hq⟩
    rw [filterOrAll_of_mem hkey hp, filterOrAll_of_mem (List.mem_filter.mpr ⟨hkey, hp⟩) hq, hboth,
      hfilter]

theorem filterOrAll_perm (h : keys'.Perm keys) : (filterOrAll p keys').Perm (filterOrAll p keys) := by
  have hfilter : (keys'.filter p).Perm (keys.filter p) := h.filter p
  unfold filterOrAll
  by_cases hnil : keys.filter p = []
  · have hnil' : keys'.filter p = [] := by
      rw [hnil] at hfilter
      exact hfilter.eq_nil
    rw [if_pos hnil, if_pos hnil']
    exact h
  · have hne : keys'.filter p ≠ [] := by
      intro hnil'
      rw [hnil'] at hfilter
      exact hnil hfilter.symm.eq_nil
    rw [if_neg hnil, if_neg hne]
    exact hfilter

end Narrowing

/-- `use` is absent or `sig`. -/
def JsonWebKey.isSigning (k : JsonWebKey) : Bool := k.use_ = none || k.use_ = some "sig"

/-- The key declares this algorithm, or none. -/
def JsonWebKey.declares (alg : String) (k : JsonWebKey) : Bool := k.alg = none || k.alg = some alg

/-- A signing key of the type the table requires that declares this algorithm, or none. -/
def JsonWebKey.compatible (alg kty : String) (k : JsonWebKey) : Bool :=
  k.isSigning && (k.declares alg && decide (k.kty = kty))

section Choice

variable {keys keys' : List JsonWebKey} {alg kty : String}

/-- The algorithms of the table are no `none` in any spelling, and not empty. -/
theorem algToKty_named (h : algToKty.lookup alg = some kty) : isNone alg = false ∧ alg ≠ "" := by
  have hall : ∀ e ∈ algToKty, isNone e.1 = false ∧ e.1 ≠ "" := by decide
  have hmem : (alg, kty) ∈ algToKty := by
    rw [List.lookup_eq_some_iff] at h
    obtain ⟨before, after, heq, -⟩ := h
    rw [heq]
    exact List.mem_append_right _ (.head _)
  exact hall _ hmem

/-- The consistency check of a selected key. -/
theorem selectKey_eq_ok (halg : algToKty.lookup alg = some kty) {key : JsonWebKey}
    (hkey : key.alg ≠ some "") {r : JsonWebKey × String} :
    selectKey key (some (.str alg)) = .ok r ↔
      key.declares alg = true ∧ key.kty = kty ∧ r = (key, alg) := by
  obtain ⟨hnone, hne⟩ := algToKty_named halg
  have htruthy : truthy (some alg) = some alg := by simp [truthy, hne]
  have hconsistent : validateKeyAlgConsistency key (some (.str alg)) =
      if key.kty ≠ kty then
        .error (.tokenValidation ("Key type '" ++ key.kty ++ "' is incompatible with algorithm '" ++
          alg ++ "' (expected key type '" ++ kty ++ "')") (some "header"))
      else validateKeyAlgConsistency.matchDeclaredAlg key alg := by
    simp [validateKeyAlgConsistency, rejectNonStringAlg, htruthy, hnone, halg]
  unfold selectKey
  rw [hconsistent]
  by_cases hkty : key.kty = kty
  · cases hdeclared : key.alg with
    | none =>
        simp [hkty, validateKeyAlgConsistency.matchDeclaredAlg, hdeclared, truthy, resolveAlg, hne,
          JsonWebKey.declares, eq_comm]
    | some declared =>
        have hdne : declared ≠ "" := by
          intro hempty
          exact hkey (by rw [hdeclared, hempty])
        by_cases hsame : declared = alg
        · simp [hkty, validateKeyAlgConsistency.matchDeclaredAlg, hdeclared, truthy, resolveAlg,
            hsame, hne, JsonWebKey.declares, eq_comm]
        · simp [hkty, validateKeyAlgConsistency.matchDeclaredAlg, hdeclared, truthy, hdne, hsame,
            JsonWebKey.declares]
  · simp [hkty]

/-- The candidates of a token whose algorithm is in the table. -/
theorem noKidCandidates_eq (halg : algToKty.lookup alg = some kty) :
    noKidCandidates keys (some (.str alg)) =
      .ok (if 1 < (filterOrAll JsonWebKey.isSigning keys).length then
          filterOrAll (fun k => k.kty = kty)
            (filterOrAll (JsonWebKey.declares alg) (filterOrAll JsonWebKey.isSigning keys))
        else filterOrAll JsonWebKey.isSigning keys) := by
  obtain ⟨hnone, hne⟩ := algToKty_named halg
  have htruthy : truthy (some alg) = some alg := by simp [truthy, hne]
  simp only [noKidCandidates, rejectNonStringAlg, htruthy, hnone, Bool.false_eq_true, if_false,
    halg]
  by_cases hmore : 1 < (filterOrAll JsonWebKey.isSigning keys).length
  · rw [if_pos hmore]
    exact if_pos hmore
  · rw [if_neg hmore]
    exact if_neg hmore

/-- The one candidate is the key, once it passes the last check. -/
theorem findKeyByKid_candidates (halg : algToKty.lookup alg = some kty) (hkeys : keys ≠ [])
    {candidates : List JsonWebKey}
    (hcandidates : noKidCandidates keys (some (.str alg)) = .ok candidates)
    (hdeclared : ∀ k ∈ candidates, k.alg ≠ some "") {r : JsonWebKey × String} :
    findKeyByKid none keys (some (.str alg)) = .ok r ↔
      candidates = [r.1] ∧ r.1.declares alg = true ∧ decide (r.1.kty = kty) = true ∧ r.2 = alg := by
  simp only [findKeyByKid, hkeys, if_false, hcandidates, decide_eq_true_eq]
  obtain _ | ⟨key, _ | ⟨other, rest⟩⟩ := candidates
  · simp
  · have hkey : key.alg ≠ some "" := hdeclared key (.head _)
    rw [selectKey_eq_ok halg hkey]
    constructor
    · rintro ⟨hp, hq, rfl⟩
      exact ⟨rfl, hp, hq, rfl⟩
    · rintro ⟨heq, hp, hq, halg'⟩
      obtain ⟨chosen, a⟩ := r
      cases heq
      cases halg'
      exact ⟨hp, hq, rfl⟩
  · simp

/-- A token without `kid` is given a key exactly when that is the one signing key that fits. -/
theorem findKeyByKid_none (halg : algToKty.lookup alg = some kty)
    (hdeclared : ∀ k ∈ keys, k.alg ≠ some "") (hsigning : ∃ k ∈ keys, k.isSigning = true)
    {r : JsonWebKey × String} :
    findKeyByKid none keys (some (.str alg)) = .ok r ↔
      keys.filter (JsonWebKey.compatible alg kty) = [r.1] ∧ r.2 = alg := by
  obtain ⟨k, hk, hkuse⟩ := hsigning
  have hkeys : keys ≠ [] := List.ne_nil_of_mem hk
  have hsign : filterOrAll JsonWebKey.isSigning keys = keys.filter JsonWebKey.isSigning :=
    filterOrAll_of_mem hk hkuse
  have hfilter : keys.filter (JsonWebKey.compatible alg kty) =
      (keys.filter JsonWebKey.isSigning).filter
        (fun k => k.declares alg && decide (k.kty = kty)) := by
    rw [List.filter_filter]
    exact List.filter_congr fun k _ => Bool.and_comm _ _
  have hcandidates : noKidCandidates keys (some (.str alg)) = .ok _ := noKidCandidates_eq halg
  rw [hsign] at hcandidates
  have hsigning : ∀ k ∈ keys.filter JsonWebKey.isSigning, k.alg ≠ some "" :=
    fun k hk => hdeclared k (List.mem_of_mem_filter hk)
  rw [hfilter]
  by_cases hmore : 1 < (keys.filter JsonWebKey.isSigning).length
  · rw [if_pos hmore] at hcandidates
    rw [findKeyByKid_candidates halg hkeys hcandidates fun k hk =>
      hsigning k (mem_of_mem_filterOrAll (mem_of_mem_filterOrAll hk)), ← narrow_eq_singleton]
    simp only [and_assoc]
  · rw [if_neg hmore] at hcandidates
    rw [findKeyByKid_candidates halg hkeys hcandidates hsigning]
    have hmem : k ∈ keys.filter JsonWebKey.isSigning := List.mem_filter.mpr ⟨hk, hkuse⟩
    obtain ⟨only, honly⟩ : ∃ only, keys.filter JsonWebKey.isSigning = [only] := by
      apply List.length_eq_one_iff.mp
      have hpos := List.length_pos_of_mem hmem
      omega
    rw [honly]
    by_cases hfit : (only.declares alg && decide (only.kty = kty)) = true
    · have hboth := Bool.and_eq_true_iff.mp hfit
      simp only [List.filter_cons, hfit, if_true, List.filter_nil]
      constructor
      · rintro ⟨heq, -, -, halg'⟩
        exact ⟨heq, halg'⟩
      · rintro ⟨heq, halg'⟩
        cases heq
        exact ⟨rfl, hboth.1, hboth.2, halg'⟩
    · simp only [List.filter_cons, hfit, Bool.false_eq_true, if_false, List.filter_nil]
      constructor
      · rintro ⟨heq, hp, hq, -⟩
        cases heq
        exact absurd (Bool.and_eq_true_iff.mpr ⟨hp, hq⟩) hfit
      · rintro ⟨heq, -⟩
        cases heq

theorem noKidCandidates_perm (h : keys'.Perm keys) (jwtAlg : Option HeaderAlg) :
    (∃ e, noKidCandidates keys' jwtAlg = .error e ∧ noKidCandidates keys jwtAlg = .error e) ∨
      ∃ left left', noKidCandidates keys' jwtAlg = .ok left' ∧
        noKidCandidates keys jwtAlg = .ok left ∧ left'.Perm left := by
  cases hreject : rejectNonStringAlg jwtAlg with
  | error e => exact .inl ⟨e, by simp only [noKidCandidates, hreject], by
      simp only [noKidCandidates, hreject]⟩
  | ok named =>
      have hsigning : (filterOrAll (fun k => k.use_ = none || k.use_ = some "sig") keys').Perm
          (filterOrAll (fun k => k.use_ = none || k.use_ = some "sig") keys) := filterOrAll_perm h
      cases htruthy : truthy named with
      | none =>
          right
          simp only [noKidCandidates, hreject, htruthy]
          exact ⟨_, _, rfl, rfl, hsigning⟩
      | some alg =>
          by_cases hnone : isNone alg = true
          · left
            simp only [noKidCandidates, hreject, htruthy, hnone, if_true]
            exact ⟨_, rfl, rfl⟩
          · have hbyAlg := filterOrAll_perm (p := fun k => k.alg = none || k.alg = some alg) hsigning
            right
            simp only [noKidCandidates, hreject, htruthy, hnone, Bool.false_eq_true, if_false,
              hsigning.length_eq]
            by_cases hmore :
                1 < (filterOrAll (fun k => k.use_ = none || k.use_ = some "sig") keys).length
            · simp only [hmore, if_true]
              cases hkty : algToKty.lookup alg with
              | none => exact ⟨_, _, rfl, rfl, hbyAlg⟩
              | some kty => exact ⟨_, _, rfl, rfl, filterOrAll_perm hbyAlg⟩
            · simp only [hmore, if_false]
              exact ⟨_, _, rfl, rfl, hsigning⟩

/-- The order of the keys does not matter. -/
theorem findKeyByKid_none_perm (h : keys'.Perm keys) (jwtAlg : Option HeaderAlg) :
    findKeyByKid none keys' jwtAlg = findKeyByKid none keys jwtAlg := by
  unfold findKeyByKid
  by_cases hnil : keys = []
  · have hnil' : keys' = [] := by
      rw [hnil] at h
      exact h.eq_nil
    rw [if_pos hnil, if_pos hnil']
  · have hne : keys' ≠ [] := by
      intro hnil'
      rw [hnil'] at h
      exact hnil h.symm.eq_nil
    rw [if_neg hnil, if_neg hne]
    obtain ⟨e, he', he⟩ | ⟨left, left', hleft', hleft, hperm⟩ := noKidCandidates_perm h jwtAlg
    · simp only [he, he']
    · simp only [hleft, hleft']
      obtain _ | ⟨key, _ | ⟨other, rest⟩⟩ := left
      · rw [hperm.eq_nil]
      · rw [List.perm_singleton.mp hperm]
      · have hlength := hperm.length_eq
        obtain _ | ⟨key', _ | ⟨other', rest'⟩⟩ := left'
        · cases hlength
        · simp at hlength
        · rfl

end Choice

/-- Without a `kid`, for an algorithm of the table: a key is found exactly when one signing key is
compatible, and it is that key with that algorithm; several compatible keys are refused;
incompatible keys beside them change nothing, and neither does the order. -/
theorem key_choice_without_kid {keys : List JsonWebKey} {alg kty : String}
    (halg : algToKty.lookup alg = some kty) (hdeclared : ∀ k ∈ keys, k.alg ≠ some "")
    (hsigning : ∃ k ∈ keys, k.isSigning = true) :
    let found := findKeyByKid none keys (some (.str alg))
    let compatible := keys.filter (JsonWebKey.compatible alg kty)
    (found.isOk = true ↔ compatible.length = 1) ∧
    (∀ key a, found = .ok (key, a) ↔ compatible = [key] ∧ a = alg) ∧
    (2 ≤ compatible.length → ∃ e, found = .error e) ∧
    (∀ others, (∀ k ∈ others, k.compatible alg kty = false ∧ k.alg ≠ some "") → ∀ r,
      findKeyByKid none (keys ++ others) (some (.str alg)) = .ok r ↔ found = .ok r) ∧
    ∀ keys', keys'.Perm keys → findKeyByKid none keys' (some (.str alg)) = found := by
  intro found compatible
  have hfound : ∀ key a, found = .ok (key, a) ↔ compatible = [key] ∧ a = alg :=
    fun key a => findKeyByKid_none halg hdeclared hsigning
  have hok : found.isOk = true ↔ compatible.length = 1 := by
    constructor
    · intro h
      obtain ⟨⟨key, a⟩, hr⟩ := exists_of_isOk h
      rw [((hfound key a).mp hr).1, List.length_singleton]
    · intro h
      obtain ⟨key, hkey⟩ := List.length_eq_one_iff.mp h
      rw [(hfound key alg).mpr ⟨hkey, rfl⟩]
      rfl
  refine ⟨hok, hfound, ?_, ?_, fun keys' h => findKeyByKid_none_perm h _⟩
  · intro htwo
    cases hresult : found with
    | error e => exact ⟨e, rfl⟩
    | ok r =>
        have hone := hok.mp (by rw [hresult]; rfl)
        omega
  · intro others hothers r
    have hnone : others.filter (JsonWebKey.compatible alg kty) = [] := by
      apply List.filter_eq_nil_iff.mpr
      intro k hk
      rw [(hothers k hk).1]
      exact Bool.false_ne_true
    have hall : ∀ k ∈ keys ++ others, k.alg ≠ some "" := by
      intro k hk
      obtain hk | hk := List.mem_append.mp hk
      · exact hdeclared k hk
      · exact (hothers k hk).2
    obtain ⟨k, hk, hkuse⟩ := hsigning
    rw [findKeyByKid_none halg hall ⟨k, List.mem_append_left _ hk, hkuse⟩, List.filter_append, hnone,
      List.append_nil]
    exact (hfound r.1 r.2).symm

/-- An RSA key and an EC key, both for any use: the token says which. -/
theorem key_choice_without_kid_sample :
    findKeyByKid none [{ kty := "EC" }, { kty := "RSA", use_ := some "sig" }]
      (some (.str "RS256")) = .ok ({ kty := "RSA", use_ := some "sig" }, "RS256") := by
  have halg : algToKty.lookup "RS256" = some "RSA" := rfl
  have hsigning : ∃ k ∈ ([{ kty := "EC" }, { kty := "RSA", use_ := some "sig" }] : List JsonWebKey),
      k.isSigning = true := ⟨_, List.mem_cons_self, rfl⟩
  obtain ⟨-, hfound, -⟩ := key_choice_without_kid halg (by simp) hsigning
  exact (hfound _ _).mpr ⟨rfl, rfl⟩

end IdentityModel.Py
