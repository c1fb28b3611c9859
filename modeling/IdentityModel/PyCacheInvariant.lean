import IdentityModel.PyJwksCache

/-!
# The representation of the Python caches

Any sequence of cache operations, from empty caches. Seen from one of the two
caches, an operation is a touch, a write, a drop or a clear of a least recently
used cache, or nothing; so both caches are runs of the library's cache, and what
they hold is what was written to them.
-/
namespace IdentityModel.Py

open LruCache

/-- The lock-protected operations of the cache module. -/
inductive CacheOp
  | touchJwks (jwksUri : String)
  | touchDisco (cacheKey : DiscoKey)
  | applyJwks (jwksUri : String) (response : JwksResponse) (now : ℚ)
  | applyDisco (cacheKey : DiscoKey) (response : DiscoveryDocumentResponse) (now : ℚ)
  | clearJwks
  | clearDisco

/-- The two caches, and the stamps beside the first one. -/
structure Caches where
  jwks : JwksCache
  cooldown : Dict String ℚ
  disco : DiscoCache

/-- One operation. -/
def Caches.apply (env : Env) (c : Caches) : CacheOp → Caches
  | .touchJwks jwksUri => { c with jwks := touchCacheEntry c.jwks jwksUri }
  | .touchDisco cacheKey => { c with disco := touchCacheEntry c.disco cacheKey }
  | .applyJwks jwksUri response now =>
      let r := applyJwksCacheOutcome env c.jwks c.cooldown jwksUri response now
      { c with jwks := r.1, cooldown := r.2.1 }
  | .applyDisco cacheKey response now =>
      { c with disco := applyDiscoCacheOutcome env c.disco cacheKey response now }
  | .clearJwks => { c with jwks := clearCacheLocked c.jwks }
  | .clearDisco => { c with disco := clearCacheLocked c.disco }

/-- The caches after a history, newest operation first, from empty. -/
def afterOps (env : Env) : List CacheOp → Caches
  | [] => ⟨∅, ∅, ∅⟩
  | op :: h => (afterOps env h).apply env op

/-- What an operation is to the JWKS cache. -/
def jwksEffect (env : Env) : CacheOp → Option (Op String (CacheEntry JwksResponse))
  | .touchJwks jwksUri => some (.touch jwksUri)
  | .applyJwks jwksUri response now =>
      if !response.isSuccessful then none
      else if response.keyList = [] then none
      else if isUncacheableForJwks response.cacheControl then some (.drop jwksUri)
      else some (.write jwksUri (jwksEntry env response now))
  | .clearJwks => some .clear
  | _ => none

/-- What an operation is to the discovery cache. -/
def discoEffect (env : Env) : CacheOp → Option (Op DiscoKey (CacheEntry DiscoveryDocumentResponse))
  | .touchDisco cacheKey => some (.touch cacheKey)
  | .applyDisco cacheKey response now =>
      if !response.isSuccessful then none
      else if isUncacheable env response.cacheControl then some (.drop cacheKey)
      else some (.write cacheKey ⟨response, now, resolveDiscoTtl env response.cacheControl⟩)
  | .clearDisco => some .clear
  | _ => none

section Effects

variable {env : Env}

theorem jwksEffect_store {jwksUri : String} {response : JwksResponse} (now : ℚ)
    (hs : response.isSuccessful = true) (hk : response.keyList ≠ []) :
    jwksEffect env (.applyJwks jwksUri response now) =
      some (.write jwksUri (jwksEntry env response now)) := by
  simp [jwksEffect, hs, hk, isUncacheableForJwks]

/-- `apply_jwks_cache_outcome` as an operation on the cache. -/
theorem applyJwksCacheOutcome_cache (cache : JwksCache) (cooldown : Dict String ℚ)
    (jwksUri : String) (response : JwksResponse) (now : ℚ) :
    (applyJwksCacheOutcome env cache cooldown jwksUri response now).1 =
      ((jwksEffect env (.applyJwks jwksUri response now)).map
        (LruCache.apply (getMaxCacheEntries env) cache)).getD cache := by
  obtain h | hr := response.stored_or_retained
  · rw [applyJwksCacheOutcome_store _ _ _ _ h.1 h.2, jwksEffect_store now h.1 h.2]
    rfl
  · have hnone : jwksEffect env (.applyJwks jwksUri response now) = none := by
      obtain hs | hk := hr
      · simp [jwksEffect, hs]
      · simp [jwksEffect, hk]
    rw [applyJwksCacheOutcome_retain _ _ _ _ hr, hnone]
    rfl

theorem applyDiscoCacheOutcome_cache (cache : DiscoCache) (cacheKey : DiscoKey)
    (response : DiscoveryDocumentResponse) (now : ℚ) :
    applyDiscoCacheOutcome env cache cacheKey response now =
      ((discoEffect env (.applyDisco cacheKey response now)).map
        (LruCache.apply (getMaxCacheEntries env) cache)).getD cache := by
  simp only [applyDiscoCacheOutcome, discoEffect, enforceSizeLimit_eq]
  split_ifs <;> rfl

/-- The JWKS cache is a run of the library's cache. -/
theorem afterOps_jwks (h : List CacheOp) :
    (afterOps env h).jwks = run (getMaxCacheEntries env) (h.filterMap (jwksEffect env)) := by
  induction h with
  | nil => rfl
  | cons op h ih =>
      rw [List.filterMap_cons]
      cases op with
      | touchJwks jwksUri =>
          show touchCacheEntry (afterOps env h).jwks jwksUri = _
          rw [ih]
          rfl
      | applyJwks jwksUri response now =>
          show (applyJwksCacheOutcome env _ _ jwksUri response now).1 = _
          rw [applyJwksCacheOutcome_cache, ih]
          cases jwksEffect env (.applyJwks jwksUri response now) <;> rfl
      | clearJwks => rfl
      | touchDisco => exact ih
      | applyDisco => exact ih
      | clearDisco => exact ih

theorem afterOps_disco (h : List CacheOp) :
    (afterOps env h).disco = run (getMaxCacheEntries env) (h.filterMap (discoEffect env)) := by
  induction h with
  | nil => rfl
  | cons op h ih =>
      rw [List.filterMap_cons]
      cases op with
      | touchDisco cacheKey =>
          show touchCacheEntry (afterOps env h).disco cacheKey = _
          rw [ih]
          rfl
      | applyDisco cacheKey response now =>
          show applyDiscoCacheOutcome env _ cacheKey response now = _
          rw [applyDiscoCacheOutcome_cache, ih]
          cases discoEffect env (.applyDisco cacheKey response now) <;> rfl
      | clearDisco => rfl
      | touchJwks => exact ih
      | applyJwks => exact ih
      | clearJwks => exact ih

/-- A JWKS entry as the cache may hold it. -/
def JwksEntryOk (entry : CacheEntry JwksResponse) : Prop :=
  entry.response.isSuccessful = true ∧ entry.response.keyList ≠ [] ∧ TtlOk entry.ttl

/-- A discovery entry as the cache may hold it. -/
def DiscoEntryOk (entry : CacheEntry DiscoveryDocumentResponse) : Prop :=
  entry.response.isSuccessful = true ∧ TtlOk entry.ttl

theorem jwksEffect_write {op : CacheOp} {k : String} {entry : CacheEntry JwksResponse}
    (h : jwksEffect env op = some (.write k entry)) : JwksEntryOk entry := by
  cases op with
  | applyJwks jwksUri response now =>
      simp only [jwksEffect] at h
      split_ifs at h with hs hk hu
      · cases h
      · cases h
        exact ⟨by simpa [jwksEntry] using hs, hk, resolveTtlOr_ok getEnvTtl_ok _⟩
  | _ => cases h

theorem discoEffect_write {op : CacheOp} {k : DiscoKey}
    {entry : CacheEntry DiscoveryDocumentResponse}
    (h : discoEffect env op = some (.write k entry)) : DiscoEntryOk entry := by
  cases op with
  | applyDisco cacheKey response now =>
      simp only [discoEffect] at h
      split_ifs at h with hs hu
      · cases h
      · cases h
        exact ⟨by simpa using hs, resolveTtlOr_ok getDiscoEnvTtl_ok _⟩
  | _ => cases h

end Effects

section Invariant

variable {κ ν : Type*} [DecidableEq κ]

/-- The shape of a cache that has seen the history `h`: it fits, its keys are
unique and ordered by their last use, and its entries satisfy `P`. -/
structure Shape (bound : ℕ) (P : ν → Prop) (h : List (Op κ ν)) (cache : Dict κ ν) : Prop where
  fits : cache.size ≤ bound
  unique : cache.keys.Nodup
  recency : Recency h cache
  entries : ∀ k entry, cache.lookup k = some entry → P entry

/-- A write of `key` at the end of the history `h`: the key is present, nothing
but it is new, and what is gone was used before everything that stays and left
the cache full. -/
structure Written (bound : ℕ) (h : List (Op κ ν)) (before after : Dict κ ν) (key : κ) : Prop where
  present : key ∈ after
  others : ∀ k ∈ after, k = key ∨ k ∈ before
  oldest : ∀ k ∈ before, k ∉ after → ∀ kept ∈ after, lastUse h k < lastUse h kept
  full : (∃ k ∈ before, k ∉ after) → after.size = bound

/-- The keys an insertion pushes out are those that were there and are not kept. -/
theorem mem_beyond_insert {bound : ℕ} (hb : 0 < bound) {d : Dict κ ν} {key k : κ} {v : ν} :
    k ∈ Dict.beyond bound (d.insert key v) ↔
      k ∈ d ∧ k ∉ Dict.keepNewest bound (d.insert key v) := by
  constructor
  · intro hk
    have hgone := Dict.not_mem_keepNewest_of_beyond hk
    have hins : k ∈ d.insert key v := List.mem_of_mem_drop (Dict.mem_beyond.mp hk)
    obtain rfl | hold := (AList.mem_insert _).mp hins
    · exact absurd (mem_of_write hb k v d) hgone
    · exact ⟨hold, hgone⟩
  · rintro ⟨hold, hgone⟩
    exact (Dict.mem_keepNewest_or ((AList.mem_insert _).mpr (.inr hold))).resolve_left hgone

theorem shape_run {bound : ℕ} {P : ν → Prop} {h : List (Op κ ν)}
    (hP : ∀ k v, .write k v ∈ h → P v) : Shape bound P h (run bound h) where
  fits := size_run_le bound h
  unique := AList.keys_nodup _
  recency := recency_run bound h
  entries := fun _ _ hk => forall_lookup_run hP hk

theorem written_run {bound : ℕ} (hb : 0 < bound) (h : List (Op κ ν)) (key : κ) (v : ν) :
    Written bound (.write key v :: h) (run bound h) (run bound (.write key v :: h)) key where
  present := mem_of_write hb key v _
  others := by
    intro k hk
    have hk : k ∈ (run bound h).insert key v := Dict.mem_of_mem_keepNewest hk
    exact (AList.mem_insert _).mp hk
  oldest := by
    intro k hk hgone kept hkept
    exact evicted_older ((mem_beyond_insert hb).mpr ⟨hk, hgone⟩) hkept
  full := by
    rintro ⟨k, hk, hgone⟩
    have hdrop := Dict.mem_beyond.mp ((mem_beyond_insert hb).mpr ⟨hk, hgone⟩)
    have hlen : bound < ((run bound h).insert key v).keys.length := by
      by_contra hle
      rw [List.drop_eq_nil_of_le (by omega)] at hdrop
      cases hdrop
    show Dict.size (Dict.keepNewest bound ((run bound h).insert key v)) = bound
    rw [Dict.size_eq_keys, Dict.keys_keepNewest, List.length_take]
    omega

end Invariant

/-- After any sequence of operations both caches have their shape, and the next
write makes its key present and evicts exactly the least recently used ones. -/
theorem cache_representation_invariant (env : Env) (h : List CacheOp) :
    1 ≤ getMaxCacheEntries env ∧
    Shape (getMaxCacheEntries env) JwksEntryOk (h.filterMap (jwksEffect env))
      (afterOps env h).jwks ∧
    Shape (getMaxCacheEntries env) DiscoEntryOk (h.filterMap (discoEffect env))
      (afterOps env h).disco ∧
    (∀ jwksUri response now, response.isSuccessful = true → response.keyList ≠ [] →
      Written (getMaxCacheEntries env)
        ((.applyJwks jwksUri response now :: h).filterMap (jwksEffect env))
        (afterOps env h).jwks (afterOps env (.applyJwks jwksUri response now :: h)).jwks jwksUri ∧
      ∀ k, k ∈ (applyJwksCacheOutcome env (afterOps env h).jwks (afterOps env h).cooldown jwksUri
          response now).2.2 ↔
        k ∈ (afterOps env h).jwks ∧ k ∉ (afterOps env (.applyJwks jwksUri response now :: h)).jwks) ∧
    ∀ cacheKey response now, response.isSuccessful = true →
      isUncacheable env response.cacheControl = false →
      Written (getMaxCacheEntries env)
        ((.applyDisco cacheKey response now :: h).filterMap (discoEffect env))
        (afterOps env h).disco (afterOps env (.applyDisco cacheKey response now :: h)).disco
        cacheKey := by
  have hpos : 1 ≤ getMaxCacheEntries env := getMaxCacheEntries_pos
  refine ⟨hpos, ?_, ?_, fun jwksUri response now hs hk => ⟨?_, fun k => ?_⟩,
    fun cacheKey response now hs hu => ?_⟩
  · rw [afterOps_jwks]
    refine shape_run fun k v hmem => ?_
    obtain ⟨op, -, hop⟩ := List.mem_filterMap.mp hmem
    exact jwksEffect_write hop
  · rw [afterOps_disco]
    refine shape_run fun k v hmem => ?_
    obtain ⟨op, -, hop⟩ := List.mem_filterMap.mp hmem
    exact discoEffect_write hop
  · rw [afterOps_jwks, afterOps_jwks, List.filterMap_cons_some (jwksEffect_store now hs hk)]
    exact written_run hpos _ jwksUri _
  · have hafter : (afterOps env (.applyJwks jwksUri response now :: h)).jwks =
        Dict.keepNewest (getMaxCacheEntries env)
          ((afterOps env h).jwks.insert jwksUri (jwksEntry env response now)) := by
      show (applyJwksCacheOutcome env _ _ jwksUri response now).1 = _
      rw [applyJwksCacheOutcome_store _ _ _ _ hs hk]
    rw [hafter, applyJwksCacheOutcome_store _ _ _ _ hs hk]
    exact mem_beyond_insert hpos
  · have heff : discoEffect env (.applyDisco cacheKey response now) =
        some (.write cacheKey ⟨response, now, resolveDiscoTtl env response.cacheControl⟩) := by
      simp [discoEffect, hs, hu]
    rw [afterOps_disco, afterOps_disco, List.filterMap_cons_some heff]
    exact written_run hpos _ cacheKey _

/-- An environment whose caches hold one entry. -/
def oneEntryEnv : Env where
  getenv name := if name = "JWKS_CACHE_MAX_ENTRIES" then some "1" else none
  float _ := none
  int _ := some 1
  decimal _ := none
  isWord _ := false

def oneKeyResponse (kid : String) : JwksResponse :=
  { isSuccessful := true, keys := some [{ kty := "RSA", kid := some kid }] }

theorem cache_of_one_entry :
    getMaxCacheEntries oneEntryEnv = 1 ∧
      "https://b/jwks" ∈ (afterOps oneEntryEnv
        [.applyJwks "https://b/jwks" (oneKeyResponse "k") 1,
          .applyJwks "https://a/jwks" (oneKeyResponse "k") 0]).jwks :=
  ⟨by decide, ((cache_representation_invariant oneEntryEnv
    [.applyJwks "https://a/jwks" (oneKeyResponse "k") 0]).2.2.2.1 "https://b/jwks"
      (oneKeyResponse "k") 1 rfl (by decide)).1.present⟩

end IdentityModel.Py
