import IdentityModel.Binary64
import IdentityModel.LruCache
import IdentityModel.PyModels

/-!
# The Python JWKS and discovery caches

`core/jwks_cache.py`. An `OrderedDict` is a dictionary kept newest entry first,
so its first key is the last one here. Every environment variable is read once
and memoised, so the environment is one function: the text each variable has
when it is first read. Each operation runs under the process-wide structure
lock, so it is one indivisible step.

The conversions `float` and `int`, the decimal digits of Unicode and its word
characters are the interpreter's; the results hold for any of them.
-/
namespace IdentityModel.Py

/-- The environment and the parts of the interpreter the cache uses; a conversion
that raises `ValueError` gives `none`. -/
structure Env where
  getenv : String → Option String
  float : String → Option Float64
  int : String → Option ℤ
  decimal : Char → Option Digit
  isWord : Char → Bool

def defaultJwksCacheTtlSeconds : ℚ := 86400
def defaultDiscoCacheTtlSeconds : ℚ := 3600
def minCacheTtlSeconds : ℚ := 60
def maxCacheTtlSeconds : ℚ := 86400
def minKidMissCooldownSeconds : ℚ := 0
def maxKidMissCooldownSeconds : ℚ := 3600
def defaultKidMissRefreshCooldownSeconds : ℚ := 5
def defaultMaxCacheEntries : ℕ := 64

section Settings

variable (env : Env)

/-- `_safe_env_float`. -/
def safeEnvFloat (envVar : String) (default minValue maxValue : ℚ) : ℚ :=
  match env.getenv envVar with
  | none => default
  | some raw =>
      if raw = "" then default
      else
        match env.float raw with
        | some (.finite value) => (Float64.finite value).clamp minValue maxValue
        | _ => default

/-- `_safe_env_ttl`. -/
def safeEnvTtl (envVar : String) (default : ℚ) : ℚ :=
  safeEnvFloat env envVar default minCacheTtlSeconds maxCacheTtlSeconds

def getEnvTtl : ℚ := safeEnvTtl env "JWKS_CACHE_TTL" defaultJwksCacheTtlSeconds

def getDiscoEnvTtl : ℚ := safeEnvTtl env "DISCO_CACHE_TTL" defaultDiscoCacheTtlSeconds

def getKidMissCooldown : ℚ :=
  safeEnvFloat env "KID_MISS_REFRESH_COOLDOWN" defaultKidMissRefreshCooldownSeconds
    minKidMissCooldownSeconds maxKidMissCooldownSeconds

def getMaxCacheEntries : ℕ :=
  match env.getenv "JWKS_CACHE_MAX_ENTRIES" with
  | none => defaultMaxCacheEntries
  | some raw =>
      if raw = "" then defaultMaxCacheEntries
      else
        match env.int raw with
        | none => defaultMaxCacheEntries
        | some value => if value < 1 then defaultMaxCacheEntries else value.toNat

variable {env}

theorem safeEnvFloat_mem {envVar : String} {default lo hi : ℚ} (hlo : lo ≤ default)
    (hhi : default ≤ hi) :
    lo ≤ safeEnvFloat env envVar default lo hi ∧ safeEnvFloat env envVar default lo hi ≤ hi := by
  unfold safeEnvFloat
  split
  · exact ⟨hlo, hhi⟩
  · split
    · exact ⟨hlo, hhi⟩
    · split
      · exact Float64.clamp_mem (hlo.trans hhi) _
      · exact ⟨hlo, hhi⟩

/-- A lifetime within the bounds. -/
def TtlOk (ttl : ℚ) : Prop := minCacheTtlSeconds ≤ ttl ∧ ttl ≤ maxCacheTtlSeconds

theorem getEnvTtl_ok : TtlOk (getEnvTtl env) :=
  safeEnvFloat_mem (by norm_num [minCacheTtlSeconds, defaultJwksCacheTtlSeconds])
    (by norm_num [maxCacheTtlSeconds, defaultJwksCacheTtlSeconds])

theorem getDiscoEnvTtl_ok : TtlOk (getDiscoEnvTtl env) :=
  safeEnvFloat_mem (by norm_num [minCacheTtlSeconds, defaultDiscoCacheTtlSeconds])
    (by norm_num [maxCacheTtlSeconds, defaultDiscoCacheTtlSeconds])

theorem getKidMissCooldown_nonneg : 0 ≤ getKidMissCooldown env := by
  have h : minKidMissCooldownSeconds ≤ getKidMissCooldown env :=
    (safeEnvFloat_mem (by norm_num [minKidMissCooldownSeconds, defaultKidMissRefreshCooldownSeconds])
      (by norm_num [maxKidMissCooldownSeconds, defaultKidMissRefreshCooldownSeconds])).1
  exact h

theorem getMaxCacheEntries_pos : 1 ≤ getMaxCacheEntries env := by
  have hdefault : 1 ≤ defaultMaxCacheEntries := by decide
  unfold getMaxCacheEntries
  split
  · exact hdefault
  · split
    · exact hdefault
    · split
      · exact hdefault
      · split
        · exact hdefault
        · omega

end Settings

/-- A pattern character under `re.IGNORECASE`: for the letters of the patterns
here, the two cases, and the long s for `s`. -/
def matchesIgnoreCase (p c : Char) : Bool := toAsciiLower c = p || (p = 's' && c.toNat = 0x17F)

/-- The text behind a literal pattern at the start of `text`. -/
def afterLiteral : List Char → List Char → Option (List Char)
  | [], text => some text
  | _ :: _, [] => none
  | p :: ps, c :: cs => if matchesIgnoreCase p c then afterLiteral ps cs else none

/-- The digits at the start of a text, as many as there are. -/
def leadingDigits (env : Env) : List Char → List Digit
  | [] => []
  | c :: cs =>
      match env.decimal c with
      | some d => d :: leadingDigits env cs
      | none => []

/-- `_MAX_AGE_RE.search`: the digits of the first match. -/
def searchMaxAge (env : Env) : List Char → Option (List Digit)
  | [] => none
  | c :: cs =>
      match afterLiteral "max-age=".toList (c :: cs) with
      | none => searchMaxAge env cs
      | some rest =>
          match leadingDigits env rest with
          | [] => searchMaxAge env cs
          | digits => some digits

/-- A directive between word boundaries, somewhere in the text; `before` is the
character in front of the text. -/
def searchDirective (env : Env) (directive : List Char) : Option Char → List Char → Bool
  | _, [] => false
  | before, c :: cs =>
      (match afterLiteral directive (c :: cs) with
        | none => false
        | some rest => !before.any env.isWord && !rest.head?.any env.isWord) ||
        searchDirective env directive (some c) cs

/-- `is_uncacheable`. -/
def isUncacheable (env : Env) : Option String → Bool
  | none => false
  | some cacheControl =>
      searchDirective env "no-store".toList none cacheControl.toList ||
        searchDirective env "no-cache".toList none cacheControl.toList

/-- `is_uncacheable_for_jwks`: key sets are public, so never. -/
def isUncacheableForJwks (_ : Option String) : Bool := false

/-- `parse_max_age`; a number too large for a float is infinite. -/
def parseMaxAge (env : Env) : Option String → Option Float64
  | none => none
  | some cacheControl =>
      (searchMaxAge env cacheControl.toList).map fun digits => Float64.ofRat (digitsValue digits)

/-- The lifetime of an entry: the clamped `max-age`, else the configured one. -/
def resolveTtlOr (env : Env) (configured : ℚ) (cacheControl : Option String) : ℚ :=
  match parseMaxAge env cacheControl with
  | some maxAge => maxAge.clamp minCacheTtlSeconds maxCacheTtlSeconds
  | none => configured

/-- `resolve_ttl`. -/
def resolveTtl (env : Env) : Option String → ℚ := resolveTtlOr env (getEnvTtl env)

/-- `resolve_disco_ttl`. -/
def resolveDiscoTtl (env : Env) : Option String → ℚ := resolveTtlOr env (getDiscoEnvTtl env)

theorem resolveTtlOr_ok {env : Env} {configured : ℚ} (h : TtlOk configured)
    (cacheControl : Option String) : TtlOk (resolveTtlOr env configured cacheControl) := by
  unfold resolveTtlOr
  split
  · exact Float64.clamp_mem (by norm_num [minCacheTtlSeconds, maxCacheTtlSeconds]) _
  · exact h

/-- `JwksCacheEntry` and `DiscoCacheEntry`. -/
structure CacheEntry (ρ : Type*) where
  response : ρ
  cachedAt : ℚ
  ttl : ℚ
  deriving DecidableEq

abbrev JwksCache := Dict String (CacheEntry JwksResponse)

abbrev DiscoCache := Dict DiscoKey (CacheEntry DiscoveryDocumentResponse)

/-- `later - earlier >= bound` on two readings of the monotonic clock. -/
def hasElapsed (bound earlier later : ℚ) : Bool :=
  ((Float64.finite later).sub (.finite earlier)).ge (.finite bound)

theorem hasElapsed_mono {bound earlier earlier' later later' : ℚ}
    (h : hasElapsed bound earlier later = true) (he : earlier' ≤ earlier) (hl : later ≤ later') :
    hasElapsed bound earlier' later' = true :=
  Float64.ge_ofRat_mono (by linarith) h

/-- `is_cache_expired`. -/
def CacheEntry.isExpired {ρ : Type*} (entry : CacheEntry ρ) (now : ℚ) : Bool :=
  hasElapsed entry.ttl entry.cachedAt now

/-- `should_attempt_kid_miss_refresh`. -/
def shouldAttemptKidMissRefresh (env : Env) (lastAttempts : Dict String ℚ) (jwksUri : String)
    (hasCachedKeys : Bool) (now : ℚ) : Bool :=
  if hasCachedKeys then
    match lastAttempts.lookup jwksUri with
    | none => true
    | some last => hasElapsed (getKidMissCooldown env) last now
  else true

section Operations

variable {κ ρ : Type*} [DecidableEq κ]

/-- `touch_cache_entry`. -/
def touchCacheEntry (cache : Dict κ ρ) (key : κ) : Dict κ ρ := cache.touch key

/-- `clear_cache_locked`. -/
def clearCacheLocked (_ : Dict κ ρ) : Dict κ ρ := ∅

/-- `_enforce_size_limit`: pop the least recently used entry until the cache fits. -/
def enforceSizeLimit (env : Env) (cache : Dict κ ρ) : Dict κ ρ × List κ :=
  Dict.popLoop (getMaxCacheEntries env) cache.size cache

omit [DecidableEq κ] in
theorem enforceSizeLimit_eq (env : Env) (cache : Dict κ ρ) :
    enforceSizeLimit env cache =
      (cache.keepNewest (getMaxCacheEntries env), cache.beyond (getMaxCacheEntries env)) :=
  Dict.popLoop_eq (Nat.le_add_left _ _)

end Operations

/-- `apply_jwks_cache_outcome` on the cache and the cooldown stamps kept beside
it; the keys it evicted come third. -/
def applyJwksCacheOutcome (env : Env) (cache : JwksCache) (cooldown : Dict String ℚ)
    (jwksUri : String) (response : JwksResponse) (now : ℚ) :
    JwksCache × Dict String ℚ × List String :=
  if !response.isSuccessful then (cache, cooldown, [])
  else if response.keyList = [] then (cache, cooldown, [])
  else if isUncacheableForJwks response.cacheControl then
    (cache.erase jwksUri, cooldown.erase jwksUri, [])
  else
    let entry : CacheEntry JwksResponse := ⟨response, now, resolveTtl env response.cacheControl⟩
    let kept := enforceSizeLimit env (cache.insert jwksUri entry)
    (kept.1, cooldown.eraseAll kept.2, kept.2)

/-- `apply_disco_cache_outcome`. -/
def applyDiscoCacheOutcome (env : Env) (cache : DiscoCache) (cacheKey : DiscoKey)
    (response : DiscoveryDocumentResponse) (now : ℚ) : DiscoCache :=
  if !response.isSuccessful then cache
  else if isUncacheable env response.cacheControl then cache.erase cacheKey
  else
    let entry : CacheEntry DiscoveryDocumentResponse :=
      ⟨response, now, resolveDiscoTtl env response.cacheControl⟩
    (enforceSizeLimit env (cache.insert cacheKey entry)).1

section Outcomes

variable {env : Env} {response : JwksResponse}

theorem JwksResponse.stored_or_retained (r : JwksResponse) :
    (r.isSuccessful = true ∧ r.keyList ≠ []) ∨ r.isSuccessful = false ∨ r.keyList = [] := by
  by_cases hs : r.isSuccessful = true
  · by_cases hk : r.keyList = []
    · exact .inr (.inr hk)
    · exact .inl ⟨hs, hk⟩
  · exact .inr (.inl (by simpa using hs))

/-- An unsuccessful or empty answer changes nothing. -/
theorem applyJwksCacheOutcome_retain (cache : JwksCache) (cooldown : Dict String ℚ)
    (jwksUri : String) (now : ℚ) (h : response.isSuccessful = false ∨ response.keyList = []) :
    applyJwksCacheOutcome env cache cooldown jwksUri response now = (cache, cooldown, []) := by
  unfold applyJwksCacheOutcome
  obtain h | h := h
  · rw [h]
    rfl
  · by_cases hs : response.isSuccessful = true
    · simp [hs, h]
    · simp [hs]

/-- The entry a successful answer is stored as. -/
def jwksEntry (env : Env) (response : JwksResponse) (now : ℚ) : CacheEntry JwksResponse :=
  ⟨response, now, resolveTtl env response.cacheControl⟩

/-- A successful answer with keys is stored as the newest entry; what is beyond
the bound is evicted together with its stamps. -/
theorem applyJwksCacheOutcome_store (cache : JwksCache) (cooldown : Dict String ℚ)
    (jwksUri : String) (now : ℚ) (hs : response.isSuccessful = true) (hk : response.keyList ≠ []) :
    applyJwksCacheOutcome env cache cooldown jwksUri response now =
      (Dict.keepNewest (getMaxCacheEntries env) (cache.insert jwksUri (jwksEntry env response now)),
        cooldown.eraseAll (Dict.beyond (getMaxCacheEntries env)
          (cache.insert jwksUri (jwksEntry env response now))),
        Dict.beyond (getMaxCacheEntries env)
          (cache.insert jwksUri (jwksEntry env response now))) := by
  simp only [applyJwksCacheOutcome, hs, hk, isUncacheableForJwks, enforceSizeLimit_eq, jwksEntry]
  rfl

/-- What is in the cache after a write was there before, or is the answer's entry. -/
theorem lookup_applyJwksCacheOutcome {cache : JwksCache} {cooldown : Dict String ℚ}
    {jwksUri k : String} {now : ℚ} {entry : CacheEntry JwksResponse}
    (h : (applyJwksCacheOutcome env cache cooldown jwksUri response now).1.lookup k = some entry) :
    cache.lookup k = some entry ∨
      (k = jwksUri ∧ entry = jwksEntry env response now ∧ response.isSuccessful = true ∧
        response.keyList ≠ []) := by
  obtain hs | hr := response.stored_or_retained
  · rw [applyJwksCacheOutcome_store _ _ _ _ hs.1 hs.2] at h
    obtain ⟨rfl, rfl⟩ | ⟨-, hold⟩ := Dict.lookup_insert_eq_some.mp (Dict.lookup_keepNewest h)
    · exact .inr ⟨rfl, rfl, hs.1, hs.2⟩
    · exact .inl hold
  · rw [applyJwksCacheOutcome_retain _ _ _ _ hr] at h
    exact .inl h

theorem lookup_applyDiscoCacheOutcome {cache : DiscoCache} {cacheKey k : DiscoKey}
    {response : DiscoveryDocumentResponse} {now : ℚ} {entry : CacheEntry DiscoveryDocumentResponse}
    (h : (applyDiscoCacheOutcome env cache cacheKey response now).lookup k = some entry) :
    cache.lookup k = some entry ∨
      (k = cacheKey ∧ entry.response = response ∧ response.isSuccessful = true) := by
  unfold applyDiscoCacheOutcome at h
  split at h
  · exact .inl h
  · rename_i hs
    split at h
    · exact .inl (Dict.lookup_erase_eq_some.mp h).2
    · simp only [enforceSizeLimit_eq] at h
      obtain ⟨rfl, rfl⟩ | ⟨-, hold⟩ := Dict.lookup_insert_eq_some.mp (Dict.lookup_keepNewest h)
      · exact .inr ⟨rfl, rfl, by simpa using hs⟩
      · exact .inl hold

end Outcomes

end IdentityModel.Py
