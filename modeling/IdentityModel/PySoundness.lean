import IdentityModel.PyValidateToken

/-!
# Soundness of discovery-mode validation

Claims are returned only for a token that was decoded with a key of a key set
served for the `jwks_uri` of a discovery document, under the algorithm of the
token's own header, against the issuer of that document. The first part says what
a successful decode shows; the second follows documents and key sets through the
caches and the program counters of whole runs.
-/
namespace IdentityModel.Py

open Runs Tasks

/-- The `iss` claim is the issuer, or one of the issuers. -/
def Issuer.Matches (i : Issuer) (claims : Claims) : Prop :=
  ∃ s ∈ Issuer.candidates (some i), claims.lookup "iss" = some (.str s)

/-- The options do not disable the issuer check. -/
def verifiesIss (options : Option (List (String × Bool))) : Bool :=
  (options.getD []).lookup "verify_iss" ≠ some false

/-- What is assumed of PyJWT: `decode` under a single algorithm succeeds only for a
token with that algorithm in its header, signed under the key, and with the
issuer it was given. -/
structure PyJwt.Sound (pyjwt : PyJwt) (Signed : String → JsonWebKey → String → Prop) : Prop where
  header : ∀ now args a claims, args.Enforced → args.algorithms = [a] →
    pyjwt.decode now args = .ok claims →
    ∀ header, pyjwt.header args.jwt = .ok header → header.alg = some (.str a)
  signed : ∀ now args a claims, args.Enforced → args.algorithms = [a] →
    pyjwt.decode now args = .ok claims → Signed args.jwt args.key a
  issuer : ∀ now args i claims, args.Enforced → args.issuer = some i →
    verifiesIss args.options = true → pyjwt.decode now args = .ok claims → i.Matches claims

/-- A key and an algorithm that agree with each other and with the settings. -/
structure Agrees (config : TokenValidationConfig) (key : JsonWebKey) (alg : String) : Prop where
  notNone : isNone alg = false
  allowed : ∀ algs, config.algorithms = some algs → alg ∈ algs
  kty : ∀ kty, algToKty.lookup alg = some kty → key.kty = kty
  declared : truthy key.alg = none ∨ key.alg = some alg

section Decode

theorem filterOrAll_subset {p : JsonWebKey → Bool} {keys : List JsonWebKey} {k : JsonWebKey}
    (h : k ∈ filterOrAll p keys) : k ∈ keys := by
  unfold filterOrAll at h
  split at h
  · exact h
  · exact (List.mem_filter.mp h).1

theorem noKidCandidates_subset {keys candidates : List JsonWebKey} {alg : Option HeaderAlg}
    (h : noKidCandidates keys alg = .ok candidates) : ∀ k ∈ candidates, k ∈ keys := by
  intro k hk
  simp only [noKidCandidates] at h
  split at h
  · cases h
  · split at h
    · cases h
      exact filterOrAll_subset hk
    · split at h
      · cases h
      · split at h
        · split at h
          · cases h
            exact filterOrAll_subset (filterOrAll_subset (filterOrAll_subset hk))
          · cases h
            exact filterOrAll_subset (filterOrAll_subset hk)
        · cases h
          exact filterOrAll_subset hk

theorem selectKey_ok {key k : JsonWebKey} {jwtAlg : Option HeaderAlg} {alg : String}
    (h : selectKey key jwtAlg = .ok (k, alg)) :
    k = key ∧ alg = resolveAlg key jwtAlg ∧ validateKeyAlgConsistency key jwtAlg = .ok () := by
  unfold selectKey at h
  split at h
  · cases h
  · rename_i hv
    cases h
    exact ⟨rfl, rfl, hv⟩

/-- The key found is one of the keys, checked against the header. -/
theorem findKeyByKid_ok {kid : Option String} {keys : List JsonWebKey} {jwtAlg : Option HeaderAlg}
    {key : JsonWebKey} {alg : String} (h : findKeyByKid kid keys jwtAlg = .ok (key, alg)) :
    key ∈ keys ∧ alg = resolveAlg key jwtAlg ∧ validateKeyAlgConsistency key jwtAlg = .ok () := by
  simp only [findKeyByKid] at h
  split at h
  · cases h
  · split at h
    · split at h
      · cases h
      · rename_i k hk
        obtain ⟨rfl, hrest⟩ := selectKey_ok h
        exact ⟨noKidCandidates_subset hk key (by simp), hrest⟩
      · cases h
    · split at h
      · cases h
      · rename_i k hk
        obtain ⟨rfl, hrest⟩ := selectKey_ok h
        exact ⟨List.mem_of_find?_eq_some hk, hrest⟩

theorem truthy_eq_some {o : Option String} {s : String} :
    truthy o = some s ↔ o = some s ∧ s ≠ "" := by
  cases o with
  | none => simp [truthy]
  | some t =>
      simp only [truthy]
      split <;> grind

/-- The algorithm a key is used with is never empty. -/
theorem resolveAlg_ne_empty (key : JsonWebKey) (jwtAlg : Option HeaderAlg) :
    resolveAlg key jwtAlg ≠ "" := by
  unfold resolveAlg
  split
  · rename_i alg halg
    exact (truthy_eq_some.mp halg).2
  · split
    · split
      · decide
      · assumption
    · decide

/-- A key that passed its check agrees with a header algorithm that it is used
with. -/
theorem agrees_of_consistent {config : TokenValidationConfig} {key : JsonWebKey} {alg : String}
    (hne : alg ≠ "") (h : validateKeyAlgConsistency key (some (.str alg)) = .ok ())
    (hallowed : ∀ algs, config.algorithms = some algs → alg ∈ algs) : Agrees config key alg := by
  have htruthy : truthy (some alg) = some alg := truthy_eq_some.mpr ⟨rfl, hne⟩
  have hdeclared : validateKeyAlgConsistency.matchDeclaredAlg key alg = .ok () →
      truthy key.alg = none ∨ key.alg = some alg := by
    intro hm
    unfold validateKeyAlgConsistency.matchDeclaredAlg at hm
    split at hm
    · rename_i hk
      exact .inl hk
    · rename_i keyAlg hk
      split at hm
      · cases hm
      · rename_i heq
        refine .inr ?_
        rw [(truthy_eq_some.mp hk).1]
        simpa using heq
  simp only [validateKeyAlgConsistency, rejectNonStringAlg, htruthy] at h
  split at h
  · cases h
  · rename_i hnone
    have hnot : isNone alg = false := by simpa using hnone
    split at h
    · rename_i kty hkty
      split at h
      · cases h
      · rename_i heq
        refine ⟨hnot, hallowed, fun kty' hk => ?_, hdeclared h⟩
        rw [hkty] at hk
        cases hk
        simpa using heq
    · rename_i hkty
      refine ⟨hnot, hallowed, fun kty' hk => ?_, hdeclared h⟩
      rw [hkty] at hk
      cases hk

/-- The issuers a value stands for are among what the loop goes over. -/
theorem Issuer.mem_listed {i : Issuer} {listed : List Json} (h : i.listed = .ok listed)
    (hne : listed ≠ []) {s : String} (hs : s ∈ Issuer.candidates (some i)) : .str s ∈ listed := by
  cases i with
  | one t =>
      obtain rfl : [.str t] = listed := Except.ok.inj h
      rw [List.mem_singleton.mp hs]
      exact List.mem_singleton_self _
  | many ss =>
      obtain rfl : ss.map .str = listed := Except.ok.inj h
      exact List.mem_map_of_mem hs
  | other value mistyped =>
      simp only [Issuer.listed] at h
      split at h
      · cases hiter : iterate value with
        | error e =>
            rw [hiter] at h
            cases h
        | ok elems =>
            rw [hiter] at h
            obtain rfl : elems = listed := Except.ok.inj h
            simp only [Issuer.candidates, hiter] at hs
            obtain ⟨j, hj, hstr⟩ := List.mem_filterMap.mp hs
            rwa [← Json.str?_eq_some hstr]
      · obtain rfl : [] = listed := Except.ok.inj h
        exact absurd rfl hne

theorem enforceAllowedIssuers_none {str : Json → String} {i : Issuer} {allowed : List String}
    (h : enforceAllowedIssuers str (some i) allowed = none) :
    ∀ s ∈ Issuer.candidates (some i), s ∈ allowed := by
  intro s hs
  simp only [enforceAllowedIssuers] at h
  split at h
  · cases h
  · cases h
  · rename_i listed hne hlisted
    have hnone := List.findSome?_eq_none_iff.mp h _ (Issuer.mem_listed hlisted (by simpa using hne) hs)
    simpa [enforceAllowedIssuer] using hnone

/-- The settings a resolved key is decoded with. -/
theorem buildResolvedConfig_ok {config resolved : TokenValidationConfig} {key : JsonWebKey}
    {alg : String} (h : buildResolvedConfig config key alg = .ok resolved) :
    resolved = { config with key := some key, algorithms := some [alg] } ∧
      ∀ algs, config.algorithms = some algs → alg ∈ algs := by
  unfold buildResolvedConfig at h
  split at h
  · cases h
  · rename_i hall
    cases h
    refine ⟨rfl, fun algs halgs => ?_⟩
    simpa [halgs] using hall

theorem decodeAndValidateJwt_ok {pyjwt : PyJwt} {args : DecodeArgs} {subject : Option String}
    {claims : Claims} (h : decodeAndValidateJwt pyjwt args subject = .ok claims) :
    pyjwt.decode pyjwt.now args = .ok claims ∧ args.Enforced := by
  unfold decodeAndValidateJwt at h
  split at h
  · cases h
  · split at h
    · cases h
    · split at h
      · cases h
      · rename_i henforced
        split at h
        · cases h
        · rename_i decoded hd
          split at h
          · cases h
          · cases h
            exact ⟨hd, henforced⟩

/-- What the decode under a resolved key shows. -/
structure Decoded (pyjwt : PyJwt) (Signed : String → JsonWebKey → String → Prop) (jwt : String)
    (config : TokenValidationConfig) (i : Issuer) (key : JsonWebKey) (alg : String)
    (claims : Claims) : Prop where
  header : ∃ header, pyjwt.header jwt = .ok header ∧ header.alg = some (.str alg)
  signed : Signed jwt key alg
  issuer : verifiesIss config.options = true → i.Matches claims
  pinned : ∀ allowed, config.allowedIssuers = some allowed →
    ∀ s ∈ Issuer.candidates (some i), s ∈ allowed

/-- Nothing of it depends on the time. -/
theorem Decoded.at_iff {pyjwt : PyJwt} {now : ℚ} {Signed : String → JsonWebKey → String → Prop}
    {jwt : String} {config : TokenValidationConfig} {i : Issuer} {key : JsonWebKey} {alg : String} {claims : Claims} :
    Decoded (pyjwt.at now) Signed jwt config i key alg claims ↔
      Decoded pyjwt Signed jwt config i key alg claims :=
  ⟨fun h => ⟨h.header, h.signed, h.issuer, h.pinned⟩, fun h => ⟨h.header, h.signed, h.issuer, h.pinned⟩⟩

variable {pyjwt : PyJwt} {Signed : String → JsonWebKey → String → Prop} {jwt : String}
  {config : TokenValidationConfig} {claims : Claims}

theorem decodeWithConfig_ok (hsound : pyjwt.Sound Signed) {key : JsonWebKey} {alg : String}
    {i : Issuer} {header : Header} (hheader : pyjwt.header jwt = .ok header) (h : decodeWithConfig pyjwt jwt
      { config with key := some key, algorithms := some [alg] } (some i) = .ok claims) :
    Decoded pyjwt Signed jwt config i key alg claims := by
  simp only [decodeWithConfig, Option.getD_some, Option.some_or] at h
  split at h
  · cases h
  · rename_i hpin
    obtain ⟨hdecode, henforced⟩ := decodeAndValidateJwt_ok h
    refine ⟨⟨header, hheader, hsound.header _ _ alg claims henforced rfl hdecode header hheader⟩,
      hsound.signed _ _ alg claims henforced rfl hdecode,
      fun hiss => hsound.issuer _ _ i claims henforced rfl hiss hdecode, fun allowed hallowed => ?_⟩
    rw [hallowed] at hpin
    exact enforceAllowedIssuers_none hpin

/-- A token decoded with a key set was decoded with one of its keys, under the
algorithm of the token's header. -/
theorem resolveAndDecode_ok (hsound : pyjwt.Sound Signed) {header : Header}
    {keys : List JsonWebKey} {i : Issuer} (hheader : pyjwt.header jwt = .ok header)
    (h : resolveAndDecode pyjwt jwt config header keys (some i) = .ok claims) :
    ∃ key ∈ keys, ∃ alg, Decoded pyjwt Signed jwt config i key alg claims ∧
      Agrees config key alg := by
  unfold resolveAndDecode at h
  split at h
  · cases h
  · rename_i key alg hfind
    obtain ⟨hmem, halg, hcons⟩ := findKeyByKid_ok hfind
    split at h
    · cases h
    · rename_i resolved hres
      obtain ⟨rfl, hallowed⟩ := buildResolvedConfig_ok hres
      have hdec := decodeWithConfig_ok hsound hheader h
      have hne : alg ≠ "" := halg ▸ resolveAlg_ne_empty key header.alg
      obtain ⟨header', hheader', halg'⟩ := hdec.header
      rw [hheader] at hheader'
      cases hheader'
      rw [halg'] at hcons
      exact ⟨key, hmem, alg, hdec, agrees_of_consistent hne hcons hallowed⟩

end Decode

/-- The validator is one that its entry point runs: a truthy callable, whose
awaitable, if it returns one, is awaited. -/
def ClaimsValidator.Runs (flavour : Flavour) (v : ClaimsValidator) (claims : Claims) : Prop :=
  v.isTrue = true ∧
    match v.call claims with
    | .awaitable _ => flavour = .aio ∧ v.isCoroutineFunction = true
    | _ => True

def ClaimsValidator.Accepts (v : ClaimsValidator) (claims : Claims) : Prop :=
  match v.call claims with
  | .returned => True
  | .raised _ => False
  | .awaitable result => result = .ok ()

theorem claimsVerdict_none {result : Except PyError Unit} (h : claimsVerdict result = none) :
    result = .ok () := by
  cases result with
  | ok u => rfl
  | error e =>
      simp only [claimsVerdict] at h
      split at h <;> cases h

theorem validateClaims_none {flavour : Flavour} {config : TokenValidationConfig} {claims : Claims}
    (h : validateClaims flavour config claims = none) :
    ∀ v, config.claimsValidator = some v → v.Runs flavour claims → v.Accepts claims := by
  intro v hv hruns
  obtain ⟨htrue, hawait⟩ := hruns
  simp only [validateClaims, hv, htrue, Bool.not_true, Bool.false_eq_true, if_false] at h
  unfold ClaimsValidator.Accepts
  cases hcall : v.call claims with
  | returned => trivial
  | raised e =>
      simp only [hcall] at h
      cases claimsVerdict_none h
  | awaitable result =>
      simp only [hcall] at h hawait
      rw [if_pos hawait] at h
      exact claimsVerdict_none h

/-- What the claims returned for a request rest on. -/
structure Grounds (rt : Runtime) (Signed : String → JsonWebKey → String → Prop)
    (log : List LogEvent) (req : Request) (claims : Claims) (doc : DiscoveryDocumentResponse)
    (uri : String) (set : JwksResponse) (key : JsonWebKey) (alg : String) (i : Issuer) :
    Prop where
  served : .discovery req.discoKey doc ∈ log
  found : doc.isSuccessful = true
  jwksUri : doc.jwksUri = some (.str uri)
  issuer : doc.issuer = some i
  keysServed : ∃ purpose, .keys uri purpose set ∈ log
  keysFound : set.isSuccessful = true
  keyServed : key ∈ set.keyList
  decoded : Decoded rt.pyjwt Signed req.jwt req.config i key alg claims
  agrees : Agrees req.config key alg
  accepted : ∀ v, req.config.claimsValidator = some v → v.Runs rt.flavour claims →
    v.Accepts claims

theorem Grounds.at_iff {rt : Runtime} {now : ℚ} {Signed : String → JsonWebKey → String → Prop}
    {log : List LogEvent} {req : Request} {claims : Claims} {doc : DiscoveryDocumentResponse}
    {uri : String} {set : JwksResponse} {key : JsonWebKey} {alg : String} {i : Issuer} :
    Grounds (rt.at now) Signed log req claims doc uri set key alg i ↔
      Grounds rt Signed log req claims doc uri set key alg i := by
  constructor
  · intro h
    exact { h with decoded := Decoded.at_iff.mp h.decoded }
  · intro h
    exact { h with decoded := Decoded.at_iff.mpr h.decoded }

/-- A document that was served for the request, with its `jwks_uri`. -/
structure Disco.Backed (log : List LogEvent) (req : Request) (d : Disco) : Prop where
  served : .discovery req.discoKey d.doc ∈ log
  found : d.doc.isSuccessful = true
  jwksUri : d.doc.jwksUri = some (.str d.uri)
  issuer : ∃ i, d.doc.issuer = some i

/-- A key set that was served for the URI. -/
def Served (log : List LogEvent) (uri : String) (set : JwksResponse) : Prop :=
  ∃ purpose, .keys uri purpose set ∈ log

def Why.Backed (rt : Runtime) (log : List LogEvent) (req : Request) (d : Disco) : Why → Prop
  | .kidMiss _ header cached => rt.pyjwt.header req.jwt = .ok header ∧ Served log d.uri cached ∧
      cached.isSuccessful = true
  | .retry => True

/-- What a result rests on. -/
def Result.Backed (rt : Runtime) (Signed : String → JsonWebKey → String → Prop)
    (log : List LogEvent) (req : Request) : Result → Prop
  | .ok claims => req.config.performDisco = true → ∃ doc uri set key alg i,
      Grounds rt Signed log req claims doc uri set key alg i
  | .error _ => True

/-- Where the data of a program counter comes from. -/
def Pc.Backed (rt : Runtime) (Signed : String → JsonWebKey → String → Prop)
    (log : List LogEvent) (req : Request) : Pc → Prop
  | .discoRead => True
  | .discoTouch response _ => .discovery req.discoKey response ∈ log ∧
      response.isSuccessful = true ∧ ∃ i, response.issuer = some i
  | .discoWait => True
  | .discoRecheck => True
  | .discoFetch => True
  | .discoWrite response => response.isSuccessful = true → ∃ i, response.issuer = some i
  | .jwksRead d => d.Backed log req
  | .jwksTouch d response _ => d.Backed log req ∧ Served log d.uri response
  | .jwksWait d => d.Backed log req
  | .jwksRecheck d => d.Backed log req
  | .jwksFetch d => d.Backed log req
  | .jwksWrite d _ => d.Backed log req
  | .gate d why => d.Backed log req ∧ why.Backed rt log req d
  | .gateCheck d why _ => d.Backed log req ∧ why.Backed rt log req d
  | .refreshWait d why => d.Backed log req ∧ why.Backed rt log req d
  | .refreshCheck d why => d.Backed log req ∧ why.Backed rt log req d
  | .refreshFetch d why => d.Backed log req ∧ why.Backed rt log req d
  | .refreshWrite d why _ => d.Backed log req ∧ why.Backed rt log req d
  | .settle _ _ next => next.Backed rt Signed log req
  | .done result => result.Backed rt Signed log req

/-- The caches hold what was served. -/
structure Shared.Backed (w : Shared) : Prop where
  disco : ∀ key entry, w.disco.lookup key = some entry → .discovery key entry.response ∈ w.log ∧
    entry.response.isSuccessful = true ∧ ∃ i, entry.response.issuer = some i
  jwks : ∀ uri entry, w.jwks.lookup uri = some entry → Served w.log uri entry.response

section Mono

variable {rt : Runtime} {Signed : String → JsonWebKey → String → Prop} {log log' : List LogEvent}
  {req : Request} (hlog : ∀ e ∈ log, e ∈ log')
include hlog

theorem Disco.Backed.mono {d : Disco} (h : d.Backed log req) : d.Backed log' req :=
  ⟨hlog _ h.served, h.found, h.jwksUri, h.issuer⟩

theorem Served.mono {uri : String} {set : JwksResponse} (h : Served log uri set) :
    Served log' uri set := by
  obtain ⟨purpose, hmem⟩ := h
  exact ⟨purpose, hlog _ hmem⟩

theorem Why.Backed.mono {d : Disco} {why : Why} (h : why.Backed rt log req d) :
    why.Backed rt log' req d := by
  cases why with
  | kidMiss kid header cached => exact ⟨h.1, h.2.1.mono hlog, h.2.2⟩
  | retry => trivial

theorem Result.Backed.mono {r : Result} (h : r.Backed rt Signed log req) :
    r.Backed rt Signed log' req := by
  cases r with
  | error e => trivial
  | ok claims =>
      intro hdisco
      obtain ⟨doc, uri, set, key, alg, i, hg⟩ := h hdisco
      refine ⟨doc, uri, set, key, alg, i, ?_⟩
      obtain ⟨purpose, hkeys⟩ := hg.keysServed
      exact { hg with served := hlog _ hg.served, keysServed := ⟨purpose, hlog _ hkeys⟩ }

theorem Pc.Backed.mono {pc : Pc} (h : pc.Backed rt Signed log req) :
    pc.Backed rt Signed log' req := by
  induction pc with
  | discoTouch response locked => exact ⟨hlog _ h.1, h.2⟩
  | discoWrite response => exact h
  | jwksTouch d response locked => exact ⟨h.1.mono hlog, h.2.mono hlog⟩
  | gate d why => exact ⟨h.1.mono hlog, h.2.mono hlog⟩
  | gateCheck d why now => exact ⟨h.1.mono hlog, h.2.mono hlog⟩
  | refreshWait d why => exact ⟨h.1.mono hlog, h.2.mono hlog⟩
  | refreshCheck d why => exact ⟨h.1.mono hlog, h.2.mono hlog⟩
  | refreshFetch d why => exact ⟨h.1.mono hlog, h.2.mono hlog⟩
  | refreshWrite d why response => exact ⟨h.1.mono hlog, h.2.mono hlog⟩
  | settle d stamp next ih => exact ih h
  | done result => exact Result.Backed.mono hlog h
  | jwksRead d => exact Disco.Backed.mono hlog h
  | jwksWait d => exact Disco.Backed.mono hlog h
  | jwksRecheck d => exact Disco.Backed.mono hlog h
  | jwksFetch d => exact Disco.Backed.mono hlog h
  | jwksWrite d response => exact Disco.Backed.mono hlog h
  | _ => trivial

end Mono

section Landing

variable {rt : Runtime} {Signed : String → JsonWebKey → String → Prop} {log : List LogEvent}
  {req : Request} {d : Disco}

theorem finish_backed {claims : Claims} {set : JwksResponse} {key : JsonWebKey} {alg : String}
    {i : Issuer} (hd : d.Backed log req) (hi : d.doc.issuer = some i)
    (hset : Served log d.uri set) (hfound : set.isSuccessful = true) (hkey : key ∈ set.keyList)
    (hdec : Decoded rt.pyjwt Signed req.jwt req.config i key alg claims)
    (hagrees : Agrees req.config key alg) :
    (finish rt req (.ok claims)).Backed rt Signed log req := by
  simp only [finish]
  split
  · trivial
  · rename_i hnone
    exact fun _ => ⟨d.doc, d.uri, set, key, alg, i, hd.served, hd.found, hd.jwksUri, hi, hset,
      hfound, hkey, hdec, hagrees, validateClaims_none hnone⟩

variable (hsound : rt.pyjwt.Sound Signed)
include hsound

/-- A decode with the keys of a served set leads to a result with grounds. -/
theorem finish_decode_backed {header : Header} {set : JwksResponse} (hd : d.Backed log req)
    (hset : Served log d.uri set) (hfound : set.isSuccessful = true)
    (hheader : rt.pyjwt.header req.jwt = .ok header) :
    (finish rt req (resolveAndDecode rt.pyjwt req.jwt req.config header set.keyList
      d.doc.issuer)).Backed rt Signed log req := by
  obtain ⟨i, hi⟩ := hd.issuer
  cases hres : resolveAndDecode rt.pyjwt req.jwt req.config header set.keyList d.doc.issuer with
  | error e => trivial
  | ok claims =>
      rw [hi] at hres
      obtain ⟨key, hkey, alg, hdec, hagrees⟩ := resolveAndDecode_ok hsound hheader hres
      exact finish_backed hd hi hset hfound hkey hdec hagrees

theorem attempt_backed {header : Header} {set : JwksResponse} (hd : d.Backed log req)
    (hset : Served log d.uri set) (hfound : set.isSuccessful = true)
    (hheader : rt.pyjwt.header req.jwt = .ok header) :
    (attempt rt req d header set.keyList).Backed rt Signed log req := by
  have hfinish := finish_decode_backed hsound hd hset hfound hheader
  unfold attempt
  cases hres : resolveAndDecode rt.pyjwt req.jwt req.config header set.keyList d.doc.issuer with
  | ok claims =>
      rw [hres] at hfinish
      exact hfinish
  | error e =>
      simp only
      split
      · exact ⟨hd, trivial⟩
      · trivial

omit hsound in
theorem isSuccessful_of_valid {response : JwksResponse} (h : validateJwksResponse response = none) :
    response.isSuccessful = true := by
  by_contra hs
  rw [Bool.not_eq_true] at hs
  simp [validateJwksResponse, hs] at h

omit hsound in
theorem afterDisco_backed {response : DiscoveryDocumentResponse}
    (hserved : .discovery req.discoKey response ∈ log)
    (hissuer : response.isSuccessful = true → ∃ i, response.issuer = some i) :
    (afterDisco rt response).Backed rt Signed log req := by
  obtain ⟨e, he⟩ | ⟨uri, huri, hfound, hjwks, -⟩ := afterDisco_cases rt response
  · rw [he]
    trivial
  · rw [huri]
    exact ⟨hserved, hfound, hjwks, hissuer hfound⟩

theorem afterJwks_backed {response : JwksResponse} (hd : d.Backed log req)
    (hset : Served log d.uri response) : (afterJwks rt req d response).Backed rt Signed log req := by
  simp only [afterJwks]
  split
  · trivial
  · rename_i hvalid
    have hfound := isSuccessful_of_valid hvalid
    split
    · trivial
    · rename_i header hheader
      split
      · exact attempt_backed hsound hd hset hfound hheader
      · split
        · exact attempt_backed hsound hd hset hfound hheader
        · exact ⟨hd, hheader, hset, hfound⟩

theorem afterBlocked_backed {why : Why} (hd : d.Backed log req) (hwhy : why.Backed rt log req d) :
    (afterBlocked rt req d why).Backed rt Signed log req := by
  cases why with
  | kidMiss kid header cached => exact attempt_backed hsound hd hwhy.2.1 hwhy.2.2 hwhy.1
  | retry => trivial

theorem afterRefresh_backed {why : Why} {response : JwksResponse} (retained : Bool)
    (hd : d.Backed log req) (hwhy : why.Backed rt log req d) (hset : Served log d.uri response) :
    (afterRefresh rt req d why response retained).Backed rt Signed log req := by
  cases why with
  | kidMiss kid header cached =>
      simp only [afterRefresh]
      split
      · rename_i hvalid
        have hatt := attempt_backed hsound hd hset (isSuccessful_of_valid hvalid) hwhy.1
        split
        · exact hatt
        · exact hatt
      · split
        · trivial
        · trivial
  | retry =>
      simp only [afterRefresh]
      split
      · trivial
      · rename_i hvalid
        have hfin : (finish rt req (retryDecode rt req d response.keyList)).Backed rt Signed log
            req := by
          unfold retryDecode
          split
          · trivial
          · rename_i header hheader
            exact finish_decode_backed hsound hd hset (isSuccessful_of_valid hvalid) hheader
        split
        · exact hfin
        · exact hfin

end Landing

section Steps

variable {rt : Runtime} {Signed : String → JsonWebKey → String → Prop} {w w' : Shared}
  {req : Request} {pc pc' : Pc} {act : Act}

/-- Operations only add to the log. -/
theorem Advance.log_grows (h : Advance rt w req pc act w' pc') : ∀ e ∈ w.log, e ∈ w'.log := by
  intro e he
  cases h with
  | discoWrite response held => exact List.mem_cons_of_mem _ he
  | jwksWrite d response held =>
      exact List.mem_append_right _ (List.mem_cons_of_mem _ he)
  | refreshSend d why => exact List.mem_cons_of_mem _ he
  | refreshRaised d why response e held => exact List.mem_cons_of_mem _ he
  | refreshWrite d why response =>
      exact List.mem_append_right _ (List.mem_append_right _ (List.mem_cons_of_mem _ he))
  | _ => exact he

theorem freshResponse_eq_some {ρ : Type*} {entry : Option (CacheEntry ρ)} {now : ℚ} {response : ρ}
    (h : freshResponse entry now = some response) : ∃ e, entry = some e ∧ e.response = response := by
  cases entry with
  | none => cases h
  | some e =>
      simp only [freshResponse] at h
      split at h
      · cases h
      · cases h
        exact ⟨e, rfl, rfl⟩

theorem served_writeJwks (rt : Runtime) (w : Shared) (uri : String) (purpose : Purpose)
    (response : JwksResponse) :
    Served (writeJwks rt w uri purpose response).log uri response :=
  ⟨purpose, List.mem_append_right _ (List.mem_cons_self)⟩

/-- The caches stay backed while the log grows. -/
theorem Shared.Backed.mono (h : w.Backed) (hdisco : w'.disco = w.disco) (hjwks : w'.jwks = w.jwks)
    (hlog : ∀ e ∈ w.log, e ∈ w'.log) : w'.Backed := by
  constructor
  · intro key entry hentry
    rw [hdisco] at hentry
    obtain ⟨hmem, hrest⟩ := h.disco key entry hentry
    exact ⟨hlog _ hmem, hrest⟩
  · intro uri entry hentry
    rw [hjwks] at hentry
    exact (h.jwks uri entry hentry).mono hlog

/-- A cache write keeps the caches backed by the log. -/
theorem backed_writeJwks (rt : Runtime) (h : w.Backed) (uri : String) (purpose : Purpose)
    (response : JwksResponse) : (writeJwks rt w uri purpose response).Backed := by
  have hlog : ∀ e ∈ w.log, e ∈ (writeJwks rt w uri purpose response).log := fun e he =>
    List.mem_append_right _ (List.mem_cons_of_mem _ he)
  constructor
  · intro key entry hentry
    obtain ⟨hmem, hrest⟩ := h.disco key entry hentry
    exact ⟨hlog _ hmem, hrest⟩
  · intro k entry hentry
    obtain hold | ⟨rfl, rfl, -⟩ := lookup_applyJwksCacheOutcome hentry
    · exact (h.jwks k entry hold).mono hlog
    · exact served_writeJwks rt w k purpose response

/-- What `_refresh_jwks` returns was served, now or before. -/
theorem served_surfaced (h : w.Backed) {uri : String} {response : JwksResponse}
    (hserved : Served w.log uri response) : Served w.log uri (surfaced w uri response).1 := by
  unfold surfaced
  split
  · split
    · rename_i entry hentry
      split
      · exact h.jwks uri entry hentry
      · exact hserved
    · exact hserved
  · exact hserved

theorem Advance.shared_backed (h : Advance rt w req pc act w' pc') (hw : w.Backed)
    (hpc : pc.Backed rt Signed w.log req) : w'.Backed := by
  have hlog := h.log_grows
  cases h with
  | discoTouch response locked held =>
      refine ⟨fun key entry hentry => ?_, hw.jwks⟩
      exact hw.disco key entry (by simpa using hentry)
  | discoWrite response held =>
      constructor
      · intro key entry hentry
        obtain hold | ⟨rfl, hresp, hfound⟩ := lookup_applyDiscoCacheOutcome hentry
        · obtain ⟨hmem, hrest⟩ := hw.disco key entry hold
          exact ⟨List.mem_cons_of_mem _ hmem, hrest⟩
        · rw [hresp]
          exact ⟨List.mem_cons_self, hfound, hpc hfound⟩
      · intro uri entry hentry
        exact (hw.jwks uri entry hentry).mono fun e he => List.mem_cons_of_mem _ he
  | jwksTouch d response locked held =>
      refine ⟨hw.disco, fun uri entry hentry => ?_⟩
      exact hw.jwks uri entry (by simpa using hentry)
  | jwksWrite d response held =>
      have hw' := backed_writeJwks rt hw d.uri .fetch response
      exact ⟨hw'.disco, hw'.jwks⟩
  | refreshSend d why => exact hw.mono rfl rfl hlog
  | refreshRaised d why response e held => exact hw.mono rfl rfl hlog
  | refreshWrite d why response =>
      have hw' := backed_writeJwks rt hw d.uri why.purpose response
      exact hw'.mono rfl rfl fun e he => List.mem_append_right _ he
  | _ => exact ⟨hw.disco, hw.jwks⟩

/-- One operation keeps the data of its call backed by the log. -/
theorem Advance.backed (hsound : rt.pyjwt.Sound Signed) (h : Advance rt w req pc act w' pc')
    (hw : w.Backed) (hpc : pc.Backed rt Signed w.log req) : pc'.Backed rt Signed w'.log req := by
  have hlog := h.log_grows
  cases h with
  | discoReadHit response hfresh =>
      obtain ⟨entry, hentry, rfl⟩ := freshResponse_eq_some hfresh
      exact hw.disco _ entry hentry
  | discoTouch response locked held => exact afterDisco_backed hpc.1 fun _ => hpc.2.2
  | discoRecheckHit response hfresh =>
      obtain ⟨entry, hentry, rfl⟩ := freshResponse_eq_some hfresh
      exact hw.disco _ entry hentry
  | discoAnswer answer => exact processDiscoveryResponse_issuer
  | discoWrite response held => exact afterDisco_backed List.mem_cons_self hpc
  | jwksReadHit d response hfresh =>
      obtain ⟨entry, hentry, rfl⟩ := freshResponse_eq_some hfresh
      exact ⟨hpc, hw.jwks _ entry hentry⟩
  | jwksReadMiss d => exact hpc
  | jwksTouch d response locked held => exact afterJwks_backed hsound hpc.1 hpc.2
  | jwksLock d => exact hpc
  | jwksRecheckHit d response hfresh =>
      obtain ⟨entry, hentry, rfl⟩ := freshResponse_eq_some hfresh
      exact ⟨hpc, hw.jwks _ entry hentry⟩
  | jwksRecheckMiss d => exact hpc
  | jwksAnswer d response => exact hpc
  | jwksWrite d response held =>
      exact afterJwks_backed hsound (Disco.Backed.mono hlog hpc)
        (served_writeJwks rt w d.uri .fetch response)
  | gate d why => exact hpc
  | gatePassed d why now hattempt => exact hpc
  | gateBlocked d why now => exact afterBlocked_backed hsound hpc.1 hpc.2
  | refreshLock d why => exact hpc
  | coalesced d why entry held hentry =>
      exact afterRefresh_backed hsound false hpc.1 hpc.2 (hw.jwks _ entry hentry)
  | refreshSend d why => exact ⟨hpc.1.mono hlog, hpc.2.mono hlog⟩
  | refreshAnswer d why response => exact hpc
  | refreshWrite d why response =>
      have hw' := backed_writeJwks rt hw d.uri why.purpose response
      have hserved := served_surfaced hw' (served_writeJwks rt w d.uri why.purpose response)
      exact afterRefresh_backed hsound _ (hpc.1.mono hlog) (hpc.2.mono hlog)
        (hserved.mono fun e he => List.mem_append_right _ he)
  | settle d stamp next => exact hpc
  | _ => trivial

end Steps

def Task.Backed (rt : Runtime) (Signed : String → JsonWebKey → String → Prop)
    (log : List LogEvent) : Task → Prop
  | .token req pc => pc.Backed rt Signed log req
  | _ => True

theorem Task.Backed.mono {rt : Runtime} {Signed : String → JsonWebKey → String → Prop}
    {log log' : List LogEvent} (hlog : ∀ e ∈ log, e ∈ log') {x : Task}
    (h : x.Backed rt Signed log) : x.Backed rt Signed log' := by
  cases x with
  | token req pc => exact Pc.Backed.mono hlog h
  | _ => trivial

theorem Call.start_backed (rt : Runtime) (Signed : String → JsonWebKey → String → Prop)
    (log : List LogEvent) (call : Call) : (call.start rt).Backed rt Signed log := by
  cases call with
  | validateToken jwt config address =>
      simp only [Call.start, startToken]
      split
      · trivial
      · split
        · split <;> trivial
        · rename_i hmanual
          cases hres : manualResult rt jwt config with
          | error e => trivial
          | ok claims =>
              simp only [finish]
              split
              · trivial
              · exact fun hdisco => absurd hdisco hmanual
  | _ => trivial

section Times

variable {rt : Runtime} {now : ℚ} {Signed : String → JsonWebKey → String → Prop} {log : List LogEvent}
  {req : Request}

theorem Result.backed_at {r : Result} :
    r.Backed (rt.at now) Signed log req ↔ r.Backed rt Signed log req := by
  cases r with
  | error e => exact Iff.rfl
  | ok claims => simp only [Result.Backed, Grounds.at_iff]

theorem Pc.backed_at {pc : Pc} :
    pc.Backed (rt.at now) Signed log req ↔ pc.Backed rt Signed log req := by
  induction pc with
  | settle d stamp next ih => exact ih
  | done result => exact Result.backed_at
  | _ => exact Iff.rfl

theorem Task.backed_at {x : Task} : x.Backed (rt.at now) Signed log ↔ x.Backed rt Signed log := by
  cases x with
  | token req pc => exact Pc.backed_at
  | _ => exact Iff.rfl

end Times

/-- Caches and calls hold what was served. -/
def AllBacked (rt : Runtime) (Signed : String → JsonWebKey → String → Prop) : State → Prop :=
  Holds Shared.Backed (fun w x => x.Backed rt Signed w.log) (fun _ _ => True)

theorem allBacked_step {rt : Runtime} {Signed : String → JsonWebKey → String → Prop}
    (hsound : rt.pyjwt.Sound Signed) (s : State) (l : Label) (s' : State)
    (h : AllBacked rt Signed s) (hstep : (validator rt).step s l = some s') :
    AllBacked rt Signed s' := by
  refine Machine.holds_step (validator_fork rt) (fun _ _ => True) (fun _ _ _ => trivial) ?_ ?_ s l
    s' h trivial hstep
  · intro s call w x h _ hspawn
    obtain ⟨rfl, rfl⟩ := validator_spawn hspawn
    exact ⟨h.shared, Task.backed_at.mp (Call.start_backed _ Signed _ call),
      fun j y hy => ⟨h.each j y hy, trivial⟩⟩
  · intro s t e x w x' h _ hx hmove
    obtain ⟨-, hmoved⟩ := validator_move hmove
    have hself := h.each t x hx
    have hnow : ({ s.shared with now := e.now } : Shared).Backed := ⟨h.shared.disco, h.shared.jwks⟩
    cases hmoved with
    | token req pc _ pc' hadv =>
        have hbacked : pc.Backed (rt.at e.now) Signed s.shared.log req := Pc.backed_at.mpr hself
        have hsoundAt : (rt.at e.now).pyjwt.Sound Signed :=
          ⟨hsound.header, hsound.signed, hsound.issuer⟩
        refine ⟨hadv.shared_backed hnow hbacked, Pc.backed_at.mp (hadv.backed hsoundAt hnow hbacked),
          fun j y _ hy => ?_⟩
        exact ⟨(h.each j y hy).mono hadv.log_grows, trivial⟩
    | clearJwks =>
        have hlog : ∀ ev ∈ s.shared.log, ev ∈ LogEvent.cleared :: s.shared.log := fun ev hev =>
          List.mem_cons_of_mem _ hev
        refine ⟨⟨fun key entry hentry => ?_, fun uri entry hentry => ?_⟩, trivial,
          fun j y _ hy => ⟨(h.each j y hy).mono hlog, trivial⟩⟩
        · obtain ⟨hmem, hrest⟩ := h.shared.disco key entry hentry
          exact ⟨hlog _ hmem, hrest⟩
        · cases hentry
    | clearDisco =>
        refine ⟨⟨fun key entry hentry => ?_, h.shared.jwks⟩, trivial,
          fun j y _ hy => ⟨h.each j y hy, trivial⟩⟩
        cases hentry

theorem grounds_of_run {rt : Runtime} {Signed : String → JsonWebKey → String → Prop}
    (hsound : rt.pyjwt.Sound Signed) {ls : List Label} {s : State}
    (hrun : run rt initial ls = some s) {req : Request} {claims : Claims}
    (hdone : .token req (.done (.ok claims)) ∈ s.tasks) (hdisco : req.config.performDisco = true) :
    ∃ doc uri set key alg i, Grounds rt Signed s.shared.log req claims doc uri set key alg i := by
  have hempty : initial.shared.Backed :=
    ⟨fun _ _ hentry => (by cases hentry), fun _ _ hentry => (by cases hentry)⟩
  have hinit : AllBacked rt Signed initial := Holds.of_idle hempty rfl
  have hend := exec_preserves (allBacked_step hsound) hinit hrun
  exact hend.of_mem hdone hdisco

/-- Claims returned by a validation in discovery mode rest on a discovery document
served for its address and policy, a key set served for the `jwks_uri` of that
document, and one key and algorithm of that set which agree with the token's
header and with the settings; the issuer checked is the document's, and the
claims validator, where it is run, accepted. -/
theorem validate_token_sound {rt : Runtime} {Signed : String → JsonWebKey → String → Prop}
    (hsound : rt.pyjwt.Sound Signed) {ls : List Label} {s : State}
    (hrun : run rt initial ls = some s) {req : Request} {claims : Claims}
    (hdone : .token req (.done (.ok claims)) ∈ s.tasks)
    (hdisco : req.config.performDisco = true) (hiss : verifiesIss req.config.options = true) :
    ∃ doc uri set key alg i, Grounds rt Signed s.shared.log req claims doc uri set key alg i ∧
      i.Matches claims := by
  obtain ⟨doc, uri, set, key, alg, i, hg⟩ := grounds_of_run hsound hrun hdone hdisco
  exact ⟨doc, uri, set, key, alg, i, hg, hg.decoded.issuer hiss⟩

/-- A process whose tokens are signed by `k1` and issued by the sample provider. -/
def signedRuntime (flavour : Flavour) : Runtime where
  env := (sampleRuntime flavour).env
  pyjwt :=
    { header := fun _ => .ok ⟨some "k1", some (.str "RS256")⟩
      decode := fun _ args =>
        if args.key.kid = some "k1" ∧ args.algorithms = ["RS256"] ∧
            args.issuer = some (.one "https://idp") then
          .ok (AList.insert "iss" (.str "https://idp") ∅)
        else .error (.invalidSignature "")
      str := fun _ => "" }
  flavour := flavour
  hashUri _ := 0
  hashKey _ := 0

/-- Signed by `k1` with RS256. -/
def SignedByK1 (_ : String) (key : JsonWebKey) (alg : String) : Prop :=
  key.kid = some "k1" ∧ alg = "RS256"

theorem signedRuntime_sound (flavour : Flavour) :
    (signedRuntime flavour).pyjwt.Sound SignedByK1 where
  header := by
    intro now args a claims _ ha hd header hh
    simp only [signedRuntime] at hd hh
    split at hd
    · rename_i hcond
      cases hh
      have hone : ["RS256"] = [a] := hcond.2.1.symm.trans ha
      cases hone
      rfl
    · cases hd
  signed := by
    intro now args a claims _ ha hd
    simp only [signedRuntime] at hd
    split at hd
    · rename_i hcond
      have hone : ["RS256"] = [a] := hcond.2.1.symm.trans ha
      cases hone
      exact ⟨hcond.1, rfl⟩
    · cases hd
  issuer := by
    intro now args i claims _ hi _ hd
    simp only [signedRuntime] at hd
    split at hd
    · rename_i hcond
      rw [hi] at hcond
      cases hd
      cases hcond.2.2
      exact ⟨"https://idp", List.mem_singleton.mpr rfl, AList.lookup_insert ∅⟩
    · cases hd

/-- A whole validation on empty caches. -/
def signedRun (validator : Option ClaimsValidator) : List Label :=
  [.spawn (.validateToken "token" { performDisco := true, claimsValidator := validator }
      (some "https://idp"))] ++
    runsAt 0 0 3 ++ [.move 0 ⟨0, .discovery sampleAnswer⟩] ++ runsAt 0 0 4 ++
    [oneKeyAnswer 0 0 "k1"] ++ runsAt 0 0 1

/-- The call has returned claims in discovery mode. -/
def Task.returned : Task → Bool
  | .token req (.done (.ok _)) => req.config.performDisco && verifiesIss req.config.options
  | _ => false

theorem Task.eq_of_returned {x : Task} (h : x.returned = true) :
    ∃ req claims, x = .token req (.done (.ok claims)) ∧ req.config.performDisco = true ∧
      verifiesIss req.config.options = true := by
  unfold Task.returned at h
  split at h
  · rw [Bool.and_eq_true] at h
    exact ⟨_, _, rfl, h.1, h.2⟩
  · cases h

theorem validate_token_sound_cold :
    ∃ s req claims, run (signedRuntime .aio) initial (signedRun none) = some s ∧
      .token req (.done (.ok claims)) ∈ s.tasks ∧
      ∃ doc uri set key alg i, Grounds (signedRuntime .aio) SignedByK1 s.shared.log req claims doc
        uri set key alg i := by
  have hrun := eq_some_getD initial
    (show (run (signedRuntime .aio) initial (signedRun none)).isSome = true by decide +kernel)
  have hany : ((run (signedRuntime .aio) initial (signedRun none)).getD initial).tasks.any
      Task.returned = true := by decide +kernel
  obtain ⟨x, hx, hret⟩ := List.any_eq_true.mp hany
  obtain ⟨req, claims, rfl, hdisco, hiss⟩ := Task.eq_of_returned hret
  obtain ⟨doc, uri, set, key, alg, i, hg, -⟩ :=
    validate_token_sound (signedRuntime_sound .aio) hrun hx hdisco hiss
  exact ⟨_, req, claims, hrun, hx, doc, uri, set, key, alg, i, hg⟩

/-- The claims validator of every validation that returns claims accepted them. -/
def ValidatorAccepts : Prop :=
  ∀ (rt : Runtime) (Signed : String → JsonWebKey → String → Prop) (ls : List Label) (s : State)
    (req : Request) (claims : Claims), rt.pyjwt.Sound Signed → run rt initial ls = some s →
    .token req (.done (.ok claims)) ∈ s.tasks → req.config.performDisco = true →
    verifiesIss req.config.options = true →
    ∀ v, req.config.claimsValidator = some v → v.Accepts claims

/-- A coroutine function that rejects every token. -/
def rejectingCoroutine : ClaimsValidator where
  isCoroutineFunction := true
  call _ := .awaitable (.error (.tokenValidation "rejected"))

/-- The call has returned claims that its validator rejects. -/
def Task.returnedRejected : Task → Bool
  | .token req (.done (.ok claims)) =>
      match req.config.claimsValidator with
      | some v =>
          match v.call claims with
          | .awaitable (.error _) => req.config.performDisco && verifiesIss req.config.options
          | _ => false
      | none => false
  | _ => false

/-- The synchronous entry point never awaits a coroutine function. -/
theorem coroutine_validator_dropped : ¬ ValidatorAccepts := by
  intro h
  have hrun := eq_some_getD initial
    (show (run (signedRuntime .sync) initial (signedRun (some rejectingCoroutine))).isSome = true by
      decide +kernel)
  have hany : ((run (signedRuntime .sync) initial (signedRun (some rejectingCoroutine))).getD
      initial).tasks.any Task.returnedRejected = true := by decide +kernel
  obtain ⟨x, hx, hret⟩ := List.any_eq_true.mp hany
  unfold Task.returnedRejected at hret
  split at hret
  · rename_i req claims
    split at hret
    · rename_i v hv
      split at hret
      · rename_i e hcall
        rw [Bool.and_eq_true] at hret
        have hacc := h _ SignedByK1 _ _ req claims (signedRuntime_sound .sync) hrun hx hret.1 hret.2
          v hv
        simp [ClaimsValidator.Accepts, hcall] at hacc
      · cases hret
    · cases hret
  · cases hret

end IdentityModel.Py
