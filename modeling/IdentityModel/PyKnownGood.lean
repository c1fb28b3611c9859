import IdentityModel.PyBadAnswers
import IdentityModel.PySoundness

/-!
# Known-good keys against a failing provider

One validation runs alone while every key request it makes fails. Its discovery
document is fresh in the cache, and an entry for its `jwks_uri` holds the key that
verifies the token. It returns the claims exactly when that entry has not expired
at the reading of the clock with which it looks the entry up: an expired entry is
kept in the cache, and not used.
-/
namespace IdentityModel.Py

open Runs Tasks

/-- The key set that arrives, if one does, is an error. -/
def Act.failing : Act → Bool
  | .keys r => !r.isSuccessful
  | _ => true

/-- Operations of call `t`, the first of them at reading `i` of the clock. -/
def solo (t : ℕ) (clock : ℕ → ℚ) : ℕ → List Act → List Label
  | _, [] => []
  | i, act :: acts => .move t ⟨clock i, act⟩ :: solo t clock (i + 1) acts

/-- A validation whose keys are at hand: its discovery document is cached and
fresh at its first reading of the clock, an entry is cached for the document's
`jwks_uri`, and the token decodes, at the fourth reading, with the key its `kid`
names in that entry. -/
structure AtHand (rt : Runtime) (w : Shared) (clock : ℕ → ℚ) (req : Request)
    (entry : CacheEntry JwksResponse) (claims : Claims) : Prop where
  discovers : req.config.performDisco = true
  configured : validateTokenConfig req.config = none
  policy : req.policy = resolveDiscoveryPolicy req.config.discoveryPolicy req.config.requireHttps
  document : ∃ doc uri header kid, freshResponse (w.disco.lookup req.discoKey) (clock 0) = some doc ∧
    doc.isSuccessful = true ∧ doc.jwksUri = some (.str uri) ∧ uri ≠ "" ∧
    w.jwks.lookup uri = some entry ∧ rt.pyjwt.header req.jwt = .ok header ∧
    header.kid = some kid ∧ hasKid entry.response.keyList kid = true ∧
    resolveAndDecode (rt.pyjwt.at (clock 3)) req.jwt req.config header entry.response.keyList
      doc.issuer = .ok claims
  accepted : validateClaims rt.flavour req.config claims = none

/-- The call of a request. -/
def Request.call (req : Request) : Call := .validateToken req.jwt req.config (some req.address)

/-- The validation returns the claims, whatever its failing requests answer: it can
be run to its end, and wherever it ends it has returned them. -/
def ReturnsAgainstFailures (rt : Runtime) (s : State) (req : Request) (clock : ℕ → ℚ)
    (claims : Claims) : Prop :=
  (∃ acts s', (∀ act ∈ acts, act.failing = true) ∧
    run rt s (.spawn req.call :: solo s.tasks.length clock 0 acts) = some s' ∧
    s'.tasks[s.tasks.length]? = some (.token req (.done (.ok claims)))) ∧
  ∀ acts s' result, (∀ act ∈ acts, act.failing = true) →
    run rt s (.spawn req.call :: solo s.tasks.length clock 0 acts) = some s' →
    s'.tasks[s.tasks.length]? = some (.token req (.done result)) → result = .ok claims

/-- Where the call is before reading `i` of the clock. -/
inductive Stage (clock : ℕ → ℚ) (doc : DiscoveryDocumentResponse) (uri : String)
    (entry : CacheEntry JwksResponse) (claims : Claims) : ℕ → Pc → Prop
  | start : Stage clock doc uri entry claims 0 .discoRead
  | document : Stage clock doc uri entry claims 1 (.discoTouch doc false)
  | read : Stage clock doc uri entry claims 2 (.jwksRead ⟨doc, uri⟩)
  | hit (h : entry.isExpired (clock 2) = false) :
      Stage clock doc uri entry claims 3 (.jwksTouch ⟨doc, uri⟩ entry.response false)
  | returned (i : ℕ) (h : entry.isExpired (clock 2) = false) :
      Stage clock doc uri entry claims i (.done (.ok claims))
  | wait (i : ℕ) (hi : 2 ≤ i) (h : entry.isExpired (clock 2) = true) :
      Stage clock doc uri entry claims i (.jwksWait ⟨doc, uri⟩)
  | recheck (i : ℕ) (hi : 2 ≤ i) (h : entry.isExpired (clock 2) = true) :
      Stage clock doc uri entry claims i (.jwksRecheck ⟨doc, uri⟩)
  | fetch (i : ℕ) (h : entry.isExpired (clock 2) = true) :
      Stage clock doc uri entry claims i (.jwksFetch ⟨doc, uri⟩)
  | write (i : ℕ) (h : entry.isExpired (clock 2) = true) (response : JwksResponse)
      (hfailed : response.isSuccessful = false) :
      Stage clock doc uri entry claims i (.jwksWrite ⟨doc, uri⟩ response)
  | failed (i : ℕ) (h : entry.isExpired (clock 2) = true) (e : PyError) :
      Stage clock doc uri entry claims i (.done (.error e))

theorem CacheEntry.isExpired_mono {ρ : Type*} {entry : CacheEntry ρ} {now now' : ℚ}
    (h : entry.isExpired now = true) (hnow : now ≤ now') : entry.isExpired now' = true :=
  hasElapsed_mono h le_rfl hnow

theorem freshResponse_some {ρ : Type*} (entry : CacheEntry ρ) (now : ℚ) :
    freshResponse (some entry) now = if entry.isExpired now then none else some entry.response :=
  rfl

theorem afterDisco_document (rt : Runtime) {doc : DiscoveryDocumentResponse} {uri : String}
    (hs : doc.isSuccessful = true) (huri : doc.jwksUri = some (.str uri)) (hne : uri ≠ "") :
    afterDisco rt doc = .jwksRead ⟨doc, uri⟩ := by
  simp [afterDisco, validateDiscoResponse, hs, validateJwksUri, huri, isTruthy, hne]

theorem afterJwks_failed (rt : Runtime) (req : Request) (d : Disco) {response : JwksResponse}
    (h : response.isSuccessful = false) : ∃ e, afterJwks rt req d response = .done (.error e) := by
  simp [afterJwks, validateJwksResponse, h]

/-- With the keys at hand the claims follow. -/
theorem afterJwks_at_hand {rt : Runtime} {req : Request} {d : Disco} {response : JwksResponse}
    {header : Header} {kid : String} {claims : Claims} (hs : response.isSuccessful = true)
    (hh : rt.pyjwt.header req.jwt = .ok header) (hkid : header.kid = some kid)
    (hhas : hasKid response.keyList kid = true)
    (hdec : resolveAndDecode rt.pyjwt req.jwt req.config header response.keyList d.doc.issuer =
      .ok claims) (hclaims : validateClaims rt.flavour req.config claims = none) :
    afterJwks rt req d response = .done (.ok claims) := by
  have hne : response.keyList ≠ [] := by
    intro hnil
    simp [hasKid, hnil] at hhas
  simp [afterJwks, validateJwksResponse, hs, hne, hh, hkid, hhas, attempt, hdec, finish, hclaims]

/-- What the call finds in the caches, and keeps there. -/
structure Found (rt : Runtime) (w : Shared) (clock : ℕ → ℚ) (req : Request)
    (doc : DiscoveryDocumentResponse) (uri : String) (entry : CacheEntry JwksResponse)
    (claims : Claims) : Prop where
  document : freshResponse (w.disco.lookup req.discoKey) (clock 0) = some doc
  lands : afterDisco rt doc = .jwksRead ⟨doc, uri⟩
  keys : w.jwks.lookup uri = some entry
  decodes : afterJwks (rt.at (clock 3)) req ⟨doc, uri⟩ entry.response = .done (.ok claims)

section Steps

theorem Found.same_caches {rt : Runtime} {w w' : Shared} {clock : ℕ → ℚ} {req : Request}
    {doc : DiscoveryDocumentResponse} {uri : String} {entry : CacheEntry JwksResponse}
    {claims : Claims} (h : Found rt w clock req doc uri entry claims) (hdisco : w'.disco = w.disco)
    (hjwks : w'.jwks = w.jwks) : Found rt w' clock req doc uri entry claims :=
  ⟨hdisco ▸ h.document, h.lands, hjwks ▸ h.keys, h.decodes⟩

variable {rt : Runtime} {w w' : Shared} {req : Request} {pc pc' : Pc} {act : Act} {clock : ℕ → ℚ}
  {doc : DiscoveryDocumentResponse} {uri : String} {entry : CacheEntry JwksResponse}
  {claims : Claims} {i : ℕ}

/-- One operation of the call. -/
theorem Advance.stage (h : Advance (rt.at (clock i)) w req pc act w' pc') (hmono : Monotone clock)
    (hnow : w.now = clock i) (hact : act.failing = true)
    (hfound : Found rt w clock req doc uri entry claims)
    (hpc : Stage clock doc uri entry claims i pc) :
    Stage clock doc uri entry claims (i + 1) pc' ∧
      Found rt w' clock req doc uri entry claims := by
  cases hpc with
  | start =>
      cases h with
      | discoReadHit response hr =>
          rw [hnow, hfound.document] at hr
          cases hr
          exact ⟨.document, hfound⟩
      | discoReadMiss hr =>
          rw [hnow, hfound.document] at hr
          cases hr
  | document =>
      cases h with
      | discoTouch response locked held hheld =>
          have hlands : afterDisco (rt.at (clock 1)) doc = .jwksRead ⟨doc, uri⟩ := hfound.lands
          rw [hlands]
          refine ⟨.read, ?_, hfound.lands, hfound.keys, hfound.decodes⟩
          simpa using hfound.document
  | read =>
      cases h with
      | jwksReadHit d response hr =>
          rw [hfound.keys, freshResponse_some, hnow] at hr
          split at hr
          · cases hr
          · rename_i hfresh
            cases hr
            exact ⟨.hit (by simpa using hfresh), hfound⟩
      | jwksReadMiss d hr =>
          rw [hfound.keys, freshResponse_some, hnow] at hr
          split at hr
          · rename_i hexpired
            exact ⟨.wait _ (by omega) hexpired, hfound⟩
          · cases hr
  | hit hfresh =>
      cases h with
      | jwksTouch d response locked held hheld =>
          rw [hfound.decodes]
          refine ⟨.returned _ hfresh, hfound.document, hfound.lands, ?_, hfound.decodes⟩
          simpa using hfound.keys
  | returned _ hfresh => cases h
  | wait _ hi hexpired =>
      cases h with
      | jwksLock d hfree => exact ⟨.recheck _ (by omega) hexpired, hfound.same_caches rfl rfl⟩
  | recheck _ hi hexpired =>
      cases h with
      | jwksRecheckHit d response hr =>
          rw [hfound.keys, freshResponse_some, hnow,
            CacheEntry.isExpired_mono hexpired (hmono hi)] at hr
          cases hr
      | jwksRecheckMiss d hr => exact ⟨.fetch _ hexpired, hfound⟩
  | fetch _ hexpired =>
      cases h with
      | jwksAnswer d response hcount =>
          exact ⟨.write _ hexpired response (by simpa [Act.failing] using hact), hfound⟩
      | jwksRaised d response e held hcount hheld =>
          exact ⟨.failed _ hexpired e, hfound.same_caches rfl rfl⟩
  | write _ hexpired response hfailed =>
      cases h with
      | jwksWrite d _ held hheld =>
          obtain ⟨e, he⟩ := afterJwks_failed (rt.at (clock i)) req ⟨doc, uri⟩ hfailed
          rw [he]
          have hkeys : (writeJwks (rt.at (clock i)) w uri .fetch response).jwks = w.jwks := by
            simp [writeJwks, applyJwksCacheOutcome_retain _ _ _ _ (.inl hfailed)]
          exact ⟨.failed _ hexpired e, hfound.same_caches rfl hkeys⟩
  | failed _ hexpired e => cases h

end Steps

/-- The call is the last of the pool, at its stage before reading `i`. -/
structure Alone (rt : Runtime) (s₀ : State) (req : Request) (clock : ℕ → ℚ)
    (doc : DiscoveryDocumentResponse) (uri : String) (entry : CacheEntry JwksResponse)
    (claims : Claims) (i : ℕ) (s : State) : Prop where
  call : ∃ pc, s.tasks = s₀.tasks ++ [.token req pc] ∧ Stage clock doc uri entry claims i pc
  found : Found rt s.shared clock req doc uri entry claims

section Run

variable {rt : Runtime} {s₀ s s' : State} {req : Request} {clock : ℕ → ℚ}
  {doc : DiscoveryDocumentResponse} {uri : String} {entry : CacheEntry JwksResponse}
  {claims : Claims}

theorem alone_step (hmono : Monotone clock) {i : ℕ} {act : Act} (hact : act.failing = true)
    (h : Alone rt s₀ req clock doc uri entry claims i s)
    (hstep : (validator rt).step s (.move s₀.tasks.length ⟨clock i, act⟩) = some s') :
    Alone rt s₀ req clock doc uri entry claims (i + 1) s' := by
  obtain ⟨x, w, x', hx, -, hmoved, rfl⟩ := validator_step_move hstep
  obtain ⟨pc, htasks, hpc⟩ := h.call
  have hxt : x = .token req pc := by
    rw [htasks] at hx
    simpa using hx.symm
  subst hxt
  cases hmoved with
  | token _ _ _ pc' hadv =>
      have hfound : Found rt { s.shared with now := clock i } clock req doc uri entry claims :=
        h.found.same_caches rfl rfl
      obtain ⟨hpc', hfound'⟩ := hadv.stage hmono rfl hact hfound hpc
      exact ⟨⟨pc', by simp [htasks], hpc'⟩, hfound'⟩

theorem alone_run (hmono : Monotone clock) {acts : List Act} {i : ℕ}
    (hacts : ∀ act ∈ acts, act.failing = true)
    (h : Alone rt s₀ req clock doc uri entry claims i s)
    (hrun : run rt s (solo s₀.tasks.length clock i acts) = some s') :
    ∃ j, Alone rt s₀ req clock doc uri entry claims j s' := by
  induction acts generalizing i s with
  | nil =>
      cases hrun
      exact ⟨i, h⟩
  | cons act acts ih =>
      obtain ⟨m, hm, hrest⟩ := exec_cons_eq_some.mp hrun
      have hact : act.failing = true := hacts act (by simp)
      exact ih (fun a ha => hacts a (by simp [ha])) (alone_step hmono hact h hm) hrest

/-- A call that has ended has returned the claims, or the entry had expired. -/
theorem Alone.result {i : ℕ} {result : Result}
    (h : Alone rt s₀ req clock doc uri entry claims i s)
    (hdone : s.tasks[s₀.tasks.length]? = some (.token req (.done result))) :
    (entry.isExpired (clock 2) = false ∧ result = .ok claims) ∨
      (entry.isExpired (clock 2) = true ∧ ∃ e, result = .error e) := by
  obtain ⟨pc, htasks, hpc⟩ := h.call
  have hpc' : pc = .done result := by
    rw [htasks] at hdone
    simpa using hdone
  subst hpc'
  cases hpc with
  | returned _ hfresh => exact .inl ⟨hfresh, rfl⟩
  | failed _ hexpired e => exact .inr ⟨hexpired, e, rfl⟩

end Run

/-- An operation of the last call. -/
theorem step_last {rt : Runtime} {w w' : Shared} (tasks : List Task) {req : Request} {pc pc' : Pc}
    {now : ℚ} {act : Act} (hnow : w.now ≤ now)
    (hadv : advance (rt.at now) { w with now := now } req pc act = some (w', pc')) :
    (validator rt).step ⟨w, tasks ++ [.token req pc]⟩ (.move tasks.length ⟨now, act⟩) =
      some ⟨w', tasks ++ [.token req pc']⟩ := by
  simp [Machine.step, validator, hnow, moveTask, hadv]

theorem returns_of_fresh {rt : Runtime} {w : Shared} (tasks : List Task) {req : Request}
    {clock : ℕ → ℚ} {doc : DiscoveryDocumentResponse} {uri : String}
    {entry : CacheEntry JwksResponse} {claims : Claims} (hmono : Monotone clock)
    (hnow : w.now ≤ clock 0) (hfound : Found rt w clock req doc uri entry claims)
    (hfresh : entry.isExpired (clock 2) = false) :
    ∃ w', run rt ⟨w, tasks ++ [.token req .discoRead]⟩
        (solo tasks.length clock 0 [.run, .run, .run, .run]) =
      some ⟨w', tasks ++ [.token req (.done (.ok claims))]⟩ := by
  have hstep (i : ℕ) : clock i ≤ clock (i + 1) := hmono (Nat.le_succ i)
  let w₁ : Shared := { w with disco := touchCacheEntry w.disco req.discoKey }
  have hread : advance (rt.at (clock 0)) { w with now := clock 0 } req .discoRead .run =
      some ({ w with now := clock 0 }, .discoTouch doc false) := by
    simp [advance, hfound.document]
  have htouch : advance (rt.at (clock 1)) { w with now := clock 1 } req (.discoTouch doc false) .run =
      some ({ w₁ with now := clock 1 }, .jwksRead ⟨doc, uri⟩) := by
    have hlands : afterDisco (rt.at (clock 1)) doc = .jwksRead ⟨doc, uri⟩ := hfound.lands
    simp [advance, hlands, w₁]
  have hkeys : advance (rt.at (clock 2)) { w₁ with now := clock 2 } req (.jwksRead ⟨doc, uri⟩) .run =
      some ({ w₁ with now := clock 2 }, .jwksTouch ⟨doc, uri⟩ entry.response false) := by
    simp [advance, hfound.keys, freshResponse_some, hfresh, w₁]
  have hreturn : advance (rt.at (clock 3)) { w₁ with now := clock 3 } req
      (.jwksTouch ⟨doc, uri⟩ entry.response false) .run =
      some ({ w₁ with now := clock 3, jwks := touchCacheEntry w.jwks uri }, .done (.ok claims)) := by
    simp [advance, hfound.decodes, w₁]
  refine ⟨{ w₁ with now := clock 3, jwks := touchCacheEntry w.jwks uri }, ?_⟩
  rw [solo, exec_cons_eq_some]
  refine ⟨_, step_last tasks hnow hread, ?_⟩
  rw [solo, exec_cons_eq_some]
  refine ⟨_, step_last tasks (hstep 0) htouch, ?_⟩
  rw [solo, exec_cons_eq_some]
  refine ⟨_, step_last tasks (hstep 1) hkeys, ?_⟩
  rw [solo, exec_cons_eq_some]
  exact ⟨_, step_last tasks (hstep 2) hreturn, rfl⟩

theorem AtHand.found {rt : Runtime} {ls : List Label} {s : State} {clock : ℕ → ℚ} {req : Request}
    {entry : CacheEntry JwksResponse} {claims : Claims} (hreach : run rt initial ls = some s)
    (h : AtHand rt s.shared clock req entry claims) :
    ∃ doc uri, Found rt s.shared clock req doc uri entry claims := by
  obtain ⟨doc, uri, header, kid, hdoc, hs, huri, hne, hentry, hheader, hkid, hhas, hdec⟩ :=
    h.document
  have hok : entry.response.isSuccessful = true := entriesSuccessful_run hreach hentry
  have hdecodes : afterJwks (rt.at (clock 3)) req ⟨doc, uri⟩ entry.response = .done (.ok claims) :=
    afterJwks_at_hand hok hheader hkid hhas hdec h.accepted
  exact ⟨doc, uri, hdoc, afterDisco_document rt hs huri hne, hentry, hdecodes⟩

theorem AtHand.start {rt : Runtime} {w : Shared} {clock : ℕ → ℚ} {req : Request}
    {entry : CacheEntry JwksResponse} {claims : Claims} (h : AtHand rt w clock req entry claims)
    (now : ℚ) : req.call.start (rt.at now) = .token req .discoRead := by
  simp [Request.call, Call.start, startToken, h.configured, h.discovers, ← h.policy]

theorem AtHand.spawned {rt : Runtime} {s s' : State} {clock : ℕ → ℚ} {req : Request}
    {entry : CacheEntry JwksResponse} {claims : Claims}
    (h : AtHand rt s.shared clock req entry claims) (ms : List Label) :
    run rt s (.spawn req.call :: ms) = some s' ↔
      run rt ⟨s.shared, s.tasks ++ [.token req .discoRead]⟩ ms = some s' := by
  have hspawn : (validator rt).step s (.spawn req.call) =
      some ⟨s.shared, s.tasks ++ [.token req .discoRead]⟩ := by
    rw [← h.start s.shared.now]
    rfl
  simp [exec_cons_eq_some, hspawn]

section Outcome

variable {rt : Runtime} {ls : List Label} {s s' : State} {req : Request} {clock : ℕ → ℚ}
  {entry : CacheEntry JwksResponse} {claims : Claims} (hreach : run rt initial ls = some s)
  (hmono : Monotone clock) (h : AtHand rt s.shared clock req entry claims)
include hreach hmono h

/-- How the call ends, when it ends. -/
theorem AtHand.result {acts : List Act} {result : Result}
    (hacts : ∀ act ∈ acts, act.failing = true)
    (hrun : run rt s (.spawn req.call :: solo s.tasks.length clock 0 acts) = some s')
    (hdone : s'.tasks[s.tasks.length]? = some (.token req (.done result))) :
    (entry.isExpired (clock 2) = false ∧ result = .ok claims) ∨
      (entry.isExpired (clock 2) = true ∧ ∃ e, result = .error e) := by
  obtain ⟨doc, uri, hfound⟩ := h.found hreach
  have hstart : Alone rt s req clock doc uri entry claims 0
      ⟨s.shared, s.tasks ++ [.token req .discoRead]⟩ := ⟨⟨_, rfl, .start⟩, hfound⟩
  obtain ⟨j, halone⟩ := alone_run hmono hacts hstart ((h.spawned _).mp hrun)
  exact halone.result hdone

theorem AtHand.fresh_of_returns (hreturns : ReturnsAgainstFailures rt s req clock claims) :
    entry.isExpired (clock 2) = false := by
  obtain ⟨⟨acts, s', hacts, hrun, hdone⟩, -⟩ := hreturns
  obtain ⟨hfresh, -⟩ | ⟨-, e, he⟩ := h.result hreach hmono hacts hrun hdone
  · exact hfresh
  · cases he

end Outcome

/-- Against a failing provider a validation whose keys are at hand returns its claims
exactly when the entry that holds them has not expired at its look-up. -/
theorem known_good_keys_returned {rt : Runtime} {ls : List Label} {s : State} {req : Request}
    {clock : ℕ → ℚ} {entry : CacheEntry JwksResponse} {claims : Claims}
    (hreach : run rt initial ls = some s) (hmono : Monotone clock) (hnow : s.shared.now ≤ clock 0)
    (h : AtHand rt s.shared clock req entry claims) :
    ReturnsAgainstFailures rt s req clock claims ↔ entry.isExpired (clock 2) = false := by
  refine ⟨h.fresh_of_returns hreach hmono, fun hfresh => ⟨?_, ?_⟩⟩
  · obtain ⟨doc, uri, hfound⟩ := h.found hreach
    obtain ⟨w', hrun⟩ := returns_of_fresh s.tasks hmono hnow hfound hfresh
    refine ⟨[.run, .run, .run, .run], _, ?_, (h.spawned _).mpr hrun, by simp⟩
    simp [Act.failing]
  · intro acts s' result hacts hrun hdone
    obtain ⟨-, hok⟩ | ⟨hexpired, -⟩ := h.result hreach hmono hacts hrun hdone
    · exact hok
    · rw [hfresh] at hexpired
      cases hexpired

/-- Two validations: the keys arrive at 0, and the discovery document is fetched again
shortly before they expire. -/
def keysAboutToExpire : List Label :=
  signedRun none ++ [.spawn sampleCall] ++ runsAt 1 86390 3 ++
    [.move 1 ⟨86390, .discovery sampleAnswer⟩] ++ runsAt 1 86390 3

def sampleRequest : Request := ⟨"token", { performDisco := true }, "https://idp", {}⟩

def k1Entry : CacheEntry JwksResponse :=
  ⟨{ isSuccessful := true, keys := some [{ kty := "RSA", kid := some "k1" }] }, 0, 86400⟩

def sampleDocument : DiscoveryDocumentResponse :=
  { isSuccessful := true, issuer := some (.one "https://idp"), jwksUri := some (.str "https://idp/jwks") }

theorem atHand_keysAboutToExpire {n : ℚ} (hlate : n ≤ 86500) :
    AtHand (signedRuntime .sync)
      ((run (signedRuntime .sync) initial keysAboutToExpire).getD initial).shared (fun _ => n)
      sampleRequest k1Entry (AList.insert "iss" (.str "https://idp") ∅) where
  discovers := rfl
  configured := by decide
  policy := rfl
  document := by
    refine ⟨sampleDocument, "https://idp/jwks", ⟨some "k1", some (.str "RS256")⟩, "k1", ?_, rfl, rfl,
      by decide, by decide +kernel, rfl, rfl, by decide, ?_⟩
    · have hdoc : ((run (signedRuntime .sync) initial keysAboutToExpire).getD
          initial).shared.disco.lookup sampleRequest.discoKey =
          some ⟨sampleDocument, 86390, 3600⟩ := by decide +kernel
      have hend : hasElapsed 3600 86390 86500 = false := by decide +kernel
      have hfresh : hasElapsed 3600 86390 n = false := by
        by_contra hover
        rw [hasElapsed_mono (by simpa using hover) le_rfl hlate] at hend
        cases hend
      simp [hdoc, freshResponse, CacheEntry.isExpired, hfresh]
    · rfl
  accepted := rfl

theorem known_good_keys_returned_fresh :
    ∃ s, run (signedRuntime .sync) initial keysAboutToExpire = some s ∧
      ReturnsAgainstFailures (signedRuntime .sync) s sampleRequest (fun _ => 86395)
        (AList.insert "iss" (.str "https://idp") ∅) := by
  have hreach := eq_some_getD initial (show (run (signedRuntime .sync) initial
    keysAboutToExpire).isSome = true by decide +kernel)
  have hathand := atHand_keysAboutToExpire (n := 86395) (by norm_num)
  have hfresh : k1Entry.isExpired 86395 = false := by decide +kernel
  exact ⟨_, hreach,
    (known_good_keys_returned hreach monotone_const (by decide +kernel) hathand).mpr hfresh⟩

/-- Known-good keys stay usable, fresh or expired. -/
def KnownGoodUsable : Prop :=
  ∀ (rt : Runtime) (ls : List Label) (s : State) (req : Request) (clock : ℕ → ℚ)
    (entry : CacheEntry JwksResponse) (claims : Claims), run rt initial ls = some s →
    Monotone clock → s.shared.now ≤ clock 0 → AtHand rt s.shared clock req entry claims →
    ReturnsAgainstFailures rt s req clock claims

theorem expired_keys_unused : ¬ KnownGoodUsable := by
  intro h
  have hreach := eq_some_getD initial (show (run (signedRuntime .sync) initial
    keysAboutToExpire).isSome = true by decide +kernel)
  have hmono : Monotone fun _ : ℕ => (86400 : ℚ) := monotone_const
  have hathand := atHand_keysAboutToExpire (n := 86400) (by norm_num)
  have hreturns := h _ _ _ sampleRequest (fun _ => 86400) k1Entry _ hreach hmono (by decide +kernel)
    hathand
  have hfresh : k1Entry.isExpired 86400 = false := hathand.fresh_of_returns hreach hmono hreturns
  exact absurd hfresh (by decide +kernel)

end IdentityModel.Py
