import IdentityModel.PyDiscovery
import IdentityModel.PyValidateToken

/-!
# The partition of the discovery cache

`_get_disco_response` of both modules as a pool of calls over the discovery cache, with
documents and policies in full and the answers of the HTTP client as they come. The cache is
keyed by the address and by `DiscoveryPolicy.cache_key`, which fixes what is accepted: a
document served for an address and a policy came from that address in a response that the
policy accepts.

The exchanges are a ghost: the responses received, each with the address it was requested from.
-/
namespace IdentityModel.Py.Discovery

open Runs Tasks

/-- The settings, the interpreter, the module in use and the hash of cache keys. -/
structure Setting where
  env : Env
  interpreter : Interpreter
  flavour : Flavour
  hashKey : DiscoKey → ℕ

abbrev Cache := Dict DiscoKey (CacheEntry DiscoveryResult)

/-- `_get_disco_response` and `clear_discovery_cache`. -/
inductive Call
  | getDiscoResponse (discoDocAddress : Option String) (policy : Option DiscoveryPolicy)
  | clearDiscoveryCache

/-- The next operation of a call. -/
inductive Pc
  | read
  | touch (response : DiscoveryResult) (locked : Bool)
  | wait
  | recheck
  | fetch
  | write (response : DiscoveryResult)
  | done (result : Except PyError DiscoveryResult)

inductive Task
  | call (address : String) (policy : DiscoveryPolicy) (pc : Pc)
  | clear (done : Bool)

structure Shared where
  cache : Cache
  /-- The stripes whose fetch lock is held. -/
  held : List ℕ
  now : ℚ
  exchanges : List (String × HttpResponse)

inductive Act
  | run
  | answer (a : HttpAnswer)

structure Event where
  now : ℚ
  act : Act

abbrev State := Pool Shared Task

abbrev Label := Tasks.Label Call Event

def key (address : String) (policy : DiscoveryPolicy) : DiscoKey := (address, policy.cacheKey)

section Operations

variable (st : Setting)

def Setting.lock (cacheKey : DiscoKey) : ℕ := st.hashKey cacheKey % lockStripes

/-- The exception the asynchronous module lets through when it counts a fetch. -/
def Setting.countingError (address : String) (policy : DiscoveryPolicy) : Option PyError :=
  match st.flavour with
  | .sync => none
  | .aio =>
      match upstreamFetchAttempted st.interpreter.platform address policy with
      | .ok _ => none
      | .error e => some (.other e)

/-- `apply_disco_cache_outcome`. -/
def applyOutcome (cache : Cache) (cacheKey : DiscoKey) (response : DiscoveryResult) (now : ℚ) :
    Cache :=
  if !response.isSuccessful then cache
  else if isUncacheable st.env response.cacheControl then cache.erase cacheKey
  else
    (enforceSizeLimit st.env
      (cache.insert cacheKey ⟨response, now, resolveDiscoTtl st.env response.cacheControl⟩)).1

/-- The response an answer carries, if the request was made at all. -/
def exchanged (address : String) (policy : DiscoveryPolicy) (a : HttpAnswer) :
    List (String × HttpResponse) :=
  match validateUrlScheme st.interpreter.platform address policy, a with
  | .ok (), .response r => [(address, r)]
  | _, _ => []

/-- One operation of a call. -/
def advance (w : Shared) (address : String) (policy : DiscoveryPolicy) :
    Pc → Act → Option (Shared × Pc)
  | .read, .run =>
      match freshResponse (w.cache.lookup (key address policy)) w.now with
      | some response => some (w, .touch response false)
      | none => some (w, .wait)
  | .touch response locked, .run =>
      some ({ w with
        cache := touchCacheEntry w.cache (key address policy)
        held := if locked then release (st.lock (key address policy)) w.held else w.held },
        .done (.ok response))
  | .wait, .run =>
      if st.lock (key address policy) ∈ w.held then none
      else some ({ w with held := st.lock (key address policy) :: w.held }, .recheck)
  | .recheck, .run =>
      match freshResponse (w.cache.lookup (key address policy)) w.now with
      | some response => some (w, .touch response true)
      | none => some (w, .fetch)
  | .fetch, .answer a =>
      let w' := { w with exchanges := exchanged st address policy a ++ w.exchanges }
      match st.countingError address policy with
      | none => some (w', .write (getDiscoveryDocument st.interpreter address policy a))
      | some e =>
          some ({ w' with held := release (st.lock (key address policy)) w.held },
            .done (.error e))
  | .write response, .run =>
      some ({ w with
        cache := applyOutcome st w.cache (key address policy) response w.now
        held := release (st.lock (key address policy)) w.held }, .done (.ok response))
  | _, _ => none

def moveTask (w : Shared) : Task → Act → Option (Shared × Task)
  | .call address policy pc, act =>
      (advance st w address policy pc act).map fun r => (r.1, .call address policy r.2)
  | .clear false, .run => some ({ w with cache := clearCacheLocked w.cache }, .clear true)
  | _, _ => none

/-- The start of a call, up to its first look at the cache. -/
def Call.start : Call → Task
  | .getDiscoResponse none policy =>
      .call "" (policy.getD {}) (.done (.error (.configuration
        "disco_doc_address is required when perform_disco is True")))
  | .getDiscoResponse (some address) policy => .call address (policy.getD {}) .read
  | .clearDiscoveryCache => .clear false

/-- Calls start at any time, and the clock never goes back. -/
def calls : Machine Shared Task Call Event where
  spawn w c := some (w, c.start)
  move w x e := if w.now ≤ e.now then moveTask st { w with now := e.now } x e.act else none

end Operations

/-- A fresh process. -/
def initial : State := ⟨⟨∅, [], 0, []⟩, []⟩

abbrev run (st : Setting) : State → List Label → Option State := exec (calls st).step

/-- The key of a policy determines the policy. -/
theorem cacheKey_injective : Function.Injective DiscoveryPolicy.cacheKey := by
  intro P Q h
  cases P
  cases Q
  simpa [DiscoveryPolicy.cacheKey] using h

/-- A result that was built from a response of that address which the policy accepts. -/
def Accepted (i : Interpreter) (exchanges : List (String × HttpResponse)) (address : String)
    (policy : DiscoveryPolicy) (result : DiscoveryResult) : Prop :=
  ∃ r doc, (address, r) ∈ exchanges ∧ 200 ≤ r.statusCode ∧ r.statusCode < 300 ∧
    validateAndParseDiscoveryResponse i r (some policy) = .ok doc ∧
    result = buildDiscoveryResponse doc r.cacheControl

section Invariant

variable {st : Setting} {w : Shared} {address : String} {policy : DiscoveryPolicy}

theorem Accepted.mono {i : Interpreter} {before after : List (String × HttpResponse)}
    {result : DiscoveryResult} (h : Accepted i before address policy result)
    (hsub : ∀ x ∈ before, x ∈ after) : Accepted i after address policy result := by
  obtain ⟨r, doc, hmem, hrest⟩ := h
  exact ⟨r, doc, hsub _ hmem, hrest⟩

/-- A successful result of `get_discovery_document` was accepted. -/
theorem getDiscoveryDocument_accepted {a : HttpAnswer}
    (h : (getDiscoveryDocument st.interpreter address policy a).isSuccessful = true) :
    Accepted st.interpreter (exchanged st address policy a) address policy
      (getDiscoveryDocument st.interpreter address policy a) := by
  obtain ⟨r, doc, rfl, hscheme, hlo, hhi, hparse, hbuilt⟩ := getDiscoveryDocument_checked h
  refine ⟨r, doc, ?_, hlo, hhi, hparse, hbuilt⟩
  simp [exchanged, hscheme]

theorem lookup_applyOutcome {cache : Cache} {cacheKey k : DiscoKey} {response : DiscoveryResult}
    {now : ℚ} {entry : CacheEntry DiscoveryResult}
    (h : (applyOutcome st cache cacheKey response now).lookup k = some entry) :
    cache.lookup k = some entry ∨
      (k = cacheKey ∧ entry.response = response ∧ response.isSuccessful = true) := by
  unfold applyOutcome at h
  split at h
  · exact .inl h
  · rename_i hs
    split at h
    · by_cases hk : k = cacheKey
      · subst hk
        simp at h
      · rw [AList.lookup_erase_ne hk] at h
        exact .inl h
    · rw [enforceSizeLimit_eq] at h
      obtain ⟨rfl, rfl⟩ | ⟨-, hold⟩ := Dict.lookup_insert_eq_some.mp (Dict.lookup_keepNewest h)
      · exact .inr ⟨rfl, rfl, by simpa using hs⟩
      · exact .inl hold

/-- Every cached document was accepted, by every policy with its key. -/
def CacheAccepted (i : Interpreter) (w : Shared) : Prop :=
  ∀ address policy entry, w.cache.lookup (key address policy) = some entry →
    Accepted i w.exchanges address policy entry.response

/-- So is every document in the hands of a call. -/
def Pc.Backed (i : Interpreter) (w : Shared) (address : String) (policy : DiscoveryPolicy) :
    Pc → Prop
  | .touch response _ => Accepted i w.exchanges address policy response
  | .write response | .done (.ok response) => response.isSuccessful = true →
      Accepted i w.exchanges address policy response
  | _ => True

def Task.Backed (i : Interpreter) (w : Shared) : Task → Prop
  | .call address policy pc => pc.Backed i w address policy
  | .clear _ => True

theorem Task.Backed.mono {i : Interpreter} {w w' : Shared} {x : Task} (h : x.Backed i w)
    (hsub : ∀ e ∈ w.exchanges, e ∈ w'.exchanges) : x.Backed i w' := by
  cases x with
  | clear done => trivial
  | call address policy pc =>
      cases pc with
      | touch response locked => exact Accepted.mono h hsub
      | write response => exact fun hs => Accepted.mono (h hs) hsub
      | done result =>
          cases result with
          | ok response => exact fun hs => Accepted.mono (h hs) hsub
          | error e => trivial
      | _ => trivial

theorem freshResponse_accepted {response : DiscoveryResult}
    (hw : CacheAccepted st.interpreter w)
    (h : freshResponse (w.cache.lookup (key address policy)) w.now = some response) :
    Accepted st.interpreter w.exchanges address policy response := by
  unfold freshResponse at h
  split at h
  · rename_i entry hentry
    split at h
    · cases h
    · cases h
      exact hw address policy entry hentry
  · cases h

theorem cacheAccepted_touch (hw : CacheAccepted st.interpreter w) (k : DiscoKey) (held : List ℕ) :
    CacheAccepted st.interpreter { w with cache := touchCacheEntry w.cache k, held := held } := by
  intro address policy entry hentry
  refine hw address policy entry ?_
  simpa [touchCacheEntry] using hentry

theorem cacheAccepted_write {response : DiscoveryResult} (hw : CacheAccepted st.interpreter w)
    (hr : response.isSuccessful = true →
      Accepted st.interpreter w.exchanges address policy response) (held : List ℕ) :
    CacheAccepted st.interpreter
      { w with cache := applyOutcome st w.cache (key address policy) response w.now, held := held } := by
  intro address' policy' entry hentry
  obtain hold | ⟨hkey, rfl, hs⟩ := lookup_applyOutcome hentry
  · exact hw address' policy' entry hold
  · obtain ⟨rfl, hpolicy⟩ := Prod.mk.inj hkey
    obtain rfl := cacheKey_injective hpolicy
    exact hr hs

/-- What one operation keeps; exchanges are only added. -/
theorem advance_backed {w' : Shared} {pc pc' : Pc} {act : Act}
    (hw : CacheAccepted st.interpreter w) (hpc : pc.Backed st.interpreter w address policy)
    (h : advance st w address policy pc act = some (w', pc')) :
    CacheAccepted st.interpreter w' ∧ pc'.Backed st.interpreter w' address policy ∧
      ∀ e ∈ w.exchanges, e ∈ w'.exchanges := by
  cases pc with
  | read =>
      cases act with
      | answer a => cases h
      | run =>
          simp only [advance] at h
          split at h
          · rename_i response hr
            cases h
            exact ⟨hw, freshResponse_accepted hw hr, fun e he => he⟩
          · cases h
            exact ⟨hw, trivial, fun e he => he⟩
  | touch response locked =>
      cases act with
      | answer a => cases h
      | run =>
          cases h
          exact ⟨cacheAccepted_touch hw _ _, fun _ => hpc, fun e he => he⟩
  | wait =>
      cases act with
      | answer a => cases h
      | run =>
          simp only [advance] at h
          split at h
          · cases h
          · cases h
            exact ⟨hw, trivial, fun e he => he⟩
  | recheck =>
      cases act with
      | answer a => cases h
      | run =>
          simp only [advance] at h
          split at h
          · rename_i response hr
            cases h
            exact ⟨hw, freshResponse_accepted hw hr, fun e he => he⟩
          · cases h
            exact ⟨hw, trivial, fun e he => he⟩
  | fetch =>
      cases act with
      | run => cases h
      | answer a =>
          have hmore : ∀ e ∈ w.exchanges, e ∈ exchanged st address policy a ++ w.exchanges :=
            fun e he => List.mem_append_right _ he
          have hkept : CacheAccepted st.interpreter
              { w with exchanges := exchanged st address policy a ++ w.exchanges } :=
            fun address' policy' entry hentry => (hw address' policy' entry hentry).mono hmore
          simp only [advance] at h
          split at h
          · cases h
            refine ⟨hkept, fun hs => ?_, hmore⟩
            exact (getDiscoveryDocument_accepted hs).mono fun e he => List.mem_append_left _ he
          · cases h
            exact ⟨hkept, trivial, hmore⟩
  | write response =>
      cases act with
      | answer a => cases h
      | run =>
          cases h
          exact ⟨cacheAccepted_write hw hpc _, hpc, fun e he => he⟩
  | done result => cases h

theorem moveTask_backed {w' : Shared} {x x' : Task} {act : Act}
    (hw : CacheAccepted st.interpreter w) (hx : x.Backed st.interpreter w)
    (h : moveTask st w x act = some (w', x')) :
    CacheAccepted st.interpreter w' ∧ x'.Backed st.interpreter w' ∧
      ∀ e ∈ w.exchanges, e ∈ w'.exchanges := by
  cases x with
  | call address policy pc =>
      obtain ⟨⟨v, pc'⟩, hadv, hr⟩ := Option.map_eq_some_iff.mp h
      cases hr
      exact advance_backed hw hx hadv
  | clear done =>
      cases done with
      | true => cases act <;> cases h
      | false =>
          cases act with
          | answer a => cases h
          | run =>
              cases h
              refine ⟨fun address policy entry hentry => ?_, trivial, fun e he => he⟩
              simp [clearCacheLocked] at hentry

/-- Documents in the cache and in the hands of calls. -/
abbrev Backed (i : Interpreter) : State → Prop :=
  Holds (CacheAccepted i) (Task.Backed i) (fun _ _ => True)

theorem backed_step (s : State) (l : Label) (s' : State) (hs : Backed st.interpreter s)
    (hl : (calls st).step s l = some s') : Backed st.interpreter s' := by
  refine Machine.holds_step (fun _ _ _ => rfl) (fun _ _ => True) (fun _ _ _ => trivial) ?_ ?_
    s l s' hs trivial hl
  · intro s c w x hs _ hspawn
    cases hspawn
    refine ⟨hs.shared, ?_, fun j y hy => ⟨hs.each j y hy, trivial⟩⟩
    cases c with
    | clearDiscoveryCache => trivial
    | getDiscoResponse address policy => cases address <;> trivial
  · intro s t e x w x' hs _ hx hmove
    simp only [calls] at hmove
    split at hmove
    · have hx' : x.Backed st.interpreter { s.shared with now := e.now } :=
        (hs.each t x hx).mono fun e he => he
      obtain ⟨hw, hnew, hmore⟩ := moveTask_backed (w := { s.shared with now := e.now }) hs.shared hx'
        hmove
      exact ⟨hw, hnew, fun j y _ hy => ⟨(hs.each j y hy).mono hmore, trivial⟩⟩
    · cases hmove

theorem backed_run {ls : List Label} {s : State} (hrun : run st initial ls = some s) :
    Backed st.interpreter s := by
  have hempty : CacheAccepted st.interpreter initial.shared := by
    intro address policy entry hentry
    simp [initial] at hentry
  exact exec_preserves backed_step (Holds.of_idle hempty rfl) hrun

end Invariant

/-- Policies with one key accept the same documents, and what is served for an address and a
policy, from the cache or not, was accepted by that policy from that address. -/
theorem served_documents_accepted (st : Setting) :
    (∀ (r : HttpResponse) (P Q : DiscoveryPolicy), P.cacheKey = Q.cacheKey →
      validateAndParseDiscoveryResponse st.interpreter r (some P) =
        validateAndParseDiscoveryResponse st.interpreter r (some Q)) ∧
    ∀ (ls : List Label) (s : State), run st initial ls = some s →
      ∀ address P result, .call address P (.done (.ok result)) ∈ s.tasks →
        result.isSuccessful = true → Accepted st.interpreter s.shared.exchanges address P result := by
  constructor
  · intro r P Q hkey
    rw [cacheKey_injective hkey]
  · intro ls s hrun address P result hmem hs
    exact (backed_run hrun).of_mem hmem hs

/-- The document a call was given. -/
def Task.served (address : String) (policy : DiscoveryPolicy) : Task → Option DiscoveryResult
  | .call address' policy' (.done (.ok result)) =>
      if address' = address ∧ policy' = policy ∧ result.isSuccessful = true then some result else none
  | _ => none

theorem Task.served_eq {address : String} {policy : DiscoveryPolicy} {x : Task}
    {result : DiscoveryResult} (h : x.served address policy = some result) :
    x = .call address policy (.done (.ok result)) ∧ result.isSuccessful = true := by
  unfold Task.served at h
  split at h
  · split at h
    · rename_i hc
      obtain ⟨rfl, rfl, hs⟩ := hc
      cases h
      exact ⟨rfl, hs⟩
    · cases h
  · cases h

def sampleSetting : Setting where
  env := ⟨fun _ => none, fun _ => none, fun _ => none, fun _ => none, fun _ => false⟩
  interpreter :=
    ⟨Url.asciiPlatform, fun _ => .ok "", fun _ => "", fun _ => "", fun _ => .ok ()⟩
  flavour := .aio
  hashKey _ := 0

/-- A document with the required members and a `jwks_uri`. -/
def sampleDocument (jwksUri : String) : Json :=
  .obj [("issuer", .str "https://idp"), ("jwks_uri", .str jwksUri),
    ("response_types_supported", .arr [.str "code"]),
    ("subject_types_supported", .arr [.str "public"]),
    ("id_token_signing_alg_values_supported", .arr [.str "RS256"])]

def sampleResponse (jwksUri : String) : HttpResponse where
  statusCode := 200
  contentType := some "application/json"
  cacheControl := none
  url := some "https://idp/.well-known/openid-configuration"
  content := ""
  body := .ok (sampleDocument jwksUri)

/-- A fetch, and a second call that is served from the cache. -/
def sampleRun : List Label :=
  let run (t : ℕ) : Label := .move t ⟨0, .run⟩
  [.spawn (.getDiscoResponse (some "https://idp") none), run 0, run 0, run 0,
    .move 0 ⟨0, .answer (.response (sampleResponse "https://idp/jwks"))⟩, run 0,
    .spawn (.getDiscoResponse (some "https://idp") (some {})), run 1, run 1]

theorem served_documents_accepted_sample :
    (validateAndParseDiscoveryResponse sampleSetting.interpreter (sampleResponse "https://idp/jwks")
        (some {}) =
      validateAndParseDiscoveryResponse sampleSetting.interpreter
        (sampleResponse "https://idp/jwks") (some (resolveDiscoveryPolicy none true))) ∧
    ∃ s result, run sampleSetting initial sampleRun = some s ∧
      Accepted sampleSetting.interpreter s.shared.exchanges "https://idp" {} result := by
  obtain ⟨hkeys, hserved⟩ := served_documents_accepted sampleSetting
  have hrun := eq_some_getD initial (show (run sampleSetting initial sampleRun).isSome = true by
    decide +kernel)
  have hsome : ((((run sampleSetting initial sampleRun).getD initial).tasks[1]?).bind
      (Task.served "https://idp" {})).isSome = true := by decide +kernel
  obtain ⟨result, hresult⟩ := Option.isSome_iff_exists.mp hsome
  obtain ⟨x, hx, hres⟩ := Option.bind_eq_some_iff.mp hresult
  obtain ⟨rfl, hs⟩ := Task.served_eq hres
  exact ⟨hkeys _ _ _ rfl, _, result, hrun,
    hserved sampleRun _ hrun _ _ result (List.mem_of_getElem? hx) hs⟩

end IdentityModel.Py.Discovery
