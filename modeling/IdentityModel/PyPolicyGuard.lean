import IdentityModel.PyDiscoveryCache
import IdentityModel.PySoundness
import IdentityModel.PyUpstream

/-!
# Policies and cached key sets

The JWKS cache is keyed by the URI alone. A call is served a key set only after a document that
was vetted under its own policy named the URI, so a policy that checks endpoints is never given
keys it would not fetch. A policy that requires HTTPS without checking endpoints is: it may be
served what a laxer policy fetched. Runs in which no such policy meets a laxer one are safe.
-/
namespace IdentityModel.Py

open Runs Tasks

/-- A request for the URI passes the pre-flight check of the policy. -/
def Admits (i : Interpreter) (uri : String) (policy : DiscoveryPolicy) : Prop :=
  validateUrlScheme i.platform uri policy = .ok ()

/-- The policy checks the endpoints of a document, or takes any scheme that is fetched at all,
or admits whatever the other policy does. -/
def DiscoveryPolicy.guarded (P Q : DiscoveryPolicy) : Bool :=
  P.validateEndpoints || !P.requireHttps ||
    (Q.requireHttps && (!Q.allowHttpOnLoopback || P.allowHttpOnLoopback))

/-- The policy of a call of `validate_token`. -/
def policyOf : HttpLabel → Option DiscoveryPolicy
  | .spawn (.validateToken _ config _) =>
      some (resolveDiscoveryPolicy config.discoveryPolicy config.requireHttps)
  | _ => none

/-- The key set `_get_cached_jwks` returns, and the document that named it. -/
def Pc.returnedKeys : Pc → Option (Disco × JwksResponse)
  | .jwksTouch d response _ | .jwksWrite d response => some (d, response)
  | _ => none

section Policies

variable {i : Interpreter} {uri : String} {P Q : DiscoveryPolicy}

/-- What a policy accepts in place of HTTPS, another one accepts if it asks for no more. -/
theorem secureEnough_mono {p : Url.Platform} {parsed : Url.Split}
    (h : P.requireHttps = false ∨
      (Q.requireHttps = true ∧ (Q.allowHttpOnLoopback = true → P.allowHttpOnLoopback = true)))
    (hQ : secureEnough p parsed Q = true) : secureEnough p parsed P = true := by
  obtain h | ⟨hQr, hloop⟩ := h
  · simp [secureEnough, h]
  · simp only [secureEnough, hQr, Bool.not_true, Bool.false_or, Bool.or_eq_true, decide_eq_true_eq,
      Bool.and_eq_true] at hQ ⊢
    obtain hs | ⟨⟨hs, hallow⟩, hhost⟩ := hQ
    · exact .inl (.inr hs)
    · exact .inr ⟨⟨hs, hloop hallow⟩, hhost⟩

theorem Admits.mono (hQ : Admits i uri Q)
    (h : P.requireHttps = false ∨
      (Q.requireHttps = true ∧ (Q.allowHttpOnLoopback = true → P.allowHttpOnLoopback = true))) :
    Admits i uri P := by
  unfold Admits validateUrlScheme at hQ ⊢
  split at hQ
  · cases hQ
  · rename_i hne
    rw [if_neg hne]
    cases hparse : Url.urlparse i.platform uri with
    | error e => simp [hparse] at hQ
    | ok parsed =>
        simp only [hparse] at hQ ⊢
        split at hQ
        · cases hQ
        · split at hQ
          · cases hQ
          · split at hQ
            · rename_i hempty hscheme hsecure
              rw [if_neg hempty, if_neg hscheme, if_pos (secureEnough_mono h hsecure)]
            · cases hQ

theorem guarded_cases (h : P.guarded Q = true) :
    P.validateEndpoints = true ∨ P.requireHttps = false ∨
      (Q.requireHttps = true ∧ (Q.allowHttpOnLoopback = true → P.allowHttpOnLoopback = true)) := by
  simp only [DiscoveryPolicy.guarded, Bool.or_eq_true, Bool.not_eq_true', Bool.and_eq_true] at h
  obtain (h | h) | ⟨hr, hl⟩ := h
  · exact .inl h
  · exact .inr (.inl h)
  · refine .inr (.inr ⟨hr, fun hQ => ?_⟩)
    obtain hl | hl := hl
    · rw [hQ] at hl
      cases hl
    · exact hl

end Policies

section Vetted

variable (i : Interpreter) (used : DiscoveryPolicy → Prop)

/-- Where the policy checks endpoints, it admits the `jwks_uri` of the document. -/
def DiscoveryDocumentResponse.Vetted (P : DiscoveryPolicy) (response : DiscoveryDocumentResponse) :
    Prop :=
  P.validateEndpoints = true → ∀ uri, response.jwksUri = some (.str uri) → uri ≠ "" →
    Admits i uri P

def Disco.Vetted (P : DiscoveryPolicy) (d : Disco) : Prop :=
  P.validateEndpoints = true → Admits i d.uri P

/-- Some policy in use admits the URI. -/
def Fetchable (uri : String) : Prop := ∃ Q, used Q ∧ Admits i uri Q

def Pc.Vetted (P : DiscoveryPolicy) : Pc → Prop
  | .discoTouch response _ | .discoWrite response => response.Vetted i P
  | .jwksRead d | .jwksWait d | .jwksRecheck d | .jwksFetch d => d.Vetted i P
  | .jwksTouch d _ _ => d.Vetted i P ∧ Fetchable i used d.uri
  | .jwksWrite d response | .refreshWrite d _ response => d.Vetted i P ∧
      (response.isSuccessful = true → Admits i d.uri P)
  | .gate d _ | .gateCheck d _ _ | .refreshWait d _ | .refreshCheck d _ | .refreshFetch d _ =>
      d.Vetted i P
  | .settle _ _ next => next.Vetted P
  | .discoRead | .discoWait | .discoRecheck | .discoFetch | .done _ => True

structure Shared.Vetted (w : Shared) : Prop where
  disco : ∀ address P entry, w.disco.lookup (address, P.cacheKey) = some entry →
    entry.response.Vetted i P
  jwks : ∀ uri entry, w.jwks.lookup uri = some entry → Fetchable i used uri

def Task.Vetted : Task → Prop
  | .token req pc => used req.policy ∧ pc.Vetted i used req.policy
  | _ => True

end Vetted

section Steps

variable {rt : Runtime} {i : Interpreter} {used : DiscoveryPolicy → Prop} {w w' : Shared}
  {req : Request} {d : Disco} {pc pc' : Pc} {act : Act}

theorem Landing.vetted (h : Landing d pc) (hd : d.Vetted i req.policy) :
    pc.Vetted i used req.policy := by
  cases h with
  | done result => trivial
  | gate why => exact hd

theorem afterDisco_vetted {response : DiscoveryDocumentResponse}
    (h : response.Vetted i req.policy) : (afterDisco rt response).Vetted i used req.policy := by
  obtain ⟨e, he⟩ | ⟨uri, hnext, -, huri, hne⟩ := afterDisco_cases rt response
  · rw [he]
    trivial
  · rw [hnext]
    exact fun hvalidate => h hvalidate uri huri hne

theorem afterRefresh_vetted (why : Why) (response : JwksResponse) (retained : Bool)
    (hd : d.Vetted i req.policy) :
    (afterRefresh rt req d why response retained).Vetted i used req.policy := by
  obtain hl | ⟨stamp, next, heq, hl⟩ := afterRefresh_landing rt req d why response retained
  · exact hl.vetted hd
  · rw [heq]
    exact hl.vetted hd

theorem Shared.Vetted.congr (h : w.Vetted i used) (hdisco : ∀ k, w'.disco.lookup k = w.disco.lookup k)
    (hjwks : ∀ k, w'.jwks.lookup k = w.jwks.lookup k) : w'.Vetted i used where
  disco address P entry hentry := h.disco address P entry (hdisco _ ▸ hentry)
  jwks uri entry hentry := h.jwks uri entry (hjwks _ ▸ hentry)

/-- A key set is stored under a URI its policy admits. -/
theorem vetted_writeJwks {response : JwksResponse} (h : w.Vetted i used)
    (hused : used req.policy) (hr : response.isSuccessful = true → Admits i d.uri req.policy)
    (purpose : Purpose) : (writeJwks rt w d.uri purpose response).Vetted i used where
  disco := h.disco
  jwks := by
    intro uri entry hentry
    obtain hold | ⟨rfl, -, hs, -⟩ := lookup_applyJwksCacheOutcome hentry
    · exact h.jwks uri entry hold
    · exact ⟨req.policy, hused, hr hs⟩

theorem vetted_writeDisco {response : DiscoveryDocumentResponse} (h : w.Vetted i used)
    (hr : response.Vetted i req.policy) (held : List ℕ) (log : List LogEvent) :
    Shared.Vetted i used { w with
      disco := applyDiscoCacheOutcome rt.env w.disco req.discoKey response w.now
      discoHeld := held
      log := log } where
  disco := by
    intro address P entry hentry
    obtain hold | ⟨hkey, rfl, -⟩ := lookup_applyDiscoCacheOutcome hentry
    · exact h.disco address P entry hold
    · obtain ⟨-, hpolicy⟩ := Prod.mk.inj hkey
      obtain rfl := Discovery.cacheKey_injective hpolicy
      exact hr
  jwks := h.jwks

/-- What one operation keeps, if the answers it takes are vetted. -/
theorem Advance.vetted (h : Advance rt w req pc act w' pc') (hw : w.Vetted i used)
    (hpc : pc.Vetted i used req.policy) (hused : used req.policy)
    (hdisco : ∀ a, act = .discovery a → (processDiscoveryResponse a).Vetted i req.policy)
    (hkeys : ∀ response d, act = .keys response →
      (pc = .jwksFetch d ∨ ∃ why, pc = .refreshFetch d why) → response.isSuccessful = true →
        Admits i d.uri req.policy) :
    w'.Vetted i used ∧ pc'.Vetted i used req.policy := by
  cases h with
  | discoReadHit response hf =>
      obtain ⟨entry, hentry, rfl⟩ := freshResponse_eq_some hf
      exact ⟨hw, hw.disco _ _ _ hentry⟩
  | discoReadMiss hf => exact ⟨hw, trivial⟩
  | discoTouch response locked held hheld =>
      exact ⟨hw.congr (by simp) (fun _ => rfl), afterDisco_vetted hpc⟩
  | discoLock hfree => exact ⟨hw.congr (fun _ => rfl) (fun _ => rfl), trivial⟩
  | discoRecheckHit response hf =>
      obtain ⟨entry, hentry, rfl⟩ := freshResponse_eq_some hf
      exact ⟨hw, hw.disco _ _ _ hentry⟩
  | discoRecheckMiss hf => exact ⟨hw, trivial⟩
  | discoAnswer answer hc => exact ⟨hw, hdisco answer rfl⟩
  | discoRaised answer e held hc hheld => exact ⟨hw.congr (fun _ => rfl) (fun _ => rfl), trivial⟩
  | discoWrite response held hheld => exact ⟨vetted_writeDisco hw hpc _ _, afterDisco_vetted hpc⟩
  | jwksReadHit d response hf =>
      obtain ⟨entry, hentry, -⟩ := freshResponse_eq_some hf
      exact ⟨hw, hpc, hw.jwks _ _ hentry⟩
  | jwksReadMiss d hf => exact ⟨hw, hpc⟩
  | jwksTouch d response locked held hheld =>
      exact ⟨hw.congr (fun _ => rfl) (by simp), (afterJwks_landing rt req d response).vetted hpc.1⟩
  | jwksLock d hfree => exact ⟨hw.congr (fun _ => rfl) (fun _ => rfl), hpc⟩
  | jwksRecheckHit d response hf =>
      obtain ⟨entry, hentry, -⟩ := freshResponse_eq_some hf
      exact ⟨hw, hpc, hw.jwks _ _ hentry⟩
  | jwksRecheckMiss d hf => exact ⟨hw, hpc⟩
  | jwksAnswer d response hc => exact ⟨hw, hpc, hkeys response d rfl (.inl rfl)⟩
  | jwksRaised d response e held hc hheld =>
      exact ⟨hw.congr (fun _ => rfl) (fun _ => rfl), trivial⟩
  | jwksWrite d response held hheld =>
      have hwritten : (writeJwks rt w d.uri .fetch response).Vetted i used :=
        vetted_writeJwks hw hused hpc.2 .fetch
      exact ⟨hwritten.congr (fun _ => rfl) (fun _ => rfl),
        (afterJwks_landing rt req d response).vetted hpc.1⟩
  | gate d why => exact ⟨hw, hpc⟩
  | gatePassed d why now hgate => exact ⟨hw, hpc⟩
  | gateBlocked d why now hgate => exact ⟨hw, (afterBlocked_landing rt req d why).vetted hpc⟩
  | refreshLock d why hfree => exact ⟨hw.congr (fun _ => rfl) (fun _ => rfl), hpc⟩
  | coalesced d why entry held hentry hnow hheld =>
      exact ⟨hw.congr (fun _ => rfl) (fun _ => rfl), afterRefresh_vetted why _ _ hpc⟩
  | refreshSend d why hold => exact ⟨hw.congr (fun _ => rfl) (fun _ => rfl), hpc⟩
  | refreshAnswer d why response hc =>
      exact ⟨hw, hpc, hkeys response d rfl (.inr ⟨why, rfl⟩)⟩
  | refreshRaised d why response e held hc hheld =>
      exact ⟨hw.congr (fun _ => rfl) (fun _ => rfl), trivial⟩
  | refreshWrite d why response =>
      have hwritten : (writeJwks rt w d.uri why.purpose response).Vetted i used :=
        vetted_writeJwks hw hused hpc.2 why.purpose
      exact ⟨hwritten.congr (fun _ => rfl) (fun _ => rfl), afterRefresh_vetted why _ _ hpc.1⟩
  | settle d stamp next => exact ⟨hw.congr (fun _ => rfl) (fun _ => rfl), hpc⟩

end Steps

section Runs

variable {rt : Runtime} {i : Interpreter} {used : DiscoveryPolicy → Prop}

abbrev VettedState (i : Interpreter) (used : DiscoveryPolicy → Prop) : State → Prop :=
  Holds (Shared.Vetted i used) (fun _ => Task.Vetted i used) (fun _ _ => True)

theorem startToken_vetted (rt : Runtime) (jwt : String) (config : TokenValidationConfig)
    (address : Option String)
    (hused : used (resolveDiscoveryPolicy config.discoveryPolicy config.requireHttps)) :
    (startToken rt jwt config address).Vetted i used := by
  obtain ⟨pc, hstart, hpc⟩ := startToken_eq rt jwt config address
  rw [hstart]
  obtain rfl | ⟨result, rfl⟩ := hpc
  · exact ⟨hused, trivial⟩
  · exact ⟨hused, trivial⟩

/-- The answers a call takes over HTTP are vetted. -/
theorem moved_vetted {now : ℚ} {w w' : Shared} {x x' : Task} {e : HttpAct} {act : Act}
    (hact : x.receive i e = some act) (hw : w.Vetted i used) (hx : x.Vetted i used)
    (h : Moved ((rt.on i).at now) w act x w' x') : w'.Vetted i used ∧ x'.Vetted i used := by
  cases h with
  | clearJwks =>
      refine ⟨⟨hw.disco, fun uri entry hentry => ?_⟩, trivial⟩
      simp [clearJwksStep, clearCacheLocked] at hentry
  | clearDisco =>
      refine ⟨⟨fun address P entry hentry => ?_, hw.jwks⟩, trivial⟩
      simp [clearDiscoStep, clearCacheLocked] at hentry
  | token req pc _ pc' h =>
      have hdisco : ∀ a, act = .discovery a →
          (processDiscoveryResponse a).Vetted i req.policy := by
        rintro a rfl
        obtain ⟨req', b, hx', rfl⟩ := Task.receive_discovery hact
        cases hx'
        rw [processDiscoveryResponse_answer]
        exact fun hvalidate uri huri hne => jwksUri_admitted hvalidate huri hne
      have hkeys : ∀ response d, act = .keys response →
          (pc = .jwksFetch d ∨ ∃ why, pc = .refreshFetch d why) → response.isSuccessful = true →
            Admits i d.uri req.policy := by
        rintro response d rfl hpc hs
        obtain ⟨req', d', answer, hx', rfl⟩ := Task.receive_keys hact
        have hadmitted := getJwks_admitted hs
        obtain hx' | ⟨why', hx'⟩ := hx'
        · cases hx'
          obtain hpc | ⟨why, hpc⟩ := hpc <;> cases hpc
          exact hadmitted
        · cases hx'
          obtain hpc | ⟨why, hpc⟩ := hpc <;> cases hpc
          exact hadmitted
      obtain ⟨hw', hpc'⟩ := h.vetted hw hx.2 hx.1 hdisco hkeys
      exact ⟨hw', hx.1, hpc'⟩

/-- The policy of a call that starts is in use. -/
def starts (used : DiscoveryPolicy → Prop) (l : HttpLabel) : Prop := ∀ P, policyOf l = some P → used P

theorem vetted_step (s : State) (l : HttpLabel) (s' : State) (hs : VettedState i used s)
    (hok : starts used l) (hl : (upstream rt i).step s l = some s') : VettedState i used s' := by
  refine Machine.holds_step (fun _ _ _ => rfl) (fun _ l => starts used l)
    (fun _ _ _ => trivial) ?_ ?_ s l s' hs hok hl
  · intro s c w x hs hok hspawn
    cases hspawn
    refine ⟨hs.shared, ?_, fun j y hy => ⟨hs.each j y hy, trivial⟩⟩
    cases c with
    | validateToken jwt config address => exact startToken_vetted _ jwt config address (hok _ rfl)
    | clearJwksCache => trivial
    | clearDiscoveryCache => trivial
  · intro s t e x w x' hs _ hx hmove
    obtain ⟨act, hact, hmove⟩ := Option.bind_eq_some_iff.mp hmove
    obtain ⟨-, hmoved⟩ := validator_move hmove
    have hnow : Shared.Vetted i used { s.shared with now := e.now } :=
      hs.shared.congr (fun _ => rfl) (fun _ => rfl)
    obtain ⟨hw, hx'⟩ := moved_vetted hact hnow (hs.each t x hx) hmoved
    exact ⟨hw, hx', fun j y _ hy => ⟨hs.each j y hy, trivial⟩⟩

theorem vetted_run {ls : List HttpLabel} {s : State} (hstarts : ∀ l ∈ ls, starts used l)
    (hrun : runUpstream rt i initial ls = some s) : VettedState i used s := by
  have hempty : Shared.Vetted i used initial.shared := by
    constructor
    · intro address P entry hentry
      simp [initial] at hentry
    · intro uri entry hentry
      simp [initial] at hentry
  exact exec_invariant vetted_step (Holds.of_idle hempty rfl) (Meets.of_forall hstarts) hrun

end Runs

/-- A key set is returned only where its URI could be fetched under the caller's own policy, if
no policy that requires HTTPS without checking endpoints meets a laxer one. -/
theorem returned_keys_admitted (rt : Runtime) (i : Interpreter) (ls : List HttpLabel) (s : State)
    (hpolicies : ∀ P ∈ ls.filterMap policyOf, ∀ Q ∈ ls.filterMap policyOf, P.guarded Q = true)
    (hrun : runUpstream rt i initial ls = some s) {req : Request} {pc : Pc}
    (hx : .token req pc ∈ s.tasks) {d : Disco} {response : JwksResponse}
    (hreturned : pc.returnedKeys = some (d, response)) (hs : response.isSuccessful = true) :
    validateUrlScheme i.platform d.uri req.policy = .ok () := by
  have hstarts : ∀ l ∈ ls, starts (fun P => P ∈ ls.filterMap policyOf) l := by
    intro l hl P hP
    exact List.mem_filterMap.mpr ⟨l, hl, hP⟩
  obtain ⟨hused, hvetted⟩ := (vetted_run hstarts hrun).of_mem hx
  cases pc with
  | jwksTouch d' response' locked =>
      cases hreturned
      obtain ⟨hd, Q, hQ, hadmits⟩ := hvetted
      obtain hvalidate | hlax := guarded_cases (hpolicies _ hused Q hQ)
      · exact hd hvalidate
      · exact hadmits.mono hlax
  | jwksWrite d' response' =>
      cases hreturned
      exact hvetted.2 hs
  | _ => cases hreturned

/-- What a call was given, with the URI and its own policy. -/
def Task.keysGiven : Task → Option (DiscoveryPolicy × String × Bool)
  | .token req pc => pc.returnedKeys.map fun r => (req.policy, r.1.uri, r.2.isSuccessful)
  | _ => none

theorem Task.keysGiven_eq {x : Task} {P : DiscoveryPolicy} {uri : String}
    (h : x.keysGiven = some (P, uri, true)) :
    ∃ req pc d response, x = .token req pc ∧ req.policy = P ∧
      pc.returnedKeys = some (d, response) ∧ d.uri = uri ∧ response.isSuccessful = true := by
  cases x with
  | token req pc =>
      obtain ⟨⟨d, response⟩, hreturned, heq⟩ := Option.map_eq_some_iff.mp h
      obtain ⟨rfl, hrest⟩ := Prod.mk.inj heq
      obtain ⟨rfl, hs⟩ := Prod.mk.inj hrest
      exact ⟨req, pc, d, response, rfl, rfl, hreturned, rfl, hs⟩
  | _ => cases h

/-- A call that fetches its document and, with `more` operations, looks for its keys. -/
def callUnder (t : ℕ) (policy : DiscoveryPolicy) (jwksUri : String) (more : ℕ) : List HttpLabel :=
  let run : HttpLabel := .move t ⟨0, .run⟩
  [.spawn (.validateToken "token" { performDisco := true, discoveryPolicy := some policy }
      (some "https://idp"))] ++ List.replicate 3 run ++
    [.move t ⟨0, .discovery (.response (Discovery.sampleResponse jwksUri))⟩] ++
    List.replicate more run

/-- The first call fetches the keys, the second one finds them cached. -/
def twoCalls (first second : DiscoveryPolicy) (jwksUri : String) : List HttpLabel :=
  callUnder 0 first jwksUri 4 ++
    [.move 0 ⟨0, .keys { isSuccessful := true, keys := some [{ kty := "RSA", kid := some "k" }] }⟩,
      .move 0 ⟨0, .run⟩] ++ callUnder 1 second jwksUri 2

def sampleInterpreter : Interpreter := Discovery.sampleSetting.interpreter

/-- The second call is given keys after the two calls. -/
theorem twoCalls_returned {flavour : Flavour} {first second : DiscoveryPolicy} {jwksUri : String}
    (h : ((runUpstream (sampleRuntime flavour) sampleInterpreter initial
      (twoCalls first second jwksUri)).bind fun s => (s.tasks[1]?).bind Task.keysGiven) =
        some (second, jwksUri, true)) :
    ∃ s req pc d response,
      runUpstream (sampleRuntime flavour) sampleInterpreter initial (twoCalls first second jwksUri) =
        some s ∧ .token req pc ∈ s.tasks ∧ req.policy = second ∧
      pc.returnedKeys = some (d, response) ∧ d.uri = jwksUri ∧ response.isSuccessful = true := by
  obtain ⟨s, hs, h⟩ := Option.bind_eq_some_iff.mp h
  obtain ⟨x, hx, h⟩ := Option.bind_eq_some_iff.mp h
  obtain ⟨req, pc, d, response, rfl, hpolicy, hreturned, huri, hok⟩ := Task.keysGiven_eq h
  exact ⟨s, req, pc, d, response, hs, List.mem_of_getElem? hx, hpolicy, hreturned, huri, hok⟩

/-- Keys that a call without the HTTPS requirement fetched are served to a strict one that
checks endpoints, and may be. -/
theorem returned_keys_admitted_twoCalls :
    ∃ s req pc d response,
      runUpstream (sampleRuntime .aio) sampleInterpreter initial
        (twoCalls { requireHttps := false } {} "https://idp/jwks") = some s ∧
      .token req pc ∈ s.tasks ∧ pc.returnedKeys = some (d, response) ∧
      validateUrlScheme sampleInterpreter.platform d.uri req.policy = .ok () := by
  have hgiven : ((runUpstream (sampleRuntime .aio) sampleInterpreter initial
      (twoCalls { requireHttps := false } {} "https://idp/jwks")).bind fun s =>
        (s.tasks[1]?).bind Task.keysGiven) = some ({}, "https://idp/jwks", true) := by
    decide +kernel
  obtain ⟨s, req, pc, d, response, hrun, hx, -, hreturned, -, hok⟩ := twoCalls_returned hgiven
  exact ⟨s, req, pc, d, response, hrun, hx, hreturned,
    returned_keys_admitted _ _ _ s (by decide +kernel) hrun hx hreturned hok⟩

/-- Keys that were fetched over HTTP are served to a call that requires HTTPS and does not check
endpoints. -/
def ReturnsRefusedKeys (flavour : Flavour) : Prop :=
  ∃ s req pc d response,
    runUpstream (sampleRuntime flavour) sampleInterpreter initial
      (twoCalls { requireHttps := false, validateEndpoints := false }
        { validateEndpoints := false } "http://idp/jwks") = some s ∧
    .token req pc ∈ s.tasks ∧ pc.returnedKeys = some (d, response) ∧
    response.isSuccessful = true ∧
    validateUrlScheme sampleInterpreter.platform d.uri req.policy ≠ .ok ()

theorem returnsRefusedKeys (flavour : Flavour) : ReturnsRefusedKeys flavour := by
  have hgiven : ((runUpstream (sampleRuntime flavour) sampleInterpreter initial
      (twoCalls { requireHttps := false, validateEndpoints := false }
        { validateEndpoints := false } "http://idp/jwks")).bind fun s =>
          (s.tasks[1]?).bind Task.keysGiven) =
      some ({ validateEndpoints := false }, "http://idp/jwks", true) := by
    cases flavour <;> decide +kernel
  obtain ⟨s, req, pc, d, response, hrun, hx, hpolicy, hreturned, huri, hok⟩ :=
    twoCalls_returned hgiven
  refine ⟨s, req, pc, d, response, hrun, hx, hreturned, hok, ?_⟩
  rw [huri, hpolicy]
  decide +kernel

theorem refused_keys_returned : ReturnsRefusedKeys .sync ∧ ReturnsRefusedKeys .aio :=
  ⟨returnsRefusedKeys .sync, returnsRefusedKeys .aio⟩

end IdentityModel.Py
