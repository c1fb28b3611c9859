import IdentityModel.PyThrottle

/-!
# Floods of unknown key identifiers

Tokens whose `kid` the provider never serves all come to the cooldown gate. Their
forced refreshes excuse nothing, so in every run in which a gate is passed only
while nobody else is past it they are a cooldown apart, up to the rounding of the
gate's own difference. Two threads that both read the stamp before either of them
has written it are not.
-/
namespace IdentityModel.Py

open Runs Tasks Throttle

/-- A successful answer with keys, none of them wanted. -/
def lacks (wanted : List String) (r : JwksResponse) : Bool :=
  r.isSuccessful && r.keyList ≠ [] && wanted.all fun kid => !hasKid r.keyList kid

/-- Calls in discovery mode for tokens with a wanted `kid`, against providers whose
key sets never hold one. -/
def inFlood (rt : Runtime) (wanted : List String) : Label → Bool
  | .spawn (.validateToken jwt config _) =>
      config.performDisco &&
        match rt.pyjwt.header jwt with
        | .ok header => header.kid.any fun kid => kid ∈ wanted
        | .error _ => false
  | .spawn _ => false
  | .move _ ⟨_, .keys r⟩ => lacks wanted r
  | .move _ _ => true

/-- The starts of forced refreshes of `u`, newest first. -/
def refreshStarts (u : String) (log : List LogEvent) : List ℚ := log.filterMap (LogEvent.startOf u)

theorem startsSince_eq_refreshStarts {u : String} {log : List LogEvent}
    (h : ∀ e ∈ log, e.excuses u = false) : startsSince u log = refreshStarts u log := by
  induction log with
  | nil => rfl
  | cons e log ih =>
      have he : e.excuses u = false := h e (by simp)
      have hrest := ih fun e' he' => h e' (List.mem_cons_of_mem _ he')
      rw [startsSince, he, hrest, refreshStarts, refreshStarts, List.filterMap_cons]
      cases e.startOf u <;> simp

def Request.Wants (rt : Runtime) (wanted : List String) (req : Request) : Prop :=
  ∃ header kid, rt.pyjwt.header req.jwt = .ok header ∧ header.kid = some kid ∧ kid ∈ wanted

def Why.Wants (wanted : List String) : Why → Prop
  | .kidMiss kid _ _ => kid ∈ wanted
  | .retry => True

/-- A refresh is made for a wanted `kid`, and its answer lacks it. -/
def Pc.Wants (wanted : List String) : Pc → Prop
  | .gate _ why => why.Wants wanted
  | .gateCheck _ why _ => why.Wants wanted
  | .refreshWait _ why => why.Wants wanted
  | .refreshCheck _ why => why.Wants wanted
  | .refreshFetch _ why => why.Wants wanted
  | .refreshWrite _ why response => why.Wants wanted ∧ lacks wanted response = true
  | .settle _ _ next => next.Wants wanted
  | _ => True

theorem lacks_iff {wanted : List String} {r : JwksResponse} : lacks wanted r = true ↔
    r.isSuccessful = true ∧ r.keyList ≠ [] ∧ ∀ kid ∈ wanted, hasKid r.keyList kid = false := by
  simp [lacks, and_assoc]

/-- A `kid` that no key has is never decoded with. -/
theorem resolveAndDecode_absent (pyjwt : PyJwt) (jwt : String) (config : TokenValidationConfig)
    {header : Header} {keys : List JsonWebKey} {kid : String} (issuer : Option Issuer)
    (hkid : header.kid = some kid) (habsent : hasKid keys kid = false) :
    (resolveAndDecode pyjwt jwt config header keys issuer).isOk = false := by
  have hfind : keys.find? (fun k => k.kid = some kid) = none := by
    rw [List.find?_eq_none]
    exact List.any_eq_false.mp habsent
  have herror : ∃ e, findKeyByKid header.kid keys header.alg = .error e := by
    simp only [findKeyByKid, hkid, hfind]
    split <;> exact ⟨_, rfl⟩
  obtain ⟨e, he⟩ := herror
  simp [resolveAndDecode, he, Except.isOk, Except.toBool]

section Wants

variable {rt : Runtime} {wanted : List String} {req : Request}

theorem Tried.wants {d : Disco} {pc : Pc} (h : Tried d pc) : pc.Wants wanted := by
  cases h <;> trivial

theorem afterDisco_wants (rt : Runtime) (wanted : List String) (response : DiscoveryDocumentResponse) :
    (afterDisco rt response).Wants wanted := by
  obtain ⟨result, h⟩ | ⟨d, h⟩ := afterDisco_landing rt response <;> rw [h] <;> trivial

theorem afterJwks_wants (hreq : req.Wants rt wanted) (d : Disco) (response : JwksResponse) :
    (afterJwks rt req d response).Wants wanted := by
  obtain ⟨header, kid, hheader, hkid, hwanted⟩ := hreq
  simp only [afterJwks, hheader, hkid]
  split
  · trivial
  · split
    · exact (attempt_tried rt req d _ _).wants
    · exact hwanted

theorem afterRefresh_wants (rt : Runtime) (req : Request) (wanted : List String) (d : Disco)
    (why : Why) (response : JwksResponse) (retained : Bool) :
    (afterRefresh rt req d why response retained).Wants wanted := by
  obtain h | ⟨stamp, next, heq, h⟩ := afterRefresh_tried rt req d why response retained
  · exact h.wants
  · rw [heq]
    exact h.wants

theorem retryEvents_lacking (hreq : req.Wants rt wanted) (d : Disco) (why : Why)
    {response : JwksResponse} (hlacks : lacks wanted response = true) :
    retryEvents rt req d why response = [] := by
  obtain ⟨header, kid, hheader, hkid, hwanted⟩ := hreq
  have habsent := (lacks_iff.mp hlacks).2.2 kid hwanted
  cases why with
  | kidMiss kid header cached => rfl
  | retry =>
      have hdecode : (retryDecode rt req d response.keyList).isOk = false := by
        simp only [retryDecode, hheader]
        exact resolveAndDecode_absent _ _ _ _ hkid habsent
      simp [retryEvents, hdecode]

theorem excused_lacking {why : Why} {response : JwksResponse} (hwhy : why.Wants wanted)
    (hlacks : lacks wanted response = true) : why.purpose.excused response = false := by
  obtain ⟨hs, hk, habsent⟩ := lacks_iff.mp hlacks
  cases why with
  | kidMiss kid header cached => simp [Why.purpose, Purpose.excused, hs, hk, habsent kid hwhy]
  | retry => simp [Why.purpose, Purpose.excused, hs, hk]

end Wants

/-- Only evictions excuse a further refresh of `u`. -/
def Unexcused (u : String) (log : List LogEvent) : Prop :=
  ∀ e ∈ log, e.excuses u = true → e = .evicted u

def Task.Wants (rt : Runtime) (wanted : List String) : Task → Prop
  | .token req pc => (∃ result, pc = .done result) ∨ (req.Wants rt wanted ∧ pc.Wants wanted)
  | .clearJwks _ => False
  | .clearDisco _ => False

theorem Unexcused.append {u : String} {es log : List LogEvent} (h : Unexcused u log)
    (hes : ∀ e ∈ es, e.excuses u = true → e = .evicted u) : Unexcused u (es ++ log) := by
  intro e he
  obtain he | he := List.mem_append.mp he
  · exact hes e he
  · exact h e he

theorem Unexcused.cons {u : String} {e : LogEvent} {log : List LogEvent} (h : Unexcused u log)
    (he : e.excuses u = false) : Unexcused u (e :: log) := by
  refine List.forall_mem_cons.mpr ⟨fun hex => ?_, h⟩
  rw [he] at hex
  cases hex

theorem writeEvents_unexcused {u uri : String} {purpose : Purpose} {response : JwksResponse}
    (evicted : List String) (h : purpose.excused response = false) :
    ∀ e ∈ writeEvents uri purpose response evicted, e.excuses u = true → e = .evicted u := by
  intro e he hex
  obtain he | he := List.mem_append.mp he
  · obtain ⟨k, -, rfl⟩ := List.mem_map.mp he
    rw [show k = u from of_decide_eq_true hex]
  · rw [List.mem_singleton.mp he] at hex
    simp [LogEvent.excuses, h] at hex

section Steps

variable {rt : Runtime} {wanted : List String} {w w' : Shared} {req : Request} {pc pc' : Pc}
  {act : Act}

theorem Advance.wants (h : Advance rt w req pc act w' pc') (hreq : req.Wants rt wanted)
    (hpc : pc.Wants wanted) (hact : ∀ r, act = .keys r → lacks wanted r = true) :
    pc'.Wants wanted := by
  cases h with
  | discoTouch response locked held => exact afterDisco_wants rt wanted response
  | discoWrite response held => exact afterDisco_wants rt wanted response
  | jwksTouch d response locked held => exact afterJwks_wants hreq d response
  | jwksWrite d response held => exact afterJwks_wants hreq d response
  | gate d why => exact hpc
  | gatePassed d why now hattempt => exact hpc
  | gateBlocked d why now => exact (afterBlocked_tried rt req d why).wants
  | refreshLock d why => exact hpc
  | coalesced d why entry held hentry => exact afterRefresh_wants rt req wanted d why _ _
  | refreshSend d why => exact hpc
  | refreshAnswer d why response => exact ⟨hpc, hact response rfl⟩
  | refreshWrite d why response => exact afterRefresh_wants rt req wanted d why _ _
  | settle d stamp next => exact hpc
  | _ => trivial

/-- No operation of a thread excuses a refresh, evictions apart. -/
theorem Advance.unexcused (hsync : rt.flavour = .sync) (h : Advance rt w req pc act w' pc')
    (hreq : req.Wants rt wanted)
    (hpc : pc.Wants wanted) {u : String} (hlog : Unexcused u w.log) : Unexcused u w'.log := by
  cases h with
  | discoWrite response held => exact hlog.cons rfl
  | jwksWrite d response held =>
      show Unexcused u (writeJwks rt w d.uri .fetch response).log
      rw [writeJwks_log]
      exact hlog.append (writeEvents_unexcused _ rfl)
  | refreshSend d why => exact hlog.cons rfl
  | refreshRaised d why response e held hraised => simp [Runtime.countingError, hsync] at hraised
  | refreshWrite d why response =>
      have hex := excused_lacking hpc.1 hpc.2
      have hsurf := surfaced_of_keys (w := writeJwks rt w d.uri why.purpose response) d.uri
        (Why.keyList_of_not_excused hex)
      have hevents : (refreshWriteStep rt w req d why response).1.log =
          (writeJwks rt w d.uri why.purpose response).log := by
        simp [refreshWriteStep, hsurf, retryEvents_lacking hreq d why hpc.2]
      rw [hevents, writeJwks_log]
      exact hlog.append (writeEvents_unexcused _ hex)
  | _ => exact hlog

end Steps

/-- The state of a flood: every call has a wanted `kid`, and nothing is excused. -/
def Flooded (rt : Runtime) (wanted : List String) (u : String) : State → Prop :=
  Holds (fun w => Unexcused u w.log) (fun _ x => x.Wants rt wanted) (fun _ _ => True)

theorem start_wants {rt : Runtime} {wanted : List String} {call : Call}
    (h : inFlood rt wanted (.spawn call) = true) : (call.start rt).Wants rt wanted := by
  cases call with
  | validateToken jwt config address =>
      simp only [inFlood, Bool.and_eq_true] at h
      have hwants : ∃ header kid, rt.pyjwt.header jwt = .ok header ∧ header.kid = some kid ∧
          kid ∈ wanted := by
        cases hh : rt.pyjwt.header jwt with
        | error e => simp [hh] at h
        | ok header =>
            simp only [hh, Option.any_eq_true, decide_eq_true_eq] at h
            obtain ⟨-, kid, hkid, hwanted⟩ := h
            exact ⟨header, kid, rfl, hkid, hwanted⟩
      simp only [Call.start, startToken, h.1, if_true]
      split
      · exact .inl ⟨_, rfl⟩
      · split
        · exact .inl ⟨_, rfl⟩
        · exact .inr ⟨hwants, trivial⟩
  | _ => cases h

theorem flooded_step {rt : Runtime} (hsync : rt.flavour = .sync) (wanted : List String)
    (u : String) (s : State) (l : Label) (s' : State) (h : Flooded rt wanted u s) (hl : inFlood rt wanted l = true)
    (hstep : (validator rt).step s l = some s') : Flooded rt wanted u s' := by
  refine validator_holds (fun l => inFlood rt wanted l = true)
    (fun now call hl => @start_wants (rt.at now) wanted call hl) ?_ s l s' h hl hstep
  · intro t e w x w' x' hl hlog hself hmoved
    have hact : ∀ r, e.act = .keys r → lacks wanted r = true := by
      intro r hr
      obtain ⟨now, act⟩ := e
      simp only at hr
      subst hr
      exact hl
    cases hmoved with
    | token req pc _ pc' hadv =>
        obtain ⟨result, rfl⟩ | ⟨hreq, hpc⟩ := hself
        · cases hadv
        · have hlog : Unexcused u ({ w with now := e.now } : Shared).log := hlog
          have hsyncAt : (rt.at e.now).flavour = .sync := hsync
          exact ⟨hadv.unexcused hsyncAt hreq hpc hlog, .inr ⟨hreq, hadv.wants hreq hpc hact⟩⟩
    | clearJwks => exact hself.elim
    | clearDisco => exact hself.elim

/-- A call passes a gate only when its stamp is the cooldown back, before the
difference is rounded. -/
def gateExact (rt : Runtime) (s : State) : Label → Bool
  | .move t e =>
      match s.tasks[t]? with
      | some (.token _ (.gateCheck d why now)) =>
          !shouldAttemptKidMissRefresh rt.env s.shared.lastAttempt d.uri why.hasCachedKeys now ||
            (s.shared.lastAttempt.lookup d.uri).all fun last =>
              last + getKidMissCooldown rt.env ≤ e.now
      | _ => true
  | .spawn _ => true

theorem passesOpen_of_gateExact {rt : Runtime} {s : State} {l : Label}
    (h : gateExact rt s l = true) : PassesOpen (After (getKidMissCooldown rt.env)) rt s l := by
  cases l with
  | spawn call => trivial
  | move t e =>
      intro req d why now hx hattempt τ hτ
      simp only [gateExact, hx, hattempt, Bool.not_true, Bool.false_or, hτ, Option.all_some,
        decide_eq_true_eq] at h
      exact h

/-- In every run of threads in a flood in which a gate is passed only while nobody else is past
it, and only when the cooldown is over before rounding, the forced refreshes of a URI whose
entry is not evicted are a cooldown apart, and at most `⌈W / cooldown⌉` of them fall in a
window of length `W`. -/
theorem flood_refreshes_spaced {rt : Runtime} {u : String} {wanted : List String} {ls : List Label}
    {s : State} (hsync : rt.flavour = .sync) (hflood : ∀ l ∈ ls, inFlood rt wanted l = true)
    (halone : Meets (validator rt).step
      (fun s l => gateAlone rt s l = true ∧ gateExact rt s l = true) initial ls)
    (hrun : run rt initial ls = some s) (hkept : .evicted u ∉ s.shared.log) :
    Spaced (getKidMissCooldown rt.env) (refreshStarts u s.shared.log) ∧
      (0 < getKidMissCooldown rt.env → ∀ from_ W : ℚ,
        ((refreshStarts u s.shared.log).filter fun t => decide (from_ ≤ t ∧ t < from_ + W)).length ≤
          ⌈W / getKidMissCooldown rt.env⌉₊) := by
  have hinit : Flooded rt wanted u initial := Holds.of_idle (fun e he => by cases he) rfl
  have hlog := (exec_invariant (flooded_step hsync wanted u) hinit (Meets.of_forall hflood) hrun).shared
  have hcool := exec_invariant
    (fun s l s' h hok hstep => keepsCooldown_step (isGap_after _) rt u s l s' h hok.1
      (passesOpen_of_gateExact hok.2) hstep) (keepsCooldown_initial _ u) halone hrun
  have hnone : ∀ e ∈ s.shared.log, e.excuses u = false := by
    intro e he
    by_contra hex
    have heq := hlog e he (by simpa using hex)
    exact hkept (heq ▸ he)
  have hspaced : Spaced (getKidMissCooldown rt.env) (refreshStarts u s.shared.log) := by
    rw [← startsSince_eq_refreshStarts hnone]
    exact hcool.2.apart
  exact ⟨hspaced, fun hc from_ W => hspaced.window_le hc from_ W⟩

theorem flood_refreshes_spaced_twice :
    ∃ s, run (sampleRuntime .sync) initial (missTwiceRun 1 6) = some s ∧
      refreshStarts "https://idp/jwks" s.shared.log = [6, 1] ∧
      Spaced (getKidMissCooldown (sampleRuntime .sync).env)
        (refreshStarts "https://idp/jwks" s.shared.log) := by
  have hrun := eq_some_getD initial (show (run (sampleRuntime .sync) initial
    (missTwiceRun 1 6)).isSome = true by decide +kernel)
  have hflood : ∀ l ∈ missTwiceRun 1 6, inFlood (sampleRuntime .sync) ["x"] l = true := by
    decide +kernel
  exact ⟨_, hrun, by decide +kernel,
    (flood_refreshes_spaced rfl hflood (by decide +kernel) hrun (by decide +kernel)).1⟩

/-- The discovery documents all name `u`. -/
def addresses (u : String) : Label → Bool
  | .move _ ⟨_, .discovery answer⟩ => (processDiscoveryResponse answer).jwksUri = some (.str u)
  | _ => true

/-- The clock strictly increases, and the entry of `u` has not expired. -/
def steady (u : String) (s : State) : Label → Bool
  | .spawn _ => true
  | .move _ e => s.shared.now < e.now &&
      (s.shared.jwks.lookup u).all fun entry => !entry.isExpired e.now

/-- Threads of the synchronous module in a flood on one URI, with a strictly
increasing clock and an entry that stays, keep their forced refreshes a cooldown
apart. -/
def ThreadsKeepCooldown : Prop :=
  ∀ (rt : Runtime) (u : String) (wanted : List String) (ls : List Label) (s : State),
    rt.flavour = .sync → (∀ l ∈ ls, inFlood rt wanted l = true ∧ addresses u l = true) →
    Meets (validator rt).step (fun s l => steady u s l = true) initial ls →
    run rt initial ls = some s → .evicted u ∉ s.shared.log →
    Spaced (getKidMissCooldown rt.env) (refreshStarts u s.shared.log)

/-- The labels with a clock that advances by the 128th part of a second each. -/
def ticking (ls : List Label) : List Label :=
  ls.mapIdx fun i l =>
    match l with
    | .spawn call => .spawn call
    | .move t e => .move t ⟨(i + 1) / 128, e.act⟩

/-- The second thread reads the stamp while the first one refreshes. -/
def twoThreadsRun : List Label :=
  ticking (missStart 0 0 "k1" ++
    [.spawn (.validateToken "token" { performDisco := true } (some "https://idp"))] ++
    runsAt 1 0 6 ++ runsAt 0 0 1 ++ [oneKeyAnswer 0 0 "k1"] ++ runsAt 0 0 2 ++ runsAt 1 0 2)

/-- That run refreshes twice within a cooldown. -/
theorem threads_refresh_together : ¬ ThreadsKeepCooldown := by
  intro h
  have hrun := eq_some_getD initial
    (show (run (sampleRuntime .sync) initial twoThreadsRun).isSome = true by decide +kernel)
  have hspaced := h (sampleRuntime .sync) "https://idp/jwks" ["x"] twoThreadsRun _ rfl
    (by decide +kernel) (by decide +kernel) hrun (by decide +kernel)
  rw [show refreshStarts "https://idp/jwks" _ = [27 / 128, 22 / 128] by decide +kernel] at hspaced
  exact absurd ((List.pairwise_cons.mp hspaced).1 (22 / 128) (by simp)) (by decide +kernel)

end IdentityModel.Py
