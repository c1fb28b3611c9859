import IdentityModel.PySidecar

/-!
# Bad answers and the JWKS cache

A validation whose key requests are all answered by an error or by an empty set
leaves the entries of the JWKS cache as they were, whatever it raises and wherever.
It leaves the cooldown stamp of a URI alone as well, unless it finds an entry of that
URI that is not older than its own reading of the clock and takes it for the refresh it
wanted.
-/
namespace IdentityModel.Py

open Runs Tasks

/-- An unsuccessful answer, or one without keys. -/
def JwksResponse.bad (r : JwksResponse) : Bool := !r.isSuccessful || r.keyList = []

/-- A move of call `t`. -/
def moves (t : ℕ) : Label → Bool
  | .move t' _ => t' = t
  | .spawn _ => false

/-- A key set that arrives is a bad answer. -/
def badKeys : Label → Bool
  | .move _ ⟨_, .keys r⟩ => r.bad
  | _ => true

/-- The clock is past the time of the URI's entry, if there is one. -/
def pastEntry (cache : JwksCache) (uri : String) : Label → Bool
  | .move _ e => (cache.lookup uri).all fun entry => entry.cachedAt < e.now
  | .spawn _ => true

theorem cachedAt_lt_of_pastEntry {cache : JwksCache} {uri : String} {t : ℕ} {e : Event}
    (h : pastEntry cache uri (.move t e) = true) {entry : CacheEntry JwksResponse}
    (hentry : cache.lookup uri = some entry) : entry.cachedAt < e.now := by
  rw [pastEntry, hentry] at h
  exact of_decide_eq_true h

/-- The stamps of the URIs named are as they were, and all stamps are where all URIs are named. -/
structure StampsKept (late : String → Prop) (before after : Dict String ℚ) : Prop where
  named : ∀ uri, late uri → after.lookup uri = before.lookup uri
  all : (∀ uri, late uri) → after = before

namespace StampsKept

variable {late : String → Prop} {before mid after : Dict String ℚ}

theorem of_eq (h : after = before) : StampsKept late before after :=
  ⟨fun _ _ => by rw [h], fun _ => h⟩

theorem trans (h : StampsKept late before mid) (h' : StampsKept late mid after) :
    StampsKept late before after :=
  ⟨fun uri hlate => (h'.named uri hlate).trans (h.named uri hlate), fun hall => (h'.all hall).trans (h.all hall)⟩

end StampsKept

section Entries

variable {rt : Runtime} {P : CacheEntry JwksResponse → Prop}
  (hP : ∀ response now, response.isSuccessful = true → response.keyList ≠ [] →
    P (jwksEntry rt.env response now))
include hP

theorem entries_step (s : State) (l : Label) (s' : State)
    (h : ∀ uri entry, s.shared.jwks.lookup uri = some entry → P entry)
    (hstep : (validator rt).step s l = some s') :
    ∀ uri entry, s'.shared.jwks.lookup uri = some entry → P entry := by
  cases l with
  | spawn call =>
      obtain rfl := validator_step_spawn hstep
      exact h
  | move t e =>
      obtain ⟨x, w, x', hx, -, hmoved, rfl⟩ := validator_step_move hstep
      intro uri entry hentry
      have hentry : w.jwks.lookup uri = some entry := hentry
      cases hmoved with
      | token req pc _ pc' hadv =>
          cases hadv.stampEffect with
          | same jwks stamps => exact h uri entry (jwks ▸ hentry)
          | touched k jwks stamps =>
              rw [jwks, Dict.lookup_touch] at hentry
              exact h uri entry hentry
          | written k response jwks stamps =>
              rw [jwks] at hentry
              obtain hold | ⟨-, rfl, hs, hkeys⟩ := lookup_applyJwksCacheOutcome hentry
              · exact h uri entry hold
              · exact hP _ _ hs hkeys
          | stamped d next at_ jwks stamps => exact h uri entry (jwks ▸ hentry)
          | popped k jwks stamps => exact h uri entry (jwks ▸ hentry)
      | clearJwks => cases hentry
      | clearDisco => exact h uri entry hentry

/-- What holds of the entry of every good answer holds of every entry. -/
theorem entries_run {ls : List Label} {s : State} (hrun : run rt initial ls = some s) :
    ∀ uri entry, s.shared.jwks.lookup uri = some entry → P entry :=
  exec_preserves (entries_step hP) (fun _ _ hentry => by cases hentry) hrun

end Entries

/-- Every entry of the JWKS cache has keys. -/
def EntriesHaveKeys (s : State) : Prop :=
  ∀ uri entry, s.shared.jwks.lookup uri = some entry → entry.response.keyList ≠ []

theorem entriesHaveKeys_run {rt : Runtime} {ls : List Label} {s : State}
    (hrun : run rt initial ls = some s) : EntriesHaveKeys s :=
  entries_run (fun _ _ _ hkeys => hkeys) hrun

theorem entriesSuccessful_run {rt : Runtime} {ls : List Label} {s : State}
    (hrun : run rt initial ls = some s) {uri : String} {entry : CacheEntry JwksResponse}
    (hentry : s.shared.jwks.lookup uri = some entry) : entry.response.isSuccessful = true :=
  entries_run (P := fun entry => entry.response.isSuccessful = true) (fun _ _ hs _ => hs) hrun uri
    entry hentry

/-- Where a call against bad answers can be: it comes to a refresh only with an
entry at hand, its answers are bad, and it settles only what it took from an entry
as new as its clock. -/
def Pc.Starved (cache : JwksCache) (late : String → Prop) : Pc → Prop
  | .jwksTouch d _ _ => (cache.lookup d.uri).isSome = true
  | .jwksWrite _ response => response.bad = true
  | .gate d _ => (cache.lookup d.uri).isSome = true
  | .gateCheck d _ _ => (cache.lookup d.uri).isSome = true
  | .refreshWait d _ => (cache.lookup d.uri).isSome = true
  | .refreshCheck d _ => (cache.lookup d.uri).isSome = true
  | .refreshFetch d _ => (cache.lookup d.uri).isSome = true
  | .refreshWrite d _ response => (cache.lookup d.uri).isSome = true ∧ response.bad = true
  | .settle d _ next => ¬ late d.uri ∧ next.Starved cache late
  | _ => True

section Landing

variable {rt : Runtime} {req : Request} {cache : JwksCache} {late : String → Prop} {d : Disco}

theorem afterDisco_starved (rt : Runtime) (cache : JwksCache) (late : String → Prop)
    (response : DiscoveryDocumentResponse) : (afterDisco rt response).Starved cache late := by
  obtain ⟨result, h⟩ | ⟨d, h⟩ := afterDisco_landing rt response <;> rw [h] <;> trivial

theorem validateJwksResponse_bad {response : JwksResponse} (h : response.bad = true) :
    ∃ e, validateJwksResponse response = some e := by
  simp only [JwksResponse.bad, Bool.or_eq_true, Bool.not_eq_true', decide_eq_true_eq] at h
  unfold validateJwksResponse
  obtain hs | hk := h
  · rw [hs]
    exact ⟨_, rfl⟩
  · rw [hk]
    split <;> exact ⟨_, rfl⟩

variable (hentry : (cache.lookup d.uri).isSome = true)
include hentry

theorem Tried.starved {pc : Pc} (h : Tried d pc) : pc.Starved cache late := by
  cases h with
  | done result => trivial
  | retry => exact hentry

theorem afterJwks_starved (response : JwksResponse) :
    (afterJwks rt req d response).Starved cache late := by
  unfold afterJwks
  split
  · trivial
  · split
    · trivial
    · split
      · exact (attempt_tried rt req d _ _).starved hentry
      · split
        · exact (attempt_tried rt req d _ _).starved hentry
        · exact hentry

/-- A refresh that returned the retained entry settles nothing. -/
theorem afterRefresh_retained_starved (why : Why) (response : JwksResponse) :
    (afterRefresh rt req d why response true).Starved cache late := by
  cases why with
  | kidMiss kid header cached =>
      simp only [afterRefresh]
      split
      · exact (attempt_tried rt req d _ _).starved hentry
      · split <;> first | trivial | simp_all
  | retry =>
      simp only [afterRefresh]
      split
      · trivial
      · exact (finish_tried rt req d _).starved hentry

/-- A refresh that took an entry for its own settles it. -/
theorem afterRefresh_coalesced_starved (hlate : ¬ late d.uri) (why : Why) (response : JwksResponse) :
    (afterRefresh rt req d why response false).Starved cache late := by
  obtain h | ⟨stamp, next, heq, h⟩ := afterRefresh_tried rt req d why response false
  · exact h.starved hentry
  · rw [heq]
    exact ⟨hlate, h.starved hentry⟩

end Landing

theorem JwksResponse.bad_iff {r : JwksResponse} :
    r.bad = true ↔ r.isSuccessful = false ∨ r.keyList = [] := by
  simp [JwksResponse.bad]

/-- A bad answer writes nothing. -/
theorem writeJwks_bad (rt : Runtime) (w : Shared) (uri : String) (purpose : Purpose)
    {response : JwksResponse} (h : response.bad = true) :
    (writeJwks rt w uri purpose response).jwks = w.jwks ∧
      (writeJwks rt w uri purpose response).lastAttempt = w.lastAttempt := by
  simp [writeJwks, applyJwksCacheOutcome_retain _ _ _ _ (JwksResponse.bad_iff.mp h)]

/-- What a refresh against a bad answer returns: an error, or the retained entry. -/
theorem surfaced_bad {w : Shared} {uri : String} {response : JwksResponse}
    {entry : CacheEntry JwksResponse} (hbad : response.bad = true)
    (hentry : w.jwks.lookup uri = some entry) (hkeys : entry.response.keyList ≠ []) :
    (surfaced w uri response = (response, false) ∧ response.isSuccessful = false) ∨
      surfaced w uri response = (entry.response, true) := by
  by_cases hs : response.isSuccessful = true
  · have hempty : response.keyList = [] := by
      obtain hf | hk := JwksResponse.bad_iff.mp hbad
      · rw [hs] at hf
        cases hf
      · exact hk
    right
    simp [surfaced, hs, hempty, hentry, hkeys]
  · left
    rw [Bool.not_eq_true] at hs
    exact ⟨by simp [surfaced, hs], hs⟩

section Steps

variable {rt : Runtime} {w w' : Shared} {req : Request} {pc pc' : Pc} {act : Act}
  {cache : JwksCache} {late : String → Prop}

theorem afterRefresh_failed (rt : Runtime) (req : Request) (d : Disco) (why : Why)
    {response : JwksResponse} (h : response.isSuccessful = false) :
    (afterRefresh rt req d why response false).Starved cache late := by
  have hvalid : ∃ e, validateJwksResponse response = some e := by
    simp [validateJwksResponse, h]
  obtain ⟨e, he⟩ := hvalid
  cases why <;> simp [afterRefresh, he, h, Pc.Starved]

/-- The settlement part of `Advance.starved`: only a coalesced refresh settles. -/
theorem refreshWriteStep_starved (hkeys : ∀ uri entry, cache.lookup uri = some entry →
      entry.response.keyList ≠ []) (hsame : ∀ k, w.jwks.lookup k = cache.lookup k) {d : Disco}
    {why : Why} {response : JwksResponse} (hentry : (cache.lookup d.uri).isSome = true)
    (hbad : response.bad = true) :
    (refreshWriteStep rt w req d why response).2.Starved cache late ∧
      (∀ k, (refreshWriteStep rt w req d why response).1.jwks.lookup k = cache.lookup k) ∧
      (refreshWriteStep rt w req d why response).1.lastAttempt = w.lastAttempt := by
  obtain ⟨hjwks, hstamps⟩ := writeJwks_bad rt w d.uri why.purpose hbad
  obtain ⟨entry, hl⟩ := Option.isSome_iff_exists.mp hentry
  have hlookup : (writeJwks rt w d.uri why.purpose response).jwks.lookup d.uri = some entry := by
    rw [hjwks, hsame, hl]
  refine ⟨?_, fun k => ?_, hstamps⟩
  · show (afterRefresh rt req d why (surfaced (writeJwks rt w d.uri why.purpose response) d.uri
      response).1 (surfaced (writeJwks rt w d.uri why.purpose response) d.uri
      response).2).Starved cache late
    obtain ⟨hsurf, hfailed⟩ | hsurf := surfaced_bad hbad hlookup (hkeys d.uri entry hl)
    · rw [hsurf]
      exact afterRefresh_failed rt req d why hfailed
    · rw [hsurf]
      exact afterRefresh_retained_starved hentry why _
  · show (writeJwks rt w d.uri why.purpose response).jwks.lookup k = cache.lookup k
    rw [hjwks, hsame]

/-- One operation against bad answers. -/
theorem Advance.starved (h : Advance rt w req pc act w' pc')
    (hkeys : ∀ uri entry, cache.lookup uri = some entry → entry.response.keyList ≠ [])
    (hsame : ∀ k, w.jwks.lookup k = cache.lookup k) (hpc : pc.Starved cache late)
    (hact : ∀ r, act = .keys r → r.bad = true)
    (hlate : ∀ uri, late uri → ∀ entry, cache.lookup uri = some entry → entry.cachedAt < w.now) :
    pc'.Starved cache late ∧ (∀ k, w'.jwks.lookup k = cache.lookup k) ∧
      StampsKept late w.lastAttempt w'.lastAttempt := by
  have hfresh : ∀ {uri : String} {response : JwksResponse},
      freshResponse (w.jwks.lookup uri) w.now = some response → (cache.lookup uri).isSome = true := by
    intro uri response hr
    rw [← hsame]
    cases hl : w.jwks.lookup uri with
    | none => simp [freshResponse, hl] at hr
    | some entry => rfl
  cases h with
  | discoTouch response locked held => exact ⟨afterDisco_starved rt cache late _, hsame, .of_eq rfl⟩
  | discoWrite response held => exact ⟨afterDisco_starved rt cache late _, hsame, .of_eq rfl⟩
  | jwksReadHit d response hr => exact ⟨hfresh hr, hsame, .of_eq rfl⟩
  | jwksTouch d response locked held =>
      refine ⟨afterJwks_starved hpc response, fun k => ?_, .of_eq rfl⟩
      rw [Dict.lookup_touch, hsame]
  | jwksRecheckHit d response hr => exact ⟨hfresh hr, hsame, .of_eq rfl⟩
  | jwksAnswer d response => exact ⟨hact response rfl, hsame, .of_eq rfl⟩
  | jwksWrite d response held =>
      obtain ⟨e, he⟩ := validateJwksResponse_bad hpc
      obtain ⟨hjwks, hstamps⟩ := writeJwks_bad rt w d.uri .fetch hpc
      refine ⟨by simp [afterJwks, he, Pc.Starved], fun k => ?_, .of_eq hstamps⟩
      show (writeJwks rt w d.uri .fetch response).jwks.lookup k = cache.lookup k
      rw [hjwks, hsame]
  | gate d why => exact ⟨hpc, hsame, .of_eq rfl⟩
  | gatePassed d why now hattempt => exact ⟨hpc, hsame, .of_eq rfl⟩
  | gateBlocked d why now => exact ⟨(afterBlocked_tried rt req d why).starved hpc, hsame, .of_eq rfl⟩
  | refreshLock d why => exact ⟨hpc, hsame, .of_eq rfl⟩
  | coalesced d why entry held hentry hnow =>
      refine ⟨afterRefresh_coalesced_starved hpc (fun hl => ?_) why _, hsame, .of_eq rfl⟩
      rw [hsame] at hentry
      exact absurd hnow (not_le.mpr (hlate d.uri hl entry hentry))
  | refreshSend d why => exact ⟨hpc, hsame, .of_eq rfl⟩
  | refreshAnswer d why response => exact ⟨⟨hpc, hact response rfl⟩, hsame, .of_eq rfl⟩
  | refreshWrite d why response =>
      have hstep : (refreshWriteStep rt w req d why response).2.Starved cache late ∧ _ :=
        refreshWriteStep_starved hkeys hsame hpc.1 hpc.2
      exact ⟨hstep.1, hstep.2.1, .of_eq hstep.2.2⟩
  | settle d stamp next =>
      refine ⟨hpc.2, hsame, ⟨fun uri hl => ?_, fun hall => absurd (hall d.uri) hpc.1⟩⟩
      have hne : uri ≠ d.uri := fun h => hpc.1 (h ▸ hl)
      cases stamp with
      | true => exact AList.lookup_insert_ne hne
      | false => exact AList.lookup_erase_ne hne
  | _ => exact ⟨trivial, hsame, .of_eq rfl⟩

end Steps

/-- The last call of the pool against bad answers: entries, stamps and clock. -/
structure Starving (s₀ : State) (late : String → Prop) (s : State) : Prop where
  call : ∃ req pc, s.tasks = s₀.tasks ++ [.token req pc] ∧ pc.Starved s₀.shared.jwks late
  entries : ∀ k, s.shared.jwks.lookup k = s₀.shared.jwks.lookup k
  stamps : StampsKept late s₀.shared.lastAttempt s.shared.lastAttempt

theorem starving_step {rt : Runtime} {s₀ : State} {late : String → Prop} (hkeys : EntriesHaveKeys s₀)
    (s : State) (l : Label) (s' : State) (h : Starving s₀ late s)
    (hok : moves s₀.tasks.length l = true ∧ badKeys l = true ∧
      ∀ uri, late uri → pastEntry s₀.shared.jwks uri l = true)
    (hstep : (validator rt).step s l = some s') : Starving s₀ late s' := by
  obtain ⟨hmoves, hbad, hlate⟩ := hok
  cases l with
  | spawn call => cases hmoves
  | move t e =>
      obtain rfl : t = s₀.tasks.length := of_decide_eq_true hmoves
      obtain ⟨x, w, x', hx, -, hmoved, rfl⟩ := validator_step_move hstep
      obtain ⟨req, pc, htasks, hpc⟩ := h.call
      have hxt : x = .token req pc := by
        rw [htasks] at hx
        simpa using hx.symm
      subst hxt
      have hact : ∀ r, e.act = .keys r → r.bad = true := by
        intro r hr
        obtain ⟨now, act⟩ := e
        simp only at hr
        subst hr
        exact hbad
      cases hmoved with
      | token _ _ _ pc' hadv =>
          obtain ⟨hpc', hentries, hstamps⟩ := hadv.starved hkeys h.entries hpc hact
            fun uri hl entry hentry => cachedAt_lt_of_pastEntry (hlate uri hl) hentry
          refine ⟨⟨req, pc', ?_, hpc'⟩, hentries, h.stamps.trans hstamps⟩
          simp [htasks]

theorem starving_run {rt : Runtime} {s₀ s : State} {late : String → Prop} {jwt : String}
    {config : TokenValidationConfig} {address : Option String} {ms : List Label}
    (hkeys : EntriesHaveKeys s₀) (hmoves : ∀ l ∈ ms, moves s₀.tasks.length l = true)
    (hbad : ∀ l ∈ ms, badKeys l = true)
    (hlate : ∀ uri, late uri → ∀ l ∈ ms, pastEntry s₀.shared.jwks uri l = true)
    (hrun : run rt s₀ (.spawn (.validateToken jwt config address) :: ms) = some s) :
    Starving s₀ late s := by
  obtain ⟨s₁, hspawn, hrest⟩ := exec_cons_eq_some.mp hrun
  obtain rfl := validator_step_spawn hspawn
  obtain ⟨pc, hstart, hbegin⟩ := startToken_eq (rt.at s₀.shared.now) jwt config address
  have hpc : pc.Starved s₀.shared.jwks late := by
    obtain rfl | ⟨result, rfl⟩ := hbegin <;> trivial
  have hinit : Starving s₀ late
      ⟨s₀.shared, s₀.tasks ++ [startToken (rt.at s₀.shared.now) jwt config address]⟩ :=
    ⟨⟨_, pc, by rw [hstart], hpc⟩, fun _ => rfl, .of_eq rfl⟩
  refine exec_invariant (starving_step hkeys) hinit (Meets.of_forall fun l hl => ?_) hrest
  exact ⟨hmoves l hl, hbad l hl, fun uri hlater => hlate uri hlater l hl⟩

/-- A validation during which all key requests are answered badly leaves the entries
of the JWKS cache as they were; it leaves the stamp of a URI as it was too, when its
clock is past the time of the URI's entry. -/
theorem bad_answers_change_nothing {rt : Runtime} {ls ms : List Label} {s s' : State}
    {jwt : String} {config : TokenValidationConfig} {address : Option String}
    (hreach : run rt initial ls = some s) (hmoves : ∀ l ∈ ms, moves s.tasks.length l = true)
    (hbad : ∀ l ∈ ms, badKeys l = true)
    (hrun : run rt s (.spawn (.validateToken jwt config address) :: ms) = some s') :
    (∀ k, s'.shared.jwks.lookup k = s.shared.jwks.lookup k) ∧
      StampsKept (fun uri => ∀ l ∈ ms, pastEntry s.shared.jwks uri l = true) s.shared.lastAttempt
        s'.shared.lastAttempt := by
  have hstarving := starving_run (entriesHaveKeys_run hreach) hmoves hbad
    (fun uri (h : ∀ l ∈ ms, pastEntry s.shared.jwks uri l = true) => h) hrun
  exact ⟨hstarving.entries, hstarving.stamps⟩

/-- A second call, after the cooldown, whose refresh fails. -/
def failedRefresh : List Label :=
  runsAt 1 10 8 ++ [.move 1 ⟨10, .keys { isSuccessful := false }⟩] ++ runsAt 1 10 1

def sampleCall : Call := .validateToken "token" { performDisco := true } (some "https://idp")

theorem bad_answers_change_nothing_refresh :
    ∃ s s', run (sampleRuntime .sync) initial (missRun "k1") = some s ∧
      run (sampleRuntime .sync) s (.spawn sampleCall :: failedRefresh) = some s' ∧
      s.shared.lastAttempt.lookup "https://idp/jwks" = some 2 ∧
      s'.shared.lastAttempt.lookup "https://idp/jwks" = s.shared.lastAttempt.lookup "https://idp/jwks" := by
  have hreach := eq_some_getD initial
    (show (run (sampleRuntime .sync) initial (missRun "k1")).isSome = true by decide +kernel)
  have hrun := eq_some_getD initial
    (show (run (sampleRuntime .sync) ((run (sampleRuntime .sync) initial (missRun "k1")).getD initial)
      (.spawn sampleCall :: failedRefresh)).isSome = true by decide +kernel)
  have hpast : ∀ l ∈ failedRefresh, pastEntry
      ((run (sampleRuntime .sync) initial (missRun "k1")).getD initial).shared.jwks "https://idp/jwks" l =
        true := by
    decide +kernel
  exact ⟨_, _, hreach, hrun, by decide +kernel,
    (bad_answers_change_nothing hreach (by decide +kernel) (by decide +kernel) hrun).2.named _ hpast⟩

/-- Against bad answers a finished call of the synchronous module leaves the stamp of
every URI alone whose entry is there throughout. -/
def BadAnswersKeepStamps : Prop :=
  ∀ (rt : Runtime) (ls ms : List Label) (s s' : State) (jwt : String)
    (config : TokenValidationConfig) (address : Option String), rt.flavour = .sync →
    run rt initial ls = some s → (∀ l ∈ ms, moves s.tasks.length l = true) →
    (∀ l ∈ ms, badKeys l = true) →
    run rt s (.spawn (.validateToken jwt config address) :: ms) = some s' →
    s'.tasks.getLast?.all Task.finished = true →
    ∀ uri, (s.shared.jwks.lookup uri).isSome = true →
      s'.shared.lastAttempt.lookup uri = s.shared.lastAttempt.lookup uri

/-- A first call that has just stored its key set. -/
def justStored : List Label :=
  [.spawn sampleCall] ++ runsAt 0 0 3 ++ [.move 0 ⟨0, .discovery sampleAnswer⟩] ++ runsAt 0 0 4 ++
    [oneKeyAnswer 0 0 "k1"] ++ runsAt 0 0 1

/-- A second call at the same reading of the clock takes that set for its refresh,
and stamps it. -/
theorem coalesced_refresh_stamps : ¬ BadAnswersKeepStamps := by
  intro h
  have hreach := eq_some_getD initial
    (show (run (sampleRuntime .sync) initial justStored).isSome = true by decide +kernel)
  have hrun := eq_some_getD initial
    (show (run (sampleRuntime .sync) ((run (sampleRuntime .sync) initial justStored).getD initial)
      (.spawn sampleCall :: runsAt 1 0 9)).isSome = true by decide +kernel)
  have hsame := h (sampleRuntime .sync) justStored (runsAt 1 0 9) _ _ "token"
    { performDisco := true } (some "https://idp") rfl hreach (by decide +kernel) (by decide +kernel)
    hrun (by decide +kernel) "https://idp/jwks" (by decide +kernel)
  exact absurd hsame (by decide +kernel)

end IdentityModel.Py
