import IdentityModel.PyValidateToken
import IdentityModel.Cooldown

/-!
# The forced refreshes behind the cooldown gate

The gate reads the stamp of a URI before the fetch lock is taken, and the stamp
is written after the fetch. The starts of forced refreshes are followed through
the ghost log, beginning anew at each event that excuses a further refresh: an
answer without usable keys, an absorbed rotation, an eviction, a clear. In every
run in which a call passes the gate of a URI only while no other call is between
its own gate and its stamp, the starts since the last such event are a cooldown
apart.
-/
namespace IdentityModel.Py

open Runs Tasks Throttle Cooldown

/-- The answer of a forced refresh was of no use, or held the wanted `kid`. -/
def Purpose.excused : Purpose → JwksResponse → Bool
  | .fetch, _ => false
  | .kidMiss kid, r => !r.isSuccessful || r.keyList = [] || hasKid r.keyList kid
  | .retry, r => !r.isSuccessful || r.keyList = []

/-- The event excuses a further refresh of `u`. -/
def LogEvent.excuses (u : String) : LogEvent → Bool
  | .keys uri purpose r => uri = u && purpose.excused r
  | .retryDecoded uri => uri = u
  | .evicted uri => uri = u
  | .cleared => true
  | .discovery .. => false
  | .refreshStart .. => false

/-- The start of a forced refresh of `u`. -/
def LogEvent.startOf (u : String) : LogEvent → Option ℚ
  | .refreshStart uri at_ => if uri = u then some at_ else none
  | _ => none

/-- The starts of forced refreshes of `u`, newest first, since the last event that
excuses one. -/
def startsSince (u : String) : List LogEvent → List ℚ
  | [] => []
  | e :: log => if e.excuses u then [] else (e.startOf u).toList ++ startsSince u log

theorem startsSince_append {u : String} {es : List LogEvent} (hes : ∀ e ∈ es, e.startOf u = none)
    (log : List LogEvent) :
    startsSince u (es ++ log) = if es.any (LogEvent.excuses u) then [] else startsSince u log := by
  induction es with
  | nil => rfl
  | cons e es ih =>
      have hrest := ih fun e' he' => hes e' (List.mem_cons_of_mem _ he')
      have he : e.startOf u = none := hes e (by simp)
      rw [List.cons_append, startsSince, hrest, he, List.any_cons]
      cases e.excuses u <;> simp

/-- Past the gate of `u`, and not yet settled. -/
def Pc.inRefresh (u : String) : Pc → Bool
  | .refreshWait d _ => d.uri = u
  | .refreshCheck d _ => d.uri = u
  | .refreshFetch d _ => d.uri = u
  | .refreshWrite d _ _ => d.uri = u
  | .settle d _ _ => d.uri = u
  | _ => false

/-- Past the gate of `u` without a start of its own on record: it has not sent its
request, or it is about to take the stamp away. -/
def Pc.unsent (u : String) : Pc → Bool
  | .refreshWait d _ => d.uri = u
  | .refreshCheck d _ => d.uri = u
  | .settle d false _ => d.uri = u
  | _ => false

/-- Neither at the check of a gate nor past one; a call comes to its gate with keys
in hand. -/
def Pc.outside : Pc → Bool
  | .gate _ why => why.hasCachedKeys
  | .gateCheck .. => false
  | .refreshWait .. => false
  | .refreshCheck .. => false
  | .refreshFetch .. => false
  | .refreshWrite .. => false
  | .settle .. => false
  | _ => true

theorem Pc.inRefresh_of_unsent {u : String} {pc : Pc} (h : pc.unsent u = true) :
    pc.inRefresh u = true := by
  cases pc with
  | settle d stamp next => cases stamp <;> first | exact h | cases h
  | refreshWait d why => exact h
  | refreshCheck d why => exact h
  | _ => cases h

theorem Pc.inRefresh_of_outside {pc : Pc} (h : pc.outside = true) (u : String) :
    pc.inRefresh u = false := by
  cases pc <;> first | rfl | cases h

theorem Pc.unsent_of_outside {pc : Pc} (h : pc.outside = true) (u : String) :
    pc.unsent u = false := by
  cases pc <;> first | rfl | cases h

section Pure

variable (rt : Runtime) (req : Request) (d : Disco)

theorem Tried.outside {d : Disco} {pc : Pc} (h : Tried d pc) : pc.outside = true := by
  cases h <;> rfl

theorem afterDisco_outside (response : DiscoveryDocumentResponse) :
    (afterDisco rt response).outside = true := by
  obtain ⟨result, h⟩ | ⟨d, h⟩ := afterDisco_landing rt response <;> rw [h] <;> rfl

theorem keyList_of_valid {response : JwksResponse} (h : validateJwksResponse response = none) :
    response.keyList ≠ [] := by
  intro hk
  simp only [validateJwksResponse, hk, if_true] at h
  split at h <;> cases h

theorem afterJwks_outside (response : JwksResponse) :
    (afterJwks rt req d response).outside = true := by
  unfold afterJwks
  split
  · rfl
  · rename_i hvalid
    split
    · rfl
    · split
      · exact (attempt_tried rt req d _ _).outside
      · split
        · exact (attempt_tried rt req d _ _).outside
        · exact decide_eq_true (keyList_of_valid hvalid)

/-- A refresh whose answer excuses nothing and whose retry fails is stamped. -/
theorem afterRefresh_stamps {why : Why} {response : JwksResponse}
    (hex : why.purpose.excused response = false)
    (hretry : retryEvents rt req d why response = []) :
    ∃ next, afterRefresh rt req d why response false = .settle d true next ∧
      next.outside = true := by
  cases why with
  | kidMiss kid header cached =>
      simp only [Why.purpose, Purpose.excused, Bool.or_eq_false_iff, Bool.not_eq_false',
        decide_eq_false_iff_not] at hex
      have hvalid : validateJwksResponse response = none := by
        simp [validateJwksResponse, hex.1.1, hex.1.2]
      refine ⟨attempt rt req d header response.keyList, ?_, (attempt_tried rt req d _ _).outside⟩
      simp [afterRefresh, hvalid, hex.2]
  | retry =>
      simp only [Why.purpose, Purpose.excused, Bool.or_eq_false_iff, Bool.not_eq_false',
        decide_eq_false_iff_not] at hex
      have hvalid : validateJwksResponse response = none := by
        simp [validateJwksResponse, hex.1, hex.2]
      have hfail : (retryDecode rt req d response.keyList).isOk = false := by
        by_contra hok
        simp [retryEvents, hvalid, hok] at hretry
      refine ⟨finish rt req (retryDecode rt req d response.keyList), ?_, (finish_tried rt req d _).outside⟩
      simp [afterRefresh, hvalid, hfail]

end Pure

/-- The events of a cache write. -/
def writeEvents (uri : String) (purpose : Purpose) (response : JwksResponse)
    (evicted : List String) : List LogEvent :=
  evicted.map LogEvent.evicted ++ [.keys uri purpose response]

section WriteEvents

variable (rt : Runtime) (w : Shared) (u uri : String) (purpose : Purpose) (response : JwksResponse)

theorem writeEvents_startOf (evicted : List String) :
    ∀ e ∈ writeEvents uri purpose response evicted, e.startOf u = none := by
  intro e he
  obtain he | he := List.mem_append.mp he
  · obtain ⟨k, -, rfl⟩ := List.mem_map.mp he
    rfl
  · rw [List.mem_singleton.mp he]
    rfl

theorem writeEvents_excuses (evicted : List String) :
    (writeEvents uri purpose response evicted).any (LogEvent.excuses u) = true ↔
      u ∈ evicted ∨ (uri = u ∧ purpose.excused response = true) := by
  simp [writeEvents, LogEvent.excuses]

theorem writeJwks_log : (writeJwks rt w uri purpose response).log =
    writeEvents uri purpose response
      (applyJwksCacheOutcome rt.env w.jwks w.lastAttempt uri response w.now).2.2 ++ w.log := by
  simp [writeJwks, writeEvents]

/-- What a cache write does for `u`: it begins its record anew, or it leaves the
record and the stamp alone. -/
theorem writeJwks_looks :
    startsSince u (writeJwks rt w uri purpose response).log = [] ∨
      (startsSince u (writeJwks rt w uri purpose response).log = startsSince u w.log ∧
        (writeJwks rt w uri purpose response).lastAttempt.lookup u = w.lastAttempt.lookup u ∧
        (uri = u → purpose.excused response = false)) := by
  have hany := writeEvents_excuses u uri purpose response
    (applyJwksCacheOutcome rt.env w.jwks w.lastAttempt uri response w.now).2.2
  rw [writeJwks_log, startsSince_append (writeEvents_startOf u uri purpose response _)]
  by_cases hreset : u ∈ (applyJwksCacheOutcome rt.env w.jwks w.lastAttempt uri response w.now).2.2 ∨
      (uri = u ∧ purpose.excused response = true)
  · exact .inl (if_pos (hany.mpr hreset))
  · refine .inr ⟨if_neg fun h => hreset (hany.mp h), ?_, fun huri => ?_⟩
    · show (applyJwksCacheOutcome rt.env w.jwks w.lastAttempt uri response w.now).2.1.lookup u = _
      obtain hs | hr := response.stored_or_retained
      · rw [applyJwksCacheOutcome_store _ _ _ _ hs.1 hs.2] at hreset ⊢
        exact Dict.lookup_eraseAll_of_not_mem fun hmem => hreset (.inl hmem)
      · rw [applyJwksCacheOutcome_retain _ _ _ _ hr]
    · by_contra hex
      exact hreset (.inr ⟨huri, by simpa using hex⟩)

end WriteEvents

/-- The looks of one operation: `Cooldown.Observer.Sees`, before other calls are
counted. -/
inductive Look (rt : Runtime) (u : String) (w w' : Shared) (pc pc' : Pc) : Prop
  | quiet (times : startsSince u w'.log = startsSince u w.log)
      (stamp : w'.lastAttempt.lookup u = w.lastAttempt.lookup u)
      (unsent : pc'.unsent u = true → pc.unsent u = true)
      (inside : pc.inRefresh u = true → pc'.inRefresh u = true ∨ pc.unsent u = true)
  | passed (d : Disco) (why : Why) (now : ℚ) (uri : d.uri = u) (at_ : pc = .gateCheck d why now)
      (attempts : shouldAttemptKidMissRefresh rt.env w.lastAttempt u why.hasCachedKeys now = true)
      (shared : w' = w)
  | sent (times : startsSince u w'.log = w'.now :: startsSince u w.log)
      (before : pc.unsent u = true) (unsent : pc'.unsent u = false)
      (inside : pc'.inRefresh u = true)
  | marked (times : startsSince u w'.log = startsSince u w.log)
      (stamp : w'.lastAttempt.lookup u = some w'.now) (unsent : pc'.unsent u = false)
  | dropped (times : startsSince u w'.log = startsSince u w.log) (before : pc.unsent u = true)
      (unsent : pc'.unsent u = false)
  | reset (times : startsSince u w'.log = [])

/-- What a validation remembers at its gate and its settlement. -/
def Pc.Sane (now : ℚ) : Pc → Prop
  | .settle _ _ next => next.outside = true
  | .gate _ why => why.hasCachedKeys = true
  | .gateCheck _ why captured => captured ≤ now ∧ why.hasCachedKeys = true
  | _ => True

theorem Pc.Sane.mono {now now' : ℚ} {pc : Pc} (h : pc.Sane now) (hnow : now ≤ now') :
    pc.Sane now' := by
  cases pc with
  | gateCheck d why captured => exact ⟨le_trans h.1 hnow, h.2⟩
  | gate d why => exact h
  | settle d stamp next => exact h
  | _ => trivial

theorem Pc.sane_of_outside {pc : Pc} (h : pc.outside = true) (now : ℚ) : pc.Sane now := by
  cases pc <;> trivial

section Look

variable {rt : Runtime} {u : String} {w w' : Shared} {req : Request} {pc pc' : Pc} {act : Act}

theorem afterRefresh_sane (rt : Runtime) (req : Request) (d : Disco) (why : Why)
    (response : JwksResponse) (retained : Bool) (now : ℚ) :
    (afterRefresh rt req d why response retained).Sane now := by
  obtain htried | ⟨stamp, next, heq, htried⟩ := afterRefresh_tried rt req d why response retained
  · exact Pc.sane_of_outside htried.outside now
  · rw [heq]
    exact htried.outside

theorem afterRefresh_elsewhere (rt : Runtime) (req : Request) {d : Disco} (why : Why)
    (response : JwksResponse) (retained : Bool) (hd : d.uri ≠ u) :
    (afterRefresh rt req d why response retained).inRefresh u = false := by
  obtain htried | ⟨stamp, next, heq, htried⟩ := afterRefresh_tried rt req d why response retained
  · exact Pc.inRefresh_of_outside htried.outside u
  · rw [heq]
    exact decide_eq_false hd

theorem Look.elsewhere (times : startsSince u w'.log = startsSince u w.log)
    (stamp : w'.lastAttempt.lookup u = w.lastAttempt.lookup u)
    (hpc : pc.inRefresh u = false) (hpc' : pc'.inRefresh u = false) : Look rt u w w' pc pc' := by
  refine .quiet times stamp (fun h => ?_) fun h => ?_
  · have := Pc.inRefresh_of_unsent h
    rw [hpc'] at this
    cases this
  · rw [hpc] at h
    cases h

theorem Why.keyList_of_not_excused {why : Why} {response : JwksResponse}
    (h : why.purpose.excused response = false) : response.keyList ≠ [] := by
  cases why with
  | kidMiss kid header cached =>
      simp only [Why.purpose, Purpose.excused, Bool.or_eq_false_iff, decide_eq_false_iff_not] at h
      exact h.1.2
  | retry =>
      simp only [Why.purpose, Purpose.excused, Bool.or_eq_false_iff, decide_eq_false_iff_not] at h
      exact h.2

theorem surfaced_of_keys {response : JwksResponse} (uri : String) (h : response.keyList ≠ []) :
    surfaced w uri response = (response, false) := by
  simp [surfaced, h]

/-- A retry that succeeds is the only event besides those of the cache write. -/
theorem retryEvents_cases (rt : Runtime) (req : Request) (d : Disco) (why : Why)
    (response : JwksResponse) :
    retryEvents rt req d why response = [] ∨
      retryEvents rt req d why response = [.retryDecoded d.uri] := by
  cases why with
  | kidMiss kid header cached => exact .inl rfl
  | retry =>
      simp only [retryEvents]
      split
      · exact .inr rfl
      · exact .inl rfl

/-- The answer of a forced refresh: it excuses a further one, or it is stamped. -/
theorem refreshWrite_look (d : Disco) (why : Why) (response : JwksResponse) :
    Look rt u w (refreshWriteStep rt w req d why response).1 (.refreshWrite d why response)
      (refreshWriteStep rt w req d why response).2 := by
  obtain ⟨events, hevents⟩ : ∃ events, retryEvents rt req d why
      (surfaced (writeJwks rt w d.uri why.purpose response) d.uri response).1 = events := ⟨_, rfl⟩
  have hcases := retryEvents_cases rt req d why
    (surfaced (writeJwks rt w d.uri why.purpose response) d.uri response).1
  rw [hevents] at hcases
  have hlog : startsSince u (refreshWriteStep rt w req d why response).1.log =
      if events.any (LogEvent.excuses u) then []
      else startsSince u (writeJwks rt w d.uri why.purpose response).log := by
    rw [← startsSince_append, ← hevents]
    · rfl
    · obtain rfl | rfl := hcases <;> simp [LogEvent.startOf]
  by_cases hany : events.any (LogEvent.excuses u) = true
  · exact .reset (by rw [hlog, if_pos hany])
  rw [if_neg hany] at hlog
  obtain hreset | ⟨htimes, hstamp, hex⟩ := writeJwks_looks rt w u d.uri why.purpose response
  · exact .reset (hlog.trans hreset)
  by_cases hd : d.uri = u
  · have hempty : events = [] := by
      obtain h | h := hcases
      · exact h
      · simp [h, LogEvent.excuses, hd] at hany
    have hsurf := surfaced_of_keys (w := writeJwks rt w d.uri why.purpose response) d.uri
      (Why.keyList_of_not_excused (hex hd))
    rw [hsurf, hempty] at hevents
    obtain ⟨next, hnext, -⟩ := afterRefresh_stamps rt req d (hex hd) hevents
    have hpc : (refreshWriteStep rt w req d why response).2 = .settle d true next := by
      rw [← hnext]
      simp only [refreshWriteStep, hsurf]
    rw [hpc]
    exact .quiet (hlog.trans htimes) hstamp (fun h => by cases h)
      fun _ => .inl (decide_eq_true hd)
  · exact .elsewhere (hlog.trans htimes) hstamp (decide_eq_false hd)
      (afterRefresh_elsewhere rt req why _ _ hd)

/-- A refresh that ends in an exception excuses a further one. -/
theorem excused_unhandled (why : Why) (e : PyError) :
    why.purpose.excused (unhandledJwks e) = true := by
  cases why <;> rfl

/-- One operation, as the gate of `u` sees it. -/
theorem Advance.look (h : Advance rt w req pc act w' pc') (hpc : pc.Sane w.now) (u : String) :
    Look rt u w w' pc pc' := by
  cases h with
  | discoTouch response locked held =>
      exact .elsewhere rfl rfl rfl (Pc.inRefresh_of_outside (afterDisco_outside rt _) u)
  | discoWrite response held =>
      exact .elsewhere rfl rfl rfl (Pc.inRefresh_of_outside (afterDisco_outside rt _) u)
  | jwksTouch d response locked held =>
      exact .elsewhere rfl rfl rfl (Pc.inRefresh_of_outside (afterJwks_outside rt req d _) u)
  | jwksWrite d response held =>
      obtain hreset | ⟨htimes, hstamp, -⟩ := writeJwks_looks rt w u d.uri .fetch response
      · exact .reset hreset
      · exact .elsewhere htimes hstamp rfl (Pc.inRefresh_of_outside (afterJwks_outside rt req d _) u)
  | gatePassed d why now hattempt =>
      by_cases hd : d.uri = u
      · exact .passed d why now hd rfl (hd ▸ hattempt) rfl
      · exact .elsewhere rfl rfl rfl (decide_eq_false hd)
  | gateBlocked d why now =>
      exact .elsewhere rfl rfl rfl (Pc.inRefresh_of_outside (afterBlocked_tried rt req d why).outside u)
  | refreshLock d why => exact .quiet rfl rfl id fun h => .inl h
  | coalesced d why entry held hentry =>
      by_cases hd : d.uri = u
      · have hunsent : (Pc.refreshCheck d why).unsent u = true := decide_eq_true hd
        exact .quiet rfl rfl (fun _ => hunsent) fun _ => .inr hunsent
      · exact .elsewhere rfl rfl (decide_eq_false hd) (afterRefresh_elsewhere rt req why _ _ hd)
  | refreshSend d why =>
      by_cases hd : d.uri = u
      · refine .sent ?_ (decide_eq_true hd) rfl (decide_eq_true hd)
        simp [startsSince, LogEvent.excuses, LogEvent.startOf, hd]
      · refine .elsewhere ?_ rfl (decide_eq_false hd) (decide_eq_false hd)
        simp [startsSince, LogEvent.excuses, LogEvent.startOf, hd]
  | refreshAnswer d why response => exact .quiet rfl rfl (fun h => by cases h) fun h => .inl h
  | refreshRaised d why response e held =>
      by_cases hd : d.uri = u
      · refine .reset ?_
        simp [startsSince, LogEvent.excuses, hd, excused_unhandled]
      · refine .elsewhere ?_ rfl (decide_eq_false hd) rfl
        simp [startsSince, LogEvent.excuses, LogEvent.startOf, hd]
  | refreshWrite d why response => exact refreshWrite_look d why response
  | settle d stamp next =>
      have hout : pc'.outside = true := hpc
      by_cases hd : d.uri = u
      · cases stamp with
        | true =>
            refine .marked rfl ?_ (Pc.unsent_of_outside hout u)
            simp [hd]
        | false => exact .dropped rfl (decide_eq_true hd) (Pc.unsent_of_outside hout u)
      · refine .elsewhere rfl ?_ (decide_eq_false hd) (Pc.inRefresh_of_outside hout u)
        cases stamp with
        | true => exact AList.lookup_insert_ne (Ne.symm hd)
        | false => exact AList.lookup_erase_ne (Ne.symm hd)
  | _ => exact .elsewhere rfl rfl rfl rfl

/-- An operation that enters a refresh of `u` passes its gate. -/
theorem Advance.enters (h : Advance rt w req pc act w' pc') (hpc : pc.Sane w.now)
    (hin : pc'.inRefresh u = true) :
    pc.inRefresh u = true ∨ ∃ d why now, pc = .gateCheck d why now ∧ d.uri = u ∧
      shouldAttemptKidMissRefresh rt.env w.lastAttempt d.uri why.hasCachedKeys now = true := by
  have hout : ∀ {pc : Pc}, pc.outside = true → pc.inRefresh u = true → False := by
    intro pc h h'
    rw [Pc.inRefresh_of_outside h] at h'
    cases h'
  cases h with
  | discoTouch response locked held => exact (hout (afterDisco_outside rt _) hin).elim
  | discoWrite response held => exact (hout (afterDisco_outside rt _) hin).elim
  | jwksTouch d response locked held => exact (hout (afterJwks_outside rt req d _) hin).elim
  | jwksWrite d response held => exact (hout (afterJwks_outside rt req d _) hin).elim
  | gatePassed d why now hattempt =>
      exact .inr ⟨d, why, now, rfl, of_decide_eq_true hin, hattempt⟩
  | gateBlocked d why now => exact (hout (afterBlocked_tried rt req d why).outside hin).elim
  | refreshLock d why => exact .inl hin
  | coalesced d why entry held hentry =>
      by_cases hd : d.uri = u
      · exact .inl (decide_eq_true hd)
      · rw [afterRefresh_elsewhere rt req why _ _ hd] at hin
        cases hin
  | refreshSend d why => exact .inl hin
  | refreshAnswer d why response => exact .inl hin
  | refreshWrite d why response =>
      by_cases hd : d.uri = u
      · exact .inl (decide_eq_true hd)
      · have helse := afterRefresh_elsewhere rt req why
          (surfaced (writeJwks rt w d.uri why.purpose response) d.uri response).1
          (surfaced (writeJwks rt w d.uri why.purpose response) d.uri response).2 hd
        rw [show (refreshWriteStep rt w req d why response).2.inRefresh u = false from helse] at hin
        cases hin
  | settle d stamp next => exact (hout hpc hin).elim
  | _ => cases hin

theorem Advance.sane (h : Advance rt w req pc act w' pc') (hpc : pc.Sane w.now) :
    pc'.Sane w'.now := by
  cases h with
  | discoTouch response locked held => exact Pc.sane_of_outside (afterDisco_outside rt _) _
  | discoWrite response held => exact Pc.sane_of_outside (afterDisco_outside rt _) _
  | jwksTouch d response locked held => exact Pc.sane_of_outside (afterJwks_outside rt req d _) _
  | jwksWrite d response held => exact Pc.sane_of_outside (afterJwks_outside rt req d _) _
  | gate d why => exact ⟨le_refl w.now, hpc⟩
  | gateBlocked d why now => exact Pc.sane_of_outside (afterBlocked_tried rt req d why).outside _
  | coalesced d why entry held hentry => exact afterRefresh_sane rt req d why _ _ _
  | refreshWrite d why response => exact afterRefresh_sane rt req d why _ _ _
  | settle d stamp next => exact Pc.sane_of_outside hpc _
  | _ => trivial

theorem Advance.now (h : Advance rt w req pc act w' pc') : w'.now = w.now := by
  cases h <;> rfl

end Look

end IdentityModel.Py
