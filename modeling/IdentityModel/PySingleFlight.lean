import IdentityModel.PyKnownGood
import IdentityModel.PyLocks

/-!
# One request per miss

Threads that miss the JWKS cache share one fetch lock per stripe, and look again
once they hold it. A fetch is therefore sent only after the answer to every earlier
request for its URI has reached the cache; if that answer was stored, its entry has
been evicted or cleared since, or the entry last stored has reached its lifetime.
-/
namespace IdentityModel.Py

open Runs Tasks Ledger

/-- Why a request at `t` follows another one: `mid` is what happened between the two,
newest first, and `older` what came before the first. Its answer was written; if it
was stored, the entry was evicted, the cache cleared, or the entry last stored had
expired. -/
def Excused (uri : String) (t : ℚ) (mid older : KeyTrace) : Prop :=
  ∃ w mid₁ mid₂, mid = mid₁ ++ .written w :: mid₂ ∧ w.request = older.length ∧ w.key = uri ∧
    (w.stored.isSome = true → .evicted uri ∈ mid₁ ∨ .cleared ∈ mid₁ ∨
      ∃ v entry, lastStored uri (mid₁ ++ [.written w]) = some v ∧ v.stored = some entry ∧
        entry.isExpired t = true)

/-- Every fetch is excused by each request for its URI before it. -/
def SingleFlight (trace : KeyTrace) : Prop :=
  ∀ newer mid older l₁ l₂ uri purpose t₁ t₂,
    trace = newer ++ .sent l₂ uri .fetch t₂ :: (mid ++ .sent l₁ uri purpose t₁ :: older) →
    Excused uri t₂ mid older

/-- Every request is still in flight, or its answer was written. -/
def Tracked (s : LoopState) : Prop :=
  ∀ newer older loop uri purpose at_,
    s.shared.trace = newer ++ .sent loop uri purpose at_ :: older →
    (∃ w, .written w ∈ newer ∧ w.request = older.length ∧ w.key = uri) ∨
      ∃ x ∈ s.tasks, x.loop = loop ∧ x.request = older.length ∧ x.task.flight = some uri

/-- An element of the second part of a list splits that part. -/
theorem split_of_not_mem {α : Type*} {es t newer older : List α} {e : α}
    (h : es ++ t = newer ++ e :: older) (he : e ∉ es) :
    ∃ newer', newer = es ++ newer' ∧ t = newer' ++ e :: older := by
  obtain ⟨rest, hn, ht⟩ | ⟨rest, hes, ht⟩ := List.append_eq_append_iff.mp h
  · exact ⟨rest, hn, ht⟩
  · cases rest with
    | nil => exact ⟨[], by simpa using hes.symm, by simpa using ht.symm⟩
    | cons a rest =>
        have hea : e = a := (List.cons.inj ht).1
        exact absurd (by simp [hes, hea]) he

section Step

variable {rt : Runtime} {r r' : Record} {x x' : LoopTask}

/-- A request on record after a move is the one it sent, or was there before. -/
theorem Effect.split (h : Effect rt r x r' x') {newer older : KeyTrace} {loop : ℕ} {uri : String}
    {purpose : Purpose} {at_ : ℚ} (htrace : r'.trace = newer ++ .sent loop uri purpose at_ :: older) :
    (newer = [] ∧ older = r.trace ∧ loop = x.loop ∧ x.task.phase = .idle ∧
      x'.task.phase = .out uri purpose ∧ x'.request = r.trace.length ∧
      (purpose = .fetch → freshResponse (r.shared.jwks.lookup uri) at_ = none)) ∨
    ∃ es newer', r'.trace = es ++ r.trace ∧ newer = es ++ newer' ∧
      r.trace = newer' ++ .sent loop uri purpose at_ :: older := by
  have hold (es : KeyTrace) (hes : r'.trace = es ++ r.trace)
      (hnot : .sent loop uri purpose at_ ∉ es) :
      ∃ es newer', r'.trace = es ++ r.trace ∧ newer = es ++ newer' ∧
        r.trace = newer' ++ .sent loop uri purpose at_ :: older := by
    obtain ⟨newer', hn, ht⟩ := split_of_not_mem (hes.symm.trans htrace) hnot
    exact ⟨es, newer', hes, hn, ht⟩
  cases h with
  | quiet before after trace => exact .inr (hold [] trace (by simp))
  | sent uri' purpose' before after request trace cache missed =>
      cases newer with
      | nil =>
          rw [trace] at htrace
          cases htrace
          exact .inl ⟨rfl, rfl, rfl, before, after, request, missed⟩
      | cons e newer =>
          right
          have hcons : e = .sent x.loop uri' purpose' r'.shared.now ∧
              r.trace = newer ++ .sent loop uri purpose at_ :: older := by
            rw [trace] at htrace
            obtain ⟨he, ht⟩ := List.cons.inj htrace
            exact ⟨he.symm, ht⟩
          exact ⟨[_], newer, trace, by rw [hcons.1]; rfl, hcons.2⟩
  | answered uri' purpose' response before after request trace => exact .inr (hold [] trace (by simp))
  | raised uri' purpose' before after aio trace => exact .inr (hold [] trace (by simp))
  | wrote uri' response evicted before after trace =>
      refine .inr (hold (evicted.map .evicted ++ [.written ⟨x.request, x.loop, uri',
        storedEntry rt.env response r'.shared.now⟩]) (by rw [trace]; simp) (by simp))
  | cleared before after call trace => exact .inr (hold [.cleared] trace (by simp))

/-- An earlier request whose answer was written excuses a fetch that missed. -/
theorem Record.Kept.excused (hr : r.Kept) {mid older : KeyTrace} {loop : ℕ} {uri : String}
    {purpose : Purpose} {t t₁ : ℚ} {w : KeyWrite}
    (htrace : r.trace = mid ++ .sent loop uri purpose t₁ :: older)
    (hmiss : freshResponse (r.shared.jwks.lookup uri) t = none) (hw : .written w ∈ mid)
    (hreq : w.request = older.length) (hkey : w.key = uri) : Excused uri t mid older := by
  obtain ⟨mid₁, mid₂, rfl⟩ := List.append_of_mem hw
  refine ⟨w, mid₁, mid₂, rfl, hreq, hkey, fun hstored => ?_⟩
  have hsplit : r.trace = mid₁ ++ .written w :: (mid₂ ++ .sent loop uri purpose t₁ :: older) := by
    rw [htrace]
    simp
  obtain ⟨v, hcur, hlast⟩ | hevicted | hcleared :=
    current_of_written mid₁ (mid₂ ++ .sent loop uri purpose t₁ :: older) hkey hstored
  · rw [← hsplit] at hcur
    obtain ⟨entry, hentry⟩ := Option.isSome_iff_exists.mp (current_stored hcur)
    have hlookup : r.shared.jwks.lookup uri = some entry := by
      rw [hr.mirror, hcur]
      exact hentry
    have hexpired : entry.isExpired t = true := by
      by_contra hfresh
      simp [hlookup, freshResponse, hfresh] at hmiss
    exact .inr (.inr ⟨v, entry, hlast, hentry, hexpired⟩)
  · exact .inl hevicted
  · exact .inr (.inl hcleared)

end Step

structure Flights (rt : Runtime) (s : LoopState) : Prop where
  accounted : Accounted rt s
  tracked : Tracked s
  single : SingleFlight s.shared.trace

section Move

variable {rt : Runtime} {s : LoopState} {t : ℕ} {x x' : LoopTask} {r : Record}
  (hsync : rt.flavour = .sync) (hx : s.tasks[t]? = some x) (heff : Effect rt s.shared x r x')
include hsync hx heff

theorem tracked_move (hloop : x'.loop = x.loop) (h : Tracked s) :
    Tracked ⟨r, s.tasks.set t x'⟩ := by
  intro newer older loop uri purpose at_ htrace
  obtain ⟨rfl, rfl, rfl, -, hphase, hreq, -⟩ | ⟨es, newer', hes, rfl, hold⟩ := heff.split htrace
  · exact .inr ⟨x', mem_set_self hx, hloop, hreq, Task.flight_of_phase hphase⟩
  · obtain ⟨w, hw, hreq, hkey⟩ | ⟨y, hy, hyloop, hyreq, hyflight⟩ :=
      h newer' older loop uri purpose at_ hold
    · exact .inl ⟨w, List.mem_append_right _ hw, hreq, hkey⟩
    · obtain ⟨j, hj⟩ := List.mem_iff_getElem?.mp hy
      by_cases hjt : j = t
      · subst hjt
        obtain rfl : x = y := Option.some.inj (hx.symm.trans hj)
        cases heff with
        | quiet before after trace =>
            rw [Task.flight_of_phase before] at hyflight
            cases hyflight
        | sent uri' purpose' before after request trace =>
            rw [Task.flight_of_phase before] at hyflight
            cases hyflight
        | answered uri' purpose' response before after request trace =>
            rw [Task.flight_of_phase before] at hyflight
            cases hyflight
            exact .inr ⟨x', mem_set_self hx, hloop.trans hyloop, request.trans hyreq,
              Task.flight_of_phase after⟩
        | raised uri' purpose' before after aio trace =>
            rw [hsync] at aio
            cases aio
        | wrote uri' response evicted before after trace =>
            rw [Task.flight_of_phase before] at hyflight
            cases hyflight
            refine .inl ⟨⟨x.request, x.loop, uri, storedEntry rt.env response r.shared.now⟩, ?_, hyreq,
              rfl⟩
            have happ : es ++ s.shared.trace = (evicted.map .evicted ++ [.written ⟨x.request,
                x.loop, uri, storedEntry rt.env response r.shared.now⟩]) ++ s.shared.trace := by
              rw [← hes, trace]
              simp
            simp [List.append_cancel_right happ]
        | cleared before after call trace =>
            rw [Task.flight_of_phase before] at hyflight
            cases hyflight
      · refine .inr ⟨y, ?_, hyloop, hyreq, hyflight⟩
        have hset : (s.tasks.set t x')[j]? = some y := by
          rwa [List.getElem?_set_ne (Ne.symm hjt)]
        exact List.mem_of_getElem? hset

theorem single_move (h : Flights rt s) (hacc : Accounted rt ⟨r, s.tasks.set t x'⟩) :
    SingleFlight r.trace := by
  intro newer mid older l₁ l₂ uri purpose t₁ t₂ htrace
  obtain ⟨rfl, hold, rfl, hidle, hphase, hreq, hmiss⟩ | ⟨es, newer', hes, rfl, hold⟩ := heff.split htrace
  · obtain ⟨w, hw, hwreq, hkey⟩ | ⟨y, hy, hyloop, hyreq, hyflight⟩ :=
      h.tracked mid older l₁ uri purpose t₁ hold.symm
    · exact h.accounted.shared.excused hold.symm (hmiss rfl) hw hwreq hkey
    · obtain ⟨j, hj⟩ := List.mem_iff_getElem?.mp hy
      have hjt : j ≠ t := by
        rintro rfl
        obtain rfl : x = y := Option.some.inj (hx.symm.trans hj)
        rw [Task.flight_of_phase hidle] at hyflight
        cases hyflight
      have hx' : (s.tasks.set t x')[t]? = some x' :=
        List.getElem?_set_self (List.getElem?_eq_some_iff.mp hx).1
      have hy' : (s.tasks.set t x')[j]? = some y := by
        rwa [List.getElem?_set_ne (Ne.symm hjt)]
      have hapart := hacc.pair t j x' y (Ne.symm hjt) hx' hy'
      have hloops : x'.loop = y.loop := by
        rw [(hacc.each t x' hx').kept.threads hsync, (hacc.each j y hy').kept.threads hsync]
      exact absurd hyflight (hapart.flights hloops (Task.flight_of_phase hphase))
  · exact h.single newer' mid older l₁ l₂ uri purpose t₁ t₂ hold

end Move

theorem flights_step {rt : Runtime} (hsync : rt.flavour = .sync) (s : LoopState) (l : LoopLabel)
    (s' : LoopState) (h : Flights rt s) (hstep : (loops rt).step s l = some s') : Flights rt s' := by
  have hacc := accounted_step rt s l s' h.accounted hstep
  cases l with
  | spawn b =>
      obtain ⟨w, x, hspawn, rfl⟩ := Machine.step_spawn hstep
      obtain ⟨rfl, rfl⟩ := loops_spawn hspawn
      refine ⟨hacc, fun newer older loop uri purpose at_ htrace => ?_, h.single⟩
      obtain hw | ⟨x, hx, hrest⟩ := h.tracked newer older loop uri purpose at_ htrace
      · exact .inl hw
      · exact .inr ⟨x, List.mem_append_left _ hx, hrest⟩
  | move t e =>
      obtain ⟨x, w, x', hx, hm, rfl⟩ := Machine.step_move (loops_fork rt) hstep
      obtain ⟨heff, -, hloop, -⟩ := loops_effect hm (h.accounted.each t x hx).kept.tidy
      exact ⟨hacc, tracked_move hsync hx heff hloop h.tracked, single_move hsync hx heff h hacc⟩

theorem flights_run {rt : Runtime} (hsync : rt.flavour = .sync) {ls : List LoopLabel}
    {s : LoopState} (hrun : runLoops rt initialLoops ls = some s) : Flights rt s := by
  refine exec_preserves (flights_step hsync) ⟨accounted_initial rt, ?_, ?_⟩ hrun
  · intro newer older loop uri purpose at_ htrace
    have hnil : newer ++ .sent loop uri purpose at_ :: older = ([] : KeyTrace) := htrace.symm
    simp at hnil
  · intro newer mid older l₁ l₂ uri purpose t₁ t₂ htrace
    have hnil : newer ++ .sent l₂ uri .fetch t₂ :: (mid ++ .sent l₁ uri purpose t₁ :: older) =
        ([] : KeyTrace) := htrace.symm
    simp at hnil

/-- A request of `_get_cached_jwks` for a URI. -/
def isFetch (uri : String) : Ledger.Event String (CacheEntry JwksResponse) Purpose ℚ → Bool
  | .sent _ key .fetch _ => key = uri
  | _ => false

/-- Nothing took the keys of a URI out of the cache, and no entry stored for it has
reached its lifetime. -/
structure Undisturbed (uri : String) (r : Record) : Prop where
  kept : .evicted uri ∉ r.trace
  uncleared : .cleared ∉ r.trace
  fresh : ∀ w entry, .written w ∈ r.trace → w.key = uri → w.stored = some entry →
    entry.isExpired r.shared.now = false

/-- The first fetch of a URI, answered by keys. -/
structure FirstFetch (uri : String) (trace newer older : KeyTrace) : Prop where
  split : ∃ loop at_, trace = newer ++ .sent loop uri .fetch at_ :: older
  first : older.countP (isFetch uri) = 0
  answered : ∃ w, .written w ∈ trace ∧ w.request = older.length ∧ w.stored.isSome = true

theorem not_excused {uri : String} {r : Record} {newer mid older : KeyTrace} {l₁ l₂ : ℕ} {t₁ t₂ : ℚ}
    {w : KeyWrite} (hr : r.Kept) (h : Undisturbed uri r)
    (htrace : r.trace = newer ++ .sent l₂ uri .fetch t₂ :: (mid ++ .sent l₁ uri .fetch t₁ :: older))
    (hw : .written w ∈ r.trace) (hreq : w.request = older.length) (hstored : w.stored.isSome = true) :
    ¬ Excused uri t₂ mid older := by
  rintro ⟨v, mid₁, mid₂, rfl, hvreq, hvkey, hwhy⟩
  have hin (e : Ledger.Event String (CacheEntry JwksResponse) Purpose ℚ)
      (he : e ∈ mid₁ ++ [.written v]) : e ∈ r.trace := by
    rw [htrace]
    simp only [List.mem_append, List.mem_cons, List.not_mem_nil, or_false] at he ⊢
    tauto
  have hvw : v = w :=
    hr.unique v w (hin _ (by simp)) hw (hvreq.trans hreq.symm)
  obtain hevicted | hcleared | ⟨u, entry, hlast, hentry, hexpired⟩ := hwhy (hvw ▸ hstored)
  · exact h.kept (hin _ (by simp [hevicted]))
  · exact h.uncleared (hin _ (by simp [hcleared]))
  · obtain ⟨hu, hkey⟩ := lastStored_mem hlast
    have hlate : t₂ ≤ r.shared.now := hr.times l₂ uri .fetch t₂ (by simp [htrace])
    have hfresh := h.fresh u entry (hin _ hu) hkey hentry
    rw [CacheEntry.isExpired_mono hexpired hlate] at hfresh
    cases hfresh

theorem isFetch_eq {uri : String} {e : Ledger.Event String (CacheEntry JwksResponse) Purpose ℚ}
    (h : isFetch uri e = true) : ∃ loop at_, e = .sent loop uri .fetch at_ := by
  unfold isFetch at h
  split at h
  · rename_i loop key at_
    have hkey : key = uri := by simpa using h
    exact ⟨loop, at_, by rw [hkey]⟩
  · cases h

/-- Threads that miss the JWKS cache share a request: a fetch follows another request
for its URI only when the answer to that one was written, and then only if the
entry was evicted, cleared or had expired. After a cold start whose request is
answered by keys there is one fetch, until one of these happens. -/
theorem misses_share_a_request {rt : Runtime} (hsync : rt.flavour = .sync) {ls : List LoopLabel}
    {s : LoopState} (hrun : runLoops rt initialLoops ls = some s) :
    SingleFlight s.shared.trace ∧ ∀ uri newer older, FirstFetch uri s.shared.trace newer older →
      Undisturbed uri s.shared → s.shared.trace.countP (isFetch uri) = 1 := by
  have h := flights_run hsync hrun
  refine ⟨h.single, fun uri newer older hfirst hcalm => ?_⟩
  obtain ⟨loop, at_, htrace⟩ := hfirst.split
  obtain ⟨w, hw, hreq, hstored⟩ := hfirst.answered
  have hnone : newer.countP (isFetch uri) = 0 := by
    rw [List.countP_eq_zero]
    intro e he hfetch
    obtain ⟨l₂, t₂, rfl⟩ := isFetch_eq hfetch
    obtain ⟨newer', mid, rfl⟩ := List.append_of_mem he
    have hsplit : s.shared.trace =
        newer' ++ .sent l₂ uri .fetch t₂ :: (mid ++ .sent loop uri .fetch at_ :: older) := by
      rw [htrace]
      simp
    exact not_excused h.accounted.shared hcalm hsplit hw hreq hstored
      (h.single newer' mid older loop l₂ uri .fetch at_ t₂ hsplit)
  rw [htrace, List.countP_append, List.countP_cons, hnone, hfirst.first]
  simp [isFetch]

/-- Two threads on empty caches: the second waits for the lock and finds the keys of
the first. -/
def stampede : List LoopLabel :=
  coldStart 0 ++ [.spawn (0, sampleCall)] ++ onLoops (runsAt 1 0 3 ++ [oneKeyAnswer 0 1 "k1"] ++
    runsAt 0 1 1 ++ runsAt 1 1 3)

theorem misses_share_a_request_stampede :
    ∃ s, runLoops (sampleRuntime .sync) initialLoops stampede = some s ∧
      s.shared.trace.countP (isFetch "https://idp/jwks") = 1 := by
  have hrun := eq_some_getD initialLoops (show (runLoops (sampleRuntime .sync) initialLoops
    stampede).isSome = true by decide +kernel)
  have htrace : ((runLoops (sampleRuntime .sync) initialLoops stampede).getD
      initialLoops).shared.trace = [.written ⟨0, 0, "https://idp/jwks", some (oneKeyEntry "k1" 1)⟩,
        .sent 0 "https://idp/jwks" .fetch 0] := by decide +kernel
  refine ⟨_, hrun, (misses_share_a_request rfl hrun).2 "https://idp/jwks" [.written ⟨0, 0,
    "https://idp/jwks", some (oneKeyEntry "k1" 1)⟩] [] ⟨⟨0, 0, htrace⟩, rfl, ?_⟩ ⟨?_, ?_, ?_⟩⟩
  · exact ⟨_, by rw [htrace]; exact List.mem_cons_self, rfl, rfl⟩
  · rw [htrace]
    decide
  · rw [htrace]
    decide
  · intro w entry hw hkey hentry
    rw [htrace] at hw
    have hw : w = ⟨0, 0, "https://idp/jwks", some (oneKeyEntry "k1" 1)⟩ := by simpa using hw
    subst hw
    obtain rfl : oneKeyEntry "k1" 1 = entry := Option.some.inj hentry
    decide +kernel

end IdentityModel.Py
