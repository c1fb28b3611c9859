import IdentityModel.PyRefreshGate

/-!
# The cooldown of forced refreshes

In every run in which a call passes the gate of a URI only while no other call is
between its own gate and its stamp, the forced refreshes of that URI are a
cooldown apart, up to the events that excuse one. Calls made one after another
always run so; threads do not.
-/
namespace IdentityModel.Py

open Runs Tasks Throttle Cooldown

def Task.inRefresh (u : String) : Task → Bool
  | .token _ pc => pc.inRefresh u
  | _ => false

def Task.unsent (u : String) : Task → Bool
  | .token _ pc => pc.unsent u
  | _ => false

def Task.Sane (now : ℚ) : Task → Prop
  | .token _ pc => pc.Sane now
  | _ => True

theorem Task.inRefresh_of_unsent {u : String} {x : Task} (h : x.unsent u = true) :
    x.inRefresh u = true := by
  cases x with
  | token req pc => exact Pc.inRefresh_of_unsent h
  | _ => cases h

theorem Task.Sane.mono {now now' : ℚ} {x : Task} (h : x.Sane now) (hnow : now ≤ now') :
    x.Sane now' := by
  cases x with
  | token req pc => exact Pc.Sane.mono h hnow
  | _ => trivial

theorem startToken_outside (rt : Runtime) (jwt : String) (config : TokenValidationConfig)
    (address : Option String) : ∃ req pc, startToken rt jwt config address = .token req pc ∧
      pc.outside = true := by
  obtain ⟨pc, hstart, hpc⟩ := startToken_eq rt jwt config address
  refine ⟨_, pc, hstart, ?_⟩
  obtain rfl | ⟨result, rfl⟩ := hpc <;> rfl

theorem Call.start_inRefresh (rt : Runtime) (call : Call) (u : String) :
    (call.start rt).inRefresh u = false := by
  cases call with
  | validateToken jwt config address =>
      obtain ⟨req, pc, hstart, hout⟩ := startToken_outside rt jwt config address
      rw [show (Call.validateToken jwt config address).start rt = .token req pc from hstart]
      exact Pc.inRefresh_of_outside hout u
  | _ => rfl

theorem Call.start_sane (rt : Runtime) (call : Call) (now : ℚ) : (call.start rt).Sane now := by
  cases call with
  | validateToken jwt config address =>
      obtain ⟨req, pc, hstart, hout⟩ := startToken_outside rt jwt config address
      rw [show (Call.validateToken jwt config address).start rt = .token req pc from hstart]
      exact Pc.sane_of_outside hout now
  | _ => trivial

/-- A call passes a gate only while no other call is past the gate of that URI. -/
def gateAlone (rt : Runtime) (s : State) : Label → Bool
  | .move t _ =>
      match s.tasks[t]? with
      | some (.token _ (.gateCheck d why now)) =>
          !shouldAttemptKidMissRefresh rt.env s.shared.lastAttempt d.uri why.hasCachedKeys now ||
            s.tasks.all fun x => !x.inRefresh d.uri
      | _ => true
  | .spawn _ => true

theorem gateAlone_free {rt : Runtime} {s : State} {t : ℕ} {e : Event} {req : Request} {d : Disco}
    {why : Why} {now : ℚ} (hok : gateAlone rt s (.move t e) = true)
    (hx : s.tasks[t]? = some (.token req (.gateCheck d why now)))
    (hattempt : shouldAttemptKidMissRefresh rt.env s.shared.lastAttempt d.uri why.hasCachedKeys
      now = true) : ∀ y ∈ s.tasks, y.inRefresh d.uri = false := by
  simp only [gateAlone, hx, hattempt, Bool.not_true, Bool.false_or, List.all_eq_true] at hok
  intro y hy
  simpa using hok y hy

/-- At most one call is past the gate of each URI. -/
def Exclusive : State → Prop :=
  Holds (fun _ => True) (fun w x => x.Sane w.now)
    (fun x y => ∀ u, ¬ (x.inRefresh u = true ∧ y.inRefresh u = true))

/-- What a move does to the calls past the gate of `u`. -/
theorem Moved.enters {rt : Runtime} {w w' : Shared} {act : Act} {x x' : Task} {u : String}
    (h : Moved rt w act x w' x') (hx : x.Sane w.now) (hin : x'.inRefresh u = true) :
    x.inRefresh u = true ∨ ∃ req d why now, x = .token req (.gateCheck d why now) ∧ d.uri = u ∧
      shouldAttemptKidMissRefresh rt.env w.lastAttempt d.uri why.hasCachedKeys now = true := by
  cases h with
  | token req pc _ pc' hadv =>
      obtain hin | ⟨d, why, now, rfl, hu, hattempt⟩ := hadv.enters hx hin
      · exact .inl hin
      · exact .inr ⟨req, d, why, now, rfl, hu, hattempt⟩
  | _ => cases hin

theorem Moved.sane {rt : Runtime} {w w' : Shared} {act : Act} {x x' : Task}
    (h : Moved rt w act x w' x') (hx : x.Sane w.now) : x'.Sane w'.now ∧ w'.now = w.now := by
  cases h with
  | token req pc _ pc' hadv => exact ⟨hadv.sane hx, hadv.now⟩
  | _ => exact ⟨trivial, rfl⟩

theorem exclusive_step (rt : Runtime) (s : State) (l : Label) (s' : State) (h : Exclusive s)
    (hok : gateAlone rt s l = true) (hstep : (validator rt).step s l = some s') :
    Exclusive s' := by
  refine Machine.holds_step (validator_fork rt) (fun s l => gateAlone rt s l = true)
    (fun x y hxy u hboth => hxy u ⟨hboth.2, hboth.1⟩) ?_ ?_ s l s' h hok hstep
  · intro s call w x h _ hspawn
    obtain ⟨rfl, rfl⟩ := validator_spawn hspawn
    refine ⟨trivial, Call.start_sane _ call _, fun j y hy => ⟨h.each j y hy, fun u hboth => ?_⟩⟩
    rw [Call.start_inRefresh] at hboth
    cases hboth.1
  · intro s t e x w x' h hok hx hmove
    obtain ⟨hle, hmoved⟩ := validator_move hmove
    have hsane : x.Sane e.now := (h.each t x hx).mono hle
    obtain ⟨hsane', hnow⟩ := hmoved.sane hsane
    refine ⟨trivial, hsane', fun j y hj hy => ⟨?_, fun u hboth => ?_⟩⟩
    · rw [hnow]
      exact (h.each j y hy).mono hle
    · obtain hin | ⟨req, d, why, now, rfl, rfl, hattempt⟩ := hmoved.enters hsane hboth.1
      · exact h.pair t j x y (Ne.symm hj) hx hy u ⟨hin, hboth.2⟩
      · have hfree := gateAlone_free hok hx hattempt y (List.mem_of_getElem? hy)
        rw [hfree] at hboth
        cases hboth.2

/-- The cooldown of `u` as the observer of a pool sees it. -/
def refreshObserver (u : String) : Observer Shared Task ℚ where
  now w := w.now
  times w := startsSince u w.log
  stamp w := w.lastAttempt.lookup u
  inside x := x.inRefresh u
  unsent x := x.unsent u

theorem Exclusive.unsentCount_le {s : State} (h : Exclusive s) (u : String) :
    (refreshObserver u).unsentCount s ≤ 1 :=
  calc
    (refreshObserver u).unsentCount s ≤ (refreshObserver u).insideCount s :=
      List.countP_mono_left fun _ _ hx => Task.inRefresh_of_unsent hx
    _ ≤ 1 := countP_le_one fun i j x y hij hx hy => h.pair i j x y hij hx hy u

/-- At least the cooldown back, as the gate measures it. -/
def Measured (env : Env) (earlier later : ℚ) : Prop :=
  hasElapsed (getKidMissCooldown env) earlier later = true

theorem isGap_measured (env : Env) : IsGap (Measured env) where
  mono := hasElapsed_mono

/-- A call passes a gate only when its stamp is far enough back. -/
def PassesOpen (far : ℚ → ℚ → Prop) (rt : Runtime) (s : State) : Label → Prop
  | .move t e => ∀ req d why now, s.tasks[t]? = some (.token req (.gateCheck d why now)) →
      shouldAttemptKidMissRefresh rt.env s.shared.lastAttempt d.uri why.hasCachedKeys now = true →
      Open far e.now (s.shared.lastAttempt.lookup d.uri)
  | .spawn _ => True

theorem elapsed_of_shouldAttempt {env : Env} {lastAttempts : Dict String ℚ} {u : String}
    {now τ : ℚ} (h : shouldAttemptKidMissRefresh env lastAttempts u true now = true)
    (hτ : lastAttempts.lookup u = some τ) : Measured env τ now := by
  simpa only [Measured, shouldAttemptKidMissRefresh, if_true, hτ] using h

section Sees

variable {rt : Runtime} {u : String} {s : State} {t : ℕ} {req : Request} {pc pc' : Pc}
  {e : Event} {w' : Shared}

/-- An operation of one call, seen from the whole pool. -/
theorem Look.sees {far : ℚ → ℚ → Prop} (h : Look rt u { s.shared with now := e.now } w' pc pc')
    (hok : gateAlone rt s (.move t e) = true) (hopen : PassesOpen far rt s (.move t e))
    (hx : s.tasks[t]? = some (.token req pc))
    (hafter : Exclusive ⟨w', s.tasks.set t (.token req pc')⟩) :
    (refreshObserver u).Sees far s ⟨w', s.tasks.set t (.token req pc')⟩ := by
  cases h with
  | quiet times stamp unsent inside =>
      refine .quiet times stamp (Observer.unsentCount_move_le _ _ hx unsent) fun hpos => ?_
      by_cases hun : pc.unsent u = true
      · exact .inr (Observer.unsentCount_pos hx hun)
      · left
        exact Observer.insideCount_move _ _ hx (fun hin => (inside hin).resolve_right hun) hpos
  | passed d why now uri at_ attempts shared =>
      subst at_ shared uri
      refine .passed rfl (hafter.unsentCount_le d.uri) ?_ ?_
      · refine List.countP_eq_zero.mpr fun y hy hin => ?_
        have hfree := gateAlone_free hok hx attempts y hy
        rw [show y.inRefresh d.uri = true from hin] at hfree
        cases hfree
      · exact hopen req d why now hx attempts
  | sent times before unsent inside =>
      exact .sent times (Observer.unsentCount_pos hx before)
        (Observer.unsentCount_move_lt _ _ hx before unsent)
        (Observer.insideCount_move_pos _ _ hx inside)
  | marked times stamp unsent =>
      refine .marked times stamp (Observer.unsentCount_move_le _ _ hx fun h => ?_)
      rw [show pc'.unsent u = true from h] at unsent
      cases unsent
  | dropped times before unsent =>
      exact .dropped times (Observer.unsentCount_pos hx before)
        (Observer.unsentCount_move_lt _ _ hx before unsent).le
  | reset times => exact .reset times (hafter.unsentCount_le u)

end Sees

/-- The forced refreshes of `u` keep the cooldown. -/
def KeepsCooldown (far : ℚ → ℚ → Prop) (u : String) (s : State) : Prop :=
  Exclusive s ∧ (refreshObserver u).Kept far s

theorem keepsCooldown_initial (far : ℚ → ℚ → Prop) (u : String) : KeepsCooldown far u initial :=
  ⟨Holds.of_idle trivial rfl, Observer.kept_of_empty rfl (Nat.zero_le 1)⟩

theorem keepsCooldown_step {far : ℚ → ℚ → Prop} (hgap : IsGap far) (rt : Runtime) (u : String)
    (s : State) (l : Label) (s' : State) (h : KeepsCooldown far u s)
    (hok : gateAlone rt s l = true) (hopen : PassesOpen far rt s l)
    (hstep : (validator rt).step s l = some s') : KeepsCooldown far u s' := by
  have hafter := exclusive_step rt s l s' h.1 hok hstep
  refine ⟨hafter, ?_⟩
  cases l with
  | spawn call =>
      obtain rfl := validator_step_spawn hstep
      have hin := Call.start_inRefresh (rt.at s.shared.now) call u
      have hun : (call.start (rt.at s.shared.now)).unsent u = false := by
        by_contra hne
        rw [Task.inRefresh_of_unsent (by simpa using hne)] at hin
        cases hin
      refine h.2.step hgap le_rfl (.quiet rfl rfl ?_ fun hpos => .inl ?_)
      · simp [Observer.unsentCount, refreshObserver, hun]
      · simpa [Observer.insideCount, refreshObserver, hin] using hpos
  | move t e =>
      obtain ⟨x, w, x', hx, hle, hmoved, rfl⟩ := validator_step_move hstep
      have hsane : x.Sane e.now := (h.1.each t x hx).mono hle
      have hnow : w.now = e.now := (hmoved.sane hsane).2
      refine h.2.step hgap (hle.trans hnow.ge) ?_
      cases hmoved with
      | token req pc _ pc' hadv => exact (hadv.look hsane u).sees hok hopen hx hafter
      | clearJwks => exact .reset rfl (hafter.unsentCount_le u)
      | clearDisco =>
          refine .quiet rfl rfl (Observer.unsentCount_move_le _ _ hx id) fun hpos => .inl ?_
          exact Observer.insideCount_move _ _ hx id hpos

/-- A gate lets pass what it has measured itself. -/
theorem Exclusive.passesOpen {rt : Runtime} {s s' : State} {l : Label} (h : Exclusive s)
    (hstep : (validator rt).step s l = some s') : PassesOpen (Measured rt.env) rt s l := by
  cases l with
  | spawn call => trivial
  | move t e =>
      intro req d why now hx hattempt τ hτ
      obtain ⟨_, _, _, _, hle, -, -⟩ := validator_step_move hstep
      obtain ⟨hnow, hkeys⟩ : (Pc.gateCheck d why now).Sane s.shared.now := h.each t _ hx
      rw [hkeys] at hattempt
      exact hasElapsed_mono (elapsed_of_shouldAttempt hattempt hτ) le_rfl (hnow.trans hle)

/-- At every start of a forced refresh of `u`, the starts since the last event that
excuses one were far enough apart. -/
def SpacedStarts (far : ℚ → ℚ → Prop) (u : String) : List LogEvent → Prop
  | [] => True
  | e :: log =>
      (e.startOf u ≠ none → Throttle.Apart far (startsSince u (e :: log))) ∧ SpacedStarts far u log

theorem SpacedStarts.append {far : ℚ → ℚ → Prop} {u : String} {log es : List LogEvent}
    (h : SpacedStarts far u log) (hes : ∀ e ∈ es, e.startOf u = none) :
    SpacedStarts far u (es ++ log) := by
  induction es with
  | nil => exact h
  | cons e es ih =>
      refine ⟨fun hne => absurd (hes e (by simp)) hne, ih fun e' he' => ?_⟩
      exact hes e' (List.mem_cons_of_mem _ he')

theorem SpacedStarts.suffix {far : ℚ → ℚ → Prop} {u : String} {later log : List LogEvent}
    (h : SpacedStarts far u (later ++ log)) : SpacedStarts far u log := by
  induction later with
  | nil => exact h
  | cons e later ih => exact ih h.2

/-- Two consecutive starts not far enough apart have an excuse between them. -/
theorem SpacedStarts.excused {far : ℚ → ℚ → Prop} {t₁ t₂ : ℚ} {u : String}
    {later between earlier : List LogEvent}
    (h : SpacedStarts far u
      (later ++ .refreshStart u t₂ :: (between ++ .refreshStart u t₁ :: earlier)))
    (hbetween : ∀ e ∈ between, e.startOf u = none) (hclose : ¬ far t₁ t₂) :
    ∃ e ∈ between, e.excuses u = true := by
  by_contra hnone
  have hany : between.any (LogEvent.excuses u) = false := by
    rw [List.any_eq_false]
    exact fun e he hex => hnone ⟨e, he, hex⟩
  have hstarts : startsSince u (.refreshStart u t₂ :: (between ++ .refreshStart u t₁ :: earlier)) =
      t₂ :: t₁ :: startsSince u earlier := by
    have hrest := startsSince_append hbetween (.refreshStart u t₁ :: earlier)
    rw [hany] at hrest
    simp [startsSince, LogEvent.excuses, LogEvent.startOf, hrest]
  have hapart : Throttle.Apart far (t₂ :: t₁ :: startsSince u earlier) := by
    rw [← hstarts]
    exact h.suffix.1 (by simp [LogEvent.startOf])
  exact hclose ((List.pairwise_cons.mp hapart).1 t₁ (by simp))

/-- What the write of a forced refresh adds to the log. -/
theorem refreshWriteStep_log (rt : Runtime) (w : Shared) (req : Request) (d : Disco) (why : Why)
    (response : JwksResponse) :
    ∃ events, (refreshWriteStep rt w req d why response).1.log =
        (events ++ writeEvents d.uri why.purpose response
          (applyJwksCacheOutcome rt.env w.jwks w.lastAttempt d.uri response w.now).2.2) ++ w.log ∧
      ∀ e ∈ events, e = .retryDecoded d.uri := by
  refine ⟨retryEvents rt req d why
    (surfaced (writeJwks rt w d.uri why.purpose response) d.uri response).1, ?_, fun e he => ?_⟩
  · rw [List.append_assoc, ← writeJwks_log rt w d.uri why.purpose response]
    rfl
  · obtain hr | hr := retryEvents_cases rt req d why
      (surfaced (writeJwks rt w d.uri why.purpose response) d.uri response).1
    · rw [hr] at he
      cases he
    · rw [hr] at he
      exact List.mem_singleton.mp he

/-- What an operation adds to the log: one start, or no start at all. -/
theorem Advance.log_cases {rt : Runtime} {w w' : Shared} {req : Request} {pc pc' : Pc} {act : Act}
    (h : Advance rt w req pc act w' pc') (u : String) :
    (∃ es, w'.log = es ++ w.log ∧ ∀ e ∈ es, e.startOf u = none) ∨
      ∃ e, w'.log = e :: w.log ∧ e.startOf u ≠ none := by
  cases h with
  | discoWrite response held => exact .inl ⟨[_], rfl, by simp [LogEvent.startOf]⟩
  | jwksWrite d response held =>
      exact .inl ⟨_, writeJwks_log rt w d.uri .fetch response,
        writeEvents_startOf u d.uri .fetch response _⟩
  | refreshSend d why =>
      by_cases hd : d.uri = u
      · exact .inr ⟨_, rfl, by simp [LogEvent.startOf, hd]⟩
      · exact .inl ⟨[_], rfl, by simp [LogEvent.startOf, hd]⟩
  | refreshRaised d why response e held => exact .inl ⟨[_], rfl, by simp [LogEvent.startOf]⟩
  | refreshWrite d why response =>
      obtain ⟨events, hlog, hevents⟩ := refreshWriteStep_log rt w req d why response
      refine .inl ⟨_, hlog, fun e he => ?_⟩
      obtain he | he := List.mem_append.mp he
      · rw [hevents e he]
        rfl
      · exact writeEvents_startOf u d.uri why.purpose response _ e he
  | _ => exact .inl ⟨[], rfl, by simp⟩

theorem Moved.log_cases {rt : Runtime} {w w' : Shared} {act : Act} {x x' : Task}
    (h : Moved rt w act x w' x') (u : String) :
    (∃ es, w'.log = es ++ w.log ∧ ∀ e ∈ es, e.startOf u = none) ∨
      ∃ e, w'.log = e :: w.log ∧ e.startOf u ≠ none := by
  cases h with
  | token req pc _ pc' hadv => exact hadv.log_cases u
  | clearJwks => exact .inl ⟨[.cleared], rfl, by simp [LogEvent.startOf]⟩
  | clearDisco => exact .inl ⟨[], rfl, by simp⟩

theorem spacedStarts_step {far : ℚ → ℚ → Prop} {rt : Runtime} {u : String} {s s' : State}
    {l : Label} (h : SpacedStarts far u s.shared.log) (hafter : KeepsCooldown far u s')
    (hstep : (validator rt).step s l = some s') : SpacedStarts far u s'.shared.log := by
  cases l with
  | spawn call =>
      obtain rfl := validator_step_spawn hstep
      exact h
  | move t e =>
      obtain ⟨x, w, x', hx, -, hmoved, rfl⟩ := validator_step_move hstep
      have hspaced : Throttle.Apart far (startsSince u w.log) := hafter.2.apart
      show SpacedStarts _ u w.log
      obtain ⟨es, hes, hnone⟩ | ⟨ev, hev, -⟩ := hmoved.log_cases u
      · rw [hes]
        exact SpacedStarts.append h hnone
      · rw [hev] at hspaced ⊢
        exact ⟨fun _ => hspaced, h⟩

/-- A call starts when all others have returned. -/
def sequential (s : State) : Label → Bool
  | .spawn _ => s.tasks.all Task.finished
  | .move .. => true

/-- Of any two calls one has returned. -/
def OneAtATime : State → Prop :=
  Holds (fun _ => True) (fun _ _ => True) (fun x y => x.finished = true ∨ y.finished = true)

theorem Moved.not_finished {rt : Runtime} {w w' : Shared} {act : Act} {x x' : Task}
    (h : Moved rt w act x w' x') : x.finished = false := by
  cases h with
  | token req pc _ pc' hadv => cases hadv <;> rfl
  | _ => rfl

theorem oneAtATime_step (rt : Runtime) (s : State) (l : Label) (s' : State) (h : OneAtATime s)
    (hok : sequential s l = true) (hstep : (validator rt).step s l = some s') :
    OneAtATime s' := by
  refine Machine.holds_step (validator_fork rt) (fun s l => sequential s l = true)
    (fun x y hxy => hxy.symm) ?_ ?_ s l s' h hok hstep
  · intro s call w x h hok hspawn
    refine ⟨trivial, trivial, fun j y hy => ⟨trivial, .inr ?_⟩⟩
    exact List.all_eq_true.mp hok y (List.mem_of_getElem? hy)
  · intro s t e x w x' h _ hx hmove
    obtain ⟨-, hmoved⟩ := validator_move hmove
    refine ⟨trivial, trivial, fun j y hj hy => ⟨trivial, .inr ?_⟩⟩
    refine (h.pair t j x y (Ne.symm hj) hx hy).resolve_left ?_
    simp [hmoved.not_finished]

theorem Task.inRefresh_of_finished {x : Task} (h : x.finished = true) (u : String) :
    x.inRefresh u = false := by
  cases x with
  | token req pc =>
      cases pc with
      | done result => rfl
      | _ => cases h
  | _ => rfl

/-- A call that is the only one at work finds nobody past its gate. -/
theorem OneAtATime.gateAlone {s : State} (h : OneAtATime s) (rt : Runtime) (l : Label) :
    gateAlone rt s l = true := by
  cases l with
  | spawn call => rfl
  | move t e =>
      simp only [Py.gateAlone]
      split
      · rename_i req d why now hx
        rw [Bool.or_eq_true]
        right
        refine List.all_eq_true.mpr fun y hy => ?_
        obtain ⟨j, hj⟩ := List.mem_iff_getElem?.mp hy
        by_cases htj : t = j
        · have hxy : Task.token req (.gateCheck d why now) = y :=
            Option.some.inj (hx.symm.trans (htj ▸ hj))
          rw [← hxy]
          rfl
        · have hfin : y.finished = true :=
            (h.pair t j _ y htj hx hj).resolve_left (by simp [Task.finished])
          rw [Task.inRefresh_of_finished hfin]
          rfl
      · rfl

theorem sequential_step (rt : Runtime) (u : String) (s : State) (l : Label) (s' : State)
    (h : OneAtATime s ∧ KeepsCooldown (Measured rt.env) u s ∧
      SpacedStarts (Measured rt.env) u s.shared.log)
    (hok : sequential s l = true) (hstep : (validator rt).step s l = some s') :
    OneAtATime s' ∧ KeepsCooldown (Measured rt.env) u s' ∧
      SpacedStarts (Measured rt.env) u s'.shared.log := by
  obtain ⟨hone, hkept, hlog⟩ := h
  have hafter := keepsCooldown_step (isGap_measured rt.env) rt u s l s' hkept (hone.gateAlone rt l)
    (hkept.1.passesOpen hstep) hstep
  exact ⟨oneAtATime_step rt s l s' hone hok hstep, hafter, spacedStarts_step hlog hafter hstep⟩

/-- Two consecutive forced refreshes of one URI whose starts are less than a
cooldown apart, as the gate measures it, have an excuse between them, in every run
of calls made one after another: the first one's answer was of no use or absorbed a
rotation, its retry succeeded, or the entry was evicted or cleared. -/
theorem sequential_refreshes_excused {rt : Runtime} {u : String} {ls : List Label} {s : State}
    {t₁ t₂ : ℚ} {later between earlier : List LogEvent}
    (hseq : Meets (validator rt).step (fun s l => sequential s l = true) initial ls)
    (hrun : run rt initial ls = some s)
    (hlog : s.shared.log =
      later ++ .refreshStart u t₂ :: (between ++ .refreshStart u t₁ :: earlier))
    (hconsecutive : ∀ e ∈ between, e.startOf u = none)
    (hclose : hasElapsed (getKidMissCooldown rt.env) t₁ t₂ = false) :
    ∃ e ∈ between, e.excuses u = true := by
  have hinit : OneAtATime initial ∧ KeepsCooldown (Measured rt.env) u initial ∧
      SpacedStarts (Measured rt.env) u initial.shared.log :=
    ⟨Holds.of_idle trivial rfl, keepsCooldown_initial _ u, trivial⟩
  obtain ⟨-, -, hspaced⟩ := exec_invariant (sequential_step rt u) hinit hseq hrun
  rw [hlog] at hspaced
  exact hspaced.excused hconsecutive (by simp [Measured, hclose])

/-- A call whose refresh starts and is stamped at `first`, and a second one that
refreshes at `second`. -/
def missTwiceRun (first second : ℚ) : List Label :=
  missStart 0 0 "k1" ++ runsAt 0 first 1 ++ [oneKeyAnswer 0 first "k1"] ++ runsAt 0 first 2 ++
    [.spawn (.validateToken "token" { performDisco := true } (some "https://idp"))] ++
    runsAt 1 second 8

/-- Two consecutive forced refreshes less than a cooldown apart have an excuse. -/
def ExcusedWithinCooldown : Prop :=
  ∀ (rt : Runtime) (u : String) (ls : List Label) (s : State) (t₁ t₂ : ℚ)
    (later between earlier : List LogEvent),
    Meets (validator rt).step (fun s l => sequential s l = true) initial ls →
    run rt initial ls = some s →
    s.shared.log = later ++ .refreshStart u t₂ :: (between ++ .refreshStart u t₁ :: earlier) →
    (∀ e ∈ between, e.startOf u = none) → t₂ - t₁ < getKidMissCooldown rt.env →
    ∃ e ∈ between, e.excuses u = true

/-- The answer of a forced refresh of the sample, with the one key it had before. -/
def sameKeyAnswer : LogEvent :=
  .keys "https://idp/jwks" (.kidMiss "x")
    { isSuccessful := true, keys := some [{ kty := "RSA", kid := some "k1" }] }

/-- The floats nearest to 0.1 and 5.1 are less than 5 apart; their difference rounds
to 5. -/
theorem refresh_within_rounding : ¬ ExcusedWithinCooldown := by
  intro h
  have hrun := eq_some_getD initial (show (run (sampleRuntime .sync) initial (missTwiceRun
    (3602879701896397 / 2 ^ 55) (2871044762448691 / 2 ^ 49))).isSome = true by decide +kernel)
  have hexcused := h (sampleRuntime .sync) "https://idp/jwks" _ _ (3602879701896397 / 2 ^ 55)
    (2871044762448691 / 2 ^ 49) [] [sameKeyAnswer] _ (by decide +kernel) hrun
    (show _ = [] ++ _ :: ([sameKeyAnswer] ++ _ ::
      ((run (sampleRuntime .sync) initial (missTwiceRun (3602879701896397 / 2 ^ 55)
        (2871044762448691 / 2 ^ 49))).getD initial).shared.log.drop 3) by decide +kernel)
    (by decide +kernel) (by decide +kernel)
  exact absurd hexcused (by decide +kernel)

/-- A call whose refresh is answered by an error, and a second one after it. -/
def failedThenMissRun : List Label :=
  missStart 0 0 "k1" ++ runsAt 0 1 1 ++ [.move 0 ⟨2, .keys { isSuccessful := false }⟩] ++
    runsAt 0 2 1 ++
    [.spawn (.validateToken "token" { performDisco := true } (some "https://idp"))] ++ runsAt 1 3 8

/-- The answer of a forced refresh of the sample that failed. -/
def failedAnswer : LogEvent :=
  .keys "https://idp/jwks" (.kidMiss "x") { isSuccessful := false }

theorem sequential_refreshes_excused_failure :
    ∃ s earlier, run (sampleRuntime .sync) initial failedThenMissRun = some s ∧
      s.shared.log = [] ++ .refreshStart "https://idp/jwks" 3 ::
        ([failedAnswer] ++ .refreshStart "https://idp/jwks" 1 :: earlier) ∧
      ∃ e ∈ [failedAnswer], e.excuses "https://idp/jwks" = true := by
  have hrun := eq_some_getD initial
    (show (run (sampleRuntime .sync) initial failedThenMissRun).isSome = true by decide +kernel)
  have hlog : ((run (sampleRuntime .sync) initial failedThenMissRun).getD initial).shared.log =
      [] ++ .refreshStart "https://idp/jwks" 3 ::
        ([failedAnswer] ++ .refreshStart "https://idp/jwks" 1 ::
          ((run (sampleRuntime .sync) initial failedThenMissRun).getD initial).shared.log.drop 3) := by
    decide +kernel
  exact ⟨_, _, hrun, hlog, sequential_refreshes_excused (by decide +kernel) hrun hlog
    (by decide +kernel) (by decide +kernel)⟩

end IdentityModel.Py
