import IdentityModel.PyTokenManager

/-!
# Where the stored tokens come from

A refresh writes what it was granted after it has waited for the answer, and
`set_tokens` does not wait for it. As long as no call of `set_tokens` came in the
time of a refresh that stores its answer, no such call is lost, and the stored pair
comes from one writer.
-/
namespace IdentityModel.Py

open Runs Tasks

/-- The pair an entry leaves: an answer without a refresh token keeps the one it was
obtained with. -/
def TokenEntry.pair : TokenEntry → Option (Json × Json)
  | .set access refresh => some (access, refresh)
  | .sent _ => none
  | .stored _ request token =>
      some (token.get "access_token",
        TokenManager.orElse (token.get "refresh_token") request.refreshToken)

/-- Access and refresh token are those of the last writer. -/
def OneSource (s : TokenState) : Prop :=
  (s.manager.accessToken, s.manager.refreshToken) =
    (s.log.findSome? TokenEntry.pair).getD (.null, .null)

/-- What a call of `set_tokens` stored stays until another call or the success of a
refresh that began after it. -/
def NotLost (s : TokenState) : Prop :=
  ∀ newer older access refresh, s.log = newer ++ .set access refresh :: older →
    (∀ e ∈ newer, e.isSet = false) →
    (∀ start request token, .stored start request token ∈ newer → start ≤ older.length) →
    s.manager.accessToken = access ∧ s.manager.refreshToken = refresh

/-- No call of `set_tokens` since the log had this length. -/
def UnsetSince (log : List TokenEntry) (start : ℕ) : Prop :=
  ∀ e ∈ log.take (log.length - start), e.isSet = false

instance (log : List TokenEntry) (start : ℕ) : Decidable (UnsetSince log start) :=
  inferInstanceAs (Decidable (∀ e ∈ log.take (log.length - start), e.isSet = false))

/-- A refresh whose answer brings tokens was not overtaken by `set_tokens`. -/
def InTime (s : TokenPool) : TokenLabel → Prop
  | .move t (.answered response _) => ∀ start request token,
      s.tasks[t]? = some (.granting start request) →
      TokenManager.grantedTokens response = .ok token → UnsetSince s.shared.log start
  | _ => True

theorem UnsetSince.of_cons {log : List TokenEntry} {e : TokenEntry} {start : ℕ}
    (hstart : start ≤ log.length) (h : UnsetSince (e :: log) start) :
    e.isSet = false ∧ UnsetSince log start := by
  unfold UnsetSince at h
  rw [List.length_cons, show log.length + 1 - start = (log.length - start) + 1 by omega,
    List.take_succ_cons] at h
  exact ⟨h e List.mem_cons_self, fun e' he' => h e' (List.mem_cons_of_mem e he')⟩

/-- A call of `set_tokens` that is older than the start leaves the rest free of them;
one that is not is among what came since. -/
theorem UnsetSince.set_older {newer older : List TokenEntry} {access refresh : Json} {start : ℕ}
    (h : UnsetSince (newer ++ .set access refresh :: older) start) : older.length < start := by
  by_contra hstart
  have hmem : TokenEntry.set access refresh ∈
      (newer ++ .set access refresh :: older).take
        ((newer ++ .set access refresh :: older).length - start) := by
    rw [List.mem_take_iff_getElem]
    refine ⟨newer.length, ?_, by simp⟩
    simp only [List.length_append, List.length_cons]
    omega
  exact absurd (h _ hmem) (by simp [TokenEntry.isSet])

/-- What holds of the manager between two steps. -/
structure Sound (s : TokenState) : Prop where
  kept : NotLost s
  source : OneSource s

/-- What a call that refreshes relies on: the lock is its own, and the refresh token
it sent is the stored one unless `set_tokens` was called. -/
def Relies (s : TokenState) : TokenPhase → Prop
  | .resolving start => s.locked = true ∧ start ≤ s.log.length
  | .granting start request => s.locked = true ∧ start ≤ s.log.length ∧
      (UnsetSince s.log start → s.manager.refreshToken = request.refreshToken)
  | _ => True

/-- Two calls do not hold the lock at once. -/
def HoldApart (x y : TokenPhase) : Prop := ¬ (x.holds = true ∧ y.holds = true)

theorem HoldApart.symm {x y : TokenPhase} (h : HoldApart x y) : HoldApart y x := fun hyx => h ⟨hyx.2, hyx.1⟩

theorem relies_of_not_holds {s : TokenState} {x : TokenPhase} (h : x.holds = false) : Relies s x := by
  cases x with
  | waiting => trivial
  | done result => trivial
  | _ => cases h

theorem Relies.locked {s : TokenState} {x : TokenPhase} (h : Relies s x) (hx : x.holds = true) :
    s.locked = true := by
  cases x with
  | resolving start => exact h.1
  | granting start request => exact h.1
  | _ => cases hx

/-- A step that leaves manager and log as they are. -/
theorem Sound.of_same {s w : TokenState} (h : Sound s) (hmanager : w.manager = s.manager)
    (hlog : w.log = s.log) : Sound w := by
  obtain ⟨hkept, hsource⟩ := h
  refine ⟨?_, ?_⟩
  · unfold NotLost
    rw [hmanager, hlog]
    exact hkept
  · unfold OneSource
    rw [hmanager, hlog]
    exact hsource

/-- A grant that is sent writes nothing. -/
theorem Sound.sent {s : TokenState} (h : Sound s) (request : RefreshTokenRequest) :
    Sound { s with log := .sent request :: s.log } := by
  refine ⟨?_, h.source⟩
  intro newer older access refresh hlog hset hstored
  cases newer with
  | nil => cases hlog
  | cons e newer =>
      exact h.kept newer older access refresh (List.cons.inj hlog).2
        (fun e' he' => hset e' (List.mem_cons_of_mem e he'))
        (fun start request token hmem => hstored start request token (List.mem_cons_of_mem e hmem))

/-- `set_tokens` stores its pair. -/
theorem Sound.set {s : TokenState} (access refresh expiresIn : Json) (now : Datetime) :
    Sound ⟨(s.manager.setTokens access refresh expiresIn now).1, s.locked,
      .set access refresh :: s.log⟩ := by
  refine ⟨?_, by simp [OneSource, List.findSome?_cons, TokenEntry.pair]⟩
  intro newer older access' refresh' hlog hset _
  cases newer with
  | nil =>
      cases hlog
      simp
  | cons e newer =>
      obtain ⟨rfl, -⟩ := List.cons.inj hlog
      exact absurd (hset _ List.mem_cons_self) (by simp [TokenEntry.isSet])

/-- A refresh that was not overtaken stores one pair and drops none. -/
theorem Sound.stored {s : TokenState} {start : ℕ} {request : RefreshTokenRequest} {token : Json}
    (now : Datetime) (hunset : UnsetSince s.log start)
    (hrefresh : s.manager.refreshToken = request.refreshToken) :
    Sound ⟨(s.manager.storeGranted token now).1, false, .stored start request token :: s.log⟩ := by
  refine ⟨?_, by simp [OneSource, List.findSome?_cons, TokenEntry.pair, hrefresh]⟩
  intro newer older access refresh hlog _ hstored
  cases newer with
  | nil => cases hlog
  | cons e newer =>
      obtain ⟨rfl, hold⟩ : TokenEntry.stored start request token = e ∧
          s.log = newer ++ .set access refresh :: older := List.cons.inj hlog
      have hbefore : start ≤ older.length := hstored start request token List.mem_cons_self
      rw [hold] at hunset
      have hafter := hunset.set_older
      omega

/-- A call that does not hold the lock finds others as they were, or them not
holding it. -/
theorem Relies.of_cons {s w : TokenState} {y : TokenPhase} {e : TokenEntry} (h : Relies s y)
    (hlocked : w.locked = s.locked) (hlog : w.log = e :: s.log)
    (hmanager : e.isSet = false → w.manager.refreshToken = s.manager.refreshToken) : Relies w y := by
  cases y with
  | resolving start =>
      obtain ⟨h1, h2⟩ := h
      refine ⟨hlocked.trans h1, ?_⟩
      rw [hlog, List.length_cons]
      omega
  | granting start request =>
      obtain ⟨h1, h2, h3⟩ := h
      refine ⟨hlocked.trans h1, ?_, ?_⟩
      · rw [hlog, List.length_cons]
        omega
      · intro hunset
        rw [hlog] at hunset
        obtain ⟨he, hunset⟩ := hunset.of_cons h2
        rw [hmanager he]
        exact h3 hunset
  | _ => trivial

/-- Every step in time keeps the invariant. -/
theorem sources_step : ∀ s l s', Holds Sound Relies HoldApart s → InTime s l →
    tokenMachine.step s l = some s' → Holds Sound Relies HoldApart s' := by
  refine Machine.holds_step (fun _ _ _ => rfl) InTime (fun _ _ => HoldApart.symm) ?_ ?_
  · intro s call w x hinv _ hspawn
    cases call with
    | setTokens access refresh expiresIn now =>
        cases hspawn
        refine ⟨Sound.set access refresh expiresIn now, trivial,
          fun j y hy => ⟨?_, by simp [HoldApart, TokenPhase.holds]⟩⟩
        exact (hinv.each j y hy).of_cons rfl rfl (by simp [TokenEntry.isSet])
    | getAccessToken now =>
        have hsame : w = s.shared ∧ x.holds = false := by
          have h := Option.some.inj hspawn
          unfold TokenState.begin at h
          split at h
          · simp at *
          · rename_i hcall
            split at h <;> cases h <;> exact ⟨rfl, rfl⟩
        obtain ⟨rfl, hx⟩ := hsame
        exact ⟨hinv.shared, relies_of_not_holds hx,
          fun j y hy => ⟨hinv.each j y hy, by simp [HoldApart, hx]⟩⟩
  · intro s t e x w x' hinv hok hx hmove
    have hfree : ∀ j y, j ≠ t → s.tasks[j]? = some y → y.holds = true → False := by
      intro j y hj hy hholds
      obtain hxholds | hunlocked := (tokenMove_effect hmove).holds_or_free
      · exact hinv.pair j t y x hj hy hx ⟨hholds, hxholds⟩
      · rw [(hinv.each j y hy).locked hholds] at hunlocked
        cases hunlocked
    have hothers : ∀ j y, j ≠ t → s.tasks[j]? = some y → Relies w y ∧ HoldApart x' y := by
      intro j y hj hy
      have hnot : y.holds = false := by
        by_contra h
        exact hfree j y hj hy (by simpa using h)
      exact ⟨relies_of_not_holds hnot, by simp [HoldApart, hnot]⟩
    have hself := hinv.each t x hx
    cases tokenMove_effect hmove with
    | kept now free usable => exact ⟨hinv.shared, trivial, hothers⟩
    | failed now e free due unusable => exact ⟨hinv.shared, trivial, hothers⟩
    | entered now free due refreshable =>
        exact ⟨hinv.shared.of_same rfl rfl, ⟨rfl, le_rfl⟩, hothers⟩
    | unresolved start disco e error => exact ⟨hinv.shared.of_same rfl rfl, trivial, hothers⟩
    | sent start disco endpoint found =>
        refine ⟨hinv.shared.sent _, ⟨hself.1, ?_, fun _ => rfl⟩, hothers⟩
        exact Nat.le_succ_of_le hself.2
    | refused start request response now e error =>
        exact ⟨hinv.shared.of_same rfl rfl, trivial, hothers⟩
    | stored start request response now token granted =>
        have hunset := hok start request token hx granted
        exact ⟨Sound.stored now hunset (hself.2.2 hunset), trivial, hothers⟩

/-- In every run whose refreshes are in time, no call of `set_tokens` is lost and the
stored pair has one source. -/
theorem token_updates_kept (settings : TokenSettings) {ls : List TokenLabel} {s : TokenPool}
    (hok : Meets tokenMachine.step InTime (freshPool settings) ls)
    (hrun : exec tokenMachine.step (freshPool settings) ls = some s) :
    NotLost s.shared ∧ OneSource s.shared := by
  have hinit : Holds Sound Relies HoldApart (freshPool settings) := by
    refine Holds.of_idle ⟨?_, rfl⟩ rfl
    intro newer older access refresh hlog
    simp [freshPool] at hlog
  have hinv := exec_invariant sources_step hinit hok hrun
  exact ⟨hinv.shared.kept, hinv.shared.source⟩

/-- An answer that keeps the refresh token. -/
def tokenAnswer : RefreshTokenResponse where
  isSuccessful := true
  token := .obj [("access_token", .str "fresh")]

/-- A manager is given a refresh token alone, and asked for an access token. -/
def refreshingRun : List TokenLabel :=
  [.spawn (.setTokens (.str "") (.str "r1") .null tokenNoon),
    .spawn (.getAccessToken tokenNoon), .move 1 (.acquired tokenNoon), .move 1 (.resolved tokenDocument)]

def answeredRun : List TokenLabel := refreshingRun ++ [.move 1 (.answered tokenAnswer tokenNoon)]

/-- Another pair is stored while the answer is awaited. -/
def overtakenRun : List TokenLabel :=
  refreshingRun ++ [.spawn (.setTokens (.str "other") (.str "r9") .null tokenNoon),
    .move 1 (.answered tokenAnswer tokenNoon)]

def afterRun (ls : List TokenLabel) : TokenState :=
  ((exec tokenMachine.step (freshPool tokenSettings) ls).getD (freshPool tokenSettings)).shared

theorem token_updates_kept_sample : NotLost (afterRun answeredRun) ∧ OneSource (afterRun answeredRun) := by
  have hrun : exec tokenMachine.step (freshPool tokenSettings) answeredRun =
      some ((exec tokenMachine.step (freshPool tokenSettings) answeredRun).getD
        (freshPool tokenSettings)) := eq_some_getD _ rfl
  refine token_updates_kept tokenSettings ?_ hrun
  refine ⟨trivial, trivial, trivial, trivial, ?_, trivial⟩
  intro start request token htask _
  cases htask
  decide

theorem overtaken_update_lost :
    (exec tokenMachine.step (freshPool tokenSettings) overtakenRun).isSome = true ∧
      ¬ NotLost (afterRun overtakenRun) ∧ ¬ OneSource (afterRun overtakenRun) := by
  have hlog : (afterRun overtakenRun).log =
      [.stored 1 ⟨.str "https://op/token", "app", .str "r1", none⟩ tokenAnswer.token,
        .set (.str "other") (.str "r9"), .sent ⟨.str "https://op/token", "app", .str "r1", none⟩,
        .set (.str "") (.str "r1")] := rfl
  have haccess : (afterRun overtakenRun).manager.accessToken = .str "fresh" := rfl
  have hrefresh : (afterRun overtakenRun).manager.refreshToken = .str "r9" := rfl
  refine ⟨rfl, ?_, ?_⟩
  · intro hkept
    have hpair := hkept [_] _ (.str "other") (.str "r9") hlog (by simp [TokenEntry.isSet]) (by simp +contextual)
    rw [haccess] at hpair
    simp at hpair
  · intro hsource
    have hlast : (afterRun overtakenRun).log.findSome? TokenEntry.pair =
        some (.str "fresh", .str "r1") := by
      rw [hlog]
      rfl
    unfold OneSource at hsource
    rw [haccess, hrefresh, hlast] at hsource
    simp at hsource

end IdentityModel.Py
