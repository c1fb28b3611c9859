import IdentityModel.PyTokenManager
import IdentityModel.Results

/-!
# One refresh for many calls

Calls that find the token due wait for one lock and look again once they hold it. The
first of them refreshes; the others are spared a grant if the token it stored is not
due at once, which the margin decides: the answer has to live longer than it. A call
on its own only needs an expiry that is an instant.
-/
namespace IdentityModel.Py

open Runs Tasks

/-- No answer was stored yet. -/
def Unanswered (s : TokenPool) : Prop := ∀ e ∈ s.shared.log, e.isStored = false

/-- The steps of a number of calls that begin while the token is due, at one instant;
the first refresh finds the endpoint and gets `response`. -/
def Burst (now : Datetime) (response : RefreshTokenResponse) (calls : ℕ) (s : TokenPool) :
    TokenLabel → Prop
  | .spawn (.getAccessToken t) =>
      t = now ∧ s.tasks.length < calls ∧ s.shared.manager.usable now = .ok false
  | .spawn (.setTokens _ _ _ _) => False
  | .move _ (.acquired t) => t = now
  | .move _ (.resolved disco) =>
      Unanswered s → ∃ endpoint, TokenManager.resolveTokenEndpoint disco = .ok endpoint
  | .move _ (.answered r t) => t = now ∧ (Unanswered s → r = response)

/-- How many grants were sent. -/
def grants (s : TokenPool) : ℕ := s.shared.log.countP TokenEntry.isSent

/-- One grant serves all calls, and none of them is stuck. -/
structure Coalesced (access : Json) (s : TokenPool) : Prop where
  one : grants s ≤ 1
  returned : ∀ x ∈ s.tasks, ∀ r, x = .done r → r = .ok access
  live : (∃ x ∈ s.tasks, x.isDone = false) → ∃ t e, (tokenMachine.step s (.move t e)).isSome = true
  sent : (∀ x ∈ s.tasks, x.isDone = true) → grants s = 1

def idlePool (m : TokenManager) : TokenPool := ⟨⟨m, false, []⟩, []⟩

/-- In every interleaving of that many calls one grant serves them all. -/
def Coalesces (m : TokenManager) (now : Datetime) (response : RefreshTokenResponse) (access : Json)
    (calls : ℕ) : Prop :=
  ∀ ls s, Meets tokenMachine.step (Burst now response calls) (idlePool m) ls →
    exec tokenMachine.step (idlePool m) ls = some s → s.tasks.length = calls → Coalesced access s

/-- A lock that is taken has a holder. -/
def Held (s : TokenPool) : Prop := s.shared.locked = true → ∃ x ∈ s.tasks, x.holds = true

theorem held_step {s s' : TokenPool} {l : TokenLabel} (h : Held s)
    (hstep : tokenMachine.step s l = some s') : Held s' := by
  cases l with
  | spawn call =>
      obtain ⟨w, x, hspawn, rfl⟩ := Machine.step_spawn hstep
      have hlocked : w.locked = s.shared.locked := by
        have hbegin := Option.some.inj hspawn
        cases call with
        | setTokens access refresh expiresIn now =>
            cases hbegin
            rfl
        | getAccessToken now =>
            unfold TokenState.begin at hbegin
            simp only at hbegin
            split at hbegin <;> cases hbegin <;> rfl
      intro hw
      obtain ⟨y, hy, hholds⟩ := h (hlocked ▸ hw)
      exact ⟨y, List.mem_append_left _ hy, hholds⟩
  | move t e =>
      obtain ⟨x, w, x', hx, hmove, rfl⟩ := Machine.step_move (fun _ _ _ => rfl) hstep
      intro hw
      have hold : x.holds = false → w = s.shared → ∃ y ∈ s.tasks.set t x', y.holds = true := by
        intro hx' hsame
        refine exists_mem_set_of_not x' hx (by simp [hx']) (h ?_)
        rw [← hsame]
        exact hw
      cases tokenMove_effect hmove with
      | kept now free usable => exact hold rfl rfl
      | failed now e free due unusable => exact hold rfl rfl
      | entered now free due refreshable => exact ⟨_, mem_set_self hx, rfl⟩
      | sent start disco endpoint found => exact ⟨_, mem_set_self hx, rfl⟩
      | _ => cases hw

/-- As long as a call is not done, one can go on. -/
theorem live_of_held {s : TokenPool} (h : Held s) (hundone : ∃ x ∈ s.tasks, x.isDone = false)
    (now : Datetime) : ∃ t e, (tokenMachine.step s (.move t e)).isSome = true := by
  have hmoves : ∀ x ∈ s.tasks, (∃ e, (tokenMove s.shared x e).isSome = true) →
      ∃ t e, (tokenMachine.step s (.move t e)).isSome = true := by
    rintro x hx ⟨e, he⟩
    obtain ⟨t, ht⟩ := List.mem_iff_getElem?.mp hx
    refine ⟨t, e, ?_⟩
    simp only [Machine.step, ht, Option.bind_some, Option.isSome_map]
    exact he
  have hholder : ∀ x ∈ s.tasks, x.holds = true →
      ∃ t e, (tokenMachine.step s (.move t e)).isSome = true := by
    intro x hx hholds
    refine hmoves x hx ?_
    cases x with
    | resolving start => exact ⟨.resolved ⟨false, [], none, none, none, none, []⟩, rfl⟩
    | granting start request => exact ⟨.answered ⟨false, .null, none⟩ now, rfl⟩
    | _ => cases hholds
  obtain ⟨x, hx, hdone⟩ := hundone
  cases hlocked : s.shared.locked with
  | true =>
      obtain ⟨y, hy, hholds⟩ := h hlocked
      exact hholder y hy hholds
  | false =>
      cases hphase : x with
      | waiting =>
          refine hmoves x hx ⟨.acquired now, ?_⟩
          simp [hphase, tokenMove, hlocked]
      | done result => simp [hphase, TokenPhase.isDone] at hdone
      | _ => exact hholder x hx (by rw [hphase]; rfl)

/-- How far the refresh is: not sent, sent, or answered and stored. -/
inductive Refreshed (m : TokenManager) (token : Json) (now : Datetime) (s : TokenState) : Prop
  | due (manager : s.manager = m) (log : s.log = [])
  | sent (manager : s.manager = m) (locked : s.locked = true) (request : RefreshTokenRequest)
      (log : s.log = [.sent request])
  | answered (manager : s.manager = (m.storeGranted token now).1) (start : ℕ)
      (request : RefreshTokenRequest) (log : s.log = [.stored start request token, .sent request])

/-- What a call knows: a waiting one is alone only before the answer, and one that is
done has the new token. -/
def Knows (access : Json) (calls : ℕ) (s : TokenState) : TokenPhase → Prop
  | .waiting => (∀ e ∈ s.log, e.isStored = false) ∨ 1 < calls
  | .resolving _ => s.locked = true ∧ s.log = []
  | .granting _ request => s.locked = true ∧ s.log = [.sent request]
  | .done r => r = .ok access ∧ ∃ e ∈ s.log, e.isStored = true

/-- Two calls do not hold the lock at once, and there are two only if more than one
was to come. -/
def Separate (calls : ℕ) (x y : TokenPhase) : Prop := ¬ (x.holds = true ∧ y.holds = true) ∧ 1 < calls

theorem Separate.symm {calls : ℕ} {x y : TokenPhase} (h : Separate calls x y) : Separate calls y x :=
  ⟨fun hyx => h.1 ⟨hyx.2, hyx.1⟩, h.2⟩

theorem Knows.locked {access : Json} {calls : ℕ} {s : TokenState} {x : TokenPhase}
    (h : Knows access calls s x) (hx : x.holds = true) : s.locked = true := by
  cases x with
  | resolving start => exact h.1
  | granting start request => exact h.1
  | _ => cases hx

/-- A call that does not hold the lock keeps what it knows. -/
theorem Knows.of_grows {access : Json} {calls : ℕ} {s w : TokenState} {x : TokenPhase}
    (h : Knows access calls s x) (hx : x.holds = false) (hcalls : 1 < calls)
    (hlog : ∀ e ∈ s.log, e ∈ w.log) : Knows access calls w x := by
  cases x with
  | waiting => exact .inr hcalls
  | done r =>
      obtain ⟨hr, e, he, hstored⟩ := h
      exact ⟨hr, e, hlog e he, hstored⟩
  | _ => cases hx

theorem TokenEffect.log_grows {s w : TokenState} {x x' : TokenPhase} {e : TokenEvent}
    (h : TokenEffect s x e w x') : ∀ entry ∈ s.log, entry ∈ w.log := by
  intro entry hentry
  cases h with
  | sent start disco endpoint found => exact List.mem_cons_of_mem _ hentry
  | stored start request response now token granted => exact List.mem_cons_of_mem _ hentry
  | _ => exact hentry

section Coalescing

variable {m : TokenManager} {now : Datetime} {response : RefreshTokenResponse} {token : Json}
  {calls : ℕ}

/-- What the calls find and what the answer makes of the manager. -/
structure Spares (m : TokenManager) (now : Datetime) (response : RefreshTokenResponse) (token : Json)
    (calls : ℕ) : Prop where
  due : m.usable now = .ok false
  refreshable : isTruthy m.refreshToken = true
  granted : TokenManager.grantedTokens response = .ok token
  stored : (m.storeGranted token now).2 = .ok ()
  usable : 1 < calls → (m.storeGranted token now).1.usable now = .ok true

/-- Until an answer is stored the manager is the one the calls found. -/
theorem Refreshed.manager_of_unanswered {s : TokenState} (h : Refreshed m token now s)
    (hlog : ∀ e ∈ s.log, e.isStored = false) : s.manager = m := by
  cases h with
  | due manager log => exact manager
  | sent manager locked request log => exact manager
  | answered manager start request log =>
      have hstored := hlog (.stored start request token) (by simp [log])
      cases hstored

/-- Before the answer the token is due, after it the waiting calls can use it. -/
theorem Refreshed.not_due {s : TokenState} (hspares : Spares m now response token calls)
    (hrefreshed : Refreshed m token now s) (hknows : Knows (token.get "access_token") calls s .waiting)
    (hlog : s.log ≠ []) (hfree : s.locked = false) :
    s.manager = (m.storeGranted token now).1 ∧ s.manager.usable now = .ok true ∧
      ∃ e ∈ s.log, e.isStored = true := by
  cases hrefreshed with
  | due manager log => exact absurd log hlog
  | sent manager locked request log =>
      rw [locked] at hfree
      cases hfree
  | answered manager start request log =>
      have hstored : ∃ e ∈ s.log, e.isStored = true := by
        rw [log]
        exact ⟨_, List.mem_cons_self, rfl⟩
      refine ⟨manager, ?_, hstored⟩
      rw [manager]
      obtain hnone | hcalls := hknows
      · obtain ⟨e, he, hstored⟩ := hstored
        rw [hnone e he] at hstored
        cases hstored
      · exact hspares.usable hcalls

/-- The steps of the calls keep the stages. -/
theorem refreshed_step (hspares : Spares m now response token calls) : ∀ s l s',
    Holds (Refreshed m token now) (Knows (token.get "access_token") calls) (Separate calls) s →
    Burst now response calls s l ∧ (s.tasks = [] → s.shared.log = []) →
    tokenMachine.step s l = some s' →
    Holds (Refreshed m token now) (Knows (token.get "access_token") calls) (Separate calls) s' := by
  refine Machine.holds_step (fun _ _ _ => rfl)
    (fun s l => Burst now response calls s l ∧ (s.tasks = [] → s.shared.log = []))
    (fun _ _ => Separate.symm) ?_ ?_
  · rintro s (⟨access, refresh, expiresIn, t⟩ | t) w x hinv ⟨hburst, hempty⟩ hspawn
    · exact hburst.elim
    · obtain ⟨rfl, hcount, hdue⟩ := hburst
      have hbegin : w = s.shared ∧ x = .waiting := by
        have h := Option.some.inj hspawn
        simp only [TokenState.begin, hdue] at h
        cases h
        exact ⟨rfl, rfl⟩
      obtain ⟨rfl, rfl⟩ := hbegin
      refine ⟨hinv.shared, ?_, ?_⟩
      · by_cases hcalls : 1 < calls
        · exact .inr hcalls
        · have htasks : s.tasks = [] := List.eq_nil_of_length_eq_zero (by omega)
          left
          rw [hempty htasks]
          simp
      · intro j y hy
        have hj := (List.getElem?_eq_some_iff.mp hy).1
        exact ⟨hinv.each j y hy, by simp [TokenPhase.holds], by omega⟩
  · rintro s t e x w x' hinv ⟨hburst, -⟩ hx hmove
    have heffect := tokenMove_effect hmove
    have hothers : ∀ j y, j ≠ t → s.tasks[j]? = some y →
        Knows (token.get "access_token") calls w y ∧ Separate calls x' y := by
      intro j y hj hy
      obtain ⟨hapart, hcalls⟩ := hinv.pair j t y x hj hy hx
      have hnot : y.holds = false := by
        by_contra h
        have hholds : y.holds = true := by simpa using h
        obtain hxholds | hfree := heffect.holds_or_free
        · exact hapart ⟨hholds, hxholds⟩
        · rw [(hinv.each j y hy).locked hholds] at hfree
          cases hfree
      exact ⟨(hinv.each j y hy).of_grows hnot hcalls heffect.log_grows, by simp [hnot], hcalls⟩
    have hself := hinv.each t x hx
    suffices h : Refreshed m token now w ∧ Knows (token.get "access_token") calls w x' from
      ⟨h.1, h.2, hothers⟩
    have hunanswered : s.shared.log.all (fun e => !e.isStored) = true → Unanswered s := by
      intro h e he
      simpa using List.all_eq_true.mp h e he
    have hfirst : s.shared.log = [] → s.shared.manager.usable now = .ok false ∧
        isTruthy s.shared.manager.refreshToken = true := by
      intro hlog
      rw [hinv.shared.manager_of_unanswered (by simp [hlog])]
      exact ⟨hspares.due, hspares.refreshable⟩
    cases heffect with
    | kept t free usable =>
        obtain rfl : t = now := hburst
        by_cases hlog : s.shared.log = []
        · rw [(hfirst hlog).1] at usable
          cases usable
        · obtain ⟨hmanager, -, hstored⟩ := hinv.shared.not_due hspares hself hlog free
          refine ⟨hinv.shared, ?_, hstored⟩
          rw [hmanager, TokenManager.storeGranted_accessToken]
    | failed t error free due unusable =>
        obtain rfl : t = now := hburst
        by_cases hlog : s.shared.log = []
        · obtain ⟨hdue, hrefreshable⟩ := hfirst hlog
          rw [due hdue] at hrefreshable
          cases hrefreshable
        · exact absurd (hinv.shared.not_due hspares hself hlog free).2.1 unusable
    | entered t free due refreshable =>
        obtain rfl : t = now := hburst
        by_cases hlog : s.shared.log = []
        · have hmanager := hinv.shared.manager_of_unanswered (by simp [hlog])
          exact ⟨.due hmanager hlog, rfl, hlog⟩
        · rw [(hinv.shared.not_due hspares hself hlog free).2.1] at due
          cases due
    | unresolved start disco error failed =>
        obtain ⟨-, hlog⟩ := hself
        obtain ⟨endpoint, hfound⟩ := hburst (hunanswered (by simp [hlog]))
        rw [hfound] at failed
        cases failed
    | sent start disco endpoint found =>
        obtain ⟨hlocked, hlog⟩ := hself
        have hmanager := hinv.shared.manager_of_unanswered (by simp [hlog])
        refine ⟨?_, hlocked, by simp [hlog]⟩
        exact .sent hmanager hlocked (s.shared.manager.refreshRequest endpoint) (by simp [hlog])
    | refused start request r t error failed =>
        obtain ⟨-, hlog⟩ := hself
        obtain rfl := hburst.2 (hunanswered (by simp [hlog, TokenEntry.isStored]))
        rw [hspares.granted] at failed
        cases failed
    | stored start request r t token' granted =>
        obtain ⟨-, hlog⟩ := hself
        obtain ⟨rfl, hresponse⟩ := hburst
        obtain rfl := hresponse (hunanswered (by simp [hlog, TokenEntry.isStored]))
        obtain rfl : token = token' := Except.ok.inj (hspares.granted.symm.trans granted)
        have hmanager := hinv.shared.manager_of_unanswered (by simp [hlog, TokenEntry.isStored])
        refine ⟨.answered (by rw [hmanager]) start request (by simp [hlog]), ?_, _, List.mem_cons_self, rfl⟩
        rw [hmanager, hspares.stored]
        rfl

/-- What the stages say of a state. -/
theorem coalesced_of_refreshed {access : Json} {s : TokenPool}
    (hinv : Holds (Refreshed m token now) (Knows access calls) (Separate calls) s) (hheld : Held s)
    (htasks : s.tasks ≠ []) : Coalesced access s := by
  have hone : grants s ≤ 1 := by
    unfold grants
    cases hinv.shared with
    | due manager log => simp [log]
    | sent manager locked request log => simp [log, TokenEntry.isSent]
    | answered manager start request log => simp [log, TokenEntry.isSent]
  refine ⟨hone, ?_, fun hundone => live_of_held hheld hundone now, ?_⟩
  · rintro x hx r rfl
    exact (hinv.of_mem hx).1
  · intro hdone
    obtain ⟨x, hx⟩ := List.exists_mem_of_ne_nil _ htasks
    have hknows := hinv.of_mem hx
    have hxdone := hdone x hx
    cases x with
    | done r =>
        obtain ⟨-, e, he, hstored⟩ := hknows
        unfold grants
        cases hinv.shared with
        | due manager log => simp [log] at he
        | sent manager locked request log =>
            simp only [log, List.mem_singleton] at he
            subst he
            cases hstored
        | answered manager start request log => simp [log, TokenEntry.isSent]
    | _ => cases hxdone

/-- Where the first answer can be stored and used, one refresh suffices. -/
theorem coalesces_of_spares (hspares : Spares m now response token calls) (hcalls : 0 < calls) :
    Coalesces m now response (token.get "access_token") calls := by
  intro ls s hburst hrun hlength
  let Inv : TokenPool → Prop := fun s =>
    Holds (Refreshed m token now) (Knows (token.get "access_token") calls) (Separate calls) s ∧
      Held s ∧ (s.tasks = [] → s.shared.log = [])
  have hstep : ∀ s l s', Inv s → Burst now response calls s l → tokenMachine.step s l = some s' →
      Inv s' := by
    rintro s l s' ⟨hinv, hheld, hempty⟩ hok hs
    refine ⟨refreshed_step hspares s l s' hinv ⟨hok, hempty⟩ hs, held_step hheld hs, ?_⟩
    intro htasks
    cases l with
    | spawn call =>
        obtain ⟨w, x, -, rfl⟩ := Machine.step_spawn hs
        simp at htasks
    | move t e =>
        obtain ⟨x, w, x', hx, -, rfl⟩ := Machine.step_move (fun _ _ _ => rfl) hs
        have hnil : s.tasks = [] := by simpa using htasks
        simp [hnil] at hx
  have hidle : Held (idlePool m) := by
    intro hlocked
    cases hlocked
  have hinit : Inv (idlePool m) := ⟨Holds.of_idle (.due rfl rfl) rfl, hidle, fun _ => rfl⟩
  obtain ⟨hinv, hheld, -⟩ := exec_invariant hstep hinit hburst hrun
  refine coalesced_of_refreshed hinv hheld ?_
  intro hnil
  rw [hnil] at hlength
  simp only [List.length_nil] at hlength
  omega

/-- Calls that begin while the token is due wait for the lock. -/
theorem goes_spawn {sh : TokenState} (hdue : sh.manager.usable now = .ok false) :
    ∀ (k : ℕ) (tasks : List TokenPhase) {ls : List TokenLabel} {s' : TokenPool},
      tasks.length + k ≤ calls →
      Goes tokenMachine.step (Burst now response calls)
        ⟨sh, tasks ++ List.replicate k .waiting⟩ ls s' →
      Goes tokenMachine.step (Burst now response calls) ⟨sh, tasks⟩
        (List.replicate k (.spawn (.getAccessToken now)) ++ ls) s' := by
  intro k
  induction k with
  | zero =>
      intro tasks ls s' _ h
      simpa using h
  | succ k ih =>
      intro tasks ls s' hlength h
      have hroom : tasks.length < calls := by omega
      refine Goes.cons (m := ⟨sh, tasks ++ [.waiting]⟩) ⟨rfl, hroom, hdue⟩ ?_ ?_
      · simp [Machine.step, tokenMachine, TokenState.begin, hdue]
      · refine ih (tasks ++ [.waiting]) (by simp; omega) ?_
        simpa [List.replicate_succ] using h

def documentRequest (m : TokenManager) : RefreshTokenRequest :=
  m.refreshRequest (.str "https://op/token")

/-- The calls after the first of them has stored the answer. -/
def answeredPool (m : TokenManager) (now : Datetime) (token : Json) (waiting : ℕ) : TokenPool :=
  ⟨⟨(m.storeGranted token now).1, false,
      [.stored 0 (documentRequest m) token, .sent (documentRequest m)]⟩,
    .done ((m.storeGranted token now).2.map fun _ => token.get "access_token") ::
      List.replicate waiting .waiting⟩

theorem acquire_due {sh : TokenState} (hfree : sh.locked = false)
    (hdue : sh.manager.usable now = .ok false) (hrefresh : isTruthy sh.manager.refreshToken = true) :
    tokenMove sh .waiting (.acquired now) =
      some ({ sh with locked := true }, .resolving sh.log.length) := by
  simp [tokenMove, hfree, TokenState.acquire, hdue, hrefresh]

theorem send_document (sh : TokenState) (start : ℕ) :
    tokenMove sh (.resolving start) (.resolved tokenDocument) =
      some ({ sh with log := .sent (documentRequest sh.manager) :: sh.log },
        .granting start (documentRequest sh.manager)) := rfl

/-- A run in which the first call refreshes while the others wait. -/
theorem goes_answered (hdue : m.usable now = .ok false) (hrefresh : isTruthy m.refreshToken = true)
    (hgranted : TokenManager.grantedTokens response = .ok token) {waiting : ℕ}
    {ls : List TokenLabel} {s' : TokenPool}
    (h : Goes tokenMachine.step (Burst now response (waiting + 1)) (answeredPool m now token waiting)
      ls s') :
    ∃ ls', Goes tokenMachine.step (Burst now response (waiting + 1)) (idlePool m) ls' s' := by
  have hanswered : tokenMove ⟨m, true, [.sent (documentRequest m)]⟩ (.granting 0 (documentRequest m))
      (.answered response now) = some ((answeredPool m now token waiting).shared,
        .done ((m.storeGranted token now).2.map fun _ => token.get "access_token")) := by
    simp [tokenMove, TokenState.finish, hgranted, answeredPool]
  have hfirst := Goes.cons (s := ⟨⟨m, true, [.sent (documentRequest m)]⟩,
    .granting 0 (documentRequest m) :: List.replicate waiting .waiting⟩)
    (l := .move 0 (.answered response now)) ⟨rfl, fun _ => rfl⟩
    (Machine.step_of_move (fun _ _ _ => rfl) rfl hanswered) h
  have hsent := Goes.cons (s := ⟨⟨m, true, []⟩, .resolving 0 :: List.replicate waiting .waiting⟩)
    (l := .move 0 (.resolved tokenDocument)) (fun _ => ⟨_, rfl⟩)
    (Machine.step_of_move (fun _ _ _ => rfl) rfl (send_document _ _)) hfirst
  have hentered : tokenMove ⟨m, false, []⟩ .waiting (.acquired now) =
      some (⟨m, true, []⟩, .resolving 0) := acquire_due rfl hdue hrefresh
  have hacquired := Goes.cons (s := ⟨⟨m, false, []⟩, .waiting :: List.replicate waiting .waiting⟩)
    (l := .move 0 (.acquired now)) rfl (Machine.step_of_move (fun _ _ _ => rfl) rfl hentered) hsent
  exact ⟨_, goes_spawn hdue (waiting + 1) [] (by simp) (by simpa [List.replicate_succ] using hacquired)⟩

/-- The first call returns only if the answer can be stored. -/
theorem stored_of_coalesces (hdue : m.usable now = .ok false)
    (hrefresh : isTruthy m.refreshToken = true)
    (hgranted : TokenManager.grantedTokens response = .ok token) {waiting : ℕ}
    (h : Coalesces m now response (token.get "access_token") (waiting + 1)) :
    (m.storeGranted token now).2 = .ok () := by
  obtain ⟨ls, hls⟩ := goes_answered hdue hrefresh hgranted
    (Goes.nil (answeredPool m now token waiting))
  have hcoalesced := h ls _ hls.meets hls.exec (by simp [answeredPool])
  have hreturned := hcoalesced.returned _ List.mem_cons_self _ rfl
  obtain ⟨⟨⟩, hstored, -⟩ := Results.map_eq_ok.mp hreturned
  exact hstored

/-- A second call is spared a grant only if the stored token is usable. -/
theorem usable_of_coalesces (hdue : m.usable now = .ok false)
    (hrefresh : isTruthy m.refreshToken = true)
    (hgranted : TokenManager.grantedTokens response = .ok token) {waiting : ℕ}
    (h : Coalesces m now response (token.get "access_token") (waiting + 2)) :
    (m.storeGranted token now).1.usable now = .ok true := by
  let sh := (answeredPool m now token (waiting + 1)).shared
  let first : TokenPhase := .done ((m.storeGranted token now).2.map fun _ => token.get "access_token")
  have hrefreshed : isTruthy sh.manager.refreshToken = true := by
    simp only [sh, answeredPool, TokenManager.storeGranted_refreshToken, TokenManager.orElse]
    split_ifs with hown
    · exact hown
    · exact hrefresh
  have hcoalesced : ∀ {w : TokenState} {x : TokenPhase} {ls : List TokenLabel},
      Goes tokenMachine.step (Burst now response (waiting + 2))
        (answeredPool m now token (waiting + 1)) ls
        ⟨w, first :: x :: List.replicate waiting .waiting⟩ →
      Coalesced (token.get "access_token") ⟨w, first :: x :: List.replicate waiting .waiting⟩ := by
    intro w x ls hgoes
    obtain ⟨ls', hls'⟩ := goes_answered hdue hrefresh hgranted hgoes
    exact h ls' _ hls'.meets hls'.exec (by simp)
  cases husable : (m.storeGranted token now).1.usable now with
  | error e =>
      have hfailed : tokenMove sh .waiting (.acquired now) = some (sh, .done (.error e)) := by
        simp [tokenMove, sh, answeredPool, TokenState.acquire, husable]
      have hgoes : Goes tokenMachine.step (Burst now response (waiting + 2))
          (answeredPool m now token (waiting + 1)) [.move 1 (.acquired now)]
          ⟨sh, first :: .done (.error e) :: List.replicate waiting .waiting⟩ :=
        Goes.cons rfl (Machine.step_of_move (fun _ _ _ => rfl) rfl hfailed) (Goes.nil _)
      have hreturned := (hcoalesced hgoes).returned (.done (.error e)) (by simp) _ rfl
      cases hreturned
  | ok usable =>
      cases usable with
      | true => rfl
      | false =>
          have hentered : tokenMove sh .waiting (.acquired now) =
              some ({ sh with locked := true }, .resolving sh.log.length) :=
            acquire_due rfl husable hrefreshed
          have hgoes : Goes tokenMachine.step (Burst now response (waiting + 2))
              (answeredPool m now token (waiting + 1))
              [.move 1 (.acquired now), .move 1 (.resolved tokenDocument)]
              ⟨⟨sh.manager, true, .sent (documentRequest sh.manager) :: sh.log⟩,
                first :: .granting sh.log.length (documentRequest sh.manager) ::
                  List.replicate waiting .waiting⟩ :=
            Goes.cons rfl (Machine.step_of_move (fun _ _ _ => rfl) rfl hentered)
              (Goes.cons (fun _ => ⟨_, rfl⟩)
                (Machine.step_of_move (fun _ _ _ => rfl) rfl (send_document _ _)) (Goes.nil _))
          have hone := (hcoalesced hgoes).one
          simp [grants, sh, answeredPool, List.countP_cons, TokenEntry.isSent] at hone

end Coalescing

/-- One grant serves every number of calls if and only if the expiry of its answer is an
instant and, where there are two calls or more, comes later than the margin. -/
theorem refresh_coalesces_iff {m : TokenManager} {now : Datetime} {response : RefreshTokenResponse}
    {token : Json} {n : Number} {calls : ℕ} (hdue : m.usable now = .ok false)
    (hrefresh : isTruthy m.refreshToken = true) (hbefore : 0 ≤ m.settings.refreshBeforeSeconds)
    (hgranted : TokenManager.grantedTokens response = .ok token)
    (hexpires : token.get "expires_in" = .num n) (hcalls : 0 < calls) :
    Coalesces m now response (token.get "access_token") calls ↔
      ∃ d, Timedelta.micros (pyNumber n) = some d ∧ 0 ≤ now.val + d ∧
        now.val + d < 315537897600000000 ∧
        (calls = 1 ∨ m.settings.refreshBeforeSeconds * 1000000 < d) := by
  have haccess : isTruthy (token.get "access_token") = true := TokenManager.access_of_granted hgranted
  have husable : ∀ t : Datetime, TokenManager.expiry (.num n) now = .ok (some t) →
      ((m.storeGranted token now).1.usable now = .ok true ↔
        now.val + m.settings.refreshBeforeSeconds * 1000000 < t.val) := by
    intro t ht
    have hstored : (m.storeGranted token now).1.expiresAt = some t := by
      rw [TokenManager.storeGranted, hexpires, TokenManager.setTokens_of_expiry _ _ _ _ _ ht]
    have h : (m.storeGranted token now).1.usable now = .ok true ↔ _ :=
      TokenManager.usable_eq_true hstored (by simpa using haccess) (by simpa using hbefore)
    simpa using h
  constructor
  · intro h
    obtain ⟨waiting, rfl⟩ : ∃ waiting, calls = waiting + 1 := ⟨calls - 1, by omega⟩
    obtain ⟨t, ht⟩ : ∃ t, TokenManager.expiry (.num n) now = .ok (some t) :=
      TokenManager.expiry_of_stored hexpires (stored_of_coalesces hdue hrefresh hgranted h)
    obtain ⟨d, hd, hsum⟩ := TokenManager.expiry_num.mp ht
    have hinstant := t.property
    refine ⟨d, hd, by omega, by omega, ?_⟩
    cases waiting with
    | zero => exact .inl rfl
    | succ waiting =>
        have hlater := (husable t ht).mp (usable_of_coalesces hdue hrefresh hgranted h)
        exact .inr (by omega)
  · rintro ⟨d, hd, hlow, hhigh, hmargin⟩
    have ht : TokenManager.expiry (.num n) now = .ok (some ⟨now.val + d, hlow, hhigh⟩) :=
      TokenManager.expiry_num.mpr ⟨d, hd, rfl⟩
    have hstored : (m.storeGranted token now).2 = .ok () := by
      rw [TokenManager.storeGranted, hexpires, TokenManager.setTokens_of_expiry _ _ _ _ _ ht]
    refine coalesces_of_spares ⟨hdue, hrefresh, hgranted, hstored, fun hseveral => ?_⟩ hcalls
    refine (husable _ ht).mpr ?_
    obtain hone | hmargin := hmargin
    · omega
    · simpa using hmargin

/-- A manager whose token expires now. -/
def expiringManager : TokenManager where
  settings := tokenSettings
  accessToken := .str "stale"
  refreshToken := .str "r1"
  expiresAt := some tokenNoon

def fiveMinutes : Number where
  negative := false
  whole := [3, 0, 0]
  fraction := []
  exponent := none
  nonempty := by decide
  noLeadingZero := by decide

def oneHour : Number where
  negative := false
  whole := [3, 6, 0, 0]
  fraction := []
  exponent := none
  nonempty := by decide
  noLeadingZero := by decide

def rotatedTokens (lifetime : Number) : Json :=
  .obj [("access_token", .str "fresh"), ("refresh_token", .str "r2"), ("expires_in", .num lifetime)]

def rotatedAnswer (lifetime : Number) : RefreshTokenResponse where
  isSuccessful := true
  token := rotatedTokens lifetime

theorem granted_rotated (lifetime : Number) :
    TokenManager.grantedTokens (rotatedAnswer lifetime) = .ok (rotatedTokens lifetime) := rfl

theorem refresh_coalesces_hour :
    Coalesces expiringManager tokenNoon (rotatedAnswer oneHour) (.str "fresh") 5 :=
  (refresh_coalesces_iff (n := oneHour) (by decide +kernel) (by decide) (by decide)
    (granted_rotated oneHour) rfl (by decide)).mpr
    ⟨3600000000, by decide +kernel, by decide, by decide, .inr (by decide)⟩

/-- With a lifetime of the margin the second call sends a second grant. -/
theorem short_lifetime_refreshes_twice :
    ¬ Coalesces expiringManager tokenNoon (rotatedAnswer fiveMinutes) (.str "fresh") 2 := by
  intro h
  have husable : (expiringManager.storeGranted (rotatedTokens fiveMinutes) tokenNoon).1.usable tokenNoon =
      .ok true := usable_of_coalesces (by decide +kernel) (by decide) (granted_rotated fiveMinutes) h
  have hdue : (expiringManager.storeGranted (rotatedTokens fiveMinutes) tokenNoon).1.usable tokenNoon =
      .ok false := by decide +kernel
  rw [hdue] at husable
  cases husable

end IdentityModel.Py
