import IdentityModel.Dict
import IdentityModel.Tasks

/-!
# Shared fetches

Callers that look for the value of a key share a cache and a group of flights. A
caller finds the value cached, joins the flight of its key, or creates one; a flight
looks into the cache once more, checks its key under the option of the caller that
created it, fetches and delivers. The check is the flight's own: a caller whose
option would refuse the key may be served from the cache or by a flight that was
created under another option.

A concrete pool is read through a view of its shared state and the roles of its
tasks. When no refused caller or flight finds its key cached, and no refused caller
joins a flight that is not refused, no refused caller is served, and none waits for
a fetch.
-/
namespace IdentityModel.SharedFetch

open Tasks

variable {κ : Type*} [DecidableEq κ]

/-- The flights that may be joined, what ended flights delivered (keys or an error),
and the number of the next flight. -/
structure View (κ : Type*) where
  group : κ → Option ℕ
  outcome : ℕ → Option Bool
  next : ℕ

inductive CallerPhase
  | seeking
  | waiting (flight : ℕ)
  | served
  | failed
  deriving DecidableEq

inductive FlightPhase
  | checking
  | fetching
  | delivering (found : Bool)
  | ended
  deriving DecidableEq

/-- What a task is to the group; `lax` is the option of the caller. -/
inductive Role (κ : Type*)
  | other
  | caller (key : κ) (lax : Bool) (phase : CallerPhase)
  | flight (id : ℕ) (key : κ) (lax : Bool) (phase : FlightPhase)
  deriving DecidableEq

def View.create (v : View κ) (key : κ) : View κ :=
  { v with group := Function.update v.group key (some v.next), next := v.next + 1 }

def View.finish (v : View κ) (id : ℕ) (key : κ) (found : Bool) : View κ :=
  { v with
    group := if v.group key = some id then Function.update v.group key none else v.group
    outcome := Function.update v.outcome id (some found) }

/-- The view of a group and of results that are kept in maps. -/
def View.ofDicts {ε α : Type*} (group : Dict κ ℕ) (results : Dict ℕ (Except ε α)) (next : ℕ) :
    View κ where
  group key := group.lookup key
  outcome f := (results.lookup f).map Except.isOk
  next := next

theorem View.ofDicts_create {ε α : Type*} (group : Dict κ ℕ) (results : Dict ℕ (Except ε α))
    (next : ℕ) (key : κ) :
    View.ofDicts (group.insert key next) results (next + 1) =
      (View.ofDicts group results next).create key := by
  simp only [View.ofDicts, View.create, View.mk.injEq, and_true]
  funext k
  by_cases hk : k = key
  · subst hk
    simp
  · simp [hk, AList.lookup_insert_ne hk]

theorem View.ofDicts_finish {ε α : Type*} (group : Dict κ ℕ) (results : Dict ℕ (Except ε α))
    (next id : ℕ) (key : κ) (r : Except ε α) :
    View.ofDicts (if group.lookup key = some id then group.erase key else group)
        (results.insert id r) next =
      (View.ofDicts group results next).finish id key r.isOk := by
  simp only [View.ofDicts, View.finish, View.mk.injEq, and_true]
  constructor
  · by_cases hg : group.lookup key = some id
    · simp only [hg, if_true]
      funext k
      by_cases hk : k = key
      · subst hk
        simp
      · simp [hk, AList.lookup_erase_ne hk]
    · simp only [hg, if_false]
  · funext f
    by_cases hf : f = id
    · subst hf
      simp
    · simp [hf, AList.lookup_insert_ne hf]

/-- One move, with the flight it creates. `refuses` is the check. -/
inductive Move (refuses : κ → Bool → Prop) (v : View κ) :
    Role κ → View κ → Role κ → Option (Role κ) → Prop
  | other : Move refuses v .other v .other none
  | start (key : κ) (lax : Bool) : Move refuses v .other v (.caller key lax .seeking) none
  | quit (key : κ) (lax : Bool) : Move refuses v .other v (.caller key lax .failed) none
  | leave (key : κ) (lax : Bool) (phase : CallerPhase) :
      Move refuses v (.caller key lax phase) v .other none
  | miss (key : κ) (lax : Bool) :
      Move refuses v (.caller key lax .seeking) v (.caller key lax .seeking) none
  | hit (key : κ) (lax : Bool) (h : ¬ refuses key lax) :
      Move refuses v (.caller key lax .seeking) v (.caller key lax .served) none
  | join (key : κ) (lax : Bool) (flight : ℕ) (h : v.group key = some flight) :
      Move refuses v (.caller key lax .seeking) v (.caller key lax (.waiting flight)) none
  | create (key : κ) (lax : Bool) (h : v.group key = none) :
      Move refuses v (.caller key lax .seeking) (v.create key) (.caller key lax (.waiting v.next))
        (some (.flight v.next key lax .checking))
  | got (key : κ) (lax : Bool) (flight : ℕ) (h : v.outcome flight = some true) :
      Move refuses v (.caller key lax (.waiting flight)) v (.caller key lax .served) none
  | failed (key : κ) (lax : Bool) (flight : ℕ) :
      Move refuses v (.caller key lax (.waiting flight)) v (.caller key lax .failed) none
  | found (id : ℕ) (key : κ) (lax : Bool) (h : ¬ refuses key lax) :
      Move refuses v (.flight id key lax .checking) v (.flight id key lax (.delivering true)) none
  | refused (id : ℕ) (key : κ) (lax : Bool) :
      Move refuses v (.flight id key lax .checking) v (.flight id key lax (.delivering false)) none
  | send (id : ℕ) (key : κ) (lax : Bool) (h : ¬ refuses key lax) :
      Move refuses v (.flight id key lax .checking) v (.flight id key lax .fetching) none
  | answer (id : ℕ) (key : κ) (lax found : Bool) :
      Move refuses v (.flight id key lax .fetching) v (.flight id key lax (.delivering found)) none
  | store (id : ℕ) (key : κ) (lax found : Bool) :
      Move refuses v (.flight id key lax (.delivering found)) v
        (.flight id key lax (.delivering found)) none
  | finish (id : ℕ) (key : κ) (lax found : Bool) :
      Move refuses v (.flight id key lax (.delivering found)) (v.finish id key found)
        (.flight id key lax .ended) none

section Invariant

variable (refuses : κ → Bool → Prop)

/-- Flights are numbered in order, and one that may be joined has not ended. -/
structure View.Numbered (v : View κ) : Prop where
  outcomes : ∀ f, v.outcome f ≠ none → f < v.next
  groups : ∀ key f, v.group key = some f → f < v.next ∧ v.outcome f = none

/-- What a refused caller or flight has come to: nothing. -/
def Role.Fruitless (v : View κ) : Role κ → Prop
  | .other => True
  | .caller key lax phase => refuses key lax → phase ≠ .served ∧
      ∀ f, phase = .waiting f → f < v.next ∧ v.outcome f ≠ some true
  | .flight id key lax phase => id < v.next ∧ (∀ key', v.group key' = some id → key' = key) ∧
      (refuses key lax → phase ≠ .fetching ∧ phase ≠ .delivering true)

/-- A refused caller waits for refused flights of its key. -/
def Role.Beside : Role κ → Role κ → Prop
  | .caller key lax (.waiting f), .flight id key' lax' _ =>
      refuses key lax → id = f → key' = key ∧ refuses key' lax'
  | _, _ => True

/-- Both ways. -/
def Role.Apart (r r' : Role κ) : Prop := r.Beside refuses r' ∧ r'.Beside refuses r

end Invariant

theorem View.group_create {v : View κ} {key k : κ} {f : ℕ} (h : (v.create key).group k = some f) :
    (k = key ∧ f = v.next) ∨ v.group k = some f := by
  by_cases hk : k = key
  · subst hk
    left
    simpa [View.create, eq_comm] using h
  · right
    simpa [View.create, hk] using h

theorem View.group_finish {v : View κ} {id : ℕ} {key k : κ} {found : Bool} {f : ℕ}
    (h : (v.finish id key found).group k = some f) :
    v.group k = some f ∧ ¬ (k = key ∧ f = id) := by
  simp only [View.finish] at h
  split at h
  · rename_i hid
    by_cases hk : k = key
    · simp [hk] at h
    · exact ⟨by simpa [hk] using h, fun hh => hk hh.1⟩
  · rename_i hid
    refine ⟨h, ?_⟩
    rintro ⟨rfl, rfl⟩
    exact hid h

section Step

variable {refuses : κ → Bool → Prop} {v v' : View κ} {r r' y : Role κ} {z : Option (Role κ)}

theorem Move.numbered (h : Move refuses v r v' r' z) (hv : v.Numbered)
    (hr : r.Fruitless refuses v) : v'.Numbered := by
  cases h with
  | create key lax hfree =>
      refine ⟨fun f hf => ?_, fun k f hf => ?_⟩
      · have hlt := hv.outcomes f hf
        show f < v.next + 1
        omega
      · show f < v.next + 1 ∧ v.outcome f = none
        obtain ⟨-, rfl⟩ | hold := View.group_create hf
        · refine ⟨by omega, ?_⟩
          by_contra hsome
          have hlt := hv.outcomes v.next hsome
          omega
        · obtain ⟨hlt, hnone⟩ := hv.groups k f hold
          exact ⟨by omega, hnone⟩
  | finish id key lax found =>
      obtain ⟨hid, hkey, -⟩ := hr
      refine ⟨fun f hf => ?_, fun k f hf => ?_⟩
      · by_cases hfid : f = id
        · exact hfid ▸ hid
        · refine hv.outcomes f ?_
          simpa [View.finish, hfid] using hf
      · obtain ⟨hold, hne⟩ := View.group_finish hf
        obtain ⟨hlt, hnone⟩ := hv.groups k f hold
        have hfid : f ≠ id := by
          rintro rfl
          exact hne ⟨hkey k hold, rfl⟩
        exact ⟨hlt, by simpa [View.finish, hfid] using hnone⟩
  | _ => exact hv

/-- The moving task and the flight it creates. -/
theorem Move.fruitless (h : Move refuses v r v' r' z) (hv : v.Numbered)
    (hr : r.Fruitless refuses v) :
    r'.Fruitless refuses v' ∧ ∀ y, z = some y → y.Fruitless refuses v' ∧ y.Apart refuses r' := by
  have hnone : ∀ y, (none : Option (Role κ)) = some y → y.Fruitless refuses v' ∧
      y.Apart refuses r' := by
    intro y hy
    cases hy
  cases h with
  | other => exact ⟨trivial, hnone⟩
  | start key lax => exact ⟨fun _ => ⟨by simp, fun f hf => by cases hf⟩, hnone⟩
  | quit key lax => exact ⟨fun _ => ⟨by simp, fun f hf => by cases hf⟩, hnone⟩
  | leave key lax phase => exact ⟨trivial, hnone⟩
  | miss key lax => exact ⟨hr, hnone⟩
  | hit key lax hnot => exact ⟨fun href => absurd href hnot, hnone⟩
  | join key lax flight hg =>
      refine ⟨fun _ => ⟨by simp, fun f hf => ?_⟩, hnone⟩
      cases hf
      obtain ⟨hlt, hout⟩ := hv.groups key flight hg
      exact ⟨hlt, by simp [hout]⟩
  | create key lax hfree =>
      have hfresh : v.outcome v.next = none := by
        by_contra hsome
        have hlt := hv.outcomes v.next hsome
        omega
      refine ⟨fun _ => ⟨by simp, fun f hf => ?_⟩, fun y hy => ?_⟩
      · cases hf
        exact ⟨Nat.lt_succ_self _, by simp [View.create, hfresh]⟩
      · cases hy
        refine ⟨⟨Nat.lt_succ_self _, fun k hk => ?_, fun _ => by simp⟩, trivial,
          fun href _ => ⟨rfl, href⟩⟩
        obtain ⟨rfl, -⟩ | hold := View.group_create hk
        · rfl
        · have hlt := (hv.groups k v.next hold).1
          omega
  | got key lax flight ho =>
      refine ⟨fun href => ?_, hnone⟩
      exact absurd ho ((hr href).2 flight rfl).2
  | failed key lax flight => exact ⟨fun _ => ⟨by simp, fun f hf => by cases hf⟩, hnone⟩
  | found id key lax hnot => exact ⟨⟨hr.1, hr.2.1, fun href => absurd href hnot⟩, hnone⟩
  | refused id key lax => exact ⟨⟨hr.1, hr.2.1, fun _ => by simp⟩, hnone⟩
  | send id key lax hnot => exact ⟨⟨hr.1, hr.2.1, fun href => absurd href hnot⟩, hnone⟩
  | answer id key lax found =>
      exact ⟨⟨hr.1, hr.2.1, fun href => absurd rfl (hr.2.2 href).1⟩, hnone⟩
  | store id key lax found => exact ⟨hr, hnone⟩
  | finish id key lax found =>
      refine ⟨⟨hr.1, fun k hk => ?_, fun _ => by simp⟩, hnone⟩
      exact hr.2.1 k (View.group_finish hk).1

/-- Another task. The condition: a refused caller joins only refused flights. -/
theorem Move.other_fruitless (h : Move refuses v r v' r' z)
    (hr : r.Fruitless refuses v) (hy : y.Fruitless refuses v) (hry : r.Apart refuses y) :
    y.Fruitless refuses v' := by
  cases h with
  | create key lax hfree =>
      cases y with
      | other => trivial
      | caller k l phase =>
          intro href
          obtain ⟨hserved, hwait⟩ := hy href
          refine ⟨hserved, fun f hf => ?_⟩
          obtain ⟨hlt, hout⟩ := hwait f hf
          exact ⟨by show f < v.next + 1; omega, hout⟩
      | flight id k l phase =>
          obtain ⟨hid, hkey, href⟩ := hy
          refine ⟨by show id < v.next + 1; omega, fun k' hk' => ?_, href⟩
          obtain ⟨-, rfl⟩ | hold := View.group_create hk'
          · omega
          · exact hkey k' hold
  | finish id key lax found =>
      cases y with
      | other => trivial
      | caller k l phase =>
          intro href
          obtain ⟨hserved, hwait⟩ := hy href
          refine ⟨hserved, fun f hf => ?_⟩
          obtain ⟨hlt, hout⟩ := hwait f hf
          refine ⟨hlt, ?_⟩
          by_cases hfid : f = id
          · subst hfid hf
            obtain ⟨rfl, href'⟩ := hry.2 href rfl
            have hfound : found ≠ true := by
              rintro rfl
              exact (hr.2.2 href').2 rfl
            simpa [View.finish] using hfound
          · simpa [View.finish, hfid] using hout
      | flight id' k l phase =>
          obtain ⟨hid, hkey, href⟩ := hy
          exact ⟨hid, fun k' hk' => hkey k' (View.group_finish hk').1, href⟩
  | _ => exact hy

omit [DecidableEq κ] in
theorem apart_other (y : Role κ) : Role.Apart refuses .other y := by
  cases y with
  | caller k l phase => cases phase <;> exact ⟨trivial, trivial⟩
  | _ => exact ⟨trivial, trivial⟩

omit [DecidableEq κ] in
/-- A caller that does not wait is beside every task. -/
theorem apart_caller {key : κ} {lax : Bool} {phase : CallerPhase} (hphase : ∀ f, phase ≠ .waiting f)
    (y : Role κ) : Role.Apart refuses (.caller key lax phase) y := by
  cases phase with
  | waiting f => exact absurd rfl (hphase f)
  | _ =>
      cases y with
      | caller k l phase => cases phase <;> exact ⟨trivial, trivial⟩
      | _ => exact ⟨trivial, trivial⟩

omit [DecidableEq κ] in
/-- The phase of a flight does not matter to its neighbours. -/
theorem apart_flight {id : ℕ} {key : κ} {lax : Bool} {phase phase' : FlightPhase} {y : Role κ}
    (h : Role.Apart refuses (.flight id key lax phase) y) :
    Role.Apart refuses (.flight id key lax phase') y := by
  cases y with
  | caller k l p =>
      cases p with
      | waiting f => exact ⟨trivial, h.2⟩
      | _ => exact ⟨trivial, trivial⟩
  | _ => exact ⟨trivial, trivial⟩

omit [DecidableEq κ] in
/-- A caller waits beside every task when the flights of that number are of its key
and refused. -/
theorem apart_waiting {key : κ} {lax : Bool} {f : ℕ} {y : Role κ}
    (h : refuses key lax → ∀ id key' lax' phase, y = .flight id key' lax' phase → id = f →
      key' = key ∧ refuses key' lax') :
    Role.Apart refuses (.caller key lax (.waiting f)) y := by
  cases y with
  | other => exact ⟨trivial, trivial⟩
  | caller k l p => cases p <;> exact ⟨trivial, trivial⟩
  | flight id k l p => exact ⟨fun href hid => h href id k l p rfl hid, trivial⟩

/-- The condition: a refused caller joins only refused flights. -/
theorem Move.apart (h : Move refuses v r v' r' z) (hy : y.Fruitless refuses v)
    (hry : r.Apart refuses y)
    (hjoin : ∀ key lax f, refuses key lax → v.group key = some f → r = .caller key lax .seeking →
      r' = .caller key lax (.waiting f) →
      ∀ lax' phase, y = .flight f key lax' phase → refuses key lax') :
    r'.Apart refuses y ∧ ∀ x, z = some x → x.Apart refuses y := by
  have hnone : ∀ x, (none : Option (Role κ)) = some x → x.Apart refuses y := by
    intro x hx
    cases hx
  cases h with
  | other => exact ⟨hry, hnone⟩
  | start key lax => exact ⟨apart_caller (by simp) y, hnone⟩
  | quit key lax => exact ⟨apart_caller (by simp) y, hnone⟩
  | leave key lax phase => exact ⟨apart_other y, hnone⟩
  | miss key lax => exact ⟨hry, hnone⟩
  | hit key lax hnot => exact ⟨apart_caller (by simp) y, hnone⟩
  | join key lax flight hg =>
      refine ⟨apart_waiting fun href id key' lax' phase hyf hid => ?_, hnone⟩
      subst hyf hid
      obtain rfl : key = key' := hy.2.1 key hg
      exact ⟨rfl, hjoin key lax id href hg rfl rfl lax' phase rfl⟩
  | create key lax hfree =>
      refine ⟨apart_waiting fun href id key' lax' phase hyf hid => ?_, fun x hx => ?_⟩
      · subst hyf
        have hlt := hy.1
        omega
      · cases hx
        cases y with
        | other => exact ⟨trivial, trivial⟩
        | caller k l p =>
            cases p with
            | waiting f =>
                refine ⟨trivial, fun href hid => ?_⟩
                have hlt := ((hy href).2 f rfl).1
                omega
            | _ => exact ⟨trivial, trivial⟩
        | flight id k l p => exact ⟨trivial, trivial⟩
  | got key lax flight ho => exact ⟨apart_caller (by simp) y, hnone⟩
  | failed key lax flight => exact ⟨apart_caller (by simp) y, hnone⟩
  | found id key lax hnot => exact ⟨apart_flight hry, hnone⟩
  | refused id key lax => exact ⟨apart_flight hry, hnone⟩
  | send id key lax hnot => exact ⟨apart_flight hry, hnone⟩
  | answer id key lax found => exact ⟨apart_flight hry, hnone⟩
  | store id key lax found => exact ⟨hry, hnone⟩
  | finish id key lax found => exact ⟨apart_flight hry, hnone⟩

/-- A flight that has not ended goes on, or delivers. -/
theorem Move.live {id : ℕ} {key : κ} {lax : Bool} {phase : FlightPhase}
    (h : Move refuses v (.flight id key lax phase) v' r' z) :
    (∃ phase', r' = .flight id key lax phase' ∧ phase' ≠ .ended ∧ v' = v) ∨
      (v'.outcome id ≠ none ∧ v'.group key ≠ some id) := by
  cases h with
  | finish _ _ _ found =>
      refine .inr ⟨by simp [View.finish], fun hg => ?_⟩
      exact (View.group_finish hg).2 ⟨rfl, rfl⟩
  | _ => exact .inl ⟨_, rfl, by simp, rfl⟩

/-- A flight that may be joined could be joined before, or has just been created. -/
theorem Move.group_cases (h : Move refuses v r v' r' z) {key : κ} {f : ℕ}
    (hg : v'.group key = some f) :
    v.group key = some f ∨ ∃ lax, z = some (.flight f key lax .checking) := by
  cases h with
  | create k lax hfree =>
      obtain ⟨rfl, rfl⟩ | hold := View.group_create hg
      · exact .inr ⟨lax, rfl⟩
      · exact .inl hold
  | finish id k lax found => exact .inl (View.group_finish hg).1
  | _ => exact .inl hg

theorem Move.outcome_mono (h : Move refuses v r v' r' z) {f : ℕ} (hf : v.outcome f ≠ none) :
    v'.outcome f ≠ none := by
  cases h with
  | finish id k lax found =>
      by_cases hfid : f = id
      · simp [View.finish, hfid]
      · simpa [View.finish, hfid] using hf
  | _ => exact hf

/-- Only flights are created. -/
theorem Move.fork_eq {x : Role κ} (h : Move refuses v r v' r' (some x)) :
    ∃ id key lax, x = .flight id key lax .checking := by
  cases h with
  | create key lax hfree => exact ⟨_, key, lax, rfl⟩

/-- A caller that waits after a move has just joined or created its flight. -/
theorem Move.waiting_cases {key : κ} {lax : Bool} {f : ℕ}
    (h : Move refuses v r v' (.caller key lax (.waiting f)) z) :
    v.group key = some f ∨ z = some (.flight f key lax .checking) := by
  cases h with
  | join _ _ _ hg => exact .inl hg
  | create _ _ hfree => exact .inr rfl

end Step

/-- A pool read through a view and roles. -/
structure Reading (σ θ β ε κ : Type*) where
  machine : Machine σ θ β ε
  view : σ → View κ
  role : θ → Role κ

section Pools

variable {σ θ β ε : Type*} (m : Reading σ θ β ε κ) (refuses : κ → Bool → Prop)
  (ok : Pool σ θ → Label β ε → Prop)

/-- The moves of the pool are moves of the group: a spawned task seeks or is none of
the group's business, and a move within the condition is one of the rules, under
which refused callers join refused flights only. -/
structure Reading.Shares : Prop where
  spawn : ∀ s b w x, ok s (.spawn b) → m.machine.spawn s.shared b = some (w, x) →
    m.view w = m.view s.shared ∧
      (m.role x = .other ∨ ∃ key lax, m.role x = .caller key lax .seeking)
  move : ∀ s t e x w x', ok s (.move t e) → s.tasks[t]? = some x →
    m.machine.move s.shared x e = some (w, x') →
    Move refuses (m.view s.shared) (m.role x) (m.view w) (m.role x')
      ((m.machine.fork s.shared x e).map m.role) ∧
    ∀ key lax f, refuses key lax → (m.view s.shared).group key = some f →
      m.role x = .caller key lax .seeking → m.role x' = .caller key lax (.waiting f) →
      ∀ y ∈ s.tasks, ∀ lax' phase, m.role y = .flight f key lax' phase → refuses key lax'

/-- What holds of every pool: refused callers and flights come to nothing. -/
abbrev Reading.Fruitless : Pool σ θ → Prop :=
  Holds (fun w => (m.view w).Numbered) (fun w x => (m.role x).Fruitless refuses (m.view w))
    (fun x y => (m.role x).Apart refuses (m.role y))

/-- A flight of that number is under way. -/
def Reading.Flying (f : ℕ) (key : κ) (s : Pool σ θ) : Prop :=
  ∃ y ∈ s.tasks, ∃ lax phase, m.role y = .flight f key lax phase ∧ phase ≠ .ended

/-- Flights that may be joined are under way, and so are those that are waited for, or
they have delivered. -/
structure Reading.Attended (s : Pool σ θ) : Prop where
  groups : ∀ key f, (m.view s.shared).group key = some f → m.Flying f key s
  waits : ∀ x ∈ s.tasks, ∀ key lax f, m.role x = .caller key lax (.waiting f) →
    (m.view s.shared).outcome f ≠ none ∨ ∃ key', m.Flying f key' s

variable {m refuses ok}

omit [DecidableEq κ] in
theorem apart_symm {x y : Role κ} (h : x.Apart refuses y) : y.Apart refuses x := ⟨h.2, h.1⟩

theorem Reading.Shares.fruitless_step (h : m.Shares refuses ok) (s : Pool σ θ) (l : Label β ε)
    (s' : Pool σ θ) (hs : m.Fruitless refuses s) (hok : ok s l)
    (hstep : m.machine.step s l = some s') : m.Fruitless refuses s' := by
  refine Machine.holds_step_fork ok (fun x y => apart_symm) ?_ ?_ s l s' hs hok hstep
  · intro s b w x hs hok hspawn
    obtain ⟨hview, hrole⟩ := h.spawn s b w x hok hspawn
    refine ⟨hview ▸ hs.shared, ?_, fun j y hy => ⟨hview ▸ hs.each j y hy, ?_⟩⟩
    · obtain hrole | ⟨key, lax, hrole⟩ := hrole
      · rw [hrole]
        trivial
      · rw [hrole]
        exact fun _ => ⟨by simp, fun f hf => by cases hf⟩
    · obtain hrole | ⟨key, lax, hrole⟩ := hrole
      · rw [hrole]
        exact apart_other _
      · rw [hrole]
        exact apart_caller (by simp) _
  · intro s t e x w x' hs hok hx hmove
    obtain ⟨hm, hjoin⟩ := h.move s t e x w x' hok hx hmove
    have hxf := hs.each t x hx
    obtain ⟨hx', hz⟩ := hm.fruitless hs.shared hxf
    have hother (j : ℕ) (y : θ) (hj : j ≠ t) (hy : s.tasks[j]? = some y) :=
      hm.apart (hs.each j y hy) (hs.pair t j x y hj.symm hx hy)
        fun key lax f href hg hr hr' lax' phase hrole =>
          hjoin key lax f href hg hr hr' y (List.mem_of_getElem? hy) lax' phase hrole
    refine ⟨⟨hm.numbered hs.shared hxf, hx', fun j y hj hy => ⟨?_, (hother j y hj hy).1⟩⟩, ?_⟩
    · exact hm.other_fruitless hxf (hs.each j y hy) (hs.pair t j x y hj.symm hx hy)
    · intro z hfork
      have hzrole : (m.machine.fork s.shared x e).map m.role = some (m.role z) := by rw [hfork]; rfl
      obtain ⟨hzf, hzx⟩ := hz (m.role z) hzrole
      exact ⟨hzf, hzx, fun j y hj hy => (hother j y hj hy).2 (m.role z) hzrole⟩

section Move

variable {s : Pool σ θ} {t : ℕ} {e : ε} {x x' : θ} {w : σ} (hx : s.tasks[t]? = some x)
  (hm : Move refuses (m.view s.shared) (m.role x) (m.view w) (m.role x')
    ((m.machine.fork s.shared x e).map m.role))
include hx hm

/-- A flight under way stays so until it delivers. -/
theorem Reading.flying_move {f : ℕ} {key : κ} (h : m.Flying f key s) :
    m.Flying f key ⟨w, s.tasks.set t x' ++ (m.machine.fork s.shared x e).toList⟩ ∨
      ((m.view w).outcome f ≠ none ∧ (m.view w).group key ≠ some f) := by
  obtain ⟨y, hy, lax, phase, hrole, hlive⟩ := h
  obtain ⟨j, hj⟩ := List.mem_iff_getElem?.mp hy
  by_cases hjt : j = t
  · subst hjt
    obtain rfl : x = y := Option.some.inj (hx.symm.trans hj)
    rw [hrole] at hm
    obtain ⟨phase', hrole', hlive', -⟩ | hdone := hm.live
    · exact .inl ⟨x', List.mem_append_left _ (mem_set_self hx), lax, phase', hrole', hlive'⟩
    · exact .inr hdone
  · refine .inl ⟨y, List.mem_append_left _ ?_, lax, phase, hrole, hlive⟩
    have hset : (s.tasks.set t x')[j]? = some y := by rwa [List.getElem?_set_ne (Ne.symm hjt)]
    exact List.mem_of_getElem? hset

omit [DecidableEq κ] hx hm in
/-- A flight that has just been created is under way. -/
theorem Reading.flying_fork {f : ℕ} {key : κ} {lax : Bool}
    (hz : (m.machine.fork s.shared x e).map m.role = some (.flight f key lax .checking)) :
    m.Flying f key ⟨w, s.tasks.set t x' ++ (m.machine.fork s.shared x e).toList⟩ := by
  obtain ⟨z, hfork, hrole⟩ := Option.map_eq_some_iff.mp hz
  refine ⟨z, List.mem_append_right _ ?_, lax, .checking, hrole, by simp⟩
  simp [hfork]

theorem Reading.attended_move (hs : m.Attended s) :
    m.Attended ⟨w, s.tasks.set t x' ++ (m.machine.fork s.shared x e).toList⟩ where
  groups := by
    intro key f hg
    obtain hold | ⟨lax, hz⟩ := hm.group_cases hg
    · obtain hfly | ⟨-, hgone⟩ := Reading.flying_move hx hm (hs.groups key f hold)
      · exact hfly
      · exact absurd hg hgone
    · exact Reading.flying_fork hz
  waits := by
    intro y hy key lax f hrole
    have hkept (hwas : (m.view s.shared).outcome f ≠ none ∨ ∃ key', m.Flying f key' s) :
        (m.view w).outcome f ≠ none ∨
          ∃ key', m.Flying f key' ⟨w, s.tasks.set t x' ++ (m.machine.fork s.shared x e).toList⟩ := by
      obtain hout | ⟨key', hfly⟩ := hwas
      · exact .inl (hm.outcome_mono hout)
      · obtain hfly | ⟨hout, -⟩ := Reading.flying_move hx hm hfly
        · exact .inr ⟨key', hfly⟩
        · exact .inl hout
    obtain hy | hy := List.mem_append.mp hy
    · obtain hy | rfl := List.mem_or_eq_of_mem_set hy
      · exact hkept (hs.waits y hy key lax f hrole)
      · rw [hrole] at hm
        obtain hg | hz := hm.waiting_cases
        · exact hkept (.inr ⟨key, hs.groups key f hg⟩)
        · exact .inr ⟨key, Reading.flying_fork hz⟩
    · have hfork : m.machine.fork s.shared x e = some y := by
        simpa [Option.mem_toList] using hy
      rw [hfork] at hm
      obtain ⟨id, k, l, hflight⟩ := hm.fork_eq
      rw [hrole] at hflight
      cases hflight

end Move

theorem Reading.Shares.attended_step (h : m.Shares refuses ok) (s : Pool σ θ) (l : Label β ε)
    (s' : Pool σ θ) (hs : m.Attended s) (hok : ok s l) (hstep : m.machine.step s l = some s') :
    m.Attended s' := by
  cases l with
  | spawn b =>
      obtain ⟨w, x, hspawn, rfl⟩ := Machine.step_spawn hstep
      obtain ⟨hview, hrole⟩ := h.spawn s b w x hok hspawn
      have hfly {f : ℕ} {key : κ} (hf : m.Flying f key s) : m.Flying f key ⟨w, s.tasks ++ [x]⟩ := by
        obtain ⟨y, hy, hrest⟩ := hf
        exact ⟨y, List.mem_append_left _ hy, hrest⟩
      refine ⟨fun key f hg => hfly (hs.groups key f (hview ▸ hg)), fun y hy key lax f hwait => ?_⟩
      obtain hy | hy := List.mem_append.mp hy
      · obtain hout | ⟨key', hf⟩ := hs.waits y hy key lax f hwait
        · exact .inl (hview ▸ hout)
        · exact .inr ⟨key', hfly hf⟩
      · obtain rfl : y = x := by simpa using hy
        rw [hwait] at hrole
        obtain hrole | ⟨k, l, hrole⟩ := hrole <;> cases hrole
  | move t e =>
      obtain ⟨x, w, x', hx, hmove, rfl⟩ := Machine.step_move_fork hstep
      exact Reading.attended_move hx (h.move s t e x w x' hok hx hmove).1 hs

/-- The steps of a system around the pool: a step of the pool within the condition, or
one that changes neither the tasks nor what is read of the shared state. -/
structure Reading.Surrounds {ℓ : Type*} (m : Reading σ θ β ε κ)
    (ok : Pool σ θ → Label β ε → Prop) (step : Pool σ θ → ℓ → Option (Pool σ θ))
    (meets : Pool σ θ → ℓ → Prop) : Prop where
  step : ∀ s l s', meets s l → step s l = some s' →
    (∃ l', ok s l' ∧ m.machine.step s l' = some s') ∨
      (s'.tasks = s.tasks ∧ m.view s'.shared = m.view s.shared)

omit [DecidableEq κ] in
theorem Reading.fruitless_congr {s s' : Pool σ θ} (htasks : s'.tasks = s.tasks)
    (hview : m.view s'.shared = m.view s.shared) (hs : m.Fruitless refuses s) :
    m.Fruitless refuses s' where
  shared := hview ▸ hs.shared
  each := by
    intro i x hx
    rw [htasks] at hx
    rw [hview]
    exact hs.each i x hx
  pair := by
    intro i j x y hij hx hy
    rw [htasks] at hx hy
    exact hs.pair i j x y hij hx hy

omit [DecidableEq κ] in
theorem Reading.attended_congr {s s' : Pool σ θ} (htasks : s'.tasks = s.tasks)
    (hview : m.view s'.shared = m.view s.shared) (hs : m.Attended s) : m.Attended s' := by
  have hfly {f : ℕ} {key : κ} (hf : m.Flying f key s) : m.Flying f key s' := by
    unfold Reading.Flying
    rwa [htasks]
  refine ⟨fun key f hg => hfly (hs.groups key f (hview ▸ hg)), fun x hx key lax f hrole => ?_⟩
  rw [htasks] at hx
  obtain hout | ⟨key', hf⟩ := hs.waits x hx key lax f hrole
  · exact .inl (hview ▸ hout)
  · exact .inr ⟨key', hfly hf⟩

/-- What every state of a run within the condition satisfies. -/
structure Reading.Settled (m : Reading σ θ β ε κ) (refuses : κ → Bool → Prop) (s : Pool σ θ) :
    Prop where
  fruitless : m.Fruitless refuses s
  attended : m.Attended s

omit [DecidableEq κ] in
/-- A pool without tasks and flights. -/
theorem Reading.settled_idle {s : Pool σ θ} (hview : (m.view s.shared).Numbered)
    (hgroups : ∀ key, (m.view s.shared).group key = none) (hidle : s.tasks = []) :
    m.Settled refuses s := by
  refine ⟨Holds.of_idle hview hidle, fun key f hg => ?_, fun x hx => ?_⟩
  · rw [hgroups key] at hg
    cases hg
  · rw [hidle] at hx
    cases hx

/-- Steps of the system keep it. -/
theorem Reading.Shares.settled_step {ℓ : Type*} {step : Pool σ θ → ℓ → Option (Pool σ θ)}
    {meets : Pool σ θ → ℓ → Prop} (h : m.Shares refuses ok) (hsys : m.Surrounds ok step meets)
    {s s' : Pool σ θ} {l : ℓ} (hs : m.Settled refuses s) (hm : meets s l)
    (hl : step s l = some s') : m.Settled refuses s' := by
  obtain ⟨l', hl', hstep⟩ | ⟨htasks, hview⟩ := hsys.step s l s' hm hl
  · exact ⟨h.fruitless_step s l' s' hs.fruitless hl' hstep,
      h.attended_step s l' s' hs.attended hl' hstep⟩
  · exact ⟨Reading.fruitless_congr htasks hview hs.fruitless,
      Reading.attended_congr htasks hview hs.attended⟩

/-- A refused caller is not served, and the flight it waits for has delivered an error
or is about to, without a fetch. -/
structure Reading.TurnedAway (m : Reading σ θ β ε κ) (refuses : κ → Bool → Prop) (s : Pool σ θ)
    (key : κ) (phase : CallerPhase) : Prop where
  unserved : phase ≠ .served
  unfetched : ∀ f, phase = .waiting f → (m.view s.shared).outcome f = some false ∨
    ∃ y ∈ s.tasks, ∃ lax, refuses key lax ∧ (m.role y = .flight f key lax .checking ∨
      m.role y = .flight f key lax (.delivering false))

omit [DecidableEq κ] in
theorem Reading.Settled.turnedAway {s : Pool σ θ} (h : m.Settled refuses s) {x : θ}
    (hx : x ∈ s.tasks) {key : κ} {lax : Bool} {phase : CallerPhase}
    (hrole : m.role x = .caller key lax phase) (href : refuses key lax) :
    m.TurnedAway refuses s key phase := by
  obtain ⟨hs, ha⟩ := h
  obtain ⟨i, hi⟩ := List.mem_iff_getElem?.mp hx
  have hxf := hs.each i x hi
  rw [hrole] at hxf
  obtain ⟨hunserved, hwait⟩ := hxf href
  refine ⟨hunserved, fun f hf => ?_⟩
  subst hf
  obtain hout | ⟨key', y, hy, lax', phase', hyrole, hlive⟩ := ha.waits x hx key lax f hrole
  · left
    have hnot := (hwait f rfl).2
    cases hb : (m.view s.shared).outcome f with
    | none => exact absurd hb hout
    | some b =>
        cases b with
        | false => rfl
        | true => exact absurd hb hnot
  · right
    obtain ⟨j, hj⟩ := List.mem_iff_getElem?.mp hy
    have hij : i ≠ j := by
      rintro rfl
      obtain rfl : x = y := Option.some.inj (hi.symm.trans hj)
      rw [hrole] at hyrole
      cases hyrole
    have hpair := (hs.pair i j x y hij hi hj).1
    rw [hrole, hyrole] at hpair
    obtain ⟨rfl, href'⟩ := hpair href rfl
    have hyf := hs.each j y hj
    rw [hyrole] at hyf
    obtain ⟨hnofetch, hnofind⟩ := hyf.2.2 href'
    refine ⟨y, hy, lax', href', ?_⟩
    rw [hyrole]
    cases phase' with
    | checking => exact .inl rfl
    | fetching => exact absurd rfl hnofetch
    | delivering found =>
        cases found with
        | false => exact .inr rfl
        | true => exact absurd rfl hnofind
    | ended => exact absurd rfl hlive

end Pools

end IdentityModel.SharedFetch
