import IdentityModel.SharedFetch
import IdentityModel.GoClear
import IdentityModel.GoDiscovery

/-!
# HTTPS in the Go packages

`WithInsecureAllowHTTP` is an option of the call, but `fetchAndParse` and
`fetchAndValidate` check it inside the flight, and the caches and flights of the two
packages are shared by callers with and without the option. Both packages are read as
shared fetches: a call without the option for a URI that is not https is turned away
in every run in which neither it nor its flight finds the URI cached, and in which it
joins no flight that was created with the option.
-/
namespace IdentityModel.GoJwks

open Runs Tasks TtlCache SharedFetch

def step (lib : Library) (s : State) : ClearLabel → Option State
  | .client l => (client lib).step s l
  | .clearCache => some (clearStep s)

/-- The URI `fetchAndParse` looks at is not https. -/
def plain (lib : Library) (jwksURI : String) : Bool :=
  match lib.urlScheme (trimSpace jwksURI) with
  | .ok scheme => scheme ≠ "https"
  | .error _ => true

/-- What `WithInsecureAllowHTTP` is for. -/
def refuses (lib : Library) (uri : String) (allowHTTP : Bool) : Prop :=
  allowHTTP = false ∧ plain lib uri = true

instance (lib : Library) (uri : String) (allowHTTP : Bool) :
    Decidable (refuses lib uri allowHTTP) :=
  inferInstanceAs (Decidable (_ ∧ _))

/-- A flight of that number and URI, created with the option. -/
def Proc.flightAllowsHTTP (f : ℕ) (uri : String) : Proc → Bool
  | .flight id uri' cfg _ _ => id = f && uri' = uri && cfg.allowHTTP
  | .caller .. => false

/-- The condition on one step: a call or a flight that refuses its URI does not find it
cached, and does not join a flight that was created with the option. -/
def apart (lib : Library) (s : State) : ClearLabel → Bool
  | .client (.move t e) =>
      match s.tasks[t]? with
      | some (.caller uri cfg (.lookup _)) =>
          !decide (refuses lib uri cfg.allowHTTP) || (s.shared.cache.get uri e.now).2.isNone
      | some (.flight _ uri cfg _ .recheck) =>
          !decide (refuses lib uri cfg.allowHTTP) || (s.shared.cache.get uri e.now).2.isNone
      | some (.caller uri cfg (.doChan _)) =>
          !decide (refuses lib uri cfg.allowHTTP) ||
            match s.shared.group.lookup uri with
            | some f => s.tasks.all fun y => !y.flightAllowsHTTP f uri
            | none => true
      | _ => true
  | _ => true

def Shared.view (w : Shared) : View String := .ofDicts w.group w.results w.nextFlight

def CallerPc.phase : CallerPc → Option CallerPhase
  | .lookup _ | .doChan _ => some .seeking
  | .wait _ f => some (.waiting f)
  | .done (.handle _) => some .served
  | .done (.error _) => some .failed
  | _ => none

def FlightPc.phase : FlightPc → FlightPhase
  | .recheck => .checking
  | .request _ => .fetching
  | .store _ => .delivering true
  | .finish r => .delivering r.isOk
  | .ended => .ended

def Proc.role : Proc → Role String
  | .caller uri cfg pc =>
      match pc.phase with
      | some phase => .caller uri cfg.allowHTTP phase
      | none => .other
  | .flight id uri cfg _ pc => .flight id uri cfg.allowHTTP pc.phase

def reading (lib : Library) :
    Reading Shared Proc Call Event String where
  machine := client lib
  view := Shared.view
  role := Proc.role

section Effect

variable {lib : Library} {w w' : Shared} {uri : String} {cfg : Config}
  {act : Act}

theorem refuses_uriError (h : refuses lib uri cfg.allowHTTP) :
    uriError lib cfg uri ≠ none := by
  obtain ⟨hallow, hplain⟩ := h
  simp only [uriError, plain] at hplain ⊢
  split
  · simp
  · cases hs : lib.urlScheme (trimSpace uri) with
    | error err => simp
    | ok scheme =>
        simp only [hs, decide_eq_true_eq] at hplain
        simp [hplain, hallow]

/-- A caller's operation as a move, with the flight it creates. -/
theorem CallerStep.shared_move {pc pc' : CallerPc} (h : CallerStep w uri cfg pc act w' pc')
    (hmiss : ∀ why, pc = .lookup why → refuses lib uri cfg.allowHTTP →
      (w.cache.get uri w.now).2 = none) :
    Move (refuses lib) w.view (Proc.role (.caller uri cfg pc)) w'.view
      (Proc.role (.caller uri cfg pc'))
      ((forkFlight w (.caller uri cfg pc) act).map Proc.role) := by
  cases h with
  | resolved hd kid k => exact .other
  | missed hd kid => exact .other
  | throttled hd kid ht => exact .quit uri cfg.allowHTTP
  | passed hd kid ht => exact .other
  | invalidate hd kid began => exact .start uri cfg.allowHTTP
  | hitFetch keys hget =>
      refine .hit uri cfg.allowHTTP fun href => ?_
      rw [hmiss .fetch rfl href] at hget
      cases hget
  | hitRefresh hd kid began keys hget => exact .leave uri cfg.allowHTTP .seeking
  | miss why hget => exact .miss uri cfg.allowHTTP
  | joined why flight hg =>
      have hfork : forkFlight w (.caller uri cfg (.doChan why)) .run = none := by
        simp only [forkFlight, hg]
      rw [hfork]
      exact .join uri cfg.allowHTTP flight hg
  | created why hg =>
      have hfork : forkFlight w (.caller uri cfg (.doChan why)) .run =
          some (.flight w.nextFlight uri cfg why.kidMiss .recheck) := by
        simp only [forkFlight, hg]
      have hview : Shared.view { w with
          group := w.group.insert uri w.nextFlight, nextFlight := w.nextFlight + 1 } =
          w.view.create uri := View.ofDicts_create w.group w.results w.nextFlight uri
      rw [hfork, hview]
      exact .create uri cfg.allowHTTP hg
  | gotFetch flight keys hr =>
      refine .got uri cfg.allowHTTP flight ?_
      simp [Shared.view, View.ofDicts, hr, Except.isOk, Except.toBool]
  | gotRefresh hd kid began flight keys hr => exact .leave uri cfg.allowHTTP (.waiting flight)
  | gotError why flight e hr => exact .failed uri cfg.allowHTTP flight
  | ctxDone why flight err => exact .failed uri cfg.allowHTTP flight
  | mark hd kid began keys => exact .other
  | assign hd kid began keys => cases kid <;> exact .other
  | retried hd kid out hout =>
      obtain ⟨k, rfl⟩ | rfl := hout
      · exact .other
      · exact .quit uri cfg.allowHTTP

theorem FlightStep.shared_move {id : ℕ} {kidMiss : Bool} {pc pc' : FlightPc}
    (h : FlightStep lib w id uri cfg kidMiss pc act w' pc')
    (hmiss : pc = .recheck → refuses lib uri cfg.allowHTTP →
      (w.cache.get uri w.now).2 = none) :
    Move (refuses lib) w.view (Proc.role (.flight id uri cfg kidMiss pc)) w'.view
      (Proc.role (.flight id uri cfg kidMiss pc')) none := by
  cases h with
  | hit keys hget =>
      refine .found id uri cfg.allowHTTP fun href => ?_
      rw [hmiss rfl href] at hget
      cases hget
  | refused e he => exact .refused id uri cfg.allowHTTP
  | send he => exact .send id uri cfg.allowHTTP fun href => refuses_uriError href he
  | answered started keys => exact .answer id uri cfg.allowHTTP true
  | failed started e => exact .answer id uri cfg.allowHTTP false
  | store keys => exact .store id uri cfg.allowHTTP true
  | finish r =>
      have hview : Shared.view { w with
          group := if w.group.lookup uri = some id then w.group.erase uri else w.group
          results := w.results.insert id r } = w.view.finish id uri r.isOk :=
        View.ofDicts_finish w.group w.results w.nextFlight id uri r
      rw [hview]
      exact .finish id uri cfg.allowHTTP r.isOk

end Effect

theorem forkFlight_now (w : Shared) (now : ℕ) (x : Proc) (act : Act) :
    forkFlight { w with now := now } x act = forkFlight w x act := by
  cases x with
  | caller uri cfg pc => cases pc <;> cases act <;> rfl
  | flight id uri cfg kidMiss pc => rfl

section Condition

variable {lib : Library} {s : State} {t : ℕ} {e : Event} {uri : String}
  {cfg : Config} (h : apart lib s (.client (.move t e)) = true)
  (href : refuses lib uri cfg.allowHTTP)
include h href

theorem apart_lookup {why : Why} (hx : s.tasks[t]? = some (.caller uri cfg (.lookup why))) :
    (s.shared.cache.get uri e.now).2 = none := by
  simpa [apart, hx, href] using h

theorem apart_recheck {id : ℕ} {kidMiss : Bool}
    (hx : s.tasks[t]? = some (.flight id uri cfg kidMiss .recheck)) :
    (s.shared.cache.get uri e.now).2 = none := by
  simpa [apart, hx, href] using h

theorem apart_doChan {why : Why} {f : ℕ}
    (hx : s.tasks[t]? = some (.caller uri cfg (.doChan why)))
    (hg : s.shared.group.lookup uri = some f) {y : Proc} (hy : y ∈ s.tasks) :
    y.flightAllowsHTTP f uri = false := by
  have hall := h
  simp only [apart, hx, href, hg, decide_true, Bool.not_true, Bool.false_or, List.all_eq_true] at hall
  simpa using hall y hy

end Condition

theorem Proc.role_caller {x : Proc} {uri : String} {allowHTTP : Bool} {phase : CallerPhase}
    (h : x.role = .caller uri allowHTTP phase) :
    ∃ cfg pc, x = .caller uri cfg pc ∧ cfg.allowHTTP = allowHTTP ∧ pc.phase = some phase := by
  cases x with
  | flight id uri' cfg kidMiss pc => cases h
  | caller uri' cfg pc =>
      simp only [Proc.role] at h
      split at h
      · rename_i p hp
        cases h
        exact ⟨cfg, pc, rfl, rfl, hp⟩
      · cases h

theorem Proc.role_flight {x : Proc} {id : ℕ} {uri : String} {allowHTTP : Bool}
    {phase : FlightPhase} (h : x.role = .flight id uri allowHTTP phase) :
    ∃ cfg kidMiss pc, x = .flight id uri cfg kidMiss pc ∧ cfg.allowHTTP = allowHTTP ∧
      pc.phase = phase := by
  cases x with
  | flight id' uri' cfg kidMiss pc =>
      cases h
      exact ⟨cfg, kidMiss, pc, rfl, rfl, rfl⟩
  | caller uri' cfg pc =>
      simp only [Proc.role] at h
      split at h <;> cases h

theorem CallerStep.seeking_waits {w w' : Shared} {uri : String} {cfg : Config} {act : Act}
    {pc pc' : CallerPc} {f : ℕ} (h : CallerStep w uri cfg pc act w' pc')
    (hseek : pc.phase = some .seeking) (hwait : pc'.phase = some (.waiting f)) :
    ∃ why, pc = .doChan why := by
  cases h with
  | joined why flight hj => exact ⟨why, rfl⟩
  | created why hj => exact ⟨why, rfl⟩
  | _ => first | cases hwait | cases hseek

theorem reading_shares (lib : Library) :
    (reading lib).Shares (refuses lib)
      (fun s l => apart lib s (.client l) = true) where
  spawn := by
    intro s call w x _ hspawn
    obtain ⟨hstart, rfl⟩ := client_spawn hspawn
    refine ⟨rfl, ?_⟩
    cases call with
    | fetchKeySet uri cfg =>
        cases hstart
        exact .inr ⟨uri, cfg.allowHTTP, rfl⟩
    | forceRefresh hd =>
        obtain ⟨set, -, rfl⟩ := Option.map_eq_some_iff.mp hstart
        exact .inl rfl
    | resolveKeyWithRefresh hd kid =>
        obtain ⟨set, -, rfl⟩ := Option.map_eq_some_iff.mp hstart
        exact .inl rfl
  move := by
    intro s t e x w x' hok hx hmove
    obtain ⟨-, v, hadv, rfl⟩ := client_move hmove
    have hfork : (reading lib).machine.fork s.shared x e =
        forkFlight { s.shared with now := e.now } x e.act := (forkFlight_now _ _ _ _).symm
    refine ⟨?_, fun key lax f href hg hr hr' y hy lax' phase hrole => ?_⟩
    · rw [hfork]
      cases hadv with
      | caller h =>
          refine h.shared_move fun why hpc href => ?_
          subst hpc
          exact apart_lookup hok href hx
      | flight h =>
          refine h.shared_move fun hpc href => ?_
          subst hpc
          exact apart_recheck hok href hx
    · obtain ⟨cfg, pc, rfl, rfl, hseek⟩ := Proc.role_caller hr
      obtain ⟨cfg', kidMiss, pc', rfl, rfl, -⟩ := Proc.role_flight hrole
      cases hadv with
      | caller h =>
          have hrole' : Proc.role (.caller key cfg _) = .caller key cfg.allowHTTP (.waiting f) := hr'
          obtain ⟨_, _, hx', -, hwait⟩ := Proc.role_caller hrole'
          cases hx'
          obtain ⟨why, rfl⟩ := h.seeking_waits hseek hwait
          have hnot := apart_doChan hok href hx hg hy
          refine ⟨?_, href.2⟩
          simpa [Proc.flightAllowsHTTP] using hnot

theorem reading_surrounds (lib : Library) :
    (reading lib).Surrounds (fun s l => apart lib s (.client l) = true)
      (step lib) (fun s l => apart lib s l = true) where
  step := by
    intro s l s' hok hstep
    cases l with
    | client l => exact .inl ⟨l, hok, hstep⟩
    | clearCache =>
        cases hstep
        exact .inr ⟨rfl, rfl⟩

/-- An operation of `FetchKeySet`, or a result it can have. -/
def CallerPc.ofFetch : CallerPc → Bool
  | .lookup .fetch | .doChan .fetch | .wait .fetch _ | .done (.handle _) | .done (.error _) => true
  | _ => false

/-- Nothing was handed out for a refused URI: there is no handle to refresh. -/
structure Unhandled (lib : Library) (s : State) : Prop where
  handles : ∀ set ∈ s.shared.handles, ¬ refuses lib set.uri set.cfg.allowHTTP
  calls : ∀ uri cfg pc, .caller uri cfg pc ∈ s.tasks → refuses lib uri cfg.allowHTTP →
    pc.ofFetch = true

section Handles

variable {lib : Library} {w w' : Shared} {uri : String} {cfg : Config}
  {act : Act}

theorem CallerStep.ofFetch {pc pc' : CallerPc} (h : CallerStep w uri cfg pc act w' pc')
    (hpc : pc.ofFetch = true) : pc'.ofFetch = true := by
  cases h with
  | miss why hget => cases why <;> first | rfl | cases hpc
  | joined why flight hg => cases why <;> first | rfl | cases hpc
  | created why hg => cases why <;> first | rfl | cases hpc
  | _ => first | rfl | cases hpc

/-- A handle keeps its URI and its options; a new one is the result of a call. -/
theorem Advance.handles_cases {x x' : Proc} (h : Advance lib w x act w' x')
    {set : JSONWebKeySet} (hset : set ∈ w'.handles) :
    (∃ old ∈ w.handles, old.uri = set.uri ∧ old.cfg = set.cfg) ∨
      ∃ n, x' = .caller set.uri set.cfg (.done (.handle n)) := by
  have hsame (hw : w'.handles = w.handles) :
      ∃ old ∈ w.handles, old.uri = set.uri ∧ old.cfg = set.cfg := ⟨set, hw ▸ hset, rfl, rfl⟩
  have hnew {uri : String} {cfg : Config} {keys : Obtained}
      (hw : w'.handles = w.handles ++ [⟨keys, uri, cfg⟩]) :
      (∃ old ∈ w.handles, old.uri = set.uri ∧ old.cfg = set.cfg) ∨
        set.uri = uri ∧ set.cfg = cfg := by
    rw [hw] at hset
    obtain hold | hlast := List.mem_append.mp hset
    · exact .inl ⟨set, hold, rfl, rfl⟩
    · obtain rfl : set = ⟨keys, uri, cfg⟩ := by simpa using hlast
      exact .inr ⟨rfl, rfl⟩
  cases h with
  | flight h => cases h <;> exact .inl (hsame rfl)
  | caller h =>
      cases h with
      | hitFetch keys hget =>
          obtain hold | ⟨hu, hc⟩ := hnew rfl
          · exact .inl hold
          · exact .inr ⟨_, by rw [hu, hc]⟩
      | gotFetch flight keys hr =>
          obtain hold | ⟨hu, hc⟩ := hnew rfl
          · exact .inl hold
          · exact .inr ⟨_, by rw [hu, hc]⟩
      | assign hd kid began keys =>
          left
          obtain ⟨i, hi⟩ := List.mem_iff_getElem?.mp hset
          simp only [assignStep, List.getElem?_modify] at hi
          obtain ⟨old, hold, rfl⟩ := Option.map_eq_some_iff.mp hi
          refine ⟨old, List.mem_of_getElem? hold, ?_⟩
          split <;> exact ⟨rfl, rfl⟩
      | _ => exact .inl (hsame rfl)

end Handles

section Run

variable {lib : Library}

theorem unhandled_spawn {s : State} {call : Call} {w : Shared} {x : Proc}
    (h : Unhandled lib s) (hspawn : (client lib).spawn s.shared call = some (w, x)) :
    Unhandled lib ⟨w, s.tasks ++ [x]⟩ := by
  obtain ⟨hstart, rfl⟩ := client_spawn hspawn
  refine ⟨h.handles, fun uri cfg pc hmem href => ?_⟩
  obtain hmem | hmem := List.mem_append.mp hmem
  · exact h.calls uri cfg pc hmem href
  · obtain rfl : .caller uri cfg pc = x := by simpa using hmem
    cases call with
    | fetchKeySet uri' cfg' =>
        cases hstart
        rfl
    | forceRefresh hd =>
        obtain ⟨set, hset, hx⟩ := Option.map_eq_some_iff.mp hstart
        cases hx
        exact absurd href (h.handles set (List.mem_of_getElem? hset))
    | resolveKeyWithRefresh hd kid =>
        obtain ⟨set, hset, hx⟩ := Option.map_eq_some_iff.mp hstart
        cases hx
        exact absurd href (h.handles set (List.mem_of_getElem? hset))

/-- A caller whose phase is `served` is not refused. -/
theorem not_refuses_of_handle {s : State}
    (hs : (reading lib).Settled (refuses lib) s) {uri : String} {cfg : Config} {n : ℕ}
    (hx : .caller uri cfg (.done (.handle n)) ∈ s.tasks) :
    ¬ refuses lib uri cfg.allowHTTP :=
  fun href => (hs.turnedAway hx rfl href).unserved rfl

theorem unhandled_move {s : State} {t : ℕ} {e : Event} {x x' : Proc} {w : Shared}
    (h : Unhandled lib s) (hx : s.tasks[t]? = some x)
    (hmove : (client lib).move s.shared x e = some (w, x'))
    (hs' : (reading lib).Settled (refuses lib)
      ⟨w, s.tasks.set t x' ++ ((client lib).fork s.shared x e).toList⟩) :
    Unhandled lib ⟨w, s.tasks.set t x' ++ ((client lib).fork s.shared x e).toList⟩ := by
  obtain ⟨-, v, hadv, rfl⟩ := client_move hmove
  refine ⟨fun set hset => ?_, fun uri cfg pc hmem href => ?_⟩
  · obtain ⟨old, hold, huri, hcfg⟩ | ⟨n, rfl⟩ := hadv.handles_cases hset
    · rw [← huri, ← hcfg]
      exact h.handles old hold
    · exact not_refuses_of_handle hs' (List.mem_append_left _ (mem_set_self hx))
  · obtain heq | hold | hfork := mem_tasks_move hmem
    · subst heq
      cases hadv with
      | caller hc => exact hc.ofFetch (h.calls uri cfg _ (List.mem_of_getElem? hx) href)
    · exact h.calls uri cfg pc hold href
    · obtain ⟨_, _, _, -, -, hz⟩ := client_fork hfork
      cases hz

theorem unhandled_step {s s' : State} {l : ClearLabel} (h : Unhandled lib s)
    (hs' : (reading lib).Settled (refuses lib) s') (hl : step lib s l = some s') :
    Unhandled lib s' := by
  cases l with
  | clearCache =>
      cases hl
      exact ⟨h.handles, h.calls⟩
  | client l =>
      cases l with
      | spawn call =>
          obtain ⟨w, x, hspawn, rfl⟩ := Machine.step_spawn hl
          exact unhandled_spawn h hspawn
      | move t e =>
          obtain ⟨x, w, x', hx, hmove, rfl⟩ := Machine.step_move_fork hl
          exact unhandled_move h hx hmove hs'

/-- What holds in every state of a run within the condition. -/
structure Shut (lib : Library) (s : State) : Prop where
  settled : (reading lib).Settled (refuses lib) s
  unhandled : Unhandled lib s

theorem shut_step (s : State) (l : ClearLabel) (s' : State) (h : Shut lib s)
    (hok : apart lib s l = true) (hl : step lib s l = some s') : Shut lib s' := by
  have hs' := (reading_shares lib).settled_step (reading_surrounds lib) h.settled hok hl
  exact ⟨hs', unhandled_step h.unhandled hs' hl⟩

theorem shut_run {ls : List ClearLabel} {s : State}
    (hok : Meets (step lib) (fun s l => apart lib s l = true) initial ls)
    (hrun : exec (step lib) initial ls = some s) : Shut lib s := by
  have hnumbered : Shared.view initial.shared |>.Numbered := by
    constructor <;> simp [Shared.view, View.ofDicts, initial]
  have hgroups : ∀ key, (Shared.view initial.shared).group key = none := by
    simp [Shared.view, View.ofDicts, initial]
  have hidle : Shut lib initial :=
    ⟨Reading.settled_idle hnumbered hgroups rfl, by simp [initial], by simp [initial]⟩
  exact exec_invariant shut_step hidle hok hrun

/-- A call that returned has returned an error, and one that waits is about to get one: the
flight it waits for refuses the URI itself and sends no request. -/
structure Rejected (s : State) (uri : String) (pc : CallerPc) : Prop where
  returned : ∀ out, pc = .done out → ∃ e, out = .error e
  waiting : ∀ why f, pc = .wait why f → (∃ e, s.shared.results.lookup f = some (.error e)) ∨
    ∃ cfg kidMiss pc', .flight f uri cfg kidMiss pc' ∈ s.tasks ∧ cfg.allowHTTP = false ∧
      (pc' = .recheck ∨ ∃ e, pc' = .finish (.error e))

/-- A flight that will not deliver keys. -/
theorem FlightPc.fruitless_cases {pc : FlightPc}
    (h : pc.phase = .checking ∨ pc.phase = .delivering false) :
    pc = .recheck ∨ ∃ e, pc = .finish (.error e) := by
  cases pc with
  | recheck => exact .inl rfl
  | finish r =>
      cases r with
      | error e => exact .inr ⟨e, rfl⟩
      | ok keys => obtain h | h := h <;> cases h
  | _ => obtain h | h := h <;> cases h

theorem Shut.rejected {s : State} (h : Shut lib s) {uri : String} {cfg : Config}
    {pc : CallerPc} (hx : .caller uri cfg pc ∈ s.tasks)
    (href : refuses lib uri cfg.allowHTTP) : Rejected s uri pc := by
  obtain ⟨hs, hu⟩ := h
  refine ⟨fun out hpc => ?_, fun why f hpc => ?_⟩
  · subst hpc
    have hof := hu.calls uri cfg _ hx href
    cases out with
    | error e => exact ⟨e, rfl⟩
    | handle n => exact absurd href (not_refuses_of_handle hs hx)
    | refreshed => cases hof
    | key k => cases hof
  · subst hpc
    obtain hout | ⟨y, hy, lax, ⟨rfl, hplain⟩, hrole⟩ := (hs.turnedAway hx rfl href).unfetched f rfl
    · left
      obtain ⟨r, hr, hok⟩ := Option.map_eq_some_iff.mp hout
      cases r with
      | ok keys => cases hok
      | error e => exact ⟨e, hr⟩
    · right
      obtain hrole | hrole := hrole
      · obtain ⟨cfg', kidMiss, pc', rfl, hallow, hphase⟩ := Proc.role_flight hrole
        exact ⟨cfg', kidMiss, pc', hy, hallow, FlightPc.fruitless_cases (.inl hphase)⟩
      · obtain ⟨cfg', kidMiss, pc', rfl, hallow, hphase⟩ := Proc.role_flight hrole
        exact ⟨cfg', kidMiss, pc', hy, hallow, FlightPc.fruitless_cases (.inr hphase)⟩

end Run

end IdentityModel.GoJwks

namespace IdentityModel.GoDiscovery

open Runs Tasks TtlCache SharedFetch

/-- The issuer `fetchAndValidate` looks at is not https. -/
def plain (lib : GoJwks.Library) (issuerURL : String) : Bool :=
  match lib.urlScheme (requestedIssuer issuerURL) with
  | .ok scheme => scheme ≠ "https"
  | .error _ => true

/-- What `WithInsecureAllowHTTP` is for. -/
def refuses (lib : GoJwks.Library) (issuerURL : String) (allowHTTP : Bool) :
    Prop :=
  allowHTTP = false ∧ plain lib issuerURL = true

instance (lib : GoJwks.Library) (issuerURL : String) (allowHTTP : Bool) :
    Decidable (refuses lib issuerURL allowHTTP) :=
  inferInstanceAs (Decidable (_ ∧ _))

/-- A flight of that number and issuer, created with the option. -/
def Proc.flightAllowsHTTP (f : ℕ) (issuerURL : String) : Proc → Bool
  | .flight id url cfg _ => id = f && url = issuerURL && cfg.allowHTTP
  | .caller .. => false

/-- The condition on one step, as for the key sets. -/
def apart (lib : GoJwks.Library) (s : State) : ClearLabel → Bool
  | .client (.move t e) =>
      match s.tasks[t]? with
      | some (.caller url cfg .lookup) =>
          !decide (refuses lib url cfg.allowHTTP) || (s.shared.cache.get url e.now).2.isNone
      | some (.flight _ url cfg .recheck) =>
          !decide (refuses lib url cfg.allowHTTP) || (s.shared.cache.get url e.now).2.isNone
      | some (.caller url cfg .doChan) =>
          !decide (refuses lib url cfg.allowHTTP) ||
            match s.shared.group.lookup url with
            | some f => s.tasks.all fun y => !y.flightAllowsHTTP f url
            | none => true
      | _ => true
  | _ => true

def Shared.view (w : Shared) : View String := .ofDicts w.group w.results w.nextFlight

def CallerPc.phase : CallerPc → CallerPhase
  | .lookup | .doChan => .seeking
  | .wait f => .waiting f
  | .done (.ok _) => .served
  | .done (.error _) => .failed

def FlightPc.phase : FlightPc → FlightPhase
  | .recheck => .checking
  | .request => .fetching
  | .store _ => .delivering true
  | .finish r => .delivering r.isOk
  | .ended => .ended

def Proc.role : Proc → Role String
  | .caller url cfg pc => .caller url cfg.allowHTTP pc.phase
  | .flight id url cfg pc => .flight id url cfg.allowHTTP pc.phase

def reading (lib : GoJwks.Library) :
    Reading Shared Proc Call Event String where
  machine := client lib
  view := Shared.view
  role := Proc.role

section Effect

variable {lib : GoJwks.Library} {w w' : Shared} {url : String} {cfg : Config}
  {act : Act}

theorem refuses_issuerError (h : refuses lib url cfg.allowHTTP) :
    issuerError lib cfg url ≠ none := by
  obtain ⟨hallow, hplain⟩ := h
  simp only [issuerError, plain] at hplain ⊢
  split
  · simp
  · cases hs : lib.urlScheme (requestedIssuer url) with
    | error err => simp
    | ok scheme =>
        simp only [hs, decide_eq_true_eq] at hplain
        simp [hplain, hallow]

/-- A caller's operation as a move, with the flight it creates. -/
theorem CallerStep.shared_move {pc pc' : CallerPc} (h : CallerStep w url pc act w' pc')
    (hmiss : pc = .lookup → refuses lib url cfg.allowHTTP →
      (w.cache.get url w.now).2 = none) :
    Move (refuses lib) w.view (Proc.role (.caller url cfg pc)) w'.view
      (Proc.role (.caller url cfg pc')) ((forkFlight w (.caller url cfg pc) act).map Proc.role) := by
  cases h with
  | hit doc hget =>
      refine .hit url cfg.allowHTTP fun href => ?_
      rw [hmiss rfl href] at hget
      cases hget
  | miss hget => exact .miss url cfg.allowHTTP
  | joined flight hg =>
      have hfork : forkFlight w (.caller url cfg .doChan) .run = none := by
        simp only [forkFlight, hg]
      rw [hfork]
      exact .join url cfg.allowHTTP flight hg
  | created hg =>
      have hfork : forkFlight w (.caller url cfg .doChan) .run =
          some (.flight w.nextFlight url cfg .recheck) := by
        simp only [forkFlight, hg]
      have hview : Shared.view { w with
          group := w.group.insert url w.nextFlight, nextFlight := w.nextFlight + 1 } =
          w.view.create url := View.ofDicts_create w.group w.results w.nextFlight url
      rw [hfork, hview]
      exact .create url cfg.allowHTTP hg
  | got flight r hr =>
      cases r with
      | ok doc =>
          refine .got url cfg.allowHTTP flight ?_
          simp [Shared.view, View.ofDicts, hr, Except.isOk, Except.toBool]
      | error e => exact .failed url cfg.allowHTTP flight
  | ctxDone flight err => exact .failed url cfg.allowHTTP flight

theorem FlightStep.shared_move {id : ℕ} {pc pc' : FlightPc}
    (h : FlightStep lib w id url cfg pc act w' pc')
    (hmiss : pc = .recheck → refuses lib url cfg.allowHTTP →
      (w.cache.get url w.now).2 = none) :
    Move (refuses lib) w.view (Proc.role (.flight id url cfg pc)) w'.view
      (Proc.role (.flight id url cfg pc')) none := by
  cases h with
  | hit doc hget =>
      refine .found id url cfg.allowHTTP fun href => ?_
      rw [hmiss rfl href] at hget
      cases hget
  | refused e he => exact .refused id url cfg.allowHTTP
  | send he => exact .send id url cfg.allowHTTP fun href => refuses_issuerError href he
  | accepted answer doc hv => exact .answer id url cfg.allowHTTP true
  | rejected answer e hv => exact .answer id url cfg.allowHTTP false
  | store doc => exact .store id url cfg.allowHTTP true
  | finish r =>
      have hview : Shared.view { w with
          group := if w.group.lookup url = some id then w.group.erase url else w.group
          results := w.results.insert id r } = w.view.finish id url r.isOk :=
        View.ofDicts_finish w.group w.results w.nextFlight id url r
      rw [hview]
      exact .finish id url cfg.allowHTTP r.isOk

theorem CallerStep.seeking_waits {pc pc' : CallerPc} {f : ℕ} (h : CallerStep w url pc act w' pc')
    (hseek : pc.phase = .seeking) (hwait : pc'.phase = .waiting f) : pc = .doChan := by
  cases h with
  | joined flight hj => rfl
  | created hj => rfl
  | _ => first | cases hwait | cases hseek

end Effect

theorem forkFlight_now (w : Shared) (now : ℕ) (x : Proc) (act : Act) :
    forkFlight { w with now := now } x act = forkFlight w x act := by
  cases x with
  | caller url cfg pc => cases pc <;> cases act <;> rfl
  | flight id url cfg pc => rfl

section Condition

variable {lib : GoJwks.Library} {s : State} {t : ℕ} {e : Event} {url : String}
  {cfg : Config} (h : apart lib s (.client (.move t e)) = true)
  (href : refuses lib url cfg.allowHTTP)
include h href

theorem apart_lookup (hx : s.tasks[t]? = some (.caller url cfg .lookup)) :
    (s.shared.cache.get url e.now).2 = none := by
  simpa [apart, hx, href] using h

theorem apart_recheck {id : ℕ} (hx : s.tasks[t]? = some (.flight id url cfg .recheck)) :
    (s.shared.cache.get url e.now).2 = none := by
  simpa [apart, hx, href] using h

theorem apart_doChan {f : ℕ} (hx : s.tasks[t]? = some (.caller url cfg .doChan))
    (hg : s.shared.group.lookup url = some f) {y : Proc} (hy : y ∈ s.tasks) :
    y.flightAllowsHTTP f url = false := by
  have hall := h
  simp only [apart, hx, href, hg, decide_true, Bool.not_true, Bool.false_or, List.all_eq_true] at hall
  simpa using hall y hy

end Condition

theorem reading_shares (lib : GoJwks.Library) :
    (reading lib).Shares (refuses lib)
      (fun s l => apart lib s (.client l) = true) where
  spawn := by
    intro s call w x _ hspawn
    cases hspawn
    exact ⟨rfl, .inr ⟨call.issuerURL, call.cfg.allowHTTP, rfl⟩⟩
  move := by
    intro s t e x w x' hok hx hmove
    obtain ⟨-, hadv⟩ := client_move hmove
    have hfork : (reading lib).machine.fork s.shared x e =
        forkFlight { s.shared with now := e.now } x e.act := (forkFlight_now _ _ _ _).symm
    refine ⟨?_, fun key lax f href hg hr hr' y hy lax' phase hrole => ?_⟩
    · rw [hfork]
      cases hadv with
      | caller h =>
          refine h.shared_move fun hpc href => ?_
          subst hpc
          exact apart_lookup hok href hx
      | flight h =>
          refine h.shared_move fun hpc href => ?_
          subst hpc
          exact apart_recheck hok href hx
    · cases hadv with
      | flight h => cases hr
      | caller h =>
          obtain ⟨rfl, rfl, hseek⟩ := Role.caller.inj hr
          obtain ⟨-, -, hwait⟩ := Role.caller.inj hr'
          obtain rfl := h.seeking_waits hseek hwait
          cases y with
          | caller url' cfg' pc' => cases hrole
          | flight id url' cfg' pc' =>
              have hnot := apart_doChan hok href hx hg hy
              obtain ⟨rfl, rfl, rfl, -⟩ := Role.flight.inj hrole
              refine ⟨?_, href.2⟩
              simpa [Proc.flightAllowsHTTP] using hnot

theorem reading_surrounds (lib : GoJwks.Library) :
    (reading lib).Surrounds (fun s l => apart lib s (.client l) = true)
      (step lib) (fun s l => apart lib s l = true) where
  step := by
    intro s l s' hok hstep
    cases l with
    | client l => exact .inl ⟨l, hok, hstep⟩
    | clearCache =>
        cases hstep
        exact .inr ⟨rfl, rfl⟩

section Run

variable {lib : GoJwks.Library}

theorem settled_step (s : State) (l : ClearLabel) (s' : State)
    (h : (reading lib).Settled (refuses lib) s) (hok : apart lib s l = true)
    (hl : step lib s l = some s') : (reading lib).Settled (refuses lib) s' :=
  (reading_shares lib).settled_step (reading_surrounds lib) h hok hl

theorem settled_run {ls : List ClearLabel} {s : State}
    (hok : Meets (step lib) (fun s l => apart lib s l = true) initial ls)
    (hrun : run lib initial ls = some s) :
    (reading lib).Settled (refuses lib) s := by
  have hnumbered : Shared.view initial.shared |>.Numbered := by
    constructor <;> simp [Shared.view, View.ofDicts, initial]
  have hgroups : ∀ key, (Shared.view initial.shared).group key = none := by
    simp [Shared.view, View.ofDicts, initial]
  have hidle : (reading lib).Settled (refuses lib) initial :=
    Reading.settled_idle hnumbered hgroups rfl
  exact exec_invariant settled_step hidle hok hrun

/-- A call that returned has returned an error, and one that waits is about to get one. -/
structure Rejected (s : State) (issuerURL : String) (pc : CallerPc) : Prop where
  returned : ∀ r, pc = .done r → ∃ e, r = .error e
  waiting : ∀ f, pc = .wait f → (∃ e, s.shared.results.lookup f = some (.error e)) ∨
    ∃ cfg pc', .flight f issuerURL cfg pc' ∈ s.tasks ∧ cfg.allowHTTP = false ∧
      (pc' = .recheck ∨ ∃ e, pc' = .finish (.error e))

/-- A flight that will not deliver a document. -/
theorem FlightPc.fruitless_cases {pc : FlightPc}
    (h : pc.phase = .checking ∨ pc.phase = .delivering false) :
    pc = .recheck ∨ ∃ e, pc = .finish (.error e) := by
  cases pc with
  | recheck => exact .inl rfl
  | finish r =>
      cases r with
      | error e => exact .inr ⟨e, rfl⟩
      | ok doc => obtain h | h := h <;> cases h
  | _ => obtain h | h := h <;> cases h

theorem rejected_of_settled {s : State} (hs : (reading lib).Settled (refuses lib) s)
    {url : String} {cfg : Config} {pc : CallerPc} (hx : .caller url cfg pc ∈ s.tasks)
    (href : refuses lib url cfg.allowHTTP) : Rejected s url pc := by
  have haway := hs.turnedAway hx rfl href
  refine ⟨fun r hpc => ?_, fun f hpc => ?_⟩
  · subst hpc
    cases r with
    | error e => exact ⟨e, rfl⟩
    | ok doc => exact absurd rfl haway.unserved
  · subst hpc
    obtain hout | ⟨y, hy, lax, ⟨rfl, hplain⟩, hrole⟩ := haway.unfetched f rfl
    · left
      obtain ⟨r, hr, hok⟩ := Option.map_eq_some_iff.mp hout
      cases r with
      | ok doc => cases hok
      | error e => exact ⟨e, hr⟩
    · right
      cases y with
      | caller url' cfg' pc' => obtain hrole | hrole := hrole <;> cases hrole
      | flight id url' cfg' pc' =>
          obtain hrole | hrole := hrole
          · obtain ⟨rfl, rfl, hallow, hphase⟩ := Role.flight.inj hrole
            exact ⟨cfg', pc', hy, hallow, FlightPc.fruitless_cases (.inl hphase)⟩
          · obtain ⟨rfl, rfl, hallow, hphase⟩ := Role.flight.inj hrole
            exact ⟨cfg', pc', hy, hallow, FlightPc.fruitless_cases (.inr hphase)⟩

end Run

end IdentityModel.GoDiscovery

namespace IdentityModel.GoHttps

open Runs

/-- Neither package serves a call without `WithInsecureAllowHTTP` for a URI that is not
https, in runs within the condition. -/
theorem plain_uris_rejected (lib : GoJwks.Library) :
    (∀ ls s, Meets (GoJwks.step lib) (fun s l => GoJwks.apart lib s l = true)
        GoJwks.initial ls → exec (GoJwks.step lib) GoJwks.initial ls = some s →
      ∀ uri cfg pc, .caller uri cfg pc ∈ s.tasks → cfg.allowHTTP = false →
        GoJwks.plain lib uri = true → GoJwks.Rejected s uri pc) ∧
    (∀ ls s, Meets (GoDiscovery.step lib) (fun s l => GoDiscovery.apart lib s l = true)
        GoDiscovery.initial ls → GoDiscovery.run lib GoDiscovery.initial ls = some s →
      ∀ issuerURL cfg pc, .caller issuerURL cfg pc ∈ s.tasks → cfg.allowHTTP = false →
        GoDiscovery.plain lib issuerURL = true → GoDiscovery.Rejected s issuerURL pc) := by
  constructor
  · intro ls s hok hrun uri cfg pc hx hallow hplain
    exact (GoJwks.shut_run hok hrun).rejected hx ⟨hallow, hplain⟩
  · intro ls s hok hrun issuerURL cfg pc hx hallow hplain
    exact GoDiscovery.rejected_of_settled (GoDiscovery.settled_run hok hrun) hx ⟨hallow, hplain⟩

/-- Every URI parses, and none has a character to escape. -/
def plainLibrary : GoJwks.Library where
  urlScheme uri := .ok (String.ofList (uri.toList.takeWhile (· ≠ ':')))
  quote s := "\"" ++ s ++ "\""

/-- A fetch with `WithInsecureAllowHTTP` that ends in the cache, and one without of the
given URI. -/
def jwksRun (uri : String) : List GoJwks.ClearLabel :=
  let run (t : ℕ) : GoJwks.ClearLabel := .client (.move t ⟨0, .run⟩)
  [.client (.spawn (.fetchKeySet "http://idp/jwks" { allowHTTP := true })), run 0, run 0, run 1,
   .client (.move 1 ⟨0, .response (.ok [{ kid := "k1" }])⟩), run 1, run 1,
   .client (.spawn (.fetchKeySet uri {})), run 2]

def sampleDocument : GoDiscovery.ProviderConfiguration where
  issuer := "http://idp"
  authorizationEndpoint := "http://idp/authorize"
  tokenEndpoint := "http://idp/token"
  jwksURI := "http://idp/jwks"
  responseTypesSupported := ["code"]
  subjectTypesSupported := ["public"]
  idTokenSigningAlgValuesSupported := ["RS256"]

/-- The same in the other package. -/
def discoveryRun (issuerURL : String) : List GoDiscovery.ClearLabel :=
  let run (t : ℕ) : GoDiscovery.ClearLabel := .client (.move t ⟨0, .run⟩)
  [.client (.spawn ⟨"http://idp", { allowHTTP := true }⟩), run 0, run 0, run 1,
   .client (.move 1 ⟨0, .response (.reply 200 300 (.ok sampleDocument))⟩), run 1, run 1,
   .client (.spawn ⟨issuerURL, {}⟩), run 2]

/-- The second call goes on to a flight of its own and returns. -/
def jwksRefusal : List GoJwks.ClearLabel :=
  let run (t : ℕ) : GoJwks.ClearLabel := .client (.move t ⟨0, .run⟩)
  jwksRun "http://other/jwks" ++ [run 2, run 3, run 3, run 2]

def discoveryRefusal : List GoDiscovery.ClearLabel :=
  let run (t : ℕ) : GoDiscovery.ClearLabel := .client (.move t ⟨0, .run⟩)
  discoveryRun "http://other" ++ [run 2, run 3, run 3, run 2]

theorem plain_uris_rejected_refusal :
    (∃ s, exec (GoJwks.step plainLibrary) GoJwks.initial jwksRefusal = some s ∧
      GoJwks.Rejected s "http://other/jwks"
        (.done (.error (.httpsRequired "http://other/jwks")))) ∧
    (∃ s, GoDiscovery.run plainLibrary GoDiscovery.initial discoveryRefusal = some s ∧
      GoDiscovery.Rejected s "http://other" (.done (.error (.httpsRequired "http://other")))) := by
  have hjwks := eq_some_getD GoJwks.initial (show (exec (GoJwks.step plainLibrary) GoJwks.initial
    jwksRefusal).isSome = true by decide +kernel)
  have hdisco := eq_some_getD GoDiscovery.initial (show (GoDiscovery.run plainLibrary
    GoDiscovery.initial discoveryRefusal).isSome = true by decide +kernel)
  have h := plain_uris_rejected plainLibrary
  refine ⟨⟨_, hjwks, h.1 jwksRefusal _ (by decide +kernel) hjwks _ {} _ ?_ rfl (by decide +kernel)⟩,
    ⟨_, hdisco, h.2 discoveryRefusal _ (by decide +kernel) hdisco _ {} _ ?_ rfl
      (by decide +kernel)⟩⟩
  · decide +kernel
  · decide +kernel

/-- After a call with the option, calls without it are served from both caches. -/
theorem plain_uris_served :
    (∃ s, exec (GoJwks.step plainLibrary) GoJwks.initial (jwksRun "http://idp/jwks") = some s ∧
      GoJwks.plain plainLibrary "http://idp/jwks" = true ∧
      .caller "http://idp/jwks" { allowHTTP := false } (.done (.handle 0)) ∈ s.tasks) ∧
    (∃ s doc, GoDiscovery.run plainLibrary GoDiscovery.initial (discoveryRun "http://idp") = some s ∧
      GoDiscovery.plain plainLibrary "http://idp" = true ∧
      .caller "http://idp" { allowHTTP := false } (.done (.ok doc)) ∈ s.tasks) := by
  have hjwks := eq_some_getD GoJwks.initial (show (exec (GoJwks.step plainLibrary) GoJwks.initial
    (jwksRun "http://idp/jwks")).isSome = true by decide +kernel)
  have hdisco := eq_some_getD GoDiscovery.initial (show (GoDiscovery.run plainLibrary
    GoDiscovery.initial (discoveryRun "http://idp")).isSome = true by decide +kernel)
  refine ⟨⟨_, hjwks, by decide +kernel, by decide +kernel⟩,
    ⟨_, sampleDocument, hdisco, by decide +kernel, by decide +kernel⟩⟩

end IdentityModel.GoHttps
