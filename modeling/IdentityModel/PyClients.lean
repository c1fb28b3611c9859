import IdentityModel.Tasks

/-!
# The HTTP clients of the asynchronous API

`aio/http_client.py`: the client that all calls share, which is built under a lock by the first call
that finds none and closed by `close_async_http_client`; and the clients that present a certificate,
which a request builds for itself and closes in its `finally` clause. A task goes from one access to
the module's state or one `await` to the next: requests may come from any thread, closings from the
tasks of one event loop. Clients are numbered as they are built. A client of `httpx` counts as closed
from the call of `aclose` on, also if that never returns.

`_reset_async_http_client`, which is for tests, is left out.
-/
namespace IdentityModel.PyClients

open Tasks

/-- What a call of `get_async_http_client` returned, and what held then: how many closings had taken
a client out, how many had when the call began, and whether the client was closed, was just being
closed, or was so by a closing that broke off. -/
structure Given where
  since : ℕ
  cleared : ℕ
  client : Option ℕ
  closed : Bool
  closing : Bool
  broken : Bool
  deriving DecidableEq, Repr

/-- The state of the module, and what has happened. -/
structure Shared where
  /-- `_state["client"]`. -/
  client : Option ℕ := none
  /-- `_async_client_creation_lock`. -/
  creationLock : Bool := false
  /-- `_cleanup_lock`. -/
  cleanupLock : Bool := false
  built : ℕ := 0
  /-- How many of them were built to be shared. -/
  sharedBuilt : ℕ := 0
  /-- The client that is built and not yet stored. -/
  pending : Option ℕ := none
  closed : List ℕ := []
  /-- The client that is being closed and taken out. -/
  closing : Option ℕ := none
  /-- The shared clients whose closing broke off. -/
  broken : List ℕ := []
  /-- How many times a client was taken out. -/
  cleared : ℕ := 0
  /-- The own clients of requests whose `finally` clause broke off as it closed the response. -/
  left : List ℕ := []
  given : List Given := []
  deriving DecidableEq, Repr

/-- Where `get_async_http_client` is: at the first test, at the return after it, at the lock, at the
second test, at the construction, at the assignment, or at a return under the lock. -/
inductive GetPc
  | check
  | back
  | lock
  | recheck
  | build
  | store (n : ℕ)
  | backLocked
  deriving DecidableEq, Repr

/-- The client of a request. -/
inductive Using
  | shared (client : Option ℕ)
  | managed
  | own (n : ℕ)
  deriving DecidableEq, Repr

/-- The client that the request has to close: `owned_client`. -/
def Using.owned : Using → Option ℕ
  | .own n => some n
  | .shared _ => none
  | .managed => none

/-- Where `close_async_http_client` is. -/
inductive ClosePc
  | check
  | lock
  | recheck
  | aclose
  | closing (n : ℕ)
  | clear (n : ℕ)
  deriving DecidableEq, Repr

/-- Where a request or a closing is. -/
inductive Pc
  | prepare (mtls managed : Bool)
  | get (since : ℕ) (pc : GetPc)
  | buildOwn
  | post (client : Using)
  | closeResponse (client : Using)
  | closeOwn (n : ℕ)
  | closingOwn (n : ℕ)
  | close (pc : ClosePc)
  | done
  deriving DecidableEq, Repr

/-- The next operation goes through, or raises or is cancelled; a post is answered. -/
inductive Act
  | run
  | fail
  | answer
  deriving DecidableEq, Repr

/-- `return _state["client"]`. -/
def Shared.give (w : Shared) (since : ℕ) : Shared :=
  { w with given := ⟨since, w.cleared, w.client, w.client.any fun n => n ∈ w.closed,
      w.client.isSome && w.closing = w.client, w.client.any fun n => n ∈ w.broken⟩ :: w.given }

/-- `get_async_http_client`, and what the request goes on with. -/
def getStep (w : Shared) (since : ℕ) : GetPc → Act → Option (Shared × Pc)
  | .check, .run => some (w, .get since (if w.client.isSome then .back else .lock))
  | .back, .run => some (w.give since, .post (.shared w.client))
  | .lock, .run =>
      if w.creationLock then none else some ({ w with creationLock := true }, .get since .recheck)
  | .recheck, .run => some (w, .get since (if w.client.isSome then .backLocked else .build))
  | .build, .run =>
      some ({ w with
        built := w.built + 1
        sharedBuilt := w.sharedBuilt + 1
        pending := some w.built }, .get since (.store w.built))
  | .build, .fail => some ({ w with creationLock := false }, .done)
  | .store n, .run => some ({ w with client := some n, pending := none }, .get since .backLocked)
  | .backLocked, .run =>
      some ({ w.give since with creationLock := false }, .post (.shared w.client))
  | _, _ => none

/-- The rest of the `finally` clause. -/
def afterResponse (client : Using) : Pc :=
  match client.owned with
  | some n => .closeOwn n
  | none => .done

/-- `close_async_http_client`. -/
def closeStep (w : Shared) : ClosePc → Act → Option (Shared × Pc)
  | .check, .run => some (w, if w.client.isSome then .close .lock else .done)
  | .lock, .run =>
      if w.cleanupLock then none else some ({ w with cleanupLock := true }, .close .recheck)
  | .lock, .fail => if w.cleanupLock then some (w, .done) else none
  | .recheck, .run =>
      if w.client.isSome then some (w, .close .aclose)
      else some ({ w with cleanupLock := false }, .done)
  | .aclose, .run =>
      match w.client with
      | some n => some ({ w with closed := n :: w.closed, closing := some n }, .close (.closing n))
      | none => some ({ w with cleanupLock := false }, .done)
  | .closing n, .run => some (w, .close (.clear n))
  | .closing n, .fail =>
      some ({ w with broken := n :: w.broken, closing := none, cleanupLock := false }, .done)
  | .clear _, .run =>
      some ({ w with
        client := none
        closing := none
        cleared := w.cleared + 1
        cleanupLock := false }, .done)
  | _, _ => none

/-- A request up to its end, or a closing. -/
def step (w : Shared) : Pc → Act → Option (Shared × Pc)
  | .prepare mtls managed, .run =>
      some (w,
        if mtls && managed then .done
        else if managed then .post .managed
        else if mtls then .buildOwn
        else .get w.cleared .check)
  | .prepare _ _, .fail => some (w, .done)
  | .get since pc, act => getStep w since pc act
  | .buildOwn, .run => some ({ w with built := w.built + 1 }, .post (.own w.built))
  | .buildOwn, .fail => some (w, .done)
  | .post client, .answer =>
      if client = .shared none then none else some (w, .closeResponse client)
  | .post client, .fail => some (w, afterResponse client)
  | .closeResponse client, .run => some (w, afterResponse client)
  | .closeResponse client, .fail => some ({ w with left := client.owned.toList ++ w.left }, .done)
  | .closeOwn n, .run => some ({ w with closed := n :: w.closed }, .closingOwn n)
  | .closingOwn _, .run => some (w, .done)
  | .closingOwn _, .fail => some (w, .done)
  | .close pc, act => closeStep w pc act
  | _, _ => none

/-- A call: a request, with a certificate or a managed client, or a closing. -/
inductive Call
  | request (mtls managed : Bool)
  | close
  deriving DecidableEq, Repr

def Call.start : Call → Pc
  | .request mtls managed => .prepare mtls managed
  | .close => .close .check

/-- Calls over the state of the module. -/
def clients : Machine Shared Pc Call Act where
  spawn w call := some (w, call.start)
  move := step

abbrev State := Pool Shared Pc

def initial : State := ⟨{}, []⟩

abbrev run : State → List (Label Call Act) → Option State := Runs.exec clients.step

/-- A move of a call, with what it rests on. -/
inductive Moves (w : Shared) : Pc → Shared → Pc → Prop
  | resolve {mtls managed} {pc : Pc}
      (hpc : pc = .done ∨ pc = .post .managed ∨ pc = .buildOwn ∨ pc = .get w.cleared .check) :
      Moves w (.prepare mtls managed) w pc
  | checked {since} {pc : GetPc}
      (hpc : w.client ≠ none ∧ pc = .back ∨ w.client = none ∧ pc = .lock) :
      Moves w (.get since .check) w (.get since pc)
  | back {since} : Moves w (.get since .back) (w.give since) (.post (.shared w.client))
  | locked {since} (hfree : w.creationLock = false) :
      Moves w (.get since .lock) { w with creationLock := true } (.get since .recheck)
  | rechecked {since} {pc : GetPc}
      (hpc : w.client ≠ none ∧ pc = .backLocked ∨ w.client = none ∧ pc = .build) :
      Moves w (.get since .recheck) w (.get since pc)
  | built {since} :
      Moves w (.get since .build)
        { w with built := w.built + 1, sharedBuilt := w.sharedBuilt + 1, pending := some w.built }
        (.get since (.store w.built))
  | buildFailed {since} : Moves w (.get since .build) { w with creationLock := false } .done
  | stored {since n} :
      Moves w (.get since (.store n)) { w with client := some n, pending := none }
        (.get since .backLocked)
  | backLocked {since} :
      Moves w (.get since .backLocked) { w.give since with creationLock := false }
        (.post (.shared w.client))
  | builtOwn : Moves w .buildOwn { w with built := w.built + 1 } (.post (.own w.built))
  | buildOwnFailed : Moves w .buildOwn w .done
  | answered {client} : Moves w (.post client) w (.closeResponse client)
  | unanswered {client} : Moves w (.post client) w (afterResponse client)
  | responseClosed {client} : Moves w (.closeResponse client) w (afterResponse client)
  | brokeOff {client : Using} :
      Moves w (.closeResponse client) { w with left := client.owned.toList ++ w.left } .done
  | closeOwn {n} : Moves w (.closeOwn n) { w with closed := n :: w.closed } (.closingOwn n)
  | closedOwn {n} : Moves w (.closingOwn n) w .done
  | closeChecked {pc : Pc} (hpc : pc = .close .lock ∨ pc = .done) : Moves w (.close .check) w pc
  | closeLocked (hfree : w.cleanupLock = false) :
      Moves w (.close .lock) { w with cleanupLock := true } (.close .recheck)
  | closeCancelled : Moves w (.close .lock) w .done
  | found (hclient : w.client ≠ none) : Moves w (.close .recheck) w (.close .aclose)
  | foundNone (hclient : w.client = none) :
      Moves w (.close .recheck) { w with cleanupLock := false } .done
  | acloseNone (hclient : w.client = none) :
      Moves w (.close .aclose) { w with cleanupLock := false } .done
  | aclose {n} (hclient : w.client = some n) :
      Moves w (.close .aclose) { w with closed := n :: w.closed, closing := some n }
        (.close (.closing n))
  | acloseReturned {n} : Moves w (.close (.closing n)) w (.close (.clear n))
  | acloseBroke {n} :
      Moves w (.close (.closing n))
        { w with broken := n :: w.broken, closing := none, cleanupLock := false } .done
  | clear {n} :
      Moves w (.close (.clear n))
        { w with client := none, closing := none, cleared := w.cleared + 1, cleanupLock := false }
        .done

section Moves

variable {w w' : Shared} {pc' : Pc} {act : Act}

theorem getStep_moves {since : ℕ} {pc : GetPc} (h : getStep w since pc act = some (w', pc')) :
    Moves w (.get since pc) w' pc' := by
  cases pc with
  | check =>
      cases act with
      | run =>
          cases h
          refine .checked ?_
          cases hclient : w.client <;> simp
      | _ => cases h
  | back =>
      cases act with
      | run =>
          cases h
          exact .back
      | _ => cases h
  | lock =>
      cases act with
      | run =>
          simp only [getStep] at h
          split at h
          · cases h
          · rename_i hfree
            cases h
            exact .locked (Bool.eq_false_iff.mpr hfree)
      | _ => cases h
  | recheck =>
      cases act with
      | run =>
          cases h
          refine .rechecked ?_
          cases hclient : w.client <;> simp
      | _ => cases h
  | build =>
      cases act with
      | run =>
          cases h
          exact .built
      | fail =>
          cases h
          exact .buildFailed
      | answer => cases h
  | store n =>
      cases act with
      | run =>
          cases h
          exact .stored
      | _ => cases h
  | backLocked =>
      cases act with
      | run =>
          cases h
          exact .backLocked
      | _ => cases h

theorem closeStep_moves {pc : ClosePc} (h : closeStep w pc act = some (w', pc')) :
    Moves w (.close pc) w' pc' := by
  cases pc with
  | check =>
      cases act with
      | run =>
          cases h
          refine .closeChecked ?_
          cases w.client <;> simp
      | _ => cases h
  | lock =>
      cases act with
      | run =>
          simp only [closeStep] at h
          split at h
          · cases h
          · rename_i hfree
            cases h
            exact .closeLocked (Bool.eq_false_iff.mpr hfree)
      | fail =>
          simp only [closeStep] at h
          split at h
          · cases h
            exact .closeCancelled
          · cases h
      | answer => cases h
  | recheck =>
      cases act with
      | run =>
          simp only [closeStep] at h
          split at h
          · rename_i hclient
            cases h
            exact .found (Option.isSome_iff_ne_none.mp hclient)
          · rename_i hclient
            cases h
            exact .foundNone (by simpa using hclient)
      | _ => cases h
  | aclose =>
      cases act with
      | run =>
          simp only [closeStep] at h
          split at h
          · rename_i n hclient
            cases h
            exact .aclose hclient
          · rename_i hclient
            cases h
            exact .acloseNone hclient
      | _ => cases h
  | closing n =>
      cases act with
      | run =>
          cases h
          exact .acloseReturned
      | fail =>
          cases h
          exact .acloseBroke
      | answer => cases h
  | clear n =>
      cases act with
      | run =>
          cases h
          exact .clear
      | _ => cases h

theorem step_moves {pc : Pc} (h : step w pc act = some (w', pc')) : Moves w pc w' pc' := by
  cases pc with
  | prepare mtls managed =>
      cases act with
      | run =>
          cases h
          refine .resolve ?_
          cases mtls <;> cases managed <;> simp
      | fail =>
          cases h
          exact .resolve (.inl rfl)
      | answer => cases h
  | get since pc => exact getStep_moves h
  | buildOwn =>
      cases act with
      | run =>
          cases h
          exact .builtOwn
      | fail =>
          cases h
          exact .buildOwnFailed
      | answer => cases h
  | post client =>
      cases act with
      | run => cases h
      | fail =>
          cases h
          exact .unanswered
      | answer =>
          simp only [step] at h
          split at h
          · cases h
          · cases h
            exact .answered
  | closeResponse client =>
      cases act with
      | run =>
          cases h
          exact .responseClosed
      | fail =>
          cases h
          exact .brokeOff
      | answer => cases h
  | closeOwn n =>
      cases act with
      | run =>
          cases h
          exact .closeOwn
      | _ => cases h
  | closingOwn n =>
      cases act with
      | run =>
          cases h
          exact .closedOwn
      | fail =>
          cases h
          exact .closedOwn
      | answer => cases h
  | close pc => exact closeStep_moves h
  | done => cases act <;> cases h

end Moves

end IdentityModel.PyClients
