import IdentityModel.PyClients

/-!
# No client is lost

Every client that is built is closed in the end, but for the one that is shared and those of requests
that broke off in their `finally` clause. However many threads ask at once, one client is built between
two closings; who asks while a client is taken out can still be given a closed one, or none.
-/
namespace IdentityModel.PyClients

open Tasks

/-- A call has the creation lock. -/
def GetPc.locked : GetPc → Bool
  | .recheck => true
  | .build => true
  | .store _ => true
  | .backLocked => true
  | _ => false

/-- A closing has the cleanup lock. -/
def ClosePc.locked : ClosePc → Bool
  | .recheck => true
  | .aclose => true
  | .closing _ => true
  | .clear _ => true
  | _ => false

namespace Pc

def creating : Pc → Bool
  | .get _ pc => pc.locked
  | _ => false

def cleaning : Pc → Bool
  | .close pc => pc.locked
  | _ => false

/-- The client that the request has yet to close. -/
def owns : Pc → Option ℕ
  | .post client => client.owned
  | .closeResponse client => client.owned
  | .closeOwn n => some n
  | _ => none

end Pc

/-- Two tasks do not have one lock. -/
structure Apart (x y : Pc) : Prop where
  creation : x.creating = true → y.creating = false
  cleanup : x.cleaning = true → y.cleaning = false

theorem Apart.symm (x y : Pc) (h : Apart x y) : Apart y x where
  creation hy := by
    rw [Bool.eq_false_iff]
    intro hx
    rw [h.creation hx] at hy
    cases hy
  cleanup hy := by
    rw [Bool.eq_false_iff]
    intro hx
    rw [h.cleanup hx] at hy
    cases hy

/-- A client that was returned. -/
structure Given.Ok (w : Shared) (r : Given) : Prop where
  past : r.cleared ≤ w.cleared
  missed : r.client = none → r.since < r.cleared
  closed : r.closed = true → r.closing = true ∨ r.broken = true
  current : ∀ n, r.client = some n → r.cleared = w.cleared → w.client = some n

/-- What holds of the module's state. -/
structure SharedOk (w : Shared) : Prop where
  closed_lt : ∀ n ∈ w.closed, n < w.built
  client_lt : ∀ n, w.client = some n → n < w.built
  pending : ∀ n, w.pending = some n → w.client = none ∧ n < w.built ∧ n ∉ w.closed ∧
    w.creationLock = true
  closing : ∀ n, w.closing = some n → w.client = some n ∧ n ∈ w.closed ∧ w.cleanupLock = true
  counted : w.sharedBuilt = w.cleared + w.client.toList.length + w.pending.toList.length
  closed : ∀ n, w.client = some n → n ∈ w.closed → w.closing = some n ∨ n ∈ w.broken
  given : ∀ r ∈ w.given, r.Ok w
  same : ∀ r ∈ w.given, ∀ r' ∈ w.given, ∀ n n', r.client = some n → r'.client = some n' →
    r.cleared = r'.cleared → n = n'

/-- What holds of a call of `get_async_http_client`. -/
def GetPc.Ok (w : Shared) (since : ℕ) : GetPc → Prop
  | .check => True
  | .back => w.client = none → since < w.cleared
  | .lock => True
  | .recheck => w.pending = none
  | .build => w.pending = none ∧ w.client = none
  | .store n => w.pending = some n
  | .backLocked => w.pending = none ∧ (w.client = none → since < w.cleared)

def ClosePc.Ok (w : Shared) : ClosePc → Prop
  | .check => True
  | .lock => True
  | .recheck => True
  | .aclose => w.client ≠ none
  | .closing n => w.closing = some n
  | .clear n => w.closing = some n

/-- What holds of each task. -/
structure TaskOk (w : Shared) (pc : Pc) : Prop where
  creating : pc.creating = true → w.creationLock = true
  cleaning : pc.cleaning = true → w.cleanupLock = true
  get : ∀ since p, pc = .get since p → since ≤ w.cleared ∧ p.Ok w since
  close : ∀ p, pc = .close p → p.Ok w
  owns : ∀ n, pc.owns = some n → n < w.built ∧ w.client ≠ some n ∧ w.pending ≠ some n

abbrev Kept : State → Prop := Holds SharedOk TaskOk Apart

/-- A request that does not ask for the shared client. -/
theorem TaskOk.of_owns {w : Shared} {pc : Pc} (hget : ∀ since p, pc ≠ .get since p)
    (hclose : ∀ p, pc ≠ .close p)
    (howns : ∀ n, pc.owns = some n → n < w.built ∧ w.client ≠ some n ∧ w.pending ≠ some n) :
    TaskOk w pc where
  creating h := by cases pc <;> first | exact absurd rfl (hget _ _) | cases h
  cleaning h := by cases pc <;> first | exact absurd rfl (hclose _) | cases h
  get since p h := absurd h (hget since p)
  close p h := absurd h (hclose p)
  owns := howns

theorem TaskOk.of_get {w : Shared} {since : ℕ} {p : GetPc} (hsince : since ≤ w.cleared)
    (hlock : p.locked = true → w.creationLock = true) (hok : p.Ok w since) : TaskOk w (.get since p) where
  creating h := hlock h
  cleaning h := by cases h
  get since' p' h := by
    cases h
    exact ⟨hsince, hok⟩
  close p' h := by cases h
  owns n h := by cases h

theorem TaskOk.of_close {w : Shared} {p : ClosePc} (hlock : p.locked = true → w.cleanupLock = true)
    (hok : p.Ok w) : TaskOk w (.close p) where
  creating h := by cases h
  cleaning h := hlock h
  get since p' h := by cases h
  close p' h := by
    cases h
    exact hok
  owns n h := by cases h

theorem TaskOk.done (w : Shared) : TaskOk w .done :=
  .of_owns nofun nofun nofun

section Moves

variable {w w' : Shared} {pc pc' y : Pc}

theorem afterResponse_owns (client : Using) : (afterResponse client).owns = client.owned := by
  cases client <;> rfl

theorem afterResponse_plain (client : Using) :
    (∀ since p, afterResponse client ≠ .get since p) ∧ ∀ p, afterResponse client ≠ .close p := by
  cases client <;> simp [afterResponse, Using.owned]

/-- What a move changes for other tasks. -/
structure Frame (w w' : Shared) (pc : Pc) : Prop where
  built : w.built ≤ w'.built
  cleared : w.cleared ≤ w'.cleared
  client : w'.client = w.client ∨ (w'.client = w.pending ∧ w.pending ≠ none ∧ pc.creating = true) ∨
    (w'.client = none ∧ w.cleared < w'.cleared ∧ pc.cleaning = true)
  pending : w'.pending = w.pending ∨
    pc.creating = true ∧ (w'.pending = none ∨ w'.pending = some w.built)
  creation : w'.creationLock = w.creationLock ∨ w'.creationLock = true ∨ pc.creating = true
  closing : w'.closing = w.closing ∨ pc.cleaning = true
  cleanup : w'.cleanupLock = w.cleanupLock ∨ w'.cleanupLock = true ∨ pc.cleaning = true

theorem Frame.refl (w : Shared) (pc : Pc) : Frame w w pc where
  built := Nat.le_refl _
  cleared := Nat.le_refl _
  client := .inl rfl
  pending := .inl rfl
  creation := .inl rfl
  closing := .inl rfl
  cleanup := .inl rfl

theorem Moves.frame (h : Moves w pc w' pc') (hx : TaskOk w pc) : Frame w w' pc := by
  have hrefl := Frame.refl w pc
  cases h with
  | back => exact { hrefl with }
  | locked hfree => exact { hrefl with creation := .inr (.inl rfl) }
  | built =>
      exact { hrefl with
        built := Nat.le_succ _
        pending := .inr ⟨rfl, .inr rfl⟩ }
  | buildFailed => exact { hrefl with creation := .inr (.inr rfl) }
  | @stored since n =>
      have hpending : w.pending = some n := (hx.get _ _ rfl).2
      exact { hrefl with
        client := .inr (.inl ⟨hpending.symm, by simp [hpending], rfl⟩)
        pending := .inr ⟨rfl, .inl rfl⟩ }
  | backLocked => exact { hrefl with creation := .inr (.inr rfl) }
  | builtOwn => exact { hrefl with built := Nat.le_succ _ }
  | brokeOff => exact { hrefl with }
  | closeOwn => exact { hrefl with }
  | closeLocked hfree => exact { hrefl with cleanup := .inr (.inl rfl) }
  | foundNone hclient => exact { hrefl with cleanup := .inr (.inr rfl) }
  | acloseNone hclient => exact { hrefl with cleanup := .inr (.inr rfl) }
  | aclose hclient => exact { hrefl with closing := .inr rfl }
  | acloseBroke => exact { hrefl with closing := .inr rfl, cleanup := .inr (.inr rfl) }
  | clear =>
      exact { hrefl with
        cleared := Nat.le_succ _
        client := .inr (.inr ⟨rfl, Nat.lt_succ_self _, rfl⟩)
        closing := .inr rfl
        cleanup := .inr (.inr rfl) }
  | _ => exact hrefl

/-- A call that found no client under no lock still does not, or a client was taken out since. -/
theorem Frame.missed (h : Frame w w' pc) {since : ℕ} (hsince : since ≤ w.cleared)
    (hold : w.client = none → since < w.cleared) (hnone : w'.client = none) : since < w'.cleared := by
  obtain hclient | ⟨hclient, hsome, -⟩ | ⟨-, hlt, -⟩ := h.client
  · exact (hold (hclient ▸ hnone)).trans_le h.cleared
  · exact absurd (hclient ▸ hnone) hsome
  · exact hsince.trans_lt hlt

theorem TaskOk.other (hy : TaskOk w y) (h : Frame w w' pc) (hxy : Apart pc y) : TaskOk w' y where
  creating hcreating := by
    obtain hlock | hlock | hpc := h.creation
    · rw [hlock]
      exact hy.creating hcreating
    · exact hlock
    · rw [hxy.creation hpc] at hcreating
      cases hcreating
  cleaning hcleaning := by
    obtain hlock | hlock | hpc := h.cleanup
    · rw [hlock]
      exact hy.cleaning hcleaning
    · exact hlock
    · rw [hxy.cleanup hpc] at hcleaning
      cases hcleaning
  get since p hp := by
    obtain ⟨hsince, hok⟩ := hy.get since p hp
    refine ⟨hsince.trans h.cleared, ?_⟩
    have hpending : y.creating = true → w'.pending = w.pending := by
      intro hcreating
      refine h.pending.resolve_right fun hpc => ?_
      rw [hxy.creation hpc.1] at hcreating
      cases hcreating
    subst hp
    cases p with
    | check => trivial
    | back => exact h.missed hsince hok
    | lock => trivial
    | recheck => exact (hpending rfl).trans hok
    | build =>
        refine ⟨(hpending rfl).trans hok.1, ?_⟩
        obtain hclient | ⟨-, -, hpc⟩ | ⟨hclient, -⟩ := h.client
        · exact hclient.trans hok.2
        · cases hxy.creation hpc
        · exact hclient
    | store n => exact (hpending rfl).trans hok
    | backLocked => exact ⟨(hpending rfl).trans hok.1, h.missed hsince hok.2⟩
  close p hp := by
    have hok := hy.close p hp
    have hnot : y.cleaning = true → ¬ pc.cleaning = true := by
      intro hcleaning hpc
      rw [hxy.cleanup hpc] at hcleaning
      cases hcleaning
    subst hp
    cases p with
    | check => trivial
    | lock => trivial
    | recheck => trivial
    | aclose =>
        obtain hclient | ⟨hclient, hsome, -⟩ | ⟨-, -, hpc⟩ := h.client
        · exact fun hnone => hok (hclient ▸ hnone)
        · exact fun hnone => hsome (hclient ▸ hnone)
        · exact absurd hpc (hnot rfl)
    | closing n => exact (h.closing.resolve_right (hnot rfl)).trans hok
    | clear n => exact (h.closing.resolve_right (hnot rfl)).trans hok
  owns n hn := by
    obtain ⟨hlt, hclient, hpending⟩ := hy.owns n hn
    refine ⟨hlt.trans_le h.built, ?_, ?_⟩
    · obtain hsame | ⟨hsame, -⟩ | ⟨hsame, -⟩ := h.client
      · rwa [hsame]
      · rwa [hsame]
      · rw [hsame]
        exact Option.some_ne_none n |>.symm
    · obtain hsame | ⟨-, hsame | hsame⟩ := h.pending
      · rwa [hsame]
      · rw [hsame]
        exact Option.some_ne_none n |>.symm
      · rw [hsame]
        intro heq
        exact Nat.ne_of_lt hlt (Option.some.inj heq).symm

/-- A task that comes to hold a lock had it before, or found it free. -/
theorem Moves.creating (h : Moves w pc w' pc') (hpc' : pc'.creating = true) :
    pc.creating = true ∨ w.creationLock = false := by
  cases h with
  | resolve hpc => obtain rfl | rfl | rfl | rfl := hpc <;> cases hpc'
  | checked hpc => obtain ⟨-, rfl⟩ | ⟨-, rfl⟩ := hpc <;> cases hpc'
  | locked hfree => exact .inr hfree
  | rechecked hpc => exact .inl rfl
  | built => exact .inl rfl
  | stored => exact .inl rfl
  | unanswered => rename_i client; cases client <;> cases hpc'
  | responseClosed => rename_i client; cases client <;> cases hpc'
  | closeChecked hpc => obtain rfl | rfl := hpc <;> cases hpc'
  | _ => cases hpc'

theorem Moves.cleaning (h : Moves w pc w' pc') (hpc' : pc'.cleaning = true) :
    pc.cleaning = true ∨ w.cleanupLock = false := by
  cases h with
  | resolve hpc => obtain rfl | rfl | rfl | rfl := hpc <;> cases hpc'
  | unanswered => rename_i client; cases client <;> cases hpc'
  | responseClosed => rename_i client; cases client <;> cases hpc'
  | closeChecked hpc => obtain rfl | rfl := hpc <;> cases hpc'
  | closeLocked hfree => exact .inr hfree
  | found hclient => exact .inl rfl
  | aclose hclient => exact .inl rfl
  | acloseReturned => exact .inl rfl
  | _ => cases hpc'

theorem Moves.apart (h : Moves w pc w' pc') (hy : TaskOk w y) (hxy : Apart pc y) : Apart pc' y where
  creation hpc' := by
    obtain hpc | hfree := h.creating hpc'
    · exact hxy.creation hpc
    · rw [Bool.eq_false_iff]
      intro hcreating
      rw [hy.creating hcreating] at hfree
      cases hfree
  cleanup hpc' := by
    obtain hpc | hfree := h.cleaning hpc'
    · exact hxy.cleanup hpc
    · rw [Bool.eq_false_iff]
      intro hcleaning
      rw [hy.cleaning hcleaning] at hfree
      cases hfree

theorem Moves.taskOk (h : Moves w pc w' pc') (hw : SharedOk w) (hx : TaskOk w pc) : TaskOk w' pc' := by
  have hafter : ∀ client : Using, (∀ n, client.owned = some n → n < w.built ∧ w.client ≠ some n ∧
      w.pending ≠ some n) → TaskOk w (afterResponse client) := by
    intro client howns
    refine .of_owns (afterResponse_plain client).1 (afterResponse_plain client).2 fun n hn => ?_
    exact howns n ((afterResponse_owns client).symm.trans hn)
  cases h with
  | resolve hpc =>
      obtain rfl | rfl | rfl | rfl := hpc
      · exact .done w
      · exact .of_owns nofun nofun nofun
      · exact .of_owns nofun nofun nofun
      · exact .of_get (Nat.le_refl _) nofun trivial
  | checked hpc =>
      obtain ⟨hsince, -⟩ := hx.get _ _ rfl
      obtain ⟨hclient, rfl⟩ | ⟨-, rfl⟩ := hpc
      · exact .of_get hsince nofun fun hnone => absurd hnone hclient
      · exact .of_get hsince nofun trivial
  | back => exact .of_owns nofun nofun nofun
  | locked hfree =>
      obtain ⟨hsince, -⟩ := hx.get _ _ rfl
      refine .of_get hsince (fun _ => rfl) ?_
      show w.pending = none
      cases hpending : w.pending with
      | none => rfl
      | some n =>
          rw [(hw.pending n hpending).2.2.2] at hfree
          cases hfree
  | rechecked hpc =>
      obtain ⟨hsince, hok⟩ := hx.get _ _ rfl
      have hlock := hx.creating rfl
      obtain ⟨hclient, rfl⟩ | ⟨hclient, rfl⟩ := hpc
      · exact .of_get hsince (fun _ => hlock) ⟨hok, fun hnone => absurd hnone hclient⟩
      · exact .of_get hsince (fun _ => hlock) ⟨hok, hclient⟩
  | built => exact .of_get (hx.get _ _ rfl).1 (fun _ => hx.creating rfl) rfl
  | stored => exact .of_get (hx.get _ _ rfl).1 (fun _ => hx.creating rfl) ⟨rfl, nofun⟩
  | backLocked => exact .of_owns nofun nofun nofun
  | builtOwn =>
      refine .of_owns nofun nofun fun n hn => ?_
      obtain rfl : w.built = n := Option.some.inj hn
      refine ⟨Nat.lt_succ_self _, fun hclient => ?_, fun hpending => ?_⟩
      · exact Nat.lt_irrefl _ (hw.client_lt _ hclient)
      · exact Nat.lt_irrefl _ (hw.pending _ hpending).2.1
  | answered => exact .of_owns nofun nofun hx.owns
  | unanswered => exact hafter _ hx.owns
  | responseClosed => exact hafter _ hx.owns
  | closeOwn => exact .of_owns nofun nofun nofun
  | closeChecked hpc =>
      obtain rfl | rfl := hpc
      · exact .of_close nofun trivial
      · exact .done w
  | closeLocked hfree => exact .of_close (fun _ => rfl) trivial
  | found hclient => exact .of_close (fun _ => hx.cleaning rfl) hclient
  | aclose hclient => exact .of_close (fun _ => hx.cleaning rfl) rfl
  | @acloseReturned n =>
      have hclosing : w.closing = some n := hx.close _ rfl
      exact .of_close (fun _ => hx.cleaning rfl) hclosing
  | _ => exact .done _

/-- What is returned is what is stored. -/
theorem SharedOk.give (hw : SharedOk w) {since : ℕ} (hmissed : w.client = none → since < w.cleared) :
    SharedOk (w.give since) := by
  have hnew : Given.Ok w ⟨since, w.cleared, w.client, w.client.any fun n => n ∈ w.closed,
      w.client.isSome && w.closing = w.client, w.client.any fun n => n ∈ w.broken⟩ := by
    refine ⟨Nat.le_refl _, hmissed, fun hclosed => ?_, fun n hn _ => hn⟩
    have hany : (w.client.any fun n => n ∈ w.closed) = true := hclosed
    cases hclient : w.client with
    | none => simp [hclient] at hany
    | some n =>
        obtain hclosing | hbroken := hw.closed n hclient (by simpa [hclient] using hany)
        · exact .inl (by simp [hclosing])
        · exact .inr (by simpa using hbroken)
  refine { hw with given := ?_, same := ?_ }
  · intro r hr
    obtain rfl | hr := List.mem_cons.mp hr
    · exact { hnew with }
    · exact { hw.given r hr with }
  · intro r hr r' hr' n n' hn hn' hcleared
    obtain rfl | hr := List.mem_cons.mp hr
    · obtain rfl | hr' := List.mem_cons.mp hr'
      · exact Option.some.inj (hn.symm.trans hn')
      · exact Option.some.inj (hn.symm.trans ((hw.given r' hr').current n' hn' hcleared.symm))
    · obtain rfl | hr' := List.mem_cons.mp hr'
      · exact Option.some.inj (((hw.given r hr).current n hn hcleared).symm.trans hn')
      · exact hw.same r hr r' hr' n n' hn hn' hcleared

/-- Nothing was returned since a client was stored, if none is. -/
theorem SharedOk.given_of_none (hw : SharedOk w) (hnone : w.client = none) {r : Given}
    (hr : r ∈ w.given) (n : ℕ) (hn : r.client = some n) : r.cleared < w.cleared := by
  refine Nat.lt_of_le_of_ne (hw.given r hr).past fun heq => ?_
  rw [(hw.given r hr).current n hn heq] at hnone
  cases hnone

theorem SharedOk.store (hw : SharedOk w) {n : ℕ} (hpending : w.pending = some n) :
    SharedOk { w with client := some n, pending := none } := by
  obtain ⟨hnone, hlt, hopen, -⟩ := hw.pending n hpending
  have hclosing : w.closing = none := by
    cases hclosing : w.closing with
    | none => rfl
    | some m =>
        rw [(hw.closing m hclosing).1] at hnone
        cases hnone
  exact {
    closed_lt := hw.closed_lt
    client_lt := fun m hm => by
      obtain rfl := Option.some.inj hm
      exact hlt
    pending := nofun
    closing := fun m hm => by
      rw [show w.closing = some m from hm] at hclosing
      cases hclosing
    counted := by
      have hcounted := hw.counted
      rw [hnone, hpending] at hcounted
      exact hcounted
    closed := fun m hm hmem => by
      obtain rfl := Option.some.inj hm
      exact absurd hmem hopen
    given := fun r hr => by
      refine { hw.given r hr with current := fun m hm heq => ?_ }
      exact absurd heq (Nat.ne_of_lt (hw.given_of_none hnone hr m hm))
    same := hw.same }

theorem SharedOk.clear (hw : SharedOk w) {n : ℕ} (hclosing : w.closing = some n) :
    SharedOk { w with client := none, closing := none, cleared := w.cleared + 1, cleanupLock := false } := by
  obtain ⟨hclient, -, -⟩ := hw.closing n hclosing
  have hpending : ∀ m, w.pending ≠ some m := by
    intro m hm
    rw [(hw.pending m hm).1] at hclient
    cases hclient
  exact {
    closed_lt := hw.closed_lt
    client_lt := nofun
    pending := fun m hm => absurd hm (hpending m)
    closing := nofun
    counted := by
      have hcounted := hw.counted
      rw [hclient] at hcounted
      simp only [Option.toList_some, Option.toList_none, List.length_singleton, List.length_nil]
        at hcounted ⊢
      omega
    closed := nofun
    given := fun r hr => by
      have hok := hw.given r hr
      exact { hok with
        past := hok.past.trans (Nat.le_succ _)
        current := fun m _ heq => absurd heq (Nat.ne_of_lt (Nat.lt_succ_of_le hok.past)) }
    same := hw.same }

/-- A client that is not shared is closed. -/
theorem SharedOk.close (hw : SharedOk w) {n : ℕ} (hn : n < w.built ∧ w.client ≠ some n ∧
    w.pending ≠ some n) : SharedOk { w with closed := n :: w.closed } := by
  obtain ⟨hlt, hclient, hpending⟩ := hn
  exact { hw with
    closed_lt := List.forall_mem_cons.mpr ⟨hlt, hw.closed_lt⟩
    pending := fun m hm => by
      obtain ⟨hnone, hm', hopen, hlock⟩ := hw.pending m hm
      refine ⟨hnone, hm', ?_, hlock⟩
      rw [List.mem_cons, not_or]
      exact ⟨fun heq => hpending (heq ▸ hm), hopen⟩
    closing := fun m hm => by
      obtain ⟨hm', hmem, hlock⟩ := hw.closing m hm
      exact ⟨hm', List.mem_cons_of_mem _ hmem, hlock⟩
    closed := fun m hm hmem => by
      obtain rfl | hmem := List.mem_cons.mp hmem
      · exact absurd hm hclient
      · exact hw.closed m hm hmem
    given := fun r hr => { hw.given r hr with } }

/-- The shared client begins to be closed. -/
theorem SharedOk.aclose (hw : SharedOk w) {n : ℕ} (hclient : w.client = some n)
    (hlock : w.cleanupLock = true) :
    SharedOk { w with closed := n :: w.closed, closing := some n } := by
  exact { hw with
    closed_lt := List.forall_mem_cons.mpr ⟨hw.client_lt n hclient, hw.closed_lt⟩
    pending := fun m hm => by
      have hnone := (hw.pending m hm).1
      rw [hclient] at hnone
      cases hnone
    closing := fun m hm => by
      obtain rfl := Option.some.inj hm
      exact ⟨hclient, List.mem_cons_self, hlock⟩
    closed := fun m hm _ => .inl (hclient.symm.trans hm)
    given := fun r hr => { hw.given r hr with } }

theorem SharedOk.release (hw : SharedOk w) (hclient : w.client = none) :
    SharedOk { w with cleanupLock := false } := by
  exact { hw with
    closing := fun m hm => by
      rw [(hw.closing m hm).1] at hclient
      cases hclient
    given := fun r hr => { hw.given r hr with } }

/-- A client is built. -/
theorem SharedOk.build (hw : SharedOk w) : SharedOk { w with built := w.built + 1 } := by
  exact { hw with
    closed_lt := fun m hm => (hw.closed_lt m hm).trans (Nat.lt_succ_self _)
    client_lt := fun m hm => (hw.client_lt m hm).trans (Nat.lt_succ_self _)
    pending := fun m hm => by
      obtain ⟨hnone, hlt, hopen⟩ := hw.pending m hm
      exact ⟨hnone, hlt.trans (Nat.lt_succ_self _), hopen⟩
    given := fun r hr => { hw.given r hr with } }

theorem Moves.sharedOk (h : Moves w pc w' pc') (hw : SharedOk w) (hx : TaskOk w pc) : SharedOk w' := by
  cases h with
  | back => exact hw.give (hx.get _ _ rfl).2
  | locked hfree =>
      exact { hw with
        pending := fun m hm => by
          obtain ⟨hnone, hlt, hopen, -⟩ := hw.pending m hm
          exact ⟨hnone, hlt, hopen, rfl⟩
        given := fun r hr => { hw.given r hr with } }
  | built =>
      obtain ⟨hpending, hclient⟩ : w.pending = none ∧ w.client = none := (hx.get _ _ rfl).2
      have hbuild := hw.build
      exact { hbuild with
        pending := fun m hm => by
          obtain rfl := Option.some.inj hm
          refine ⟨hclient, Nat.lt_succ_self _, fun hmem => ?_, hx.creating rfl⟩
          exact Nat.lt_irrefl _ (hw.closed_lt _ hmem)
        counted := by
          have hcounted := hw.counted
          rw [hpending] at hcounted
          show w.sharedBuilt + 1 = _
          rw [hcounted]
          rfl
        given := fun r hr => { hw.given r hr with } }
  | buildFailed =>
      obtain ⟨hpending, -⟩ : w.pending = none ∧ w.client = none := (hx.get _ _ rfl).2
      exact { hw with
        pending := fun m hm => by
          rw [show w.pending = some m from hm] at hpending
          cases hpending
        given := fun r hr => { hw.given r hr with } }
  | @stored since n => exact hw.store (hx.get _ _ rfl).2
  | backLocked =>
      obtain ⟨hpending, hmissed⟩ := (hx.get _ _ rfl).2
      have hgive := hw.give hmissed
      exact { hgive with
        pending := fun m hm => by
          rw [show w.pending = some m from hm] at hpending
          cases hpending
        given := fun r hr => { hgive.given r hr with } }
  | builtOwn => exact hw.build
  | brokeOff => exact { hw with given := fun r hr => { hw.given r hr with } }
  | closeOwn => exact hw.close (hx.owns _ rfl)
  | closeLocked hfree =>
      exact { hw with
        closing := fun m hm => by
          obtain ⟨hclient, hmem, -⟩ := hw.closing m hm
          exact ⟨hclient, hmem, rfl⟩
        given := fun r hr => { hw.given r hr with } }
  | foundNone hclient => exact hw.release hclient
  | acloseNone hclient => exact hw.release hclient
  | aclose hclient => exact hw.aclose hclient (hx.cleaning rfl)
  | @acloseBroke n =>
      have hclosing : w.closing = some n := hx.close _ rfl
      exact { hw with
        closing := nofun
        closed := fun m hm hmem => by
          obtain hsame | hbroken := hw.closed m hm hmem
          · obtain rfl := Option.some.inj (hclosing.symm.trans hsame)
            exact .inr List.mem_cons_self
          · exact .inr (List.mem_cons_of_mem _ hbroken)
        given := fun r hr => { hw.given r hr with } }
  | clear => exact hw.clear (hx.close _ rfl)
  | _ => exact hw

/-- A client that is closed, stored, about to be stored, or given up. -/
def Shared.Placed (w : Shared) (n : ℕ) : Prop :=
  n ∈ w.closed ∨ w.client = some n ∨ w.pending = some n ∨ n ∈ w.left

theorem Moves.new_client (h : Moves w pc w' pc') {n : ℕ} (hn : n < w'.built) :
    n < w.built ∨ w'.pending = some n ∨ pc'.owns = some n := by
  cases h with
  | built =>
      obtain hlt | heq := Nat.lt_succ_iff_lt_or_eq.mp hn
      · exact .inl hlt
      · exact .inr (.inl (congrArg some heq.symm))
  | builtOwn =>
      obtain hlt | heq := Nat.lt_succ_iff_lt_or_eq.mp hn
      · exact .inl hlt
      · exact .inr (.inr (congrArg some heq.symm))
  | _ => exact .inl hn

/-- No move loses a client. -/
theorem Moves.placed (h : Moves w pc w' pc') (hw : SharedOk w) (hx : TaskOk w pc) {n : ℕ}
    (hn : w.Placed n ∨ pc.owns = some n) : w'.Placed n ∨ pc'.owns = some n := by
  cases h with
  | unanswered => rwa [afterResponse_owns]
  | responseClosed => rwa [afterResponse_owns]
  | answered => exact hn
  | built =>
      obtain ⟨hpending, -⟩ : w.pending = none ∧ w.client = none := (hx.get _ _ rfl).2
      obtain (hclosed | hclient | hsame | hleft) | hown := hn
      · exact .inl (.inl hclosed)
      · exact .inl (.inr (.inl hclient))
      · rw [hpending] at hsame
        cases hsame
      · exact .inl (.inr (.inr (.inr hleft)))
      · cases hown
  | @stored since m =>
      have hpending : w.pending = some m := (hx.get _ _ rfl).2
      obtain (hclosed | hclient | hsame | hleft) | hown := hn
      · exact .inl (.inl hclosed)
      · rw [(hw.pending m hpending).1] at hclient
        cases hclient
      · exact .inl (.inr (.inl (hpending.symm.trans hsame)))
      · exact .inl (.inr (.inr (.inr hleft)))
      · cases hown
  | @brokeOff client =>
      obtain (hclosed | hclient | hsame | hleft) | hown := hn
      · exact .inl (.inl hclosed)
      · exact .inl (.inr (.inl hclient))
      · exact .inl (.inr (.inr (.inl hsame)))
      · exact .inl (.inr (.inr (.inr (List.mem_append_right _ hleft))))
      · have howned : client.owned = some n := hown
        have hmem : n ∈ client.owned.toList := by simpa using howned
        exact .inl (.inr (.inr (.inr (List.mem_append_left _ hmem))))
  | @closeOwn m =>
      obtain (hclosed | hrest) | hown := hn
      · exact .inl (.inl (List.mem_cons_of_mem _ hclosed))
      · exact .inl (.inr hrest)
      · obtain rfl := Option.some.inj hown
        exact .inl (.inl List.mem_cons_self)
  | aclose hclient =>
      obtain (hclosed | hrest) | hown := hn
      · exact .inl (.inl (List.mem_cons_of_mem _ hclosed))
      · exact .inl (.inr hrest)
      · cases hown
  | @clear m =>
      obtain ⟨hclient, hmem, -⟩ := hw.closing m (hx.close _ rfl)
      obtain (hclosed | hsame | hrest) | hown := hn
      · exact .inl (.inl hclosed)
      · obtain rfl := Option.some.inj (hclient.symm.trans hsame)
        exact .inl (.inl hmem)
      · exact .inl (.inr (.inr hrest))
      · cases hown
  | _ => exact hn.imp_right nofun

end Moves

theorem kept_step {s s' : State} {l : Label Call Act} (h : clients.step s l = some s')
    (hs : Kept s) : Kept s' := by
  cases l with
  | spawn call =>
      obtain ⟨w, x, hspawn, rfl⟩ := Machine.step_spawn h
      cases hspawn
      have hstart : TaskOk s.shared call.start ∧ call.start.creating = false ∧
          call.start.cleaning = false := by
        cases call with
        | request mtls managed => exact ⟨.of_owns nofun nofun nofun, rfl, rfl⟩
        | close => exact ⟨.of_close nofun trivial, rfl, rfl⟩
      refine hs.spawn Apart.symm hs.shared hstart.1 fun j y hy => ⟨hs.each j y hy, ?_⟩
      refine ⟨fun hcreating => ?_, fun hcleaning => ?_⟩
      · rw [hstart.2.1] at hcreating
        cases hcreating
      · rw [hstart.2.2] at hcleaning
        cases hcleaning
  | move t act =>
      obtain ⟨x, w, x', hx, hmove, rfl⟩ := Machine.step_move (fun _ _ _ => rfl) h
      have hmoves := step_moves hmove
      have hok := hs.each t x hx
      refine hs.move Apart.symm (hmoves.sharedOk hs.shared hok) (hmoves.taskOk hs.shared hok) ?_
      intro j y hne hy
      have hapart := hs.pair t j x y (Ne.symm hne) hx hy
      have hother := hs.each j y hy
      exact ⟨hother.other (hmoves.frame hok) hapart, hmoves.apart hother hapart⟩

theorem kept_initial : Kept initial := by
  refine .of_idle ?_ rfl
  exact {
    closed_lt := nofun
    client_lt := nofun
    pending := nofun
    closing := nofun
    counted := rfl
    closed := nofun
    given := nofun
    same := nofun }

/-- Every client is placed, or its request has yet to close it. -/
def Accounted (s : State) : Prop :=
  ∀ n < s.shared.built, s.shared.Placed n ∨ ∃ x ∈ s.tasks, x.owns = some n

theorem accounted_step {s s' : State} {l : Label Call Act} (h : clients.step s l = some s')
    (hs : Kept s) (hacc : Accounted s) : Accounted s' := by
  cases l with
  | spawn call =>
      obtain ⟨w, x, hspawn, rfl⟩ := Machine.step_spawn h
      cases hspawn
      intro n hn
      obtain hplaced | ⟨y, hy, hown⟩ := hacc n hn
      · exact .inl hplaced
      · exact .inr ⟨y, List.mem_append_left _ hy, hown⟩
  | move t act =>
      obtain ⟨x, w, x', hx, hmove, rfl⟩ := Machine.step_move (fun _ _ _ => rfl) h
      have hmoves := step_moves hmove
      have hok := hs.each t x hx
      intro n hn
      have hself : (w.Placed n ∨ x'.owns = some n) →
          w.Placed n ∨ ∃ y ∈ s.tasks.set t x', y.owns = some n := by
        rintro (hplaced | hown)
        · exact .inl hplaced
        · exact .inr ⟨x', mem_set_self hx, hown⟩
      have hplaced := fun hbefore => hself (hmoves.placed hs.shared hok hbefore)
      obtain hlt | hpending | hown := hmoves.new_client hn
      · obtain hbefore | hheld := hacc n hlt
        · exact hplaced (.inl hbefore)
        · by_cases hx' : x.owns = some n
          · exact hplaced (.inr hx')
          · exact .inr (exists_mem_set_of_not x' hx hx' hheld)
      · exact .inl (.inr (.inr (.inl hpending)))
      · exact hself (.inr hown)

theorem kept_run {ls : List (Label Call Act)} {s : State} (h : run initial ls = some s) :
    Kept s ∧ Accounted s := by
  have hstep : ∀ s l s', Kept s ∧ Accounted s → clients.step s l = some s' →
      Kept s' ∧ Accounted s' :=
    fun s l s' hs h => ⟨kept_step h hs.1, accounted_step h hs.1 hs.2⟩
  exact Runs.exec_preserves hstep ⟨kept_initial, fun n hn => absurd hn (Nat.not_lt_zero n)⟩ h

/-- A client that is not closed is the one that is stored, or while there is none, the one about to
be; or its request is still to close it, or broke off as it closed the response. However many calls ask,
no more clients were built to be shared than were taken out, but one. -/
theorem clients_accounted {ls : List (Label Call Act)} {s : State} (hrun : run initial ls = some s) :
    (∀ n < s.shared.built, n ∉ s.shared.closed →
      s.shared.client = some n ∨ (s.shared.client = none ∧ s.shared.pending = some n) ∨
      n ∈ s.shared.left ∨ ∃ x ∈ s.tasks, x.owns = some n) ∧
    s.shared.sharedBuilt ≤ s.shared.cleared + 1 := by
  obtain ⟨hkept, hacc⟩ := kept_run hrun
  have hshared := hkept.shared
  refine ⟨fun n hn hopen => ?_, ?_⟩
  · obtain (hclosed | hclient | hpending | hleft) | hheld := hacc n hn
    · exact absurd hclosed hopen
    · exact .inl hclient
    · exact .inr (.inl ⟨(hshared.pending n hpending).1, hpending⟩)
    · exact .inr (.inr (.inl hleft))
    · exact .inr (.inr (.inr hheld))
  · have hcounted := hshared.counted
    cases hpending : s.shared.pending with
    | none =>
        rw [hpending] at hcounted
        cases hclient : s.shared.client <;> simp [hclient] at hcounted <;> omega
    | some n =>
        rw [(hshared.pending n hpending).1, hpending] at hcounted
        simp at hcounted
        omega

/-- A call builds the client; another gets it while it is closed, and a third one finds it there and
gets none. -/
def sampleRun : List (Label Call Act) :=
  .spawn (.request false false) :: List.replicate 7 (.move 0 .run) ++
    .spawn .close :: List.replicate 4 (.move 1 .run) ++
    .spawn (.request false false) :: List.replicate 3 (.move 2 .run) ++
    .spawn (.request false false) :: List.replicate 2 (.move 3 .run) ++
    List.replicate 2 (.move 1 .run) ++ [.move 3 .run]

theorem clients_accounted_sample :
    ∃ s, run initial sampleRun = some s ∧ s.shared.built = 1 ∧ s.shared.sharedBuilt ≤ s.shared.cleared + 1 := by
  obtain ⟨s, hs⟩ := Option.isSome_iff_exists.mp
    (show (run initial sampleRun).isSome = true by decide)
  have hbuilt : (run initial sampleRun).map (fun s => s.shared.built) = some 1 := by decide
  rw [hs] at hbuilt
  exact ⟨s, hs, Option.some.inj hbuilt, (clients_accounted hs).2⟩

/-- Between two closings all calls get one client. A call gets none only if a client was taken out
while it ran, and a closed one only while that is being closed, or after a closing of it broke off. -/
theorem given_clients {ls : List (Label Call Act)} {s : State} (hrun : run initial ls = some s) :
    ∀ r ∈ s.shared.given,
      (r.client = none → r.since < r.cleared) ∧
      (r.closed = true → r.closing = true ∨ r.broken = true) ∧
      ∀ r' ∈ s.shared.given, r.cleared = r'.cleared → r.client ≠ none → r'.client ≠ none →
        r.client = r'.client := by
  have hshared := (kept_run hrun).1.shared
  intro r hr
  refine ⟨(hshared.given r hr).missed, (hshared.given r hr).closed, ?_⟩
  intro r' hr' hcleared hr_some hr'_some
  obtain ⟨n, hn⟩ := Option.ne_none_iff_exists'.mp hr_some
  obtain ⟨n', hn'⟩ := Option.ne_none_iff_exists'.mp hr'_some
  rw [hn, hn', hshared.same r hr r' hr' n n' hn hn' hcleared]

theorem given_clients_sample :
    ∃ s, run initial sampleRun = some s ∧
      (s.shared.given.map fun r => (r.client, r.closed)) =
        [(none, false), (some 0, true), (some 0, false)] ∧
      ∀ r ∈ s.shared.given, r.closed = true → r.closing = true ∨ r.broken = true := by
  obtain ⟨s, hs⟩ := Option.isSome_iff_exists.mp
    (show (run initial sampleRun).isSome = true by decide)
  have hgiven : (run initial sampleRun).map
      (fun s => s.shared.given.map fun r => (r.client, r.closed)) =
        some [(none, false), (some 0, true), (some 0, false)] := by decide
  rw [hs] at hgiven
  exact ⟨s, hs, Option.some.inj hgiven, fun r hr => (given_clients hs r hr).2.1⟩

end IdentityModel.PyClients
