import Mathlib.Data.List.Basic
import Mathlib.Tactic

/-!
# A ledger of requests and cache writes

Parties send requests for values, and write what they are answered into a cache
from which entries are evicted and which may be cleared. The ledger records this,
newest event first; the number of an event is the number of events before it, and
a request is named by its own number. From the ledger alone one reads which write
the cache holds for a key.
-/
namespace IdentityModel.Ledger

variable {κ ν π τ : Type*}

/-- A write: the request it answers, the party that made it, and the entry it
stored, if it stored one. -/
structure Write (κ ν : Type*) where
  request : ℕ
  party : ℕ
  key : κ
  stored : Option ν
  deriving DecidableEq

inductive Event (κ ν π τ : Type*)
  | sent (party : ℕ) (key : κ) (purpose : π) (at_ : τ)
  | written (w : Write κ ν)
  | evicted (key : κ)
  | cleared
  deriving DecidableEq

/-- Newest first. -/
abbrev Trace (κ ν π τ : Type*) := List (Event κ ν π τ)

/-- The numbers of the requests. -/
def sents : Trace κ ν π τ → List ℕ
  | [] => []
  | .sent .. :: rest => rest.length :: sents rest
  | _ :: rest => sents rest

/-- The numbers of the clears. -/
def clears : Trace κ ν π τ → List ℕ
  | [] => []
  | .cleared :: rest => rest.length :: clears rest
  | _ :: rest => clears rest

/-- Every write answers a request sent before it. -/
def Ordered : Trace κ ν π τ → Prop
  | [] => True
  | .written w :: rest => w.request ∈ sents rest ∧ Ordered rest
  | _ :: rest => Ordered rest

theorem sents_cons {trace : Trace κ ν π τ} {id : ℕ} (h : id ∈ sents trace)
    (e : Event κ ν π τ) : id ∈ sents (e :: trace) := by
  cases e with
  | sent party key purpose at_ => exact List.mem_cons_of_mem _ h
  | _ => exact h

theorem sents_append {trace : Trace κ ν π τ} {id : ℕ} (h : id ∈ sents trace)
    (es : Trace κ ν π τ) : id ∈ sents (es ++ trace) := by
  induction es with
  | nil => exact h
  | cons e es ih => exact sents_cons ih e

theorem sents_lt {trace : Trace κ ν π τ} {id : ℕ} (h : id ∈ sents trace) : id < trace.length := by
  induction trace with
  | nil => cases h
  | cons e rest ih =>
      rw [List.length_cons]
      cases e with
      | sent party key purpose at_ =>
          obtain rfl | h := List.mem_cons.mp h
          · omega
          · have hlt := ih h
            omega
      | _ =>
          have hlt := ih h
          omega

theorem clears_lt {trace : Trace κ ν π τ} {c : ℕ} (hc : c ∈ clears trace) : c < trace.length := by
  induction trace with
  | nil => cases hc
  | cons e rest ih =>
      rw [List.length_cons]
      cases e with
      | cleared =>
          obtain rfl | hc := List.mem_cons.mp hc
          · omega
          · have hlt := ih hc
            omega
      | _ =>
          have hlt := ih hc
          omega

theorem Ordered.request_mem {trace : Trace κ ν π τ} (h : Ordered trace) {w : Write κ ν}
    (hw : .written w ∈ trace) : w.request ∈ sents trace := by
  induction trace with
  | nil => cases hw
  | cons e rest ih =>
      have hrest : Ordered rest := by
        cases e with
        | written w' => exact h.2
        | _ => exact h
      obtain rfl | hw := List.mem_cons.mp hw
      · exact h.1
      · exact sents_cons (ih hrest hw) e

theorem clears_evicted (keys : List κ) (trace : Trace κ ν π τ) :
    clears (keys.map .evicted ++ trace) = clears trace := by
  induction keys with
  | nil => rfl
  | cons key keys ih => simpa [clears] using ih

theorem ordered_evicted {keys : List κ} {trace : Trace κ ν π τ} (h : Ordered trace) :
    Ordered (keys.map .evicted ++ trace) := by
  induction keys with
  | nil => exact h
  | cons key keys ih => exact ih

section Current

variable [DecidableEq κ]

/-- The write whose entry the cache holds for a key. -/
def current (k : κ) : Trace κ ν π τ → Option (Write κ ν)
  | [] => none
  | .written w :: rest => if w.key = k ∧ w.stored.isSome = true then some w else current k rest
  | .evicted key :: rest => if key = k then none else current k rest
  | .cleared :: _ => none
  | .sent .. :: rest => current k rest

/-- The newest write that stored an entry for a key, removed since or not. -/
def lastStored (k : κ) : Trace κ ν π τ → Option (Write κ ν)
  | [] => none
  | .written w :: rest => if w.key = k ∧ w.stored.isSome = true then some w else lastStored k rest
  | _ :: rest => lastStored k rest

attribute [local simp] current lastStored

theorem current_mem {k : κ} {trace : Trace κ ν π τ} {w : Write κ ν}
    (h : current k trace = some w) : .written w ∈ trace ∧ w.key = k := by
  induction trace with
  | nil => cases h
  | cons e rest ih =>
      cases e with
      | written w' =>
          simp only [current] at h
          split at h
          · rename_i hk
            cases h
            exact ⟨List.mem_cons_self, hk.1⟩
          · exact ⟨List.mem_cons_of_mem _ (ih h).1, (ih h).2⟩
      | evicted key =>
          simp only [current] at h
          split at h
          · cases h
          · exact ⟨List.mem_cons_of_mem _ (ih h).1, (ih h).2⟩
      | cleared => cases h
      | sent party key purpose at_ => exact ⟨List.mem_cons_of_mem _ (ih h).1, (ih h).2⟩

/-- Evictions in front of a trace. -/
theorem current_evicted (k : κ) (keys : List κ) (trace : Trace κ ν π τ) :
    current k (keys.map .evicted ++ trace) = if k ∈ keys then none else current k trace := by
  induction keys with
  | nil => simp
  | cons key keys ih =>
      by_cases hk : key = k
      · simp [current, hk]
      · simp [current, hk, ih, Ne.symm hk]

theorem lastStored_mem {k : κ} {trace : Trace κ ν π τ} {w : Write κ ν}
    (h : lastStored k trace = some w) : .written w ∈ trace ∧ w.key = k := by
  induction trace with
  | nil => cases h
  | cons e rest ih =>
      cases e with
      | written w' =>
          simp only [lastStored] at h
          split at h
          · rename_i hk
            cases h
            exact ⟨List.mem_cons_self, hk.1⟩
          · exact ⟨List.mem_cons_of_mem _ (ih h).1, (ih h).2⟩
      | _ => exact ⟨List.mem_cons_of_mem _ (ih h).1, (ih h).2⟩

theorem current_stored {k : κ} {trace : Trace κ ν π τ} {w : Write κ ν}
    (h : current k trace = some w) : w.stored.isSome = true := by
  induction trace with
  | nil => cases h
  | cons e rest ih =>
      cases e with
      | written w' =>
          simp only [current] at h
          split at h
          · rename_i hk
            cases h
            exact hk.2
          · exact ih h
      | evicted key =>
          simp only [current] at h
          split at h
          · cases h
          · exact ih h
      | cleared => cases h
      | sent party key purpose at_ => exact ih h

/-- After a write that stored, the cache holds the newest such write, unless the key
was evicted or the cache cleared since. -/
theorem current_of_written {k : κ} (newer rest : Trace κ ν π τ) {w : Write κ ν}
    (hkey : w.key = k) (hstored : w.stored.isSome = true) :
    (∃ v, current k (newer ++ .written w :: rest) = some v ∧
      lastStored k (newer ++ [.written w]) = some v) ∨
      .evicted k ∈ newer ∨ .cleared ∈ newer := by
  induction newer with
  | nil =>
      left
      exact ⟨w, by simp [current, hkey, hstored], by simp [lastStored, hkey, hstored]⟩
  | cons e newer ih =>
      cases e with
      | written w' =>
          by_cases hw : w'.key = k ∧ w'.stored.isSome = true
          · exact .inl ⟨w', by simp [current, hw], by simp [lastStored, hw]⟩
          · simpa [current, lastStored, hw] using ih
      | evicted key =>
          by_cases hk : key = k
          · exact .inr (.inl (by simp [hk]))
          · simpa [current, lastStored, hk, Ne.symm hk] using ih
      | cleared => exact .inr (.inr (by simp))
      | sent party key purpose at_ => simpa [current, lastStored] using ih

end Current

end IdentityModel.Ledger
