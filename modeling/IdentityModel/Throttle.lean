import Mathlib.Algebra.Order.Monoid.Defs
import Mathlib.Algebra.Order.Floor.Semiring
import Mathlib.Algebra.Order.Field.Rat
import Mathlib.Data.Rat.Floor
import Mathlib.Tactic

/-!
# Cooldown gates and spaced events

A gate lets an action start only when the last recorded stamp is far enough back:
a cooldown as its clock measures one. The record is written after the action, by
the party that performed it. `Covered` is the invariant of one such gate: the last
start is still being handled, or a stamp no older than it is on record, or it is
far enough back. A gate that opens while nobody is inside keeps the starts apart.

The second part counts spaced events: at most ⌈W / c⌉ of them fall in a window
of length W.
-/
namespace IdentityModel.Throttle

section Gate

variable {T : Type*} [LinearOrder T]

/-- Far enough back stays so for what is earlier, and as time goes on. -/
structure IsGap (far : T → T → Prop) : Prop where
  mono : ∀ {a a' b b'}, far a b → a' ≤ a → b ≤ b' → far a' b'

/-- The gate is open at `now`: no stamp, or one that is far enough back. -/
def Open (far : T → T → Prop) (now : T) (stamp : Option T) : Prop :=
  ∀ τ, stamp = some τ → far τ now

/-- The last start is accounted for: someone is still `inside`, or it is
stamped, or it is far enough back. -/
def Covered (far : T → T → Prop) (now : T) (last stamp : Option T) (inside : Prop) : Prop :=
  ∀ t, last = some t → inside ∨ (∃ τ, stamp = some τ ∧ t ≤ τ) ∨ far t now

variable {far : T → T → Prop}

theorem Covered.mono (hgap : IsGap far) {now now' : T} {last stamp : Option T} {p : Prop}
    (h : Covered far now last stamp p) (hn : now ≤ now') : Covered far now' last stamp p := by
  intro t ht
  rcases h t ht with hp | hs | hc
  · exact .inl hp
  · exact .inr (.inl hs)
  · exact .inr (.inr (hgap.mono hc le_rfl hn))

/-- Passing an open gate that nobody is inside: the last start is far enough
back, whatever the record says from now on. -/
theorem Covered.elapsed (hgap : IsGap far) {now : T} {last stamp : Option T} {p : Prop}
    (h : Covered far now last stamp p) (hp : ¬ p) (ho : Open far now stamp) :
    ∀ t, last = some t → far t now := by
  intro t ht
  rcases h t ht with hin | ⟨τ, hτ, hle⟩ | hc
  · exact absurd hin hp
  · exact hgap.mono (ho τ hτ) hle le_rfl
  · exact hc

theorem Covered.of_elapsed {now : T} {last : Option T} (h : ∀ t, last = some t → far t now)
    (stamp : Option T) (p : Prop) : Covered far now last stamp p :=
  fun t ht => .inr (.inr (h t ht))

/-- Writing a stamp that is not older than the last start covers it. -/
theorem Covered.stamped {now τ : T} {last : Option T} (h : ∀ t, last = some t → t ≤ τ)
    (p : Prop) : Covered far now last (some τ) p :=
  fun t ht => .inr (.inl ⟨τ, rfl, h t ht⟩)

/-- Event times, newest first, any two of them far enough apart. -/
def Apart (far : T → T → Prop) (times : List T) : Prop :=
  times.Pairwise fun later earlier => far earlier later

omit [LinearOrder T] in
theorem apart_nil (far : T → T → Prop) : Apart far [] := List.Pairwise.nil

/-- A new event that is far enough behind the newest one is so behind all. -/
theorem Apart.cons (hgap : IsGap far) {t : T} {times : List T} (h : Apart far times)
    (ht : ∀ a ∈ times.head?, far a t ∧ a ≤ t) : Apart far (t :: times) := by
  refine List.Pairwise.cons ?_ h
  intro a ha
  cases times with
  | nil => simp at ha
  | cons b rest =>
      obtain ⟨hb, hle⟩ : far b t ∧ b ≤ t := ht b (by simp)
      rcases List.mem_cons.mp ha with rfl | ha
      · exact hb
      · have hab : far a b := (List.pairwise_cons.mp h).1 a ha
        exact hgap.mono hab le_rfl hle

end Gate

section Length

variable {T : Type*} [AddCommMonoid T] [LinearOrder T]

/-- At least `c` later. -/
def After (c earlier later : T) : Prop := earlier + c ≤ later

theorem isGap_after [IsOrderedAddMonoid T] (c : T) : IsGap (After c) where
  mono h ha hb := (add_le_add_left ha c).trans (h.trans hb)

/-- Event times, newest first, any two of them at least `c` apart. -/
def Spaced (c : T) (times : List T) : Prop :=
  times.Pairwise fun later earlier => earlier + c ≤ later

end Length

/-- Spaced events at or after `w` reach `(n - 1) * c` past it. -/
theorem spaced_head_le {c w : ℚ} : ∀ {t : ℚ} {times : List ℚ}, Spaced c (t :: times) →
    (∀ a ∈ t :: times, w ≤ a) → w + times.length * c ≤ t
  | t, [], _, hw => by simpa using hw t (by simp)
  | t, b :: rest, h, hw => by
      have hb := spaced_head_le (List.pairwise_cons.mp h).2
        (fun a ha => hw a (List.mem_cons_of_mem _ ha))
      have hbt : b + c ≤ t := (List.pairwise_cons.mp h).1 b (by simp)
      push_cast [List.length_cons]
      linarith

/-- At most `⌈W / c⌉` spaced events fall in the window `[w, w + W)`. -/
theorem Spaced.window_le {c : ℚ} (hc : 0 < c) {times : List ℚ} (h : Spaced c times) (w W : ℚ) :
    (times.filter fun t => decide (w ≤ t ∧ t < w + W)).length ≤ ⌈W / c⌉₊ := by
  have hsub : Spaced c (times.filter fun t => decide (w ≤ t ∧ t < w + W)) :=
    List.Pairwise.sublist List.filter_sublist h
  have hmem : ∀ t ∈ times.filter (fun t => decide (w ≤ t ∧ t < w + W)), w ≤ t ∧ t < w + W := by
    intro t ht
    simpa using (List.mem_filter.mp ht).2
  generalize times.filter (fun t => decide (w ≤ t ∧ t < w + W)) = inside at hsub hmem
  cases inside with
  | nil => simp
  | cons t rest =>
      have hlow := spaced_head_le hsub (fun a ha => (hmem a ha).1)
      have hhigh := (hmem t (by simp)).2
      have hlt : (rest.length : ℚ) < W / c := by
        rw [lt_div_iff₀ hc]
        linarith
      have hceil : (rest.length : ℚ) < (⌈W / c⌉₊ : ℚ) := hlt.trans_le (Nat.le_ceil _)
      have hnat : rest.length < ⌈W / c⌉₊ := by exact_mod_cast hceil
      simpa using hnat

end IdentityModel.Throttle
