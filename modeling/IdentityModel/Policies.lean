import Mathlib.Data.List.Basic
import Mathlib.Tactic

/-!
# Policies: trees of all-of and any-of combinations

A check accepts, rejects for a reason, or fails outright. An all-of combination
comes to its first outcome that is not an acceptance. An any-of combination
comes to its first outcome that is not a rejection; when all reject, their
reasons are aggregated. An any-of has at least one member.

A library that offers the two combinations as functions on validators builds a
validator from a tree. If each function means what its combination does, the
validator means what the tree does.
-/
namespace IdentityModel.Policies

/-- What a check comes to: `ρ` are the reasons of a rejection, `ε` the failures. -/
inductive Outcome (ρ ε : Type*)
  | accept
  | reject (reason : ρ)
  | fail (error : ε)
  deriving DecidableEq, Repr

/-- An outcome without its details. -/
inductive Verdict
  | accept
  | reject
  | fail
  deriving DecidableEq, Repr

variable {ι ρ ε ρ' ε' : Type*}

def Outcome.verdict : Outcome ρ ε → Verdict
  | .accept => .accept
  | .reject _ => .reject
  | .fail _ => .fail

def Outcome.isAccept : Outcome ρ ε → Bool
  | .accept => true
  | _ => false

def Outcome.isReject : Outcome ρ ε → Bool
  | .reject _ => true
  | _ => false

/-- The reason of a rejection. -/
def Outcome.reason? : Outcome ρ ε → Option ρ
  | .reject reason => some reason
  | _ => none

/-- The first outcome that is not an acceptance. -/
def allOf (outcomes : List (Outcome ρ ε)) : Outcome ρ ε :=
  (outcomes.find? fun o => !o.isAccept).getD .accept

/-- The first outcome that is not a rejection. -/
def anyOf (aggregate : List ρ → ρ) (outcomes : List (Outcome ρ ε)) : Outcome ρ ε :=
  (outcomes.find? fun o => !o.isReject).getD
    (.reject (aggregate (outcomes.filterMap Outcome.reason?)))

/-- A tree of combinations over leaves. -/
inductive Policy (ι : Type*)
  | leaf (i : ι)
  | all (members : List (Policy ι))
  | any (first : Policy ι) (rest : List (Policy ι))

mutual

/-- What a tree comes to, given what its leaves do. -/
def Policy.eval (aggregate : List ρ → ρ) (leaf : ι → Outcome ρ ε) : Policy ι → Outcome ρ ε
  | .leaf i => leaf i
  | .all members => allOf (evalAll aggregate leaf members)
  | .any first rest => anyOf aggregate (first.eval aggregate leaf :: evalAll aggregate leaf rest)

def evalAll (aggregate : List ρ → ρ) (leaf : ι → Outcome ρ ε) :
    List (Policy ι) → List (Outcome ρ ε)
  | [] => []
  | p :: ps => p.eval aggregate leaf :: evalAll aggregate leaf ps

end

variable {aggregate : List ρ → ρ} {outcomes : List (Outcome ρ ε)} {o : Outcome ρ ε}

@[simp] theorem isAccept_iff : o.isAccept = true ↔ o = .accept := by
  cases o <;> simp [Outcome.isAccept]

@[simp] theorem isAccept_eq_false : o.isAccept = false ↔ o ≠ .accept := by
  cases o <;> simp [Outcome.isAccept]

/-- An all-of accepts when every member does. -/
theorem allOf_eq_accept : allOf outcomes = .accept ↔ ∀ o ∈ outcomes, o = .accept := by
  unfold allOf
  cases hfind : outcomes.find? fun o => !o.isAccept with
  | none => simpa using hfind
  | some o =>
      have hmem := List.mem_of_find?_eq_some hfind
      have hnot : o ≠ .accept := by simpa using List.find?_some hfind
      simp only [Option.getD_some]
      exact ⟨fun he => absurd he hnot, fun hall => absurd (hall o hmem) hnot⟩

/-- Otherwise it comes to the first member that does not. -/
theorem allOf_eq_of_ne (hne : o ≠ .accept) :
    allOf outcomes = o ↔
      ∃ before after, outcomes = before ++ o :: after ∧ ∀ b ∈ before, b = .accept := by
  have hfirst : (outcomes.find? fun o => !o.isAccept) = some o ↔
      ∃ before after, outcomes = before ++ o :: after ∧ ∀ b ∈ before, b = .accept := by
    rw [List.find?_eq_some_iff_append]
    simp [hne]
  rw [← hfirst, allOf]
  cases outcomes.find? fun o => !o.isAccept with
  | none => simp [Ne.symm hne]
  | some o' => simp

/-- An any-of comes to an acceptance or a failure when that is the first outcome
that is not a rejection. -/
theorem anyOf_eq_of_not_reject (hno : o.isReject = false) :
    anyOf aggregate outcomes = o ↔
      ∃ before after, outcomes = before ++ o :: after ∧ ∀ b ∈ before, b.isReject = true := by
  have hfirst : (outcomes.find? fun o => !o.isReject) = some o ↔
      ∃ before after, outcomes = before ++ o :: after ∧ ∀ b ∈ before, b.isReject = true := by
    rw [List.find?_eq_some_iff_append]
    simp [hno]
  rw [← hfirst, anyOf]
  cases outcomes.find? fun o => !o.isReject with
  | none =>
      constructor
      · intro he
        rw [← he] at hno
        cases hno
      · intro he
        cases he
  | some o' => simp

/-- It rejects only when every member does. -/
theorem anyOf_isReject :
    (anyOf aggregate outcomes).isReject = true ↔ ∀ o ∈ outcomes, o.isReject = true := by
  unfold anyOf
  cases hfind : outcomes.find? fun o => !o.isReject with
  | none => simpa [Outcome.isReject] using hfind
  | some o =>
      have hmem := List.mem_of_find?_eq_some hfind
      have hnot : o.isReject = false := by simpa using List.find?_some hfind
      simp only [Option.getD_some]
      exact ⟨fun he => absurd he (by simp [hnot]), fun hall => absurd (hall o hmem) (by simp [hnot])⟩

@[simp] theorem allOf_nil : allOf ([] : List (Outcome ρ ε)) = .accept := rfl

@[simp] theorem allOf_accept_cons : allOf (.accept :: outcomes) = allOf outcomes := rfl

theorem allOf_cons_of_ne (hne : o ≠ .accept) : allOf (o :: outcomes) = o :=
  (allOf_eq_of_ne hne).mpr ⟨[], outcomes, rfl, by simp⟩

/-- Rejections so far, and then an outcome that is none. -/
theorem anyOf_rejects_cons (reasons : List ρ) (hno : o.isReject = false) :
    anyOf aggregate (reasons.map Outcome.reject ++ o :: outcomes) = o :=
  (anyOf_eq_of_not_reject hno).mpr ⟨_, outcomes, rfl, by simp [Outcome.isReject]⟩

theorem anyOf_rejects (reasons : List ρ) :
    anyOf (ε := ε) aggregate (reasons.map Outcome.reject) = .reject (aggregate reasons) := by
  have hreasons : (reasons.map (Outcome.reject (ε := ε))).filterMap Outcome.reason? = reasons := by
    induction reasons with
    | nil => rfl
    | cons r rs ih => simpa [Outcome.reason?] using ih
  have hnone : (reasons.map (Outcome.reject (ε := ε))).find? (fun o => !o.isReject) = none := by
    simp [Outcome.isReject]
  rw [anyOf, hnone, hreasons, Option.getD_none]

/-- The combinations on outcomes without details. -/
def Verdict.outcome : Verdict → Outcome Unit Unit
  | .accept => .accept
  | .reject => .reject ()
  | .fail => .fail ()

@[simp] theorem verdict_outcome (v : Verdict) : v.outcome.verdict = v := by cases v <;> rfl

theorem find?_verdict (p : Outcome ρ ε → Bool) (p' : Outcome ρ' ε' → Bool)
    {outcomes : List (Outcome ρ ε)} {outcomes' : List (Outcome ρ' ε')}
    (hp : ∀ o o', o.verdict = o'.verdict → p o = p' o')
    (h : outcomes.map Outcome.verdict = outcomes'.map Outcome.verdict) :
    (outcomes.find? p).map Outcome.verdict = (outcomes'.find? p').map Outcome.verdict := by
  induction outcomes generalizing outcomes' with
  | nil =>
      obtain rfl : outcomes' = [] := by simpa using h.symm
      rfl
  | cons o os ih =>
      cases outcomes' with
      | nil => simp at h
      | cons o' os' =>
          simp only [List.map_cons, List.cons.injEq] at h
          have hsame := hp o o' h.1
          simp only [List.find?_cons, hsame]
          split
          · simp [h.1]
          · exact ih h.2

theorem isAccept_congr {o : Outcome ρ ε} {o' : Outcome ρ' ε'} (h : o.verdict = o'.verdict) :
    o.isAccept = o'.isAccept := by
  cases o <;> cases o' <;> simp_all [Outcome.verdict, Outcome.isAccept]

theorem isReject_congr {o : Outcome ρ ε} {o' : Outcome ρ' ε'} (h : o.verdict = o'.verdict) :
    o.isReject = o'.isReject := by
  cases o <;> cases o' <;> simp_all [Outcome.verdict, Outcome.isReject]

theorem allOf_verdict {outcomes : List (Outcome ρ ε)} {outcomes' : List (Outcome ρ' ε')}
    (h : outcomes.map Outcome.verdict = outcomes'.map Outcome.verdict) :
    (allOf outcomes).verdict = (allOf outcomes').verdict := by
  have hfind := find?_verdict (fun o => !o.isAccept) (fun o => !o.isAccept)
    (fun o o' he => by rw [isAccept_congr he]) h
  unfold allOf
  revert hfind
  cases outcomes.find? fun o => !o.isAccept <;>
    cases outcomes'.find? fun o => !o.isAccept <;> simp [Outcome.verdict]

theorem anyOf_verdict {aggregate' : List ρ' → ρ'} {outcomes : List (Outcome ρ ε)}
    {outcomes' : List (Outcome ρ' ε')}
    (h : outcomes.map Outcome.verdict = outcomes'.map Outcome.verdict) :
    (anyOf aggregate outcomes).verdict = (anyOf aggregate' outcomes').verdict := by
  have hfind := find?_verdict (fun o => !o.isReject) (fun o => !o.isReject)
    (fun o o' he => by rw [isReject_congr he]) h
  unfold anyOf
  revert hfind
  cases outcomes.find? fun o => !o.isReject <;>
    cases outcomes'.find? fun o => !o.isReject <;> simp [Outcome.verdict]

mutual

theorem eval_congr (aggregate : List ρ → ρ) (aggregate' : List ρ' → ρ') {leaf : ι → Outcome ρ ε}
    {leaf' : ι → Outcome ρ' ε'} (h : ∀ i, (leaf i).verdict = (leaf' i).verdict) :
    ∀ p : Policy ι, (p.eval aggregate leaf).verdict = (p.eval aggregate' leaf').verdict
  | .leaf i => by simpa [Policy.eval] using h i
  | .all members => by
      simp only [Policy.eval]
      exact allOf_verdict (evalAll_congr aggregate aggregate' h members)
  | .any first rest => by
      simp only [Policy.eval]
      apply anyOf_verdict
      rw [List.map_cons, List.map_cons, eval_congr aggregate aggregate' h first,
        evalAll_congr aggregate aggregate' h rest]

theorem evalAll_congr (aggregate : List ρ → ρ) (aggregate' : List ρ' → ρ')
    {leaf : ι → Outcome ρ ε} {leaf' : ι → Outcome ρ' ε'}
    (h : ∀ i, (leaf i).verdict = (leaf' i).verdict) :
    ∀ ps : List (Policy ι), (evalAll aggregate leaf ps).map Outcome.verdict =
      (evalAll aggregate' leaf' ps).map Outcome.verdict
  | [] => by simp [evalAll]
  | p :: ps => by
      simp only [evalAll, List.map_cons]
      rw [eval_congr aggregate aggregate' h p, evalAll_congr aggregate aggregate' h ps]

end

/-- The verdict of a tree, from the verdicts of its leaves. -/
def Policy.verdict (p : Policy ι) (leaf : ι → Verdict) : Verdict :=
  (p.eval (fun _ => ()) fun i => (leaf i).outcome).verdict

/-- Leaves that agree up to details make trees that do. -/
theorem eval_verdict (aggregate : List ρ → ρ) {leaf : ι → Outcome ρ ε} {verdicts : ι → Verdict}
    (h : ∀ i, (leaf i).verdict = verdicts i) (p : Policy ι) :
    (p.eval aggregate leaf).verdict = p.verdict verdicts :=
  eval_congr aggregate _ (fun i => by rw [h i, verdict_outcome]) p

section Build

variable {V E C : Type*}

mutual

/-- Build a validator with the combinations a library offers. -/
def Policy.build (combineAll combineAny : List V → Except E V) (leaf : ι → V) :
    Policy ι → Except E V
  | .leaf i => .ok (leaf i)
  | .all members => (buildAll combineAll combineAny leaf members).bind combineAll
  | .any first rest =>
      (first.build combineAll combineAny leaf).bind fun v =>
        (buildAll combineAll combineAny leaf rest).bind fun vs => combineAny (v :: vs)

def buildAll (combineAll combineAny : List V → Except E V) (leaf : ι → V) :
    List (Policy ι) → Except E (List V)
  | [] => .ok []
  | p :: ps =>
      (p.build combineAll combineAny leaf).bind fun v =>
        (buildAll combineAll combineAny leaf ps).map fun vs => v :: vs

end

/-- The two combinations of a library are built and mean what they should, where
`run` is what a validator comes to on claims. -/
structure Sound (run : V → C → Outcome ρ ε) (aggregate : List ρ → ρ)
    (combineAll combineAny : List V → Except E V) : Prop where
  all : ∀ vs, ∃ v, combineAll vs = .ok v ∧
    ∀ claims, run v claims = allOf (vs.map fun w => run w claims)
  any : ∀ v₀ vs, ∃ v, combineAny (v₀ :: vs) = .ok v ∧
    ∀ claims, run v claims = anyOf aggregate ((v₀ :: vs).map fun w => run w claims)

variable {run : V → C → Outcome ρ ε} {combineAll combineAny : List V → Except E V}

mutual

/-- A tree is built, and the validator means the tree. -/
theorem build_eval (hs : Sound run aggregate combineAll combineAny) (leaf : ι → V) :
    ∀ p : Policy ι, ∃ v, p.build combineAll combineAny leaf = .ok v ∧
      ∀ claims, run v claims = p.eval aggregate fun i => run (leaf i) claims
  | .leaf i => ⟨leaf i, by simp [Policy.build], fun claims => by simp [Policy.eval]⟩
  | .all members => by
      obtain ⟨vs, hvs, hmean⟩ := buildAll_eval hs leaf members
      obtain ⟨v, hv, hrun⟩ := hs.all vs
      refine ⟨v, by simp [Policy.build, hvs, Except.bind, hv], fun claims => ?_⟩
      rw [hrun, hmean, Policy.eval]
  | .any first rest => by
      obtain ⟨v₀, hv₀, hmean₀⟩ := build_eval hs leaf first
      obtain ⟨vs, hvs, hmean⟩ := buildAll_eval hs leaf rest
      obtain ⟨v, hv, hrun⟩ := hs.any v₀ vs
      refine ⟨v, by simp [Policy.build, hv₀, hvs, Except.bind, hv], fun claims => ?_⟩
      rw [hrun, List.map_cons, hmean₀, hmean, Policy.eval]

theorem buildAll_eval (hs : Sound run aggregate combineAll combineAny) (leaf : ι → V) :
    ∀ ps : List (Policy ι), ∃ vs, buildAll combineAll combineAny leaf ps = .ok vs ∧
      ∀ claims, (vs.map fun v => run v claims) = evalAll aggregate (fun i => run (leaf i) claims) ps
  | [] => ⟨[], by simp [buildAll], fun claims => by simp [evalAll]⟩
  | p :: ps => by
      obtain ⟨v, hv, hmean⟩ := build_eval hs leaf p
      obtain ⟨vs, hvs, hmeans⟩ := buildAll_eval hs leaf ps
      refine ⟨v :: vs, by simp [buildAll, hv, hvs, Except.bind, Except.map], fun claims => ?_⟩
      rw [List.map_cons, hmean, hmeans, evalAll]

end

end Build

end IdentityModel.Policies
