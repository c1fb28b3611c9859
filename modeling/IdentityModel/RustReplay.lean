import IdentityModel.ReplayStore
import IdentityModel.RustDpopBinding

/-!
# Replays of DPoP proofs in Rust

The documentation of `verify_proof` leaves replays to its caller, with a store of the
`jti`s it accepted that keeps them for `max_iat_age`. A proof is fresh on both sides of
its `iat`, so it may come again later than that.
-/
namespace IdentityModel.RustDpop

open Combinators.Rust (IdentityError)
open Results

variable {U E D : Type}

/-- A proof as it is presented, for a request and at a time. -/
structure Presentation where
  proof : String
  htm : String
  htu : String
  options : DpopVerifyOptions
  time : Duration
  deriving DecidableEq, Repr

/-- The verifier's answer to a presentation at a time of its clock. -/
def Presentation.verifyAt (lib : Library U E D) (maxIatAge : Duration) (p : Presentation)
    (time : Duration) : Except IdentityError DpopProof :=
  verifyProof lib (.ok time) p.proof p.htm p.htu { p.options with maxIatAge, now := none }

/-- The server the documentation describes. -/
def server (lib : Library U E D) (maxIatAge : Duration) : ReplayStore Presentation String where
  ident p :=
    match p.verifyAt lib maxIatAge p.time with
    | .ok v => some v.jti
    | .error _ => none
  time p := p.time.total
  retention := maxIatAge.total

/-- The `iat` a proof's signature covers. -/
def SignedIat (lib : Library U E D) (proof : String) (iat : Int64) : Prop :=
  ∃ alg jwk claims, signedClaims lib proof = .ok (alg, jwk, claims) ∧
    iatClaim lib claims = .ok iat

/-- The clock's whole second is within the whole seconds of the age of the proof's `iat`. -/
def Presentation.Fresh (lib : Library U E D) (maxIatAge : Duration) (p : Presentation) : Prop :=
  ∃ iat, SignedIat lib p.proof iat ∧ absDiff p.time.asI64 iat ≤ maxIatAge.secs

/-- The verifier accepts the presentation at some time. -/
def Presentation.Genuine (lib : Library U E D) (maxIatAge : Duration) (p : Presentation) : Prop :=
  ∃ time v, p.verifyAt lib maxIatAge time = .ok v

/-- No proof is presented, fresh both times, at two times further apart than the age. -/
def Brief (lib : Library U E D) (maxIatAge : Duration) (ps : List Presentation) : Prop :=
  ∀ p ∈ ps, ∀ q ∈ ps, p.proof = q.proof → p.Fresh lib maxIatAge → q.Fresh lib maxIatAge →
    q.time.total ≤ p.time.total + maxIatAge.total

section Replay

variable {lib : Library U E D} {maxIatAge : Duration} {p q : Presentation} {ps : List Presentation}

theorem ident_eq_some {jti : String} : (server lib maxIatAge).ident p = some jti ↔
    ∃ v, p.verifyAt lib maxIatAge p.time = .ok v ∧ v.jti = jti := by
  unfold server
  cases h : p.verifyAt lib maxIatAge p.time <;> simp [h]

/-- What is accepted is fresh. -/
theorem fresh_of_verifyAt {v : DpopProof} (h : p.verifyAt lib maxIatAge p.time = .ok v) :
    p.Fresh lib maxIatAge := by
  obtain ⟨alg, jwk, claims, stated, now, -, hsigned, hread, hclock, hwindow, -⟩ :=
    verifyProof_eq_ok.mp h
  cases hclock
  exact ⟨stated.iat, ⟨alg, jwk, claims, hsigned, (readClaims_signed hread).2⟩, hwindow⟩

/-- A genuine presentation is accepted whenever it is fresh. -/
theorem verifyAt_of_fresh (hgenuine : p.Genuine lib maxIatAge) (hfresh : p.Fresh lib maxIatAge) :
    ∃ v, p.verifyAt lib maxIatAge p.time = .ok v := by
  obtain ⟨time, v, h⟩ := hgenuine
  obtain ⟨alg, jwk, claims, stated, now, thumbprint, hsigned, hread, -, -, ha, hn, ht, hj, -⟩ :=
    verifyProof_eq_ok.mp h
  obtain ⟨iat, ⟨alg', jwk', claims', hsigned', hiat⟩, hwindow⟩ := hfresh
  rw [hsigned] at hsigned'
  cases hsigned'
  rw [(readClaims_signed hread).2] at hiat
  cases hiat
  exact ⟨_, verifyProof_eq_ok.mpr ⟨alg, jwk, claims, stated, p.time.asI64, thumbprint, hsigned, hread,
    rfl, hwindow, ha, hn, ht, hj, rfl⟩⟩

/-- The `jti` belongs to the proof, whatever request it is presented with. -/
theorem jti_eq_of_proof_eq (hproof : p.proof = q.proof) {time time' : Duration} {v w : DpopProof}
    (hv : p.verifyAt lib maxIatAge time = .ok v) (hw : q.verifyAt lib maxIatAge time' = .ok w) :
    v.jti = w.jti := by
  obtain ⟨alg, jwk, claims, stated, -, -, hsigned, hread, -, -, -, -, -, -, rfl⟩ :=
    verifyProof_eq_ok.mp hv
  obtain ⟨alg', jwk', claims', stated', -, -, hsigned', hread', -, -, -, -, -, -, rfl⟩ :=
    verifyProof_eq_ok.mp hw
  rw [hproof, hsigned'] at hsigned
  cases hsigned
  have hjti := (readClaims_signed hread).1
  rw [(readClaims_signed hread').1] at hjti
  exact (Option.some.inj (Except.ok.inj hjti)).symm

/-- Nothing is accepted twice in a run of brief presentations. -/
theorem nodup_of_brief (hbrief : Brief lib maxIatAge ps) :
    (((server lib maxIatAge).run ps).map Presentation.proof).Nodup := by
  refine List.pairwise_map.mpr (List.Pairwise.imp_of_mem ?_ (ReplayStore.spaced ps))
  intro later earlier hlater hearlier hspaced hproof
  obtain ⟨hlater, jti, hjti⟩ := ReplayStore.mem_run hlater
  obtain ⟨hearlier, jti', hjti'⟩ := ReplayStore.mem_run hearlier
  obtain ⟨v, hv, rfl⟩ := ident_eq_some.mp hjti
  obtain ⟨w, hw, rfl⟩ := ident_eq_some.mp hjti'
  rw [← jti_eq_of_proof_eq hproof hv hw] at hjti'
  have hapart := hspaced _ hjti hjti'
  have hnear := hbrief _ hearlier _ hlater hproof.symm (fresh_of_verifyAt hw) (fresh_of_verifyAt hv)
  simp only [server] at hapart
  omega

/-- With a `jti` for each proof, presentations further apart are both let in. -/
theorem brief_of_nodup (hsorted : ps.Pairwise fun p q => p.time.total ≤ q.time.total)
    (hgenuine : ∀ p ∈ ps, p.Genuine lib maxIatAge)
    (hjti : ∀ p ∈ ps, ∀ q ∈ ps, ∀ jti, (server lib maxIatAge).ident p = some jti →
      (server lib maxIatAge).ident q = some jti → p.proof = q.proof)
    (hnodup : (((server lib maxIatAge).run ps).map Presentation.proof).Nodup) :
    Brief lib maxIatAge ps := by
  intro p hp q hq hproof hfp hfq
  by_contra hfar
  obtain ⟨v, hv⟩ := verifyAt_of_fresh (hgenuine p hp) hfp
  obtain ⟨w, hw⟩ := verifyAt_of_fresh (hgenuine q hq) hfq
  have hpi : (server lib maxIatAge).ident p = some v.jti := ident_eq_some.mpr ⟨v, hv, rfl⟩
  have hqi : (server lib maxIatAge).ident q = some v.jti :=
    ident_eq_some.mpr ⟨w, hw, (jti_eq_of_proof_eq hproof hv hw).symm⟩
  obtain ⟨a, ha, hai, hbefore, -⟩ := ReplayStore.covered hsorted hp hpi
  obtain ⟨b, hb, hbi, -, hnear⟩ := ReplayStore.covered hsorted hq hqi
  have hsame : a.proof = b.proof :=
    hjti a (ReplayStore.mem_run ha).1 b (ReplayStore.mem_run hb).1 _ hai hbi
  have hab : a = b := List.inj_on_of_nodup_map hnodup ha hb hsame
  simp only [server] at hbefore hnear
  rw [hab] at hbefore
  omega

/-- A server that remembers a `jti` for the age accepts no proof twice in any run in which
no proof is presented, fresh both times, at two times further apart than the age; and in a
run in order of time, of genuine presentations with a `jti` for each proof, only then. -/
theorem accepted_once_iff (lib : Library U E D) (maxIatAge : Duration) (ps : List Presentation)
    (hsorted : ps.Pairwise fun p q => p.time.total ≤ q.time.total) :
    (Brief lib maxIatAge ps →
      (((server lib maxIatAge).run ps).map Presentation.proof).Nodup) ∧
    ((∀ p ∈ ps, p.Genuine lib maxIatAge) →
      (∀ p ∈ ps, ∀ q ∈ ps, ∀ jti, (server lib maxIatAge).ident p = some jti →
        (server lib maxIatAge).ident q = some jti → p.proof = q.proof) →
      ((((server lib maxIatAge).run ps).map Presentation.proof).Nodup ↔ Brief lib maxIatAge ps)) := by
  refine ⟨nodup_of_brief, fun hgenuine hjti => ⟨?_, nodup_of_brief⟩⟩
  exact brief_of_nodup hsorted hgenuine hjti

end Replay

/-- The sample proof, presented for its own request. -/
def samplePresentation (secs : UInt64) : Presentation where
  proof := sampleProof
  htm := "GET"
  htu := sampleHtu
  options := ({} : DpopVerifyOptions).accessToken sampleLibrary sampleToken
  time := ⟨secs, 0⟩

theorem ident_samplePresentation {secs : UInt64} (h : absDiff secs.toInt64 1732200000 ≤ 60) :
    (server sampleLibrary ⟨60, 0⟩).ident (samplePresentation secs) = some sampleClaims.jti := by
  have hthumbprint := thumbprint_eq_ok.mp thumbprint_sampleKey
  refine ident_eq_some.mpr ⟨_, (verifyProof_proof sampleLibrary_sound newJti_samplePlatform
    normalizeHtu_sampleHtu sampleClaims_encoded hthumbprint).mpr
      ⟨rfl, normalizeHtu_sampleHtu, ⟨_, rfl, h⟩, ?_, ?_, ?_, rfl⟩, rfl⟩
  · rintro e ⟨⟩
    rfl
  · rintro e ⟨⟩
  · rintro e ⟨⟩

theorem genuine_samplePresentation {secs : UInt64} (h : absDiff secs.toInt64 1732200000 ≤ 60) :
    (samplePresentation secs).Genuine sampleLibrary ⟨60, 0⟩ := by
  obtain ⟨v, hv, -⟩ := ident_eq_some.mp (ident_samplePresentation h)
  exact ⟨_, v, hv⟩

/-- At its `iat`, and a minute after it. -/
def sampleVisits : List Presentation :=
  [samplePresentation 1732200000, samplePresentation 1732200060]

theorem sample_accepted_once :
    (((server sampleLibrary ⟨60, 0⟩).run sampleVisits).map Presentation.proof).Nodup ∧
      ((((server sampleLibrary ⟨60, 0⟩).run sampleVisits).map Presentation.proof).Nodup ↔
        Brief sampleLibrary ⟨60, 0⟩ sampleVisits) := by
  have hiff := accepted_once_iff sampleLibrary ⟨60, 0⟩ sampleVisits (by decide)
  refine ⟨hiff.1 ?_, hiff.2 ?_ ?_⟩
  · intro p hp q hq hproof hfp hfq
    simp only [sampleVisits, List.mem_cons, List.not_mem_nil, or_false] at hp hq
    obtain rfl | rfl := hp <;> obtain rfl | rfl := hq <;> decide
  · intro p hp
    simp only [sampleVisits, List.mem_cons, List.not_mem_nil, or_false] at hp
    obtain rfl | rfl := hp
    · exact genuine_samplePresentation (by decide)
    · exact genuine_samplePresentation (by decide)
  · intro p hp q hq jti hpi hqi
    simp only [sampleVisits, List.mem_cons, List.not_mem_nil, or_false] at hp hq
    obtain rfl | rfl := hp <;> obtain rfl | rfl := hq <;> rfl

/-- A minute before its `iat`, and a minute after it. -/
def sampleReplay : List Presentation :=
  [samplePresentation 1732199940, samplePresentation 1732200060]

/-- The store has forgotten the proof after a minute, but the proof is still fresh. -/
theorem sample_accepted_twice :
    (sampleReplay.Pairwise fun p q => p.time.total ≤ q.time.total) ∧
      ¬ (((server sampleLibrary ⟨60, 0⟩).run sampleReplay).map Presentation.proof).Nodup := by
  refine ⟨by decide, ?_⟩
  have hearly : absDiff (1732199940 : UInt64).toInt64 1732200000 ≤ 60 := by decide
  have hlate : absDiff (1732200060 : UInt64).toInt64 1732200000 ≤ 60 := by decide
  have hforgot : (server sampleLibrary ⟨60, 0⟩).remembers [samplePresentation 1732199940]
      (samplePresentation 1732200060) sampleClaims.jti = false := by
    simp only [ReplayStore.remembers, ident_samplePresentation hearly, List.any_cons, List.any_nil]
    decide
  have hfirst : (server sampleLibrary ⟨60, 0⟩).step [] (samplePresentation 1732199940) =
      [samplePresentation 1732199940] :=
    ReplayStore.step_of_new (ident_samplePresentation hearly) rfl
  have hsecond : (server sampleLibrary ⟨60, 0⟩).step [samplePresentation 1732199940]
      (samplePresentation 1732200060) =
      [samplePresentation 1732200060, samplePresentation 1732199940] :=
    ReplayStore.step_of_new (ident_samplePresentation hlate) hforgot
  have hrun : (server sampleLibrary ⟨60, 0⟩).run sampleReplay =
      [samplePresentation 1732200060, samplePresentation 1732199940] := by
    rw [ReplayStore.run, sampleReplay, List.foldl_cons, hfirst, List.foldl_cons, hsecond,
      List.foldl_nil]
  rw [hrun]
  intro hnodup
  exact (List.nodup_cons.mp hnodup).1 (List.mem_singleton.mpr rfl)

end IdentityModel.RustDpop
