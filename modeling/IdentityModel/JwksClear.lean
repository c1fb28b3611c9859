import IdentityModel.GoClear
import IdentityModel.PyClear

/-!
# Clearing a key cache for good

`clear_jwks_cache` of the Python modules and `ClearCache` of the Go package: what is
in a cache after a clear was requested after it, in every run in which the cache is
cleared only while no request for keys is in flight. A request in flight at the
clear puts its keys into the cleared cache.
-/
namespace IdentityModel.JwksClear

open Runs Tasks

/-- The cache of a Python module holds nothing requested before a clear, however its
calls interleave; coroutines give up control only where they await. -/
def PyClearsForGood (flavour : Py.Flavour) : Prop :=
  ∀ (rt : Py.Runtime) (ls : List Py.LoopLabel) (s : Py.LoopState), rt.flavour = flavour →
    (flavour = .aio →
      Meets (Py.loops rt).step (fun s l => Py.loopCooperative s l = true) Py.initialLoops ls) →
    Py.runLoops rt Py.initialLoops ls = some s → Py.ClearedForGood s.shared

/-- The same for the cache of the Go package. -/
def GoClearsForGood : Prop :=
  ∀ (lib : GoJwks.Library) (ls : List GoJwks.ClearLabel)
    (s : GoJwks.Clearing), GoJwks.runClearing lib GoJwks.initialClearing ls = some s →
    GoJwks.ClearedForGood s

/-- A cache that is cleared only while no request for keys is in flight holds nothing
requested before a clear; while nothing is requested after it, it is empty. -/
theorem cleared_caches_stay_cleared (rt : Py.Runtime)
    (lib : GoJwks.Library) :
    (∀ (ls : List Py.LoopLabel) (s : Py.LoopState),
      Meets (Py.loops rt).step (fun s l => Py.clearsQuietly s l = true) Py.initialLoops ls →
      Py.runLoops rt Py.initialLoops ls = some s → Py.ClearedForGood s.shared) ∧
    ∀ (ls : List GoJwks.ClearLabel) (s : GoJwks.Clearing),
      Meets (GoJwks.clearingStep lib) (fun s l => GoJwks.clearsQuietly s l = true)
        GoJwks.initialClearing ls →
      GoJwks.runClearing lib GoJwks.initialClearing ls = some s → GoJwks.ClearedForGood s :=
  ⟨fun _ _ hok hrun => Py.clearedForGood_run hok hrun,
    fun _ _ hok hrun => GoJwks.clearedForGood_run hok hrun⟩

/-- A clear while no request is out. -/
def quietClear : List Py.LoopLabel :=
  Py.coldStart 0 ++ Py.onLoops [Py.oneKeyAnswer 0 1 "k1", .move 0 ⟨1, .run⟩] ++
    [.spawn (0, .clearJwksCache), .move 1 ⟨2, .run⟩]

/-- A clear while a request is out. -/
def overtakenClear : List Py.LoopLabel :=
  Py.coldStart 0 ++ [.spawn (0, .clearJwksCache), .move 1 ⟨1, .run⟩] ++
    Py.onLoops [Py.oneKeyAnswer 0 2 "k1", .move 0 ⟨2, .run⟩]

/-- `url.Parse` on the URI of the runs below. -/
def httpsScheme : GoJwks.Library := ⟨fun _ => .ok "https", fun s => "\"" ++ s ++ "\""⟩

/-- A fetch of the Go package with its request out. -/
def goRequest : List GoJwks.ClearLabel :=
  [.client (.spawn (.fetchKeySet "https://idp/jwks" {})), .client (.move 0 ⟨0, .run⟩),
    .client (.move 0 ⟨0, .run⟩), .client (.move 1 ⟨0, .run⟩)]

/-- The answer to it, and its store. -/
def goAnswer : List GoJwks.ClearLabel :=
  [.client (.move 1 ⟨1, .response (.ok [{ kid := "k1" }])⟩), .client (.move 1 ⟨1, .run⟩)]

theorem cleared_caches_stay_cleared_quiet :
    (∃ s, Py.runLoops (Py.sampleRuntime .sync) Py.initialLoops quietClear = some s ∧
      s.shared.shared.jwks.lookup "https://idp/jwks" = none) ∧
    ∃ s, GoJwks.runClearing httpsScheme GoJwks.initialClearing
        (goRequest ++ goAnswer ++ [.clearCache]) = some s ∧
      s.state.shared.cache.stored "https://idp/jwks" = none := by
  have hpy := eq_some_getD Py.initialLoops (show (Py.runLoops (Py.sampleRuntime .sync)
    Py.initialLoops quietClear).isSome = true by decide)
  have hgo := eq_some_getD GoJwks.initialClearing (show (GoJwks.runClearing httpsScheme
    GoJwks.initialClearing (goRequest ++ goAnswer ++ [.clearCache])).isSome = true by decide)
  refine ⟨⟨_, hpy, ?_⟩, _, hgo, ?_⟩
  · exact ((cleared_caches_stay_cleared (Py.sampleRuntime .sync) httpsScheme).1 _ _ (by decide) hpy).empty
      ⟨2, by decide, by decide⟩ _
  · exact ((cleared_caches_stay_cleared (Py.sampleRuntime .sync) httpsScheme).2 _ _ (by decide) hgo).empty
      ⟨6, by decide, by decide⟩ _

theorem pyClear_overtaken (flavour : Py.Flavour) : ¬ PyClearsForGood flavour := by
  intro h
  have hrun := eq_some_getD Py.initialLoops (show (Py.runLoops (Py.sampleRuntime flavour)
    Py.initialLoops overtakenClear).isSome = true by cases flavour <;> decide)
  have hlegal : flavour = .aio → Meets (Py.loops (Py.sampleRuntime flavour)).step
      (fun s l => Py.loopCooperative s l = true) Py.initialLoops overtakenClear := by
    rintro rfl
    decide
  have hgood := h _ overtakenClear _ rfl hlegal hrun
  obtain ⟨w, hw, -, -, hafter⟩ := hgood.requested "https://idp/jwks" (Py.oneKeyEntry "k1" 2)
    (by cases flavour <;> decide)
  have hcurrent : Ledger.current "https://idp/jwks" ((Py.runLoops (Py.sampleRuntime flavour)
      Py.initialLoops overtakenClear).getD Py.initialLoops).shared.trace =
      some ⟨0, 0, "https://idp/jwks", some (Py.oneKeyEntry "k1" 2)⟩ := by
    cases flavour <;> decide
  obtain rfl := Option.some.inj (hcurrent.symm.trans hw)
  have hlt := hafter 1 (by cases flavour <;> decide)
  exact absurd hlt (by decide)

theorem goClear_overtaken : ¬ GoClearsForGood := by
  intro h
  have hrun := eq_some_getD GoJwks.initialClearing (show (GoJwks.runClearing httpsScheme
    GoJwks.initialClearing (goRequest ++ [.clearCache] ++ goAnswer)).isSome = true by decide)
  have hgood := h httpsScheme _ _ hrun
  have hstored : ((GoJwks.runClearing httpsScheme GoJwks.initialClearing
      (goRequest ++ [.clearCache] ++ goAnswer)).getD
        GoJwks.initialClearing).state.shared.cache.stored "https://idp/jwks" =
      some (⟨[{ kid := "k1" }], 3⟩, some (1 + 24 * 60 * 60 * 1000000000)) := by decide
  have hlt := (hgood.requested _ _ _ hstored).2 4 (by decide)
  exact absurd hlt (by decide)

/-- None of the three caches is cleared for good. -/
theorem cleared_keys_return :
    ¬ PyClearsForGood .sync ∧ ¬ PyClearsForGood .aio ∧ ¬ GoClearsForGood :=
  ⟨pyClear_overtaken .sync, pyClear_overtaken .aio, goClear_overtaken⟩

end IdentityModel.JwksClear
