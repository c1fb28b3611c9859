import IdentityModel.RustDiscovery

/-!
# What the Rust discovery client returns and where it goes

Every document that `discover` returns, from the cache or from the wire, was served for that issuer
and passed every check; every request goes over TLS unless plain HTTP was allowed; and what the
client holds in memory is bounded. All of it over any interleaving of calls, answers and drops.
-/
namespace IdentityModel.RustDiscovery

open Exchanges RustHttp Runs Tasks TtlCache

/-- The policy of one of the HTTP clients that the crate builds. -/
def Hardened (policy : Policy HttpUrl RedirectBlocked) : Prop :=
  policy = noDowngradePolicy ∨ policy = sameOriginPolicy ∨ policy = noRedirectPolicy

theorem Hardened.respects {policy : Policy HttpUrl RedirectBlocked} (h : Hardened policy) :
    policy.Respects fun p q => Secure p → Secure q := by
  obtain rfl | rfl | rfl := h
  · exact noDowngrade_respects
  · intro asked prev next hlast hfollow hprev
    have horigin := sameOrigin_respects asked prev next hlast hfollow
    have hscheme : prev.url.scheme = next.url.scheme := congrArg Prod.fst horigin
    exact hscheme.symm.trans hprev
  · exact noRedirect_respects _

theorem Hardened.limited {policy : Policy HttpUrl RedirectBlocked} (h : Hardened policy) :
    policy.Limited maxRedirects := by
  obtain rfl | rfl | rfl := h
  · exact noDowngrade_limited
  · exact sameOrigin_limited
  · exact noRedirect_limited _

/-- A body that was served for the issuer says so. -/
def Vouched (lib : Library) (cfg : Config) (served : List Served) (issuer : String)
    (metadata : ProviderMetadata) : Prop :=
  schemeOk cfg.allowHttp issuer.toList = true ∧
    ∃ v ∈ served, v.issuer = issuer ∧ isSuccess v.status = true ∧ v.body.length ≤ maxBodyBytes ∧
      validate lib issuer v.body = .ok metadata ∧ (cfg.allowHttp = false → Secure v.url)

structure SharedOk (lib : Library) (cfg : Config) (w : Shared) : Prop where
  stored : ∀ u metadata exp, w.cache.stored u = some (metadata, exp) →
    ∃ a ∈ w.written, a.issuer = u ∧ a.metadata = metadata ∧ exp = checkedAdd cfg a.at_
  written : ∀ a ∈ w.written, a.at_ ≤ w.now ∧ Vouched lib cfg w.served a.issuer a.metadata
  requests : ∀ q ∈ w.requests, cfg.allowHttp = false → Secure q.url
  size : cfg.maxEntries ≠ 0 → w.cache.entries.size ≤ cfg.maxEntries

/-- A request under way: over TLS from its first hop on, and read only while it is a success. -/
def FetchOk (cfg : Config) (issuer : String) (x : Exchange HttpUrl RedirectBlocked) : Prop :=
  schemeOk cfg.allowHttp issuer.toList = true ∧
    (∃ url, (cfg.allowHttp = false → Secure url) ∧
      Sound (fun p q => Secure p → Secure q) maxRedirects maxBodyBytes url x) ∧
    ∀ status body, x.phase = .reading status body → isSuccess status = true

/-- The document was written to the cache before it was returned, and from the cache it was returned
within its lifetime. -/
def Backed (cfg : Config) (written : List Written) (issuer : String) (r : Returned) : Prop :=
  ∃ a ∈ written, a.issuer = issuer ∧ a.metadata = r.metadata ∧ a.at_ ≤ r.at_ ∧
    (r.cached = true → unexpired (checkedAdd cfg a.at_) r.at_ = true)

def TaskOk (lib : Library) (cfg : Config) (w : Shared) (x : Task) : Prop :=
  match x.pc with
  | .fetch y => FetchOk cfg x.issuer y
  | .stamp metadata => Vouched lib cfg w.served x.issuer metadata
  | .insert metadata at_ => Vouched lib cfg w.served x.issuer metadata ∧ at_ ≤ w.now
  | .done (.ok r) => Backed cfg w.written x.issuer r
  | _ => True

section Steps

variable {lib : Library} {cfg : Config} {w w' : Shared} {issuer : String} {pc pc' : Pc} {act : Act}

theorem Vouched.mono {served served' : List Served} {metadata : ProviderMetadata}
    (h : Vouched lib cfg served issuer metadata) (hsub : ∀ v ∈ served, v ∈ served') :
    Vouched lib cfg served' issuer metadata := by
  obtain ⟨hscheme, v, hv, hrest⟩ := h
  exact ⟨hscheme, v, hsub v hv, hrest⟩

/-- Records grow and time goes on. -/
structure Grows (w w' : Shared) : Prop where
  served : ∀ v ∈ w.served, v ∈ w'.served
  written : ∀ a ∈ w.written, a ∈ w'.written
  now : w.now ≤ w'.now

theorem Advance.grows (h : Advance lib cfg w issuer pc act w' pc') : Grows w w' := by
  cases h with
  | received x x' wire status body hx hphase =>
      exact ⟨fun v hv => List.mem_cons_of_mem _ hv, fun a ha => ha, le_rfl⟩
  | inserted metadata at_ =>
      exact ⟨fun v hv => hv, fun a ha => List.mem_cons_of_mem _ ha, le_rfl⟩
  | _ => exact ⟨fun v hv => hv, fun a ha => ha, le_rfl⟩

theorem TaskOk.mono {x : Task} (h : TaskOk lib cfg w x) (hgrows : Grows w w') :
    TaskOk lib cfg w' x := by
  unfold TaskOk at h ⊢
  split
  · rename_i y hpc
    simp only [hpc] at h
    exact h
  · rename_i metadata hpc
    simp only [hpc] at h
    exact h.mono hgrows.served
  · rename_i metadata at_ hpc
    simp only [hpc] at h
    exact ⟨h.1.mono hgrows.served, h.2.trans hgrows.now⟩
  · rename_i r hpc
    simp only [hpc] at h
    obtain ⟨a, ha, hrest⟩ := h
    exact ⟨a, hgrows.written a ha, hrest⟩
  · trivial

theorem SharedOk.later (h : SharedOk lib cfg w) {now : ℕ} (hle : w.now ≤ now) :
    SharedOk lib cfg { w with now := now } where
  stored := h.stored
  written := fun a ha => ⟨(h.written a ha).1.trans hle, (h.written a ha).2⟩
  requests := h.requests
  size := h.size

/-- A lookup that changes recency only. -/
theorem SharedOk.get (h : SharedOk lib cfg w) (issuer : String) :
    SharedOk lib cfg { w with cache := (w.cache.get issuer w.now).1 } where
  stored := fun u metadata exp hst => h.stored u metadata exp (by rwa [stored_get] at hst)
  written := h.written
  requests := h.requests
  size := fun hmax => size_get_le (h.size hmax) issuer w.now

theorem SharedOk.request (h : SharedOk lib cfg w) {url : HttpUrl}
    (hurl : cfg.allowHttp = false → Secure url) (after : Option Lookup) :
    SharedOk lib cfg (w.request issuer url after) where
  stored := h.stored
  written := h.written
  requests := by
    intro q hq
    obtain rfl | hq := List.mem_cons.mp hq
    · exact hurl
    · exact h.requests q hq
  size := h.size

theorem SharedOk.serve (h : SharedOk lib cfg w) (url : HttpUrl) (status : ℕ) (body : List UInt8) :
    SharedOk lib cfg (w.serve issuer url status body) where
  stored := h.stored
  written := fun a ha =>
    ⟨(h.written a ha).1, (h.written a ha).2.mono fun _ hv => List.mem_cons_of_mem _ hv⟩
  requests := h.requests
  size := h.size

theorem SharedOk.write (h : SharedOk lib cfg w) {metadata : ProviderMetadata} {at_ : ℕ}
    (hv : Vouched lib cfg w.served issuer metadata) (hle : at_ ≤ w.now) :
    SharedOk lib cfg (w.write cfg issuer metadata at_) where
  stored := by
    intro u held exp hst
    obtain ⟨rfl, rfl, rfl⟩ | ⟨-, hold⟩ := stored_put_cases hst
    · exact ⟨⟨u, held, at_⟩, List.mem_cons_self, rfl, rfl, rfl⟩
    · obtain ⟨a, ha, hrest⟩ := h.stored u held exp hold
      exact ⟨a, List.mem_cons_of_mem _ ha, hrest⟩
  written := by
    intro a ha
    obtain rfl | ha := List.mem_cons.mp ha
    · exact ⟨hle, hv⟩
    · exact h.written a ha
  requests := h.requests
  size := fun hmax => size_put_le hmax _ _ _ _

/-- What the cache serves was written, and has not expired. -/
theorem SharedOk.hit (h : SharedOk lib cfg w) {metadata : ProviderMetadata}
    (hget : (w.cache.get issuer w.now).2 = some metadata) :
    ∃ a ∈ w.written, a.issuer = issuer ∧ a.metadata = metadata ∧ a.at_ ≤ w.now ∧
      unexpired (checkedAdd cfg a.at_) w.now = true := by
  rw [get_snd, Option.bind_eq_some_iff] at hget
  obtain ⟨⟨held, exp⟩, hst, hif⟩ := hget
  obtain ⟨a, ha, hissuer, hmetadata, rfl⟩ := h.stored issuer held exp hst
  split at hif
  · rename_i hfresh
    obtain rfl : held = metadata := Option.some.inj hif
    exact ⟨a, ha, hissuer, hmetadata, (h.written a ha).1, hfresh⟩
  · cases hif

/-- Every hop of a request under way is over TLS. -/
theorem FetchOk.secure {x : Exchange HttpUrl RedirectBlocked} (h : FetchOk cfg issuer x)
    (hallow : cfg.allowHttp = false) : Secure x.url := by
  obtain ⟨-, ⟨url, hurl, hsound⟩, -⟩ := h
  exact forall_asked hsound (hurl hallow) x.url
    (List.mem_append_right _ (List.mem_singleton.mpr rfl))

theorem FetchOk.step (hpolicy : Hardened cfg.policy) {x x' : Exchange HttpUrl RedirectBlocked}
    {wire : Wire HttpUrl} (h : FetchOk cfg issuer x)
    (hadv : Exchanges.advance cfg.policy maxBodyBytes x wire = some x')
    (hphase : ∀ status body, x'.phase = .reading status body → isSuccess status = true) :
    FetchOk cfg issuer x' := by
  obtain ⟨hscheme, ⟨url, hurl, hsound⟩, -⟩ := h
  exact ⟨hscheme, ⟨url, hurl, hsound.step hpolicy.respects hpolicy.limited hadv⟩, hphase⟩

/-- The first request goes to the issuer over TLS. -/
theorem fetchOk_start {url : HttpUrl} (hscheme : schemeOk cfg.allowHttp issuer.toList = true)
    (hurl : HttpUrl.parse lib.url (endpointOf issuer).toList = some url) :
    (cfg.allowHttp = false → Secure url) ∧ FetchOk cfg issuer (.start url) := by
  have hsecure : cfg.allowHttp = false → Secure url := by
    intro hallow
    rw [hallow] at hscheme
    refine https_of_schemeOk ?_ hurl
    rw [endpointOf, String.toList_append]
    exact schemeOk_append hscheme _
  refine ⟨hsecure, hscheme, ⟨url, hsecure, sound_start (by decide)⟩, ?_⟩
  intro status body hphase
  cases hphase

theorem Advance.keeps (hpolicy : Hardened cfg.policy) {issuerUrl : String}
    (h : Advance lib cfg w (requestedIssuer issuerUrl) pc act w' pc') (hw : SharedOk lib cfg w)
    (hx : TaskOk lib cfg w ⟨issuerUrl, pc⟩) :
    SharedOk lib cfg w' ∧ TaskOk lib cfg w' ⟨issuerUrl, pc'⟩ := by
  cases h with
  | noIssuer e => exact ⟨hw, trivial⟩
  | hit metadata hget =>
      obtain ⟨a, ha, hissuer, hmetadata, hle, hfresh⟩ := hw.hit hget
      exact ⟨hw.get _, a, ha, hissuer, hmetadata, hle, fun _ => hfresh⟩
  | miss hget => exact ⟨hw.get _, trivial⟩
  | unsent before e => exact ⟨hw, trivial⟩
  | sent before url hscheme hurl =>
      obtain ⟨hsecure, hfetch⟩ :
          (cfg.allowHttp = false → Secure _) ∧ FetchOk cfg _ (.start _) := fetchOk_start hscheme hurl
      exact ⟨hw.request hsecure (some before), hfetch⟩
  | redirected x x' wire hadv hphase =>
      have hfetch : FetchOk cfg (requestedIssuer issuerUrl) x' :=
        FetchOk.step hpolicy hx hadv fun status body h => by rw [hphase] at h; cases h
      exact ⟨hw.request hfetch.secure none, hfetch⟩
  | reading x x' wire status body hadv hphase hok =>
      refine ⟨hw, FetchOk.step hpolicy hx hadv fun status' body' h => ?_⟩
      rw [hphase] at h
      cases h
      exact hok
  | received x x' wire status body hadv hphase =>
      obtain ⟨hreading, rfl⟩ := reading_of_received hadv hphase
      have hfetch : FetchOk cfg (requestedIssuer issuerUrl) x := hx
      refine ⟨hw.serve _ _ _, ?_⟩
      unfold afterBody
      split
      · rename_i metadata hvalid
        have hsecure := hfetch.secure
        obtain ⟨hscheme, ⟨url, -, hsound⟩, hsuccess⟩ := hfetch
        have hbody : body.length ≤ maxBodyBytes := by
          have hb := hsound.bounded
          rwa [Exchange.held, hreading] at hb
        exact ⟨hscheme, _, List.mem_cons_self, rfl, hsuccess status body hreading, hbody, hvalid,
          hsecure⟩
      · trivial
  | gaveUp x wire e => exact ⟨hw, trivial⟩
  | stamped metadata => exact ⟨hw, hx, le_rfl⟩
  | inserted metadata at_ =>
      obtain ⟨hv, hle⟩ := hx
      refine ⟨hw.write hv hle, _, List.mem_cons_self, rfl, rfl, hle, fun hcached => ?_⟩
      cases hcached
  | cancelled pc => exact ⟨hw, trivial⟩

end Steps

section Runs

variable {lib : Library} {cfg : Config}

abbrev Kept (lib : Library) (cfg : Config) : State → Prop :=
  Holds (SharedOk lib cfg) (TaskOk lib cfg) fun _ _ => True

theorem kept_step (hpolicy : Hardened cfg.policy) (s : State) (l : Label) (s' : State)
    (h : Kept lib cfg s) (hstep : (client lib cfg).step s l = some s') : Kept lib cfg s' := by
  refine Machine.holds_step (client_fork lib cfg) (fun _ _ => True) (fun _ _ _ => trivial) ?_ ?_
    s l s' h trivial hstep
  · intro s issuerUrl w x h _ hspawn
    obtain ⟨rfl, rfl⟩ := client_spawn hspawn
    exact ⟨h.shared, trivial, fun j y hy => ⟨h.each j y hy, trivial⟩⟩
  · intro s t e x w x' h _ hx hmove
    obtain ⟨hle, pc', rfl, hadv⟩ := client_move hmove
    have hlater : Grows s.shared { s.shared with now := e.now } :=
      ⟨fun _ hv => hv, fun _ ha => ha, hle⟩
    have hkeeps := hadv.keeps hpolicy (h.shared.later hle) ((h.each t x hx).mono hlater)
    exact ⟨hkeeps.1, hkeeps.2, fun j y _ hy =>
      ⟨((h.each j y hy).mono hlater).mono hadv.grows, trivial⟩⟩

theorem kept_initial : Kept lib cfg initial := by
  refine Holds.of_idle ⟨?_, ?_, ?_, ?_⟩ rfl
  · intro u metadata exp hst
    cases hst
  · intro a ha
    cases ha
  · intro q hq
    cases hq
  · intro _
    exact Nat.zero_le _

theorem kept_run (hpolicy : Hardened cfg.policy) {ls : List Label} {s : State}
    (hrun : run lib cfg initial ls = some s) : Kept lib cfg s :=
  exec_preserves (kept_step hpolicy) kept_initial hrun

end Runs

theorem validate_eq_ok {lib : Library} {issuer : String} {body : List UInt8}
    {metadata : ProviderMetadata} (h : validate lib issuer body = .ok metadata) :
    (lib.document body).bind fromDocument = some metadata ∧ metadata.missingRequiredFields = [] ∧
      trimEndSlashes metadata.issuer = issuer := by
  unfold validate at h
  split at h
  · cases h
  · rename_i m hm
    split at h
    · cases h
    · rename_i hmissing
      split at h
      · cases h
      · rename_i hissuer
        obtain rfl := Except.ok.inj h
        exact ⟨hm, not_not.mp hmissing, not_not.mp hissuer⟩

/-- A document for an issuer, as it was served: by a success of at most a mebibyte, over TLS unless
plain HTTP is allowed, with every required field and the issuer's own name. -/
structure ServedFor (lib : Library) (cfg : Config) (v : Served) (issuer : String)
    (metadata : ProviderMetadata) : Prop where
  issuer_eq : v.issuer = issuer
  success : 200 ≤ v.status ∧ v.status < 300
  bounded : v.body.length ≤ maxBodyBytes
  secure : cfg.allowHttp = false → Secure v.url
  document : (lib.document v.body).bind fromDocument = some metadata
  required : metadata.missingRequiredFields = []
  own_name : trimEndSlashes metadata.issuer = issuer

/-- Every document a call returns was served for its issuer, and written to the cache at some
instant before the call returned it; from the cache it is returned only within its lifetime. -/
theorem discover_sound (lib : Library) (cfg : Config) (hpolicy : Hardened cfg.policy)
    {ls : List Label} {s : State} (hrun : run lib cfg initial ls = some s) {x : Task}
    (hx : x ∈ s.tasks) {r : Returned} (hdone : x.pc = .done (.ok r)) :
    schemeOk cfg.allowHttp x.issuer.toList = true ∧
    (∃ v ∈ s.shared.served, ServedFor lib cfg v x.issuer r.metadata) ∧
    ∃ a ∈ s.shared.written, a.issuer = x.issuer ∧ a.metadata = r.metadata ∧ a.at_ ≤ r.at_ ∧
      (r.cached = true → unexpired (checkedAdd cfg a.at_) r.at_ = true) := by
  have hkept := kept_run hpolicy hrun
  have htask := hkept.of_mem hx
  simp only [TaskOk, hdone] at htask
  obtain ⟨a, ha, haissuer, hametadata, hle, hfresh⟩ := htask
  obtain ⟨-, hscheme, v, hv, hvissuer, hsuccess, hbody, hvalid, hsecure⟩ :=
    hkept.shared.written a ha
  rw [haissuer] at hscheme hvissuer hvalid
  rw [hametadata] at hvalid
  obtain ⟨hdocument, hrequired, hown⟩ := validate_eq_ok hvalid
  refine ⟨hscheme, ⟨v, hv, hvissuer, ?_, hbody, hsecure, hdocument, hrequired, hown⟩,
    a, ha, haissuer, hametadata, hle, hfresh⟩
  simpa [isSuccess] using hsuccess

/-- A document with the required members. -/
def sampleDocument : Json := .obj
  [("issuer", .str "https://idp/"), ("authorization_endpoint", .str "https://idp/auth"),
   ("token_endpoint", .str "https://idp/token"), ("jwks_uri", .str "https://idp/jwks"),
   ("response_types_supported", .arr [.str "code"]), ("subject_types_supported", .arr [.str "public"]),
   ("id_token_signing_alg_values_supported", .arr [.str "RS256"]), ("userinfo_endpoint", .null)]

/-- The body `[1, 2]` denotes the document. -/
def sampleLibrary : Library where
  url := oneHost
  document body := if body = [1, 2] then some sampleDocument else none
  reason _ := "EOF while parsing a value at line 1 column 0"
  urlError _ := "builder error"
  blocked _ := "error following redirect"

/-- A call after a redirect and two chunks, and one that finds its document in the cache. -/
def sampleRun : List Label :=
  let wire (w : Wire HttpUrl) : Label := .move 0 ⟨1, .wire w⟩
  [.spawn "https://idp", .move 0 ⟨0, .run⟩, .move 0 ⟨0, .run⟩,
   wire (.redirect 302 ⟨⟨https, ['i', 'd', 'p'], none, [['d']]⟩, .inr rfl⟩), wire (.headers 200),
   wire (.chunk [1]), wire (.chunk [2]), wire .finished, .move 0 ⟨2, .run⟩, .move 0 ⟨2, .run⟩,
   .spawn " https://idp/ ", .move 1 ⟨3, .run⟩]

def sampleState : State := (run sampleLibrary {} initial sampleRun).getD initial

theorem run_sample : run sampleLibrary {} initial sampleRun = some sampleState :=
  eq_some_getD initial (by decide +kernel)

/-- The document a call returned. -/
def Pc.answer : Pc → Option Returned
  | .done (.ok r) => some r
  | _ => none

theorem Pc.eq_of_answer {pc : Pc} {r : Returned} (h : pc.answer = some r) :
    pc = .done (.ok r) := by
  cases pc with
  | done result =>
      cases result with
      | ok r' =>
          obtain rfl := Option.some.inj h
          rfl
      | error e => cases h
  | _ => cases h

/-- The second call finds at instant 3 what the first one wrote. -/
theorem discover_sound_cached : ∃ x ∈ sampleState.tasks, ∃ r, x.pc = .done (.ok r) ∧ r.at_ = 3 ∧
    (∃ v ∈ sampleState.shared.served, ServedFor sampleLibrary {} v x.issuer r.metadata) ∧
    ∃ a ∈ sampleState.shared.written, a.metadata = r.metadata ∧
      unexpired (checkedAdd {} a.at_) 3 = true := by
  have hanswer : (sampleState.tasks[1]?.bind fun x =>
      x.pc.answer.map fun r => (r.at_, r.cached)) = some (3, true) := by decide +kernel
  obtain ⟨x, hx, hr⟩ := Option.bind_eq_some_iff.mp hanswer
  obtain ⟨r, hdone, hcached⟩ := Option.map_eq_some_iff.mp hr
  obtain ⟨hat, hcached⟩ := Prod.mk.inj hcached
  obtain ⟨-, hserved, a, ha, -, hmetadata, -, hfresh⟩ := discover_sound sampleLibrary {} (.inl rfl)
    run_sample (List.mem_of_getElem? hx) (Pc.eq_of_answer hdone)
  exact ⟨x, List.mem_of_getElem? hx, r, Pc.eq_of_answer hdone, hat, hserved, a, ha, hmetadata,
    hat ▸ hfresh hcached⟩

/-- No request leaves over plain HTTP unless that is allowed, no call follows more hops or holds
more of a body than the limits, and the cache keeps its bound. -/
theorem discovery_contained (lib : Library) (cfg : Config) (hpolicy : Hardened cfg.policy)
    {ls : List Label} {s : State} (hrun : run lib cfg initial ls = some s) :
    (cfg.allowHttp = false → ∀ q ∈ s.shared.requests, Secure q.url) ∧
    (cfg.maxEntries ≠ 0 → s.shared.cache.entries.size ≤ cfg.maxEntries) ∧
    ∀ x ∈ s.tasks, ∀ y, x.pc = .fetch y →
      y.held.length ≤ maxBodyBytes ∧ y.asked.length ≤ maxRedirects := by
  have hkept := kept_run hpolicy hrun
  refine ⟨fun hallow q hq => hkept.shared.requests q hq hallow, hkept.shared.size, ?_⟩
  intro x hx y hpc
  have htask := hkept.of_mem hx
  simp only [TaskOk, hpc] at htask
  obtain ⟨-, ⟨url, -, hsound⟩, -⟩ := htask
  exact ⟨hsound.bounded, hsound.limited⟩

theorem discovery_contained_sample :
    (∀ q ∈ sampleState.shared.requests, Secure q.url) ∧
      sampleState.shared.cache.entries.size ≤ 64 := by
  have h := discovery_contained sampleLibrary {} (.inl rfl) run_sample
  exact ⟨h.1 rfl, h.2.1 (by decide)⟩

def issuers (s : State) : List String := s.tasks.map Task.issuer

/-- The cache has room for every issuer ever asked for. -/
def Fits (cfg : Config) (s : State) : Prop :=
  cfg.maxEntries = 0 ∨ (issuers s).toFinset.card ≤ cfg.maxEntries

/-- What was last written for the issuer had expired when it was looked up. -/
structure Lookup.Missed (cfg : Config) (before : Lookup) (now : ℕ) : Prop where
  past : before.at_ ≤ now
  expired : ∀ t, before.held = some t → unexpired (checkedAdd cfg t) before.at_ = false

/-- The cache holds what was last written for each issuer, and a call begins a request only where
that had expired. -/
structure Current (cfg : Config) (w : Shared) : Prop where
  stored : ∀ u, w.cache.stored u =
    (w.written.find? fun a => a.issuer = u).map fun a => (a.metadata, checkedAdd cfg a.at_)
  spared : ∀ q ∈ w.requests, ∀ before, q.after = some before → before.Missed cfg q.at_

/-- A call about to send its request had reason to. -/
def Pc.Missed (cfg : Config) (now : ℕ) : Pc → Prop
  | .send before => before.Missed cfg now
  | _ => True

section Spared

variable {lib : Library} {cfg : Config} {w w' : Shared} {issuer : String} {pc pc' : Pc} {act : Act}

theorem Current.same_cache (h : Current cfg w) {cache : Cache}
    (hsame : ∀ u, cache.stored u = w.cache.stored u) : Current cfg { w with cache := cache } :=
  ⟨fun u => (hsame u).trans (h.stored u), h.spared⟩

/-- A lookup that misses finds nothing or what has expired. -/
theorem Current.missed (h : Current cfg w) (hget : (w.cache.get issuer w.now).2 = none) :
    (⟨w.now, w.lastWritten issuer⟩ : Lookup).Missed cfg w.now := by
  refine ⟨le_rfl, fun t ht => ?_⟩
  obtain ⟨a, ha, rfl⟩ := Option.map_eq_some_iff.mp ht
  have hst : w.cache.stored issuer = some (a.metadata, checkedAdd cfg a.at_) := by
    rw [h.stored issuer, ha]
    rfl
  rw [get_snd, hst] at hget
  simpa using hget

theorem Current.request (h : Current cfg w) (url : HttpUrl) {after : Option Lookup}
    (hafter : ∀ before, after = some before → before.Missed cfg w.now) :
    Current cfg (w.request issuer url after) := by
  refine ⟨h.stored, fun q hq before hbefore => ?_⟩
  obtain rfl | hq := List.mem_cons.mp hq
  · exact hafter before hbefore
  · exact h.spared q hq before hbefore

theorem Pc.Missed.later {now now' : ℕ} (h : pc.Missed cfg now) (hle : now ≤ now') :
    pc.Missed cfg now' := by
  cases pc with
  | send before => exact ⟨h.past.trans hle, h.expired⟩
  | _ => trivial

theorem Current.write (h : Current cfg w) {metadata : ProviderMetadata} {at_ : ℕ}
    (hfits : cfg.maxEntries = 0 ∨ Dict.size (w.cache.entries.insert issuer
      ⟨metadata, checkedAdd cfg at_, w.cache.accessCounter⟩) ≤ cfg.maxEntries) :
    Current cfg (w.write cfg issuer metadata at_) := by
  refine ⟨?_, h.spared⟩
  intro u
  have hput : (w.cache.put cfg.maxEntries issuer metadata (checkedAdd cfg at_)).stored u =
      if u = issuer then some (metadata, checkedAdd cfg at_) else w.cache.stored u :=
    stored_put_of_fits hfits u
  simp only [Shared.write]
  rw [hput, List.find?_cons]
  by_cases hu : u = issuer
  · subst hu
    simp
  · have hne : ¬ issuer = u := fun heq => hu heq.symm
    simp [hu, hne, h.stored u]

theorem Advance.current (h : Advance lib cfg w issuer pc act w' pc') (hw : Current cfg w)
    (hpc : pc.Missed cfg w.now) (hfits : ∀ e, cfg.maxEntries = 0 ∨
      Dict.size (w.cache.entries.insert issuer e) ≤ cfg.maxEntries) :
    Current cfg w' ∧ pc'.Missed cfg w'.now := by
  have hget : Current cfg { w with cache := (w.cache.get issuer w.now).1 } :=
    hw.same_cache fun u => stored_get w.cache issuer u w.now
  cases h with
  | hit metadata hg => exact ⟨hget, trivial⟩
  | miss hg => exact ⟨hget, hw.missed hg⟩
  | sent before url hscheme hurl =>
      refine ⟨hw.request url fun before' heq => ?_, trivial⟩
      cases heq
      exact hpc
  | redirected x x' wire hadv hphase =>
      refine ⟨hw.request _ fun before heq => ?_, trivial⟩
      cases heq
  | received x x' wire status body hadv hphase =>
      refine ⟨⟨hw.stored, hw.spared⟩, ?_⟩
      unfold afterBody
      split <;> trivial
  | inserted metadata at_ => exact ⟨hw.write (hfits _), trivial⟩
  | _ => exact ⟨hw, trivial⟩

/-- Nothing is cached but for issuers that were asked for. -/
theorem Advance.keys (h : Advance lib cfg w issuer pc act w' pc') {k : String}
    (hk : k ∈ w'.cache.entries) : k = issuer ∨ k ∈ w.cache.entries := by
  cases h with
  | hit metadata hg => exact .inr (mem_of_mem_get hk)
  | miss hg => exact .inr (mem_of_mem_get hk)
  | inserted metadata at_ => exact mem_of_mem_put hk
  | _ => exact .inr hk

/-- What the invariant is: the keys are issuers asked for, and while these fit, the cache is
current and no request is sent without reason. -/
structure Sparing (cfg : Config) (s : State) : Prop where
  keys : ∀ k ∈ s.shared.cache.entries, k ∈ issuers s
  current : Fits cfg s → Current cfg s.shared ∧ ∀ x ∈ s.tasks, x.pc.Missed cfg s.shared.now

theorem size_le_card {ν : Type} {d : Dict String ν} {us : List String} (h : ∀ k ∈ d, k ∈ us) :
    d.size ≤ us.toFinset.card := by
  rw [Dict.size_eq_keys, ← List.toFinset_card_of_nodup d.keys_nodup]
  refine Finset.card_le_card fun k hk => ?_
  exact List.mem_toFinset.mpr (h k (List.mem_toFinset.mp hk))

theorem sparing_step (s : State) (l : Label) (s' : State) (h : Sparing cfg s)
    (hstep : (client lib cfg).step s l = some s') : Sparing cfg s' := by
  cases l with
  | spawn issuerUrl =>
      obtain ⟨w, x, hspawn, rfl⟩ := Machine.step_spawn hstep
      obtain ⟨rfl, rfl⟩ := client_spawn hspawn
      have hmore : ∀ k ∈ issuers s, k ∈ issuers ⟨s.shared, s.tasks ++ [⟨issuerUrl, .lookup⟩]⟩ := by
        intro k hk
        rw [issuers, List.map_append]
        exact List.mem_append_left _ hk
      refine ⟨fun k hk => hmore k (h.keys k hk), fun hfits => ?_⟩
      have hfits' : Fits cfg s := by
        obtain hzero | hcard := hfits
        · exact .inl hzero
        · refine .inr ((Finset.card_le_card fun k hk => ?_).trans hcard)
          exact List.mem_toFinset.mpr (hmore k (List.mem_toFinset.mp hk))
      obtain ⟨hcurrent, hmissed⟩ := h.current hfits'
      refine ⟨hcurrent, fun x hx => ?_⟩
      obtain hold | hnew := List.mem_append.mp hx
      · exact hmissed x hold
      · cases List.mem_singleton.mp hnew
        trivial
  | move t e =>
      obtain ⟨x, w, x', hx, hmove, rfl⟩ := Machine.step_move (client_fork lib cfg) hstep
      obtain ⟨hle, pc', rfl, hadv⟩ := client_move hmove
      have hsame : issuers ⟨w, s.tasks.set t ⟨x.issuerUrl, pc'⟩⟩ = issuers s := by
        have hself : (s.tasks.map Task.issuer)[t]? = some x.issuer := by
          rw [List.getElem?_map, hx]
          rfl
        obtain ⟨hlt, hget⟩ := List.getElem?_eq_some_iff.mp hself
        calc issuers ⟨w, s.tasks.set t ⟨x.issuerUrl, pc'⟩⟩
            = (s.tasks.map Task.issuer).set t x.issuer := List.map_set
          _ = (s.tasks.map Task.issuer).set t (s.tasks.map Task.issuer)[t] := by rw [hget]
          _ = issuers s := List.set_getElem_self hlt
      have hmem : x.issuer ∈ issuers s := List.mem_map_of_mem (List.mem_of_getElem? hx)
      refine ⟨?_, ?_⟩
      · intro k hk
        rw [hsame]
        obtain rfl | hk := hadv.keys hk
        · exact hmem
        · exact h.keys k hk
      · intro hfits
        have hfits' : Fits cfg s := by
          unfold Fits at hfits ⊢
          rwa [hsame] at hfits
        obtain ⟨hcurrent, hmissed⟩ := h.current hfits'
        have hself : x.pc.Missed cfg e.now := (hmissed x (List.mem_of_getElem? hx)).later hle
        obtain ⟨hcurrent', hself'⟩ :=
          hadv.current ⟨hcurrent.stored, hcurrent.spared⟩ hself fun entry => by
            refine hfits'.imp_right fun hcard => le_trans (size_le_card fun k hk => ?_) hcard
            obtain rfl | hk := (AList.mem_insert _).mp hk
            · exact hmem
            · exact h.keys k hk
        refine ⟨hcurrent', fun y hy => ?_⟩
        obtain hold | rfl := List.mem_or_eq_of_mem_set hy
        · exact (hmissed y hold).later (hle.trans hadv.grows.now)
        · exact hself'

end Spared

/-- While the cache has room for every issuer ever asked for, no call begins a request for an issuer
whose last written document was still fresh when the call looked it up. -/
theorem fresh_documents_spare_requests (lib : Library) (cfg : Config) {ls : List Label} {s : State}
    (hrun : run lib cfg initial ls = some s) (hfits : Fits cfg s) :
    ∀ q ∈ s.shared.requests, ∀ before, q.after = some before →
      before.at_ ≤ q.at_ ∧ ∀ t, before.held = some t →
        t + cfg.cacheTtl ≤ before.at_ ∧ t + cfg.cacheTtl ≤ cfg.clockMax := by
  have hinit : Sparing cfg initial := by
    refine ⟨fun k hk => ?_, fun _ => ⟨⟨fun _ => rfl, fun q hq => ?_⟩, fun x hx => ?_⟩⟩
    · cases hk
    · cases hq
    · cases hx
  have hsparing := exec_preserves sparing_step hinit hrun
  intro q hq before hbefore
  have hmissed := (hsparing.current hfits).1.spared q hq before hbefore
  refine ⟨hmissed.past, fun t ht => ?_⟩
  have hexpired := hmissed.expired t ht
  unfold checkedAdd at hexpired
  split at hexpired
  · rename_i hclock
    refine ⟨?_, hclock⟩
    simpa [unexpired] using hexpired
  · cases hexpired

/-- A third call, a day later. -/
def laterRun : List Label :=
  sampleRun ++ [.spawn "https://idp", .move 2 ⟨86400000000002, .run⟩,
    .move 2 ⟨86400000000003, .run⟩]

def laterState : State := (run sampleLibrary {} initial laterRun).getD initial

theorem fresh_documents_spare_requests_later :
    ∃ q ∈ laterState.shared.requests, ∃ before, q.after = some before ∧ before.held = some 2 ∧
      2 + 86400000000000 ≤ before.at_ ∧ before.at_ ≤ q.at_ := by
  have hrun : run sampleLibrary {} initial laterRun = some laterState :=
    eq_some_getD initial (by decide +kernel)
  have hq : (laterState.shared.requests.head?.bind fun q => q.after.map Lookup.held) =
      some (some 2) := by decide +kernel
  obtain ⟨q, hhead, hafter⟩ := Option.bind_eq_some_iff.mp hq
  obtain ⟨before, hbefore, hheld⟩ := Option.map_eq_some_iff.mp hafter
  have hmem : q ∈ laterState.shared.requests := List.mem_of_mem_head? hhead
  obtain ⟨hle, hspared⟩ := fresh_documents_spare_requests sampleLibrary {} hrun
    (.inr (by decide +kernel)) q hmem before hbefore
  exact ⟨q, hmem, before, hbefore, hheld, (hspared 2 hheld).1, hle⟩

end IdentityModel.RustDiscovery
