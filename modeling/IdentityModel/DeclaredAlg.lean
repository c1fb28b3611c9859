import IdentityModel.ClaimsParity
import IdentityModel.GoValidate
import IdentityModel.PySoundness
import IdentityModel.RustValidate

/-!
# The algorithm a key declares

RFC 7517 section 4.4: a key with an `alg` member is for that algorithm. Python in
discovery mode checks the key it selects against the header of the token, on the
first attempt and after a refresh. Python with a configured key, Go and Rust have
no such check: there a token is accepted under a key declared for another
algorithm whenever everything else about it is right.
-/
namespace IdentityModel.DeclaredAlg

/-- The key declares no algorithm, or the one of the header. -/
def Bound (declared header : String) : Prop := declared = "" ∨ declared = header

namespace Go

open GoJwks (JSONWebKey trimSpace)
open GoValidate

variable {K J : Type} (lib : Library K J) (cfg : Config) (rawToken : String)

/-- What the token is accepted under is a key bound to its algorithm. -/
def Binds (keySet : Option KeySource) : Prop :=
  ∀ source header key claims, keySet = some source →
    parseHeader lib (trimSpace rawToken) = .ok header →
    resolveKeyWithRefresh source header.kid = .ok key →
    validate lib cfg rawToken keySet = .ok claims → Bound key.alg header.alg

/-- The key of the header's `kid` is bound to the header's algorithm, or the token
does not pass under its material. -/
def Spared (keySet : Option KeySource) : Prop :=
  ∀ source header key, keySet = some source →
    parseHeader lib (trimSpace rawToken) = .ok header →
    resolveKeyWithRefresh source header.kid = .ok key →
    Bound key.alg header.alg ∨ ∀ claims, ¬ Passes lib cfg (trimSpace rawToken) header key claims

theorem binds_iff (keySet : Option KeySource) :
    Binds lib cfg rawToken keySet ↔ Spared lib cfg rawToken keySet := by
  constructor
  · intro h source header key hset hheader hkey
    by_cases hbound : Bound key.alg header.alg
    · exact .inl hbound
    · right
      intro claims hpasses
      have haccepted : validate lib cfg rawToken keySet = .ok claims := by
        rw [hset, validate_ok_iff]
        exact ⟨header, key, hheader, hkey, hpasses⟩
      exact hbound (h source header key claims hset hheader hkey haccepted)
  · rintro h source header key claims rfl hheader hkey haccepted
    obtain ⟨header', key', hheader', hkey', hpasses⟩ := validate_ok_iff.mp haccepted
    rw [hheader] at hheader'
    obtain rfl := Except.ok.inj hheader'
    rw [hkey] at hkey'
    obtain rfl := Except.ok.inj hkey'
    obtain hbound | hfails := h source header key rfl hheader hkey
    · exact hbound
    · exact absurd hpasses (hfails claims)

end Go

namespace Rust

open GoJwks (trimSpace)
open RustJwks (JsonWebKey)
open RustValidate

variable {K : Type} (lib : Library K) (options : Options) (nowUnix : ℤ) (rawToken : String)

/-- For a key at hand: a token accepted under it has its algorithm. -/
def Binds (key : JsonWebKey) : Prop :=
  ∀ header claims, parseHeader lib (trimSpace rawToken) = .ok header →
    validateToken lib rawToken key options nowUnix = .ok claims → Bound key.alg header.alg

def Spared (key : JsonWebKey) : Prop :=
  ∀ header, parseHeader lib (trimSpace rawToken) = .ok header → Bound key.alg header.alg ∨
    ∀ claims, ¬ Passes lib options nowUnix (trimSpace rawToken) header key claims

theorem binds_iff (key : JsonWebKey) :
    Binds lib options nowUnix rawToken key ↔ Spared lib options nowUnix rawToken key := by
  constructor
  · intro h header hheader
    by_cases hbound : Bound key.alg header.alg
    · exact .inl hbound
    · exact .inr fun claims hpasses =>
        hbound (h header claims hheader (validateToken_ok_iff.mpr ⟨header, hheader, hpasses⟩))
  · intro h header claims hheader haccepted
    obtain ⟨header', hheader', hpasses⟩ := validateToken_ok_iff.mp haccepted
    rw [hheader] at hheader'
    obtain rfl := Except.ok.inj hheader'
    obtain hbound | hfails := h header hheader
    · exact hbound
    · exact absurd hpasses (hfails claims)

/-- For the keys of a client. -/
def BindsSet (source : KeySource) : Prop :=
  ∀ header key claims, parseHeader lib (trimSpace rawToken) = .ok header →
    resolveKey source header.kid = .ok key →
    validateTokenWithJwks lib rawToken source options nowUnix = .ok claims →
    Bound key.alg header.alg

def SparedSet (source : KeySource) : Prop :=
  ∀ header key, parseHeader lib (trimSpace rawToken) = .ok header →
    resolveKey source header.kid = .ok key → Bound key.alg header.alg ∨
      ∀ claims, ¬ Passes lib options nowUnix (trimSpace rawToken) header key claims

theorem bindsSet_iff (source : KeySource) :
    BindsSet lib options nowUnix rawToken source ↔ SparedSet lib options nowUnix rawToken source := by
  constructor
  · intro h header key hheader hkey
    by_cases hbound : Bound key.alg header.alg
    · exact .inl hbound
    · right
      intro claims hpasses
      exact hbound (h header key claims hheader hkey
        (validateTokenWithJwks_ok_iff.mpr ⟨header, key, hheader, hkey, hpasses⟩))
  · intro h header key claims hheader hkey haccepted
    obtain ⟨header', key', hheader', hkey', hpasses⟩ := validateTokenWithJwks_ok_iff.mp haccepted
    rw [hheader] at hheader'
    obtain rfl := Except.ok.inj hheader'
    rw [hkey] at hkey'
    obtain rfl := Except.ok.inj hkey'
    obtain hbound | hfails := h header key hheader hkey
    · exact hbound
    · exact absurd hpasses (hfails claims)

end Rust

namespace Py

open IdentityModel.Py Runs Tasks

/-- The same, for the optional members of Python. -/
def Bound (key : JsonWebKey) (header : Header) : Prop :=
  truthy key.alg = none ∨ ∃ alg, key.alg = some alg ∧ header.alg = some (.str alg)

/-- What is assumed of PyJWT: `decode` succeeds only for a token whose header names
one of the given algorithms. -/
def PinsAlgorithm (pyjwt : PyJwt) : Prop :=
  ∀ now args claims header, args.Enforced → pyjwt.decode now args = .ok claims →
    pyjwt.header args.jwt = .ok header → ∃ alg ∈ args.algorithms, header.alg = some (.str alg)

/-- The claims were decoded, at some time, with the key that was found for the token's header. -/
structure Attempt (rt : Runtime) (req : Request) (claims : Claims) (header : Header)
    (keys : List JsonWebKey) (key : JsonWebKey) : Prop where
  read : rt.pyjwt.header req.jwt = .ok header
  found : ∃ alg, findKeyByKid header.kid keys header.alg = .ok (key, alg)
  decoded : ∃ now issuer,
    resolveAndDecode (rt.pyjwt.at now) req.jwt req.config header keys issuer = .ok claims

variable {rt : Runtime} {req : Request} {claims : Claims}

/-- The selected key was checked against the header that PyJWT then matched. -/
theorem Attempt.bound (hpins : PinsAlgorithm rt.pyjwt) {header : Header} {keys : List JsonWebKey}
    {key : JsonWebKey} (h : Attempt rt req claims header keys key) : Bound key header := by
  obtain ⟨alg, hfound⟩ := h.found
  obtain ⟨now, issuer, hdecoded⟩ := h.decoded
  unfold resolveAndDecode at hdecoded
  rw [hfound] at hdecoded
  simp only at hdecoded
  cases hresolved : buildResolvedConfig req.config key alg with
  | error e =>
      rw [hresolved] at hdecoded
      cases hdecoded
  | ok resolved =>
      rw [hresolved] at hdecoded
      obtain ⟨rfl, -⟩ := buildResolvedConfig_ok hresolved
      simp only [decodeWithConfig, Option.getD_some] at hdecoded
      split at hdecoded
      · cases hdecoded
      · obtain ⟨hargs, henforced⟩ := decodeAndValidateJwt_ok hdecoded
        obtain ⟨alg', hmem, halg⟩ := hpins _ _ claims header henforced hargs h.read
        obtain rfl : alg' = alg := by simpa using hmem
        obtain ⟨-, hresolve, -⟩ := findKeyByKid_ok hfound
        cases hdeclared : truthy key.alg with
        | none => exact .inl hdeclared
        | some declared =>
            right
            have hkey := (truthy_eq_some.mp hdeclared).1
            simp only [resolveAlg, hdeclared] at hresolve
            exact ⟨declared, hkey, by rw [halg, hresolve]⟩

/-- Claims of a discovery-mode call come from an attempt. -/
def Result.Decoded (rt : Runtime) (req : Request) : Result → Prop
  | .ok claims => req.config.performDisco = true →
      ∃ header keys key, Attempt rt req claims header keys key
  | .error _ => True

def Why.Read (rt : Runtime) (req : Request) : Why → Prop
  | .kidMiss _ header _ => rt.pyjwt.header req.jwt = .ok header
  | .retry => True

def Pc.Decoded (rt : Runtime) (req : Request) : Pc → Prop
  | .gate _ why | .gateCheck _ why _ | .refreshWait _ why | .refreshCheck _ why |
    .refreshFetch _ why | .refreshWrite _ why _ => Why.Read rt req why
  | .settle _ _ next => Pc.Decoded rt req next
  | .done result => Result.Decoded rt req result
  | _ => True

theorem resolveAndDecode_attempt {header : Header} {keys : List JsonWebKey} {issuer : Option Issuer}
    (hheader : rt.pyjwt.header req.jwt = .ok header)
    (h : resolveAndDecode rt.pyjwt req.jwt req.config header keys issuer = .ok claims) :
    ∃ key, Attempt rt req claims header keys key := by
  cases hfound : findKeyByKid header.kid keys header.alg with
  | error e =>
      rw [resolveAndDecode, hfound] at h
      cases h
  | ok found => exact ⟨found.1, hheader, ⟨found.2, hfound⟩, ⟨rt.pyjwt.now, issuer, h⟩⟩

theorem finish_decoded {result : Result} (h : Result.Decoded rt req result) :
    Pc.Decoded rt req (finish rt req result) := by
  cases result with
  | error e => trivial
  | ok claims =>
      simp only [finish]
      split
      · trivial
      · exact h

theorem attempt_decoded {d : Disco} {header : Header} {keys : List JsonWebKey}
    (hheader : rt.pyjwt.header req.jwt = .ok header) :
    Pc.Decoded rt req (attempt rt req d header keys) := by
  unfold attempt
  cases hres : resolveAndDecode rt.pyjwt req.jwt req.config header keys d.doc.issuer with
  | ok claims =>
      exact finish_decoded fun _ => ⟨header, keys, resolveAndDecode_attempt hheader hres⟩
  | error e =>
      simp only
      split <;> trivial

theorem afterDisco_decoded (response : DiscoveryDocumentResponse) :
    Pc.Decoded rt req (afterDisco rt response) := by
  obtain ⟨e, he⟩ | ⟨uri, huri, -⟩ := afterDisco_cases rt response
  · rw [he]
    trivial
  · rw [huri]
    trivial

theorem afterJwks_decoded (d : Disco) (response : JwksResponse) :
    Pc.Decoded rt req (afterJwks rt req d response) := by
  unfold afterJwks
  split
  · trivial
  · split
    · trivial
    · rename_i header hheader
      split
      · exact attempt_decoded hheader
      · split
        · exact attempt_decoded hheader
        · exact hheader

theorem afterBlocked_decoded {why : Why} (d : Disco) (h : Why.Read rt req why) :
    Pc.Decoded rt req (afterBlocked rt req d why) := by
  cases why with
  | kidMiss kid header cached => exact attempt_decoded h
  | retry => trivial

theorem retryDecode_decoded (d : Disco) (keys : List JsonWebKey) :
    Result.Decoded rt req (retryDecode rt req d keys) := by
  unfold retryDecode
  cases hheader : rt.pyjwt.header req.jwt with
  | error e => trivial
  | ok header =>
      cases hres : resolveAndDecode rt.pyjwt req.jwt req.config header keys d.doc.issuer with
      | error e => simp only [hres, Result.Decoded]
      | ok claims =>
          simp only [hres]
          exact fun _ => ⟨header, keys, resolveAndDecode_attempt hheader hres⟩

theorem afterRefresh_decoded {why : Why} (d : Disco) (response : JwksResponse) (retained : Bool)
    (h : Why.Read rt req why) : Pc.Decoded rt req (afterRefresh rt req d why response retained) := by
  cases why with
  | kidMiss kid header cached =>
      have hattempt : Pc.Decoded rt req (attempt rt req d header response.keyList) :=
        attempt_decoded h
      simp only [afterRefresh]
      split
      · split <;> exact hattempt
      · split <;> trivial
  | retry =>
      have hfinish : Pc.Decoded rt req (finish rt req (retryDecode rt req d response.keyList)) :=
        finish_decoded (retryDecode_decoded d response.keyList)
      simp only [afterRefresh]
      split
      · trivial
      · split <;> exact hfinish

theorem advance_decoded {w w' : Shared} {pc pc' : Pc} {act : Act}
    (h : Advance rt w req pc act w' pc') (hpc : Pc.Decoded rt req pc) : Pc.Decoded rt req pc' := by
  cases h with
  | discoTouch response => exact afterDisco_decoded response
  | discoWrite response => exact afterDisco_decoded response
  | jwksTouch d response => exact afterJwks_decoded d response
  | jwksWrite d response => exact afterJwks_decoded d response
  | gate d why => exact hpc
  | gatePassed d why => exact hpc
  | gateBlocked d why => exact afterBlocked_decoded d hpc
  | refreshLock d why => exact hpc
  | coalesced d why entry => exact afterRefresh_decoded d entry.response false hpc
  | refreshSend d why => exact hpc
  | refreshAnswer d why => exact hpc
  | refreshWrite d why response => exact afterRefresh_decoded d _ _ hpc
  | settle d stamp after => exact hpc
  | _ => trivial

def Task.Decoded (rt : Runtime) : Task → Prop
  | .token req pc => Pc.Decoded rt req pc
  | _ => True

section Times

variable {now : ℚ}

theorem Attempt.at_iff {header : Header} {keys : List JsonWebKey} {key : JsonWebKey} :
    Attempt (rt.at now) req claims header keys key ↔ Attempt rt req claims header keys key :=
  ⟨fun h => ⟨h.read, h.found, h.decoded⟩, fun h => ⟨h.read, h.found, h.decoded⟩⟩

theorem Result.decoded_at {result : Result} :
    Result.Decoded (rt.at now) req result ↔ Result.Decoded rt req result := by
  cases result with
  | error e => exact Iff.rfl
  | ok claims => simp only [Result.Decoded, Attempt.at_iff]

theorem Pc.decoded_at {pc : Pc} : Pc.Decoded (rt.at now) req pc ↔ Pc.Decoded rt req pc := by
  induction pc with
  | settle d stamp next ih => exact ih
  | done result => exact Result.decoded_at
  | _ => exact Iff.rfl

theorem Task.decoded_at {x : Task} : Task.Decoded (rt.at now) x ↔ Task.Decoded rt x := by
  cases x with
  | token req pc => exact Pc.decoded_at
  | _ => exact Iff.rfl

end Times

theorem start_decoded (rt : Runtime) (call : Call) : Task.Decoded rt (call.start rt) := by
  cases call with
  | validateToken jwt config address =>
      simp only [Call.start, startToken]
      split
      · trivial
      · split
        · split <;> trivial
        · rename_i hmanual
          cases hres : manualResult rt jwt config with
          | error e => trivial
          | ok claims => exact finish_decoded fun hdisco => absurd hdisco hmanual
  | _ => trivial

/-- In every state of a run the claims returned in discovery mode come from an
attempt. -/
theorem attempt_of_run {ls : List Label} {s : State} (hrun : run rt initial ls = some s)
    (hdone : .token req (.done (.ok claims)) ∈ s.tasks) (hdisco : req.config.performDisco = true) :
    ∃ header keys key, Attempt rt req claims header keys key := by
  have hstep : ∀ s l s', Holds (fun _ => True) (fun _ x => Task.Decoded rt x) (fun _ _ => True) s →
      (validator rt).step s l = some s' →
      Holds (fun _ => True) (fun _ x => Task.Decoded rt x) (fun _ _ => True) s' := by
    intro s l s' h hstep
    refine validator_holds (fun _ => True)
      (fun now call _ => Task.decoded_at.mp (start_decoded (rt.at now) call)) ?_ s l s' h trivial hstep
    · intro t e w x w' x' _ _ hself hmoved
      refine ⟨trivial, ?_⟩
      cases hmoved with
      | token req pc _ pc' hadv =>
          exact Pc.decoded_at.mp (advance_decoded hadv (Pc.decoded_at.mpr hself))
      | _ => trivial
  have hend := exec_preserves hstep (Holds.of_idle trivial rfl) hrun
  exact hend.of_mem hdone hdisco

/-- In discovery mode every returned token was decoded with a key bound to its
algorithm. -/
def DiscoveryBinds (rt : Runtime) : Prop :=
  ∀ ls s req claims, run rt initial ls = some s → .token req (.done (.ok claims)) ∈ s.tasks →
    req.config.performDisco = true →
    ∃ header keys key, Attempt rt req claims header keys key ∧ Bound key header

theorem discovery_binds (hpins : PinsAlgorithm rt.pyjwt) : DiscoveryBinds rt := by
  intro ls s req claims hrun hdone hdisco
  obtain ⟨header, keys, key, hattempt⟩ := attempt_of_run hrun hdone hdisco
  exact ⟨header, keys, key, hattempt, hattempt.bound hpins⟩

/-- `validate_token` returns the claims without discovery. -/
def Returned (rt : Runtime) (jwt : String) (config : TokenValidationConfig)
    (address : Option String) (claims : Claims) : Prop :=
  ∃ req, startToken rt jwt config address = .token req (.done (.ok claims))

/-- What is checked of a token under a configured key besides what the key declares:
the settings, the decoding under the allowed algorithms and the claims validator. -/
structure Passes (rt : Runtime) (jwt : String) (config : TokenValidationConfig) (key : JsonWebKey)
    (claims : Claims) : Prop where
  valid : validateTokenConfig config = none
  issuers : (config.allowedIssuers.bind fun allowed =>
    enforceAllowedIssuers rt.pyjwt.str config.issuer allowed) = none
  decoded : ∃ alg algs, config.algorithms = some (alg :: algs) ∧
    decodeAndValidateJwt rt.pyjwt ⟨jwt, key, alg :: algs, config.audience, config.issuer,
      config.options, config.leeway.getD (.int 0), config.required⟩ config.subject = .ok claims
  accepted : validateClaims rt.flavour config claims = none

theorem manualResult_ok {jwt : String} {config : TokenValidationConfig} {key : JsonWebKey}
    (hkey : config.key = some key) : manualResult rt jwt config = .ok claims ↔
      (config.allowedIssuers.bind fun allowed =>
        enforceAllowedIssuers rt.pyjwt.str config.issuer allowed) = none ∧
      ∃ alg algs, config.algorithms = some (alg :: algs) ∧
        decodeAndValidateJwt rt.pyjwt ⟨jwt, key, alg :: algs, config.audience, config.issuer,
          config.options, config.leeway.getD (.int 0), config.required⟩ config.subject =
            .ok claims := by
  unfold manualResult validateConfigForManualValidation decodeWithConfig
  rw [hkey]
  match halgs : config.algorithms with
  | none => simp
  | some [] => simp
  | some (alg :: algs) =>
      cases hissuers : config.allowedIssuers.bind fun allowed =>
          enforceAllowedIssuers rt.pyjwt.str config.issuer allowed with
      | some e => simp [hissuers]
      | none => simp [hissuers]

theorem returned_iff {jwt : String} {config : TokenValidationConfig} {address : Option String}
    {key : JsonWebKey} (hmanual : config.performDisco = false) (hkey : config.key = some key) :
    Returned rt jwt config address claims ↔ Passes rt jwt config key claims := by
  have hmanualOk := @manualResult_ok rt claims jwt config key hkey
  unfold Returned
  simp only [startToken, hmanual]
  cases hvalid : validateTokenConfig config with
  | some e =>
      constructor
      · rintro ⟨req, hreq⟩
        cases hreq
      · intro h
        have hnone := h.valid
        rw [hvalid] at hnone
        cases hnone
  | none =>
      simp only [Bool.false_eq_true, if_false]
      cases hresult : manualResult rt jwt config with
      | error e =>
          rw [hresult] at hmanualOk
          constructor
          · rintro ⟨req, hreq⟩
            cases hreq
          · intro h
            cases hmanualOk.mpr ⟨h.issuers, h.decoded⟩
      | ok decoded =>
          rw [hresult] at hmanualOk
          simp only [finish]
          constructor
          · rintro ⟨req, hreq⟩
            cases haccepted : validateClaims rt.flavour config decoded with
            | some e =>
                rw [haccepted] at hreq
                cases hreq
            | none =>
                rw [haccepted] at hreq
                obtain ⟨-, hpc⟩ := Task.token.inj hreq
                obtain rfl := Except.ok.inj (Pc.done.inj hpc)
                obtain ⟨hissuers, hdecoded⟩ := hmanualOk.mp rfl
                exact ⟨hvalid, hissuers, hdecoded, haccepted⟩
          · intro h
            obtain rfl := Except.ok.inj (hmanualOk.mpr ⟨h.issuers, h.decoded⟩)
            rw [h.accepted]
            exact ⟨_, rfl⟩

/-- A token returned under a configured key has the key's algorithm. -/
def ManualBinds (rt : Runtime) (jwt : String) (config : TokenValidationConfig)
    (address : Option String) : Prop :=
  ∀ key header claims, config.key = some key → rt.pyjwt.header jwt = .ok header →
    Returned rt jwt config address claims → Bound key header

def ManualSpared (rt : Runtime) (jwt : String) (config : TokenValidationConfig) : Prop :=
  ∀ key header, config.key = some key → rt.pyjwt.header jwt = .ok header →
    Bound key header ∨ ∀ claims, ¬ Passes rt jwt config key claims

theorem manualBinds_iff {jwt : String} {config : TokenValidationConfig} {address : Option String}
    (hmanual : config.performDisco = false) :
    ManualBinds rt jwt config address ↔ ManualSpared rt jwt config := by
  constructor
  · intro h key header hkey hheader
    by_cases hbound : Bound key header
    · exact .inl hbound
    · exact .inr fun claims hpasses =>
        hbound (h key header claims hkey hheader ((returned_iff hmanual hkey).mpr hpasses))
  · intro h key header claims hkey hheader hreturned
    obtain hbound | hfails := h key header hkey hheader
    · exact hbound
    · exact absurd ((returned_iff hmanual hkey).mp hreturned) (hfails claims)

end Py

section All

open IdentityModel.Py (Runtime TokenValidationConfig)

/-- A key's declared algorithm binds always in Python's discovery mode, and with a
configured key, in Go and in Rust exactly when the key the token is verified with
is bound to the token's algorithm or the token does not pass anyway. -/
theorem declared_algorithms_bind {K J L : Type} (rt : Runtime) (golib : GoValidate.Library K J)
    (rustlib : RustValidate.Library L) (hpins : Py.PinsAlgorithm rt.pyjwt) :
    Py.DiscoveryBinds rt ∧
    (∀ jwt config address, config.performDisco = false →
      (Py.ManualBinds rt jwt config address ↔ Py.ManualSpared rt jwt config)) ∧
    (∀ cfg rawToken keySet,
      Go.Binds golib cfg rawToken keySet ↔ Go.Spared golib cfg rawToken keySet) ∧
    (∀ options nowUnix rawToken key, Rust.Binds rustlib options nowUnix rawToken key ↔
      Rust.Spared rustlib options nowUnix rawToken key) ∧
    ∀ options nowUnix rawToken source, Rust.BindsSet rustlib options nowUnix rawToken source ↔
      Rust.SparedSet rustlib options nowUnix rawToken source :=
  ⟨Py.discovery_binds hpins, fun _ _ _ => Py.manualBinds_iff, Go.binds_iff golib,
    Rust.binds_iff rustlib, Rust.bindsSet_iff rustlib⟩

end All

section Samples

open ClaimsParity (oneDigit)
open IdentityModel.Py (Runtime TokenValidationConfig)

def headerText : String := "\x7b\"alg\":\"RS256\",\"kid\":\"k1\"\x7d"

def payloadText : String := "\x7b\"iat\":1,\"exp\":9\x7d"

def payload : Json := .obj [("iat", .num (oneDigit 1)), ("exp", .num (oneDigit 9))]

def sampleToken : String := "eyJhbGciOiJSUzI1NiIsImtpZCI6ImsxIn0.eyJpYXQiOjEsImV4cCI6OX0.c2ln"

def sampleBase64 (segment : String) : Except String String :=
  if segment = "eyJhbGciOiJSUzI1NiIsImtpZCI6ImsxIn0" then .ok headerText
  else if segment = "eyJpYXQiOjEsImV4cCI6OX0" then .ok payloadText
  else .error "illegal base64 data"

def sampleDocument (text : String) : Except String Json :=
  if text = headerText then .ok (.obj [("alg", .str "RS256"), ("kid", .str "k1")])
  else if text = payloadText then .ok payload
  else .error "invalid character"

/-- Libraries for which the token is signed by the key with this modulus. -/
def sampleGo : GoValidate.Library String String where
  fmt := ⟨id, fun _ => ""⟩
  base64 := sampleBase64
  document := sampleDocument
  jwk fields := .ok (fields.lookup "n")
  parseSigned token algs := if "RS256" ∈ algs then .ok token else .error "unexpected algorithm"
  verify token n :=
    if token = sampleToken ∧ n = "modulus" then .ok payloadText else .error "verification error"

def sampleRust : RustValidate.Library String where
  claims := RustClaims.plainLibrary
  debugList _ := ""
  base64 := sampleBase64
  document := sampleDocument
  fromRsaComponents n _ := .ok n
  fromEcComponents x _ := .ok x
  decode token n alg :=
    if token = sampleToken ∧ n = "modulus" ∧ alg = "RS256" then .ok payload
    else .error .invalidSignature

def sampleConfig : GoValidate.Config := { claims := { now := 2000000000 } }

/-- A key set with one RSA key declared for the algorithm. -/
def goKeys (alg : String) : GoValidate.KeySource :=
  ⟨[{ kty := "RSA", kid := "k1", alg := alg, n := "modulus", e := "AQAB" }], true, .ok []⟩

def rustKey (alg : String) : RustJwks.JsonWebKey :=
  { kty := "RSA", kid := "k1", alg := alg, n := "modulus", e := "AQAB" }

def pyConfig (alg : String) : TokenValidationConfig where
  performDisco := false
  key := some { kty := "RSA", kid := some "k1", alg := some alg }
  algorithms := some ["RS256"]
  issuer := some (.one "https://idp")

theorem signedRuntime_pins (flavour : IdentityModel.Py.Flavour) :
    Py.PinsAlgorithm (IdentityModel.Py.signedRuntime flavour).pyjwt := by
  intro now args claims header _ hdecode hheader
  simp only [IdentityModel.Py.signedRuntime] at hdecode hheader
  split at hdecode
  · rename_i hcond
    obtain rfl := Except.ok.inj hheader
    exact ⟨"RS256", by simp [hcond.2.1], rfl⟩
  · cases hdecode

theorem declared_algorithms_bind_sample :
    Py.DiscoveryBinds (IdentityModel.Py.signedRuntime .sync) ∧
      Go.Binds sampleGo sampleConfig sampleToken (some (goKeys "RS256")) := by
  have h := declared_algorithms_bind (IdentityModel.Py.signedRuntime .sync) sampleGo sampleRust
    (signedRuntime_pins .sync)
  refine ⟨h.1, (h.2.2.1 sampleConfig sampleToken (some (goKeys "RS256"))).mpr ?_⟩
  intro source header key hsource hheader hkey
  obtain rfl := Option.some.inj hsource
  have hheader' : header = ⟨"RS256", "k1"⟩ := by
    have hparse : GoValidate.parseHeader sampleGo (GoJwks.trimSpace sampleToken) =
        .ok ⟨"RS256", "k1"⟩ := rfl
    rw [hparse] at hheader
    exact (Except.ok.inj hheader).symm
  subst hheader'
  left
  right
  cases hkey
  rfl

/-- A token with RS256 in its header is accepted under a key declared for RS512: by
Go, by Rust, and by Python with that key configured. -/
theorem foreign_algorithm_accepted :
    ¬ Go.Binds sampleGo sampleConfig sampleToken (some (goKeys "RS512")) ∧
    ¬ Rust.Binds sampleRust { claims := {} } 2 sampleToken (rustKey "RS512") ∧
    ¬ Py.ManualBinds (IdentityModel.Py.signedRuntime .sync) "t" (pyConfig "RS512") none := by
  refine ⟨fun h => ?_, fun h => ?_, fun h => ?_⟩
  · have haccepted : (GoValidate.validate sampleGo sampleConfig sampleToken
        (some (goKeys "RS512"))).isOk = true := by decide +kernel
    obtain ⟨claims, hclaims⟩ := Results.exists_of_isOk haccepted
    have hbound := h (goKeys "RS512") ⟨"RS256", "k1"⟩ _ claims rfl rfl rfl hclaims
    simp [Bound] at hbound
  · have haccepted : (RustValidate.validateToken sampleRust sampleToken (rustKey "RS512")
        { claims := {} } 2).isOk = true := by decide +kernel
    obtain ⟨claims, hclaims⟩ := Results.exists_of_isOk haccepted
    have hbound := h ⟨"RS256", "k1"⟩ claims rfl hclaims
    simp [Bound, rustKey] at hbound
  · have hbound := h _ ⟨some "k1", some (.str "RS256")⟩ _ rfl rfl ⟨_, rfl⟩
    simp [Py.Bound, IdentityModel.Py.truthy] at hbound

end Samples

end IdentityModel.DeclaredAlg
