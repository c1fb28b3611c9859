import IdentityModel.RustFormGuards

/-!
# What becomes of a posted form

The second half of the Rust form clients: `do_request`, `introspect` and `revoke` from the request on,
over redirects, broken connections and bodies in chunks. A revocation says that it succeeded as soon as
it has the status, and only where it is the endpoint that answered.
-/
namespace IdentityModel.RustFormAnswers

open Exchanges
open RustForms (TokenClient ProtectedClient ProtectedClientBuilder)
open RustHttp (HttpUrl RedirectBlocked Secure)

variable {υ ρ : Type}

/-- The typed error of an OAuth endpoint. -/
structure OAuthErrorBody where
  error : String
  errorDescription : Option String := none
  errorUri : Option String := none
  deriving DecidableEq, Repr

/-- The members of `TokenResponse` that the client looks at. -/
structure TokenResponse where
  accessToken : String
  tokenType : String := ""
  issuedTokenType : Option String := none
  deriving DecidableEq, Repr

inductive IdentityError
  | tokenEndpoint (error : String) (description errorUri : Option String) (status : ℕ)
  | http (message : String)
  | deserialization (message : String)
  deriving DecidableEq, Repr

/-- What is not of this crate: URLs, with the part of one that policies look at, `serde_json`, and the
texts of `reqwest`. A URL is read back as it was written, and the part is what the parser finds. -/
structure Library (υ : Type) where
  set : Whatwg.Setting
  parseUrl : String → Option υ
  text : υ → String
  view : υ → HttpUrl
  stripUserinfo : υ → υ
  parse_text : ∀ u, parseUrl (text u) = some u
  parse_view : ∀ s u, parseUrl s = some u → HttpUrl.parse set s.toList = some (view u)
  oauthError : List UInt8 → Option OAuthErrorBody
  token : List UInt8 → Except String TokenResponse
  refusal : RedirectBlocked → String
  snippet : List UInt8 → String

/-- What the builders and the checks of the endpoint use of it. -/
def Library.forms (lib : Library υ) (debug : String → String) : RustForms.Library where
  debug := debug
  withoutUserinfo endpoint := (lib.parseUrl endpoint).map fun u => lib.text (lib.stripUserinfo u)

def isSuccess (status : ℕ) : Bool := 200 ≤ status && status < 300

/-- An answer that is no success: an OAuth error where its body is one. -/
def oauthOrHttp (lib : Library υ) (what endpoint : String) (status : ℕ) (body : List UInt8) :
    IdentityError :=
  let failed := IdentityError.http (what ++ " request to " ++ endpoint ++ " failed: HTTP " ++
    toString status ++ " with non-OAuth body: " ++ lib.snippet body)
  match lib.oauthError body with
  | some err =>
      if err.error ≠ "" then .tokenEndpoint err.error err.errorDescription err.errorUri status else failed
  | none => failed

/-- What an exchange has come to: `onHeaders` may settle it, `onBody` does. -/
def settle (lib : Library υ) (endpoint : String)
    (onHeaders : υ → ℕ → Option (Except IdentityError ρ))
    (onBody : ℕ → List UInt8 → Except IdentityError ρ)
    (before : Phase RedirectBlocked) (x : Exchange υ RedirectBlocked) : Option (Except IdentityError ρ) :=
  match x.phase with
  | .sent => none
  | .reading status _ => onHeaders x.url status
  | .received status body => some (onBody status body)
  | .refused why => some (.error (.http ("post " ++ endpoint ++ ": " ++ lib.refusal why)))
  | .oversized => some (.error (.http "response body exceeds 1048576 bytes"))
  | .broken err =>
      match before with
      | .sent => some (.error (.http ("post " ++ endpoint ++ ": " ++ err)))
      | _ => some (.error (.http ("read response body: " ++ err)))

/-- The answer of the token endpoint to any grant. -/
def tokenAnswer (lib : Library υ) (endpoint : String) (status : ℕ) (body : List UInt8) :
    Except IdentityError TokenResponse :=
  if isSuccess status = false then .error (oauthOrHttp lib "token" endpoint status body)
  else
    match lib.token body with
    | .error e => .error (.deserialization ("parse token response from " ++ endpoint ++ ": " ++ e))
    | .ok token =>
        if token.accessToken = "" then
          .error (.http ("token response from " ++ endpoint ++ " is missing access_token"))
        else .ok token

/-- What a token exchange asks of a token besides. -/
def exchangeAnswer (lib : Library υ) (endpoint : String) (status : ℕ) (body : List UInt8) :
    Except IdentityError TokenResponse :=
  match tokenAnswer lib endpoint status body with
  | .error e => .error e
  | .ok token =>
      if token.tokenType = "" then
        .error (.http ("token exchange response from " ++ endpoint ++ " is missing token_type"))
      else if ¬(token.issuedTokenType.any fun t => t ≠ "") then
        .error (.http ("token exchange response from " ++ endpoint ++ " is missing issued_token_type"))
      else .ok token

/-- The answer of the introspection endpoint, for any reading of its body. -/
def introspectionAnswer (lib : Library υ) (decode : List UInt8 → Except String ρ) (endpoint : String)
    (status : ℕ) (body : List UInt8) : Except IdentityError ρ :=
  if isSuccess status = false then .error (oauthOrHttp lib "introspection" endpoint status body)
  else
    match decode body with
    | .error e =>
        .error (.deserialization ("parse introspection response from " ++ endpoint ++ ": " ++ e))
    | .ok answer => .ok answer

/-- A revocation looks at the URL and at the status before it reads anything. -/
def revocationHeaders (lib : Library υ) (endpoint : String) (url : υ) (status : ℕ) :
    Option (Except IdentityError Unit) :=
  if lib.text url ≠ endpoint then
    some (.error (.http ("revocation request to " ++ endpoint ++ " was redirected to a different URL; " ++
      "refusing to treat the result as a revocation. The token travels in the request body, so a " ++
      "followed redirect either dropped it or replayed it to another host. Supply a client with a " ++
      "no-redirect policy (the default client already has one).")))
  else if isSuccess status then some (.ok ())
  else none

def revocationBody (lib : Library υ) (endpoint : String) (status : ℕ) (body : List UInt8) :
    Except IdentityError Unit := .error (oauthOrHttp lib "revocation" endpoint status body)

/-- The redirects of the client a caller supplies, or of the default one. -/
abbrev Redirects (υ : Type) := Policy υ RedirectBlocked

/-- A form that is posted with the redirects of some client, up to a result. -/
def posted (lib : Library υ) (redirects : Redirects υ) (endpoint : String)
    (onHeaders : υ → ℕ → Option (Except IdentityError ρ))
    (onBody : ℕ → List UInt8 → Except IdentityError ρ) (url : υ) (wires : List (Wire υ)) :
    Option (Except IdentityError ρ × Post υ RedirectBlocked) :=
  await redirects RustHttp.maxBodyBytes (settle lib endpoint onHeaders onBody) (.start url) wires

/-- `revoke`, from the request on. -/
def revoked (lib : Library υ) (redirects : Redirects υ) (endpoint : String) (url : υ)
    (wires : List (Wire υ)) : Option (Except IdentityError Unit × Post υ RedirectBlocked) :=
  posted lib redirects endpoint (revocationHeaders lib endpoint) (revocationBody lib endpoint) url wires

/-- `do_request` and `introspect` read the body in any case. -/
def answered (lib : Library υ) (redirects : Redirects υ) (endpoint : String)
    (onBody : ℕ → List UInt8 → Except IdentityError ρ) (url : υ) (wires : List (Wire υ)) :
    Option (Except IdentityError ρ × Post υ RedirectBlocked) :=
  posted lib redirects endpoint (fun _ _ => none) onBody url wires

section Results

variable {lib : Library υ} {endpoint : String} {redirects : Redirects υ} {url : υ}
  {wires : List (Wire υ)} {onBody : ℕ → List UInt8 → Except IdentityError ρ} {answer : ρ}
  {q : Post υ RedirectBlocked}

/-- A URL is known by its text. -/
theorem text_injective {u v : υ} (h : lib.text u = lib.text v) : u = v := by
  have hparse := lib.parse_text u
  rw [h, lib.parse_text v] at hparse
  exact (Option.some.inj hparse).symm

/-- Only a body that was received answers. -/
theorem settle_answered {before : Phase RedirectBlocked} {x : Exchange υ RedirectBlocked}
    (h : settle lib endpoint (fun _ _ => none) onBody before x = some (.ok answer)) :
    ∃ status body, x.phase = .received status body ∧ onBody status body = .ok answer := by
  unfold settle at h
  split at h
  · cases h
  · cases h
  · rename_i status body hphase
    exact ⟨status, body, hphase, Option.some.inj h⟩
  · cases h
  · cases h
  · split at h <;> cases h

/-- Only a status of success revokes, from the endpoint. -/
theorem settle_revoked {before : Phase RedirectBlocked} {x : Exchange υ RedirectBlocked}
    (h : settle lib endpoint (revocationHeaders lib endpoint) (revocationBody lib endpoint) before x =
      some (.ok ())) :
    lib.text x.url = endpoint ∧ ∃ status body, x.phase = .reading status body ∧ isSuccess status = true := by
  unfold settle at h
  split at h
  · cases h
  · rename_i status body hphase
    unfold revocationHeaders at h
    split at h
    · cases h
    · rename_i htext
      split at h
      · rename_i hsuccess
        exact ⟨not_not.mp htext, status, body, hphase, hsuccess⟩
      · cases h
  · cases h
  · cases h
  · cases h
  · split at h <;> cases h

/-- A revocation that succeeds ends at the endpoint. Either the endpoint was asked alone and had the form,
or a redirect led back to it. -/
theorem revoked_ok (hurl : lib.text url = endpoint)
    (h : revoked lib redirects endpoint url wires = some (.ok (), q)) :
    q.exchange.url = url ∧
      (q.exchange.previous = [] ∧ q.delivered = [url] ∨ url ∈ q.exchange.previous) := by
  have hcarried : Carried url q :=
    await_invariant (fun p w m hp hstep => Carried.step hp hstep) (carried_start url) h
  obtain ⟨-, -, -, m, -, -, -, hsettle⟩ := await_run h
  have hlast : q.exchange.url = url := text_injective ((settle_revoked hsettle).1.trans hurl.symm)
  refine ⟨hlast, ?_⟩
  obtain ⟨⟨previous, last, phase⟩, delivered, carrying⟩ := q
  obtain rfl : last = url := hlast
  obtain ⟨hbegins, hfront, -⟩ := hcarried
  cases previous with
  | nil =>
      left
      refine ⟨rfl, ?_⟩
      obtain ⟨rest, hrest⟩ := hfront
      cases delivered with
      | nil => cases hbegins
      | cons u delivered =>
          obtain rfl := Option.some.inj hbegins
          have htail : delivered ++ rest = [] := (List.cons.inj hrest).2
          rw [(List.append_eq_nil_iff.mp htail).1]
  | cons first previous =>
      right
      obtain ⟨rest, hrest⟩ := hfront
      cases delivered with
      | nil => cases hbegins
      | cons u delivered =>
          obtain rfl := Option.some.inj hbegins
          exact (List.cons.inj hrest).1 ▸ List.mem_cons_self

/-- What really comes over the wire: a redirect has a status of redirects. -/
def Real : Wire υ → Prop
  | .redirect status _ => isRedirect status = true
  | _ => True

theorem not_success_of_redirect {status : ℕ} (h : isRedirect status = true) : isSuccess status = false := by
  simp only [isRedirect, List.mem_cons, List.not_mem_nil, or_false, decide_eq_true_eq] at h
  obtain rfl | rfl | rfl | rfl | rfl := h <;> rfl

/-- The default client succeeds just where the endpoint itself answers with a success, whatever follows. -/
theorem revoked_default_iff (hurl : lib.text url = endpoint) (hreal : ∀ w ∈ wires, Real w) :
    (∃ q, revoked lib (RustHttp.noRedirectPolicy.on lib.view) endpoint url wires = some (.ok (), q)) ↔
      ∃ status rest, wires = .headers status :: rest ∧ isSuccess status = true := by
  constructor
  · rintro ⟨q, h⟩
    obtain ⟨before, last, after, m, rfl, hexec, hlast, hsettle⟩ := await_run h
    obtain ⟨-, status, body, hphase, hsuccess⟩ := settle_revoked hsettle
    have hrun : run (RustHttp.noRedirectPolicy.on lib.view) RustHttp.maxBodyBytes (.start url)
        (before ++ [last]) = some q.exchange := by
      have hboth := exec_snoc hexec hlast
      exact exec_exchange hboth
    obtain ⟨w, rest, hw⟩ : ∃ w rest, before ++ [last] = w :: rest :=
      List.exists_cons_of_ne_nil (by simp)
    have hwires : before ++ last :: after = w :: (rest ++ after) := by
      rw [← List.cons_append, ← hw, List.append_assoc]
      rfl
    rw [hw] at hrun
    obtain ⟨x, hx, hrest⟩ := Runs.exec_cons_eq_some.mp hrun
    rw [hwires] at hreal ⊢
    cases advance_cases hx with
    | headers first =>
        obtain ⟨rfl, -⟩ := received_bytes rfl hrest (.inr hphase)
        exact ⟨_, _, rfl, hsuccess⟩
    | stopped first target hp =>
        obtain ⟨rfl, -⟩ := received_bytes rfl hrest (.inr hphase)
        have hredirect := hreal _ List.mem_cons_self
        rw [not_success_of_redirect hredirect] at hsuccess
        cases hsuccess
    | broken err =>
        obtain ⟨-, hend⟩ := eq_of_ended (fun w => by cases w <;> rfl) hrest
        rw [hend] at hphase
        cases hphase
    | followed first target hp => cases hp
    | refused first target why hp => cases hp
    | kept first body bytes hreading hle => cases hreading
    | oversized first body bytes hreading hlt => cases hreading
    | finished first body hreading => cases hreading
  · rintro ⟨status, rest, rfl, hsuccess⟩
    have hsettle : settle lib endpoint (revocationHeaders lib endpoint) (revocationBody lib endpoint) .sent
        ((Exchange.start url).enter (.reading status [])) = some (.ok ()) := by
      simp [settle, revocationHeaders, Exchange.enter, Exchange.start, hurl, hsuccess]
    have hstep : (Post.start url).advance (RustHttp.noRedirectPolicy.on lib.view) RustHttp.maxBodyBytes
        (.headers status) = some ⟨(Exchange.start url).enter (.reading status []), [url], true⟩ := rfl
    exact ⟨_, await_cons.mpr ⟨_, hstep, .inl ⟨hsettle, rfl⟩⟩⟩

/-- The endpoint of a client that was built reads as its URL does. -/
theorem text_of_built {debug : String → String} {b : ProtectedClientBuilder} {client : ProtectedClient}
    (hbuild : RustForms.buildRevocation (lib.forms debug) b = .ok client)
    (hparse : lib.parseUrl client.endpoint = some url) : lib.text url = client.endpoint := by
  unfold RustForms.buildRevocation ProtectedClientBuilder.buildWith at hbuild
  dsimp only at hbuild
  split at hbuild
  · cases hbuild
  · split at hbuild
    · cases hbuild
    · split at hbuild
      · cases hbuild
      · cases hbuild
        dsimp only [Library.forms] at hparse ⊢
        cases hgiven : lib.parseUrl (b.endpoint.getD "") with
        | none =>
            rw [hgiven] at hparse
            rw [Option.map_none, Option.getD_none, hgiven] at hparse
            cases hparse
        | some u =>
            rw [hgiven, Option.map_some, Option.getD_some, lib.parse_text] at hparse
            rw [Option.map_some, Option.getD_some, Option.some.inj hparse]

/-- A revocation succeeds only at its own endpoint, and with the default client just where the endpoint
itself, asked alone with the form, answers with a success. -/
theorem revocation_answered (lib : Library υ) (debug : String → String) (b : ProtectedClientBuilder)
    (client : ProtectedClient) (url : υ) (wires : List (Wire υ))
    (hbuild : RustForms.buildRevocation (lib.forms debug) b = .ok client)
    (hparse : lib.parseUrl client.endpoint = some url) (hreal : ∀ w ∈ wires, Real w) :
    (∀ redirects q, revoked lib redirects client.endpoint url wires = some (.ok (), q) →
      q.exchange.url = url ∧
        (q.exchange.previous = [] ∧ q.delivered = [url] ∨ url ∈ q.exchange.previous)) ∧
    (∀ result q, revoked lib (RustHttp.noRedirectPolicy.on lib.view) client.endpoint url wires =
      some (result, q) → q.exchange.asked = [url] ∧ q.delivered = [url]) ∧
    ((∃ q, revoked lib (RustHttp.noRedirectPolicy.on lib.view) client.endpoint url wires =
      some (.ok (), q)) ↔ ∃ status rest, wires = .headers status :: rest ∧ isSuccess status = true) := by
  have hurl := text_of_built hbuild hparse
  refine ⟨fun redirects q h => revoked_ok hurl h, ?_, revoked_default_iff hurl hreal⟩
  intro result q h
  obtain ⟨hcarried, hsound⟩ := await_sound Nat.one_pos
    ((RustHttp.noRedirect_respects fun _ _ => True).on lib.view)
    ((RustHttp.noRedirect_limited 1).on lib.view) h
  have hasked : q.exchange.asked = [url] := by
    obtain ⟨rest, hrest⟩ := List.head?_eq_some_iff.mp hsound.begins
    have hlimited := hsound.limited
    rw [hrest, List.length_cons] at hlimited
    have hnil : rest = [] := List.length_eq_zero_iff.mp (by omega)
    rw [hrest, hnil]
  refine ⟨hasked, ?_⟩
  obtain ⟨rest, hrest⟩ := hcarried.front
  obtain ⟨tail, htail⟩ := List.head?_eq_some_iff.mp hcarried.begins
  rw [hasked, htail] at hrest
  rw [htail, (List.append_eq_nil_iff.mp (List.cons.inj hrest).2).1]

/-- What came over the wire: after redirects the headers of an answer, with its whole body. -/
structure Whole (wires : List (Wire υ)) (status : ℕ) (body : List UInt8) : Prop where
  came : ∃ hops chunks after, wires = hops ++ Wire.headers status :: chunks ++ Wire.finished :: after ∧
    (∀ w ∈ hops, w.isHop = true) ∧ body = chunks.flatMap Wire.bytes
  bounded : body.length ≤ RustHttp.maxBodyBytes

/-- Where the form of a token request or of an introspection went, and what its answer is. -/
structure Answered (lib : Library υ) (allowHttp : Bool)
    (onBody : ℕ → List UInt8 → Except IdentityError ρ) (url : υ) (wires : List (Wire υ))
    (result : Except IdentityError ρ) (q : Post υ RedirectBlocked) : Prop where
  limited : q.exchange.asked.length ≤ RustHttp.maxRedirects
  begins : allowHttp = false → Secure (lib.view url)
  secure : Secure (lib.view url) → ∀ u ∈ q.exchange.asked, Secure (lib.view u)
  delivered : q.delivered <+: q.exchange.asked
  whole : ∀ answer, result = .ok answer →
    ∃ status body, Whole wires status body ∧ onBody status body = .ok answer

theorem form_answered {allowHttp : Bool} {result : Except IdentityError ρ}
    (hscheme : RustHttp.schemeOk allowHttp endpoint.toList = true) (hparse : lib.parseUrl endpoint = some url)
    (h : answered lib (RustHttp.noDowngradePolicy.on lib.view) endpoint onBody url wires =
      some (result, q)) : Answered lib allowHttp onBody url wires result q := by
  obtain ⟨hcarried, hsound⟩ := await_sound (by decide) (RustHttp.noDowngrade_respects.on lib.view)
    (RustHttp.noDowngrade_limited.on lib.view) h
  refine ⟨hsound.limited, ?_, forall_asked hsound, hcarried.front, ?_⟩
  · rintro rfl
    exact RustHttp.https_of_schemeOk hscheme (lib.parse_view endpoint url hparse)
  · rintro answer rfl
    obtain ⟨before, last, after, m, rfl, hexec, hlast, hsettle⟩ := await_run h
    obtain ⟨status, body, hphase, hanswer⟩ := settle_answered hsettle
    obtain ⟨hreading, -⟩ := reading_of_received (m.advance_exchange hlast) hphase
    obtain ⟨hops, chunks, rfl, hhops, hbody⟩ :=
      headers_of_reading (RustHttp.noDowngrade_decides.on lib.view) rfl (exec_exchange hexec) hreading
    obtain rfl := finished_of_received (m.advance_exchange hlast) hphase
    refine ⟨status, body, ⟨⟨hops, chunks, after, rfl, hhops, hbody⟩, ?_⟩, hanswer⟩
    have hbounded := hsound.bounded
    rwa [Exchange.held, hphase] at hbounded

theorem tokenAnswer_ok {status : ℕ} {body : List UInt8} {token : TokenResponse}
    (h : tokenAnswer lib endpoint status body = .ok token) :
    isSuccess status = true ∧ lib.token body = .ok token ∧ token.accessToken ≠ "" := by
  unfold tokenAnswer at h
  split at h
  · cases h
  · rename_i hsuccess
    cases hdecoded : lib.token body with
    | error e =>
        rw [hdecoded] at h
        cases h
    | ok decoded =>
        rw [hdecoded] at h
        dsimp only at h
        split at h
        · cases h
        · rename_i hne
          obtain rfl := Except.ok.inj h
          exact ⟨by simpa using hsuccess, rfl, hne⟩

theorem exchangeAnswer_ok {status : ℕ} {body : List UInt8} {token : TokenResponse}
    (h : exchangeAnswer lib endpoint status body = .ok token) :
    tokenAnswer lib endpoint status body = .ok token ∧ token.tokenType ≠ "" ∧
      ∃ issued ∈ token.issuedTokenType, issued ≠ "" := by
  unfold exchangeAnswer at h
  cases hanswer : tokenAnswer lib endpoint status body with
  | error e =>
      rw [hanswer] at h
      cases h
  | ok decoded =>
      rw [hanswer] at h
      dsimp only at h
      split_ifs at h with htype hissued
      obtain rfl := Except.ok.inj h
      refine ⟨rfl, htype, ?_⟩
      simpa [Option.any_eq_true] using hissued

/-- The answer of a grant. -/
def grantAnswer (lib : Library υ) (exchange : Bool) (endpoint : String) :
    ℕ → List UInt8 → Except IdentityError TokenResponse :=
  if exchange then exchangeAnswer lib endpoint else tokenAnswer lib endpoint

/-- The default token client never leaves TLS with a form, follows no more hops than the limit, and
answers with a token only from the whole body that came with the headers of a success; an exchange
names both types besides. -/
theorem grant_answered (lib : Library υ) (client : TokenClient) (exchange : Bool) (url : υ)
    (wires : List (Wire υ)) (result : Except IdentityError TokenResponse) (q : Post υ RedirectBlocked)
    (hscheme : RustHttp.schemeOk client.allowHttp client.tokenEndpoint.toList = true)
    (hparse : lib.parseUrl client.tokenEndpoint = some url)
    (h : answered lib (RustHttp.noDowngradePolicy.on lib.view) client.tokenEndpoint
      (grantAnswer lib exchange client.tokenEndpoint) url wires = some (result, q)) :
    Answered lib client.allowHttp (grantAnswer lib exchange client.tokenEndpoint) url wires result q ∧
      ∀ token, result = .ok token → token.accessToken ≠ "" ∧ (∃ status body,
        Whole wires status body ∧ isSuccess status = true ∧ lib.token body = .ok token) ∧
        (exchange = true → token.tokenType ≠ "" ∧ ∃ issued ∈ token.issuedTokenType, issued ≠ "") := by
  have hanswered := form_answered hscheme hparse h
  refine ⟨hanswered, ?_⟩
  intro token hok
  obtain ⟨status, body, hwhole, hanswer⟩ := hanswered.whole token hok
  cases exchange with
  | false =>
      obtain ⟨hsuccess, hdecoded, hne⟩ := tokenAnswer_ok hanswer
      exact ⟨hne, ⟨status, body, hwhole, hsuccess, hdecoded⟩, fun hex => by cases hex⟩
  | true =>
      obtain ⟨htoken, hboth⟩ := exchangeAnswer_ok hanswer
      obtain ⟨hsuccess, hdecoded, hne⟩ := tokenAnswer_ok htoken
      exact ⟨hne, ⟨status, body, hwhole, hsuccess, hdecoded⟩, fun _ => hboth⟩

/-- The one URL of the sample server. -/
def sampleUrl : HttpUrl := ⟨⟨RustHttp.https, ['i', 'd', 'p'], none, [['t']]⟩, .inr rfl⟩

theorem parse_sampleUrl : HttpUrl.parse RustHttp.oneHost "https://idp/t".toList = some sampleUrl := by
  decide +kernel

/-- It is the only URL there is, and the body `[1, 2]` is a token. -/
def sampleLibrary : Library Unit where
  set := RustHttp.oneHost
  parseUrl s := if s = "https://idp/t" then some () else none
  text _ := "https://idp/t"
  view _ := sampleUrl
  stripUserinfo u := u
  parse_text _ := if_pos rfl
  parse_view := by
    intro s u hs
    obtain ⟨rfl, -⟩ := Option.ite_none_right_eq_some.mp hs
    exact parse_sampleUrl
  oauthError _ := none
  token body := if body = [1, 2] then .ok ⟨"at", "Bearer", some "urn:t"⟩ else .error "expected value"
  refusal _ := "error following redirect"
  snippet _ := ""

def sampleClient : TokenClient := { RustForms.sampleClient with tokenEndpoint := "https://idp/t" }

def sampleToken : TokenResponse := ⟨"at", "Bearer", some "urn:t"⟩

/-- The answer after a hop that repeats the form. -/
def samplePost : Post Unit RedirectBlocked := ⟨⟨[()], (), .received 200 [1, 2]⟩, [(), ()], true⟩

/-- A redirect that repeats the form, and a token in two chunks. -/
def sampleWires : List (Wire Unit) :=
  [.redirect 307 (), .headers 200, .chunk [1], .chunk [2], .finished]

theorem grant_answered_sample :
    Answered sampleLibrary false (grantAnswer sampleLibrary true "https://idp/t") () sampleWires
        (.ok sampleToken) samplePost ∧
      ∃ status body, Whole sampleWires status body ∧ isSuccess status = true ∧
        sampleLibrary.token body = .ok sampleToken := by
  obtain ⟨hanswered, htoken⟩ := grant_answered sampleLibrary sampleClient true () sampleWires
    (.ok sampleToken) samplePost (by decide) rfl rfl
  exact ⟨hanswered, (htoken sampleToken rfl).2.1⟩

def sampleBuilder : ProtectedClientBuilder where
  endpoint := some "https://idp/t"
  clientId := some "c"
  clientSecret := some "s"

def sampleRevoker : ProtectedClient := { RustForms.sampleRevoker with endpoint := "https://idp/t", extraParams := ∅ }

/-- A redirect that leads back to the endpoint makes a success of a request without the form. -/
def roundWires : List (Wire Unit) := [.redirect 302 (), .headers 200]

example : ∃ q, revoked sampleLibrary (RustHttp.noDowngradePolicy.on sampleLibrary.view) "https://idp/t" ()
    roundWires = some (.ok (), q) ∧ q.carrying = false :=
  ⟨⟨⟨[()], (), .reading 200 []⟩, [()], false⟩, rfl, rfl⟩

theorem revocation_answered_sample :
    ∃ q, revoked sampleLibrary (RustHttp.noRedirectPolicy.on sampleLibrary.view) "https://idp/t" ()
      [.headers 204, .failed "reset"] = some (.ok (), q) := by
  have h := revocation_answered sampleLibrary id sampleBuilder sampleRevoker ()
    [.headers 204, .failed "reset"] rfl rfl (by simp [Real])
  exact h.2.2.mpr ⟨204, [.failed "reset"], rfl, rfl⟩

end Results

end IdentityModel.RustFormAnswers
