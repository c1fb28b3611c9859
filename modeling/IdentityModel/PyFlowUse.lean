import IdentityModel.PyLogin
import IdentityModel.PyRaised

/-!
# A flow entry is used once, unless a callback breaks

`_callback` takes the flow entry out of the session before it looks at it, so that a callback that
fails cannot be tried again. The session middleware writes the session back when the route returns
or raises an `HTTPException`, and not when another exception escapes. The first part finds, for
each step of a callback, the inputs at which it raises such an exception; the second what is left
of the entry.
-/
namespace IdentityModel.Py.Rp

open Runs Tasks Url

namespace Handler

variable {α β : Type} {x : Handler α} {f : α → Handler β}

/-- The part ends in an exception that is no `HTTPException`. -/
def Raises (x : Handler α) : Prop := ∃ m, x.result = .error (.raised m)

/-- The part comes to its end with this value. -/
def Returns (x : Handler α) (a : α) : Prop := x.result = .ok a

theorem bind_raises : (x >>= f).Raises ↔ x.Raises ∨ ∃ a, x.Returns a ∧ (f a).Raises := by
  obtain ⟨result, sent⟩ := x
  cases result with
  | error e => simp [Raises, Returns, Bind.bind, andThen]
  | ok a => simp [Raises, Returns, Bind.bind, andThen]

theorem bind_returns {b : β} : (x >>= f).Returns b ↔ ∃ a, x.Returns a ∧ (f a).Returns b := by
  obtain ⟨result, sent⟩ := x
  cases result with
  | error e => simp [Returns, Bind.bind, andThen]
  | ok a => simp [Returns, Bind.bind, andThen]

/-- What is asked for after a part that comes to its end. -/
theorem mem_bind_sent {a : α} {s : Sent} (hx : x.Returns a) (hs : s ∈ (f a).sent) :
    s ∈ (x >>= f).sent := by
  obtain ⟨result, sent⟩ := x
  cases hx
  exact List.mem_append_right _ hs

theorem mem_bind_sent_left {s : Sent} (hs : s ∈ x.sent) : s ∈ (x >>= f).sent := by
  obtain ⟨result, sent⟩ := x
  cases result with
  | error e => exact hs
  | ok a => exact List.mem_append_left _ hs

@[simp] theorem pure_raises {a : α} : ¬ (pure a : Handler α).Raises := by
  simp [Raises, Pure.pure, ok]

@[simp] theorem pure_returns {a b : α} : (pure a : Handler α).Returns b ↔ a = b := by
  simp [Returns, Pure.pure, ok]

@[simp] theorem ok_raises {a : α} : ¬ (ok a).Raises := pure_raises

@[simp] theorem ok_returns {a b : α} : (ok a).Returns b ↔ a = b := pure_returns

@[simp] theorem fail_raises {e : Failure} : (fail e : Handler α).Raises ↔ ∃ m, e = .raised m := by
  simp [Raises, fail]

@[simp] theorem fail_returns {e : Failure} {a : α} : ¬ (fail e : Handler α).Returns a := by
  simp [Returns, fail]

@[simp] theorem send_raises {s : Sent} : ¬ (send s).Raises := by
  simp [Raises, send]

@[simp] theorem send_returns {s : Sent} {u : Unit} : (send s).Returns u := rfl

@[simp] theorem require_raises {c : Bool} {status : ℕ} {detail : String} :
    ¬ (require c status detail).Raises := by
  cases c <;> simp [require]

@[simp] theorem require_returns {c : Bool} {status : ℕ} {detail : String} {u : Unit} :
    (require c status detail).Returns u ↔ c = true := by
  cases c <;> simp [require]

end Handler

section Parts

variable {host : Host} {rp : Router}

/-- The entry of a login. -/
def IsFlow (flow : Json) : Prop :=
  ∃ ms, flow = .obj ms ∧ ∀ name ∈ flowMembers, ∃ m ∈ ms, m.1 = name

/-- The value is no `dict`. -/
def NoDict (j : Json) : Prop := ∀ ms, j ≠ .obj ms

theorem readFlow_returns {flow : Json} {u : Unit} : (readFlow flow).Returns u ↔ IsFlow flow := by
  unfold readFlow
  constructor
  · intro h
    split at h
    · exact absurd h Handler.fail_returns
    · split at h
      · rename_i ms _
        refine ⟨ms, rfl, ?_⟩
        simpa using Handler.require_returns.mp h
      · exact absurd h Handler.fail_returns
  · rintro ⟨ms, rfl, hms⟩
    have htruthy : isTruthy (.obj ms) = true := by
      obtain ⟨m, hm, -⟩ := hms "state" (by decide)
      cases ms with
      | nil => cases hm
      | cons m ms => rfl
    simpa [htruthy] using hms

theorem readFlow_raises {flow : Json} :
    (readFlow flow).Raises ↔ isTruthy flow = true ∧ NoDict flow := by
  unfold readFlow NoDict
  by_cases htruthy : isTruthy flow = true
  · cases flow <;> simp_all [noAttribute]
  · simp [htruthy]

theorem readCallback_returns {url : String} {cb : AuthorizeCallbackResponse} :
    (readCallback host url).Returns cb ↔
      parseAuthorizeCallbackResponse host.interpreter.platform host.decimal url = .ok cb := by
  unfold readCallback
  split
  · rename_i cb' hcb
    simp [hcb]
  · rename_i m hm
    simp [hm]
  · rename_i m hm
    simp [hm]

theorem readCallback_raises {url : String} :
    (readCallback host url).Raises ↔ ∃ m,
      parseAuthorizeCallbackResponse host.interpreter.platform host.decimal url =
        .error (.value m) := by
  unfold readCallback
  split
  · rename_i cb' hcb
    simp [hcb]
  · rename_i m hm
    simp [hm]
  · rename_i m hm
    simp [hm]

/-- The states are there, and `compare_digest` refuses to compare them. -/
def NotComparable (expected : Json) (received : Option String) : Prop :=
  ∃ s t, expected = .str s ∧ received = some t ∧ s ≠ "" ∧ t ≠ "" ∧
    ¬ (t.toList.all isAscii = true ∧ s.toList.all isAscii = true)

/-- The states are the same, and can be compared. -/
def SameState (expected : Json) (received : Option String) : Prop :=
  ∃ s, expected = .str s ∧ received = some s ∧ s ≠ "" ∧ s.toList.all isAscii = true

section State

variable {cb : AuthorizeCallbackResponse} {expected : Json} (h : cb.isSuccessful = true)
include h

variable (expected) in
/-- The state check by what it compares. -/
theorem validateState_cases :
    (∃ m, validateAuthorizeCallbackState cb expected = .error m) ∧ NotComparable expected cb.state ∨
    (∃ r, validateAuthorizeCallbackState cb expected = .ok r ∧ r.isValid = true) ∧
      SameState expected cb.state ∨
    (∃ r, validateAuthorizeCallbackState cb expected = .ok r ∧ r.isValid = false) ∧
      ¬ NotComparable expected cb.state ∧ ¬ SameState expected cb.state := by
  have hnone {s : Option String} (hs : s.filter (fun s => s ≠ "") = none) {t : String}
      (ht : s = some t) : t = "" := by
    subst ht
    simpa using hs
  simp only [validateAuthorizeCallbackState, h, Bool.not_true, Bool.false_eq_true, if_false]
  split
  · rename_i hmissing
    refine .inr (.inr ⟨⟨_, rfl, rfl⟩, ?_, ?_⟩)
    · rintro ⟨s, t, rfl, -, hs, -⟩
      exact hs (hnone hmissing rfl)
    · rintro ⟨s, rfl, -, hs, -⟩
      exact hs (hnone hmissing rfl)
  · rename_i s hs
    obtain ⟨hstr, hne⟩ := Option.filter_eq_some_iff.mp hs
    obtain rfl := Json.str?_eq_some hstr
    split
    · rename_i hmissing
      refine .inr (.inr ⟨⟨_, rfl, rfl⟩, ?_, ?_⟩)
      · rintro ⟨_, t, -, ht, -, hne', -⟩
        exact hne' (hnone hmissing ht)
      · rintro ⟨t, -, ht, hne', -⟩
        exact hne' (hnone hmissing ht)
    · rename_i t ht
      obtain ⟨hstate, hne'⟩ := Option.filter_eq_some_iff.mp ht
      have hs' : s ≠ "" := by simpa using hne
      have ht' : t ≠ "" := by simpa using hne'
      rw [hstate]
      by_cases hascii : t.toList.all isAscii = true ∧ s.toList.all isAscii = true
      · have hcompare : compareDigest t s = .ok (decide (t = s)) := by
          simp [compareDigest, hascii]
        rw [hcompare]
        by_cases heq : t = s
        · subst heq
          simp only [decide_true]
          exact .inr (.inl ⟨⟨_, rfl, rfl⟩, t, rfl, rfl, hs', hascii.1⟩)
        · simp only [heq, decide_false]
          refine .inr (.inr ⟨⟨_, rfl, rfl⟩, ?_, ?_⟩)
          · rintro ⟨_, _, hs₁, ht₁, -, -, hnot⟩
            cases hs₁
            cases ht₁
            exact hnot hascii
          · rintro ⟨_, hs₁, ht₁, -⟩
            cases hs₁
            cases ht₁
            exact heq rfl
      · have hcompare : compareDigest t s =
            .error "comparing strings with non-ASCII characters is not supported" := by
          rw [compareDigest, if_neg (by simpa using hascii)]
        rw [hcompare]
        exact .inl ⟨⟨_, rfl⟩, s, t, rfl, rfl, hs', ht', hascii⟩

theorem checkState_returns {u : Unit} :
    (checkState cb expected).Returns u ↔ SameState expected cb.state := by
  unfold checkState
  obtain ⟨⟨m, hm⟩, hnot⟩ | ⟨⟨r, hr, hvalid⟩, hsame⟩ | ⟨⟨r, hr, hvalid⟩, -, hdiffer⟩ :=
    validateState_cases expected h
  · rw [hm]
    obtain ⟨s, t, rfl, ht, -, -, hnot⟩ := hnot
    rw [ht]
    constructor
    · intro hreturns
      exact absurd hreturns Handler.fail_returns
    · rintro ⟨_, hs₁, ht₁, -, hascii⟩
      cases hs₁
      cases ht₁
      exact absurd ⟨hascii, hascii⟩ hnot
  · simp [hr, hvalid, hsame]
  · simp [hr, hvalid, hdiffer]

theorem checkState_raises :
    (checkState cb expected).Raises ↔ NotComparable expected cb.state := by
  unfold checkState
  obtain ⟨⟨m, hm⟩, hnot⟩ | ⟨⟨r, hr, -⟩, s, hs, ht, -, hascii⟩ | ⟨⟨r, hr, -⟩, hnot, -⟩ :=
    validateState_cases expected h
  · simp [hm, hnot]
  · rw [hr]
    refine ⟨fun hraises => absurd hraises Handler.require_raises, ?_⟩
    rintro ⟨_, _, hs₁, ht₁, -, -, hnot⟩
    cases hs.symm.trans hs₁
    cases ht.symm.trans ht₁
    exact absurd ⟨hascii, hascii⟩ hnot
  · simp [hr, hnot]

end State

theorem requireCode_returns {cb : AuthorizeCallbackResponse} {code : String} :
    (requireCode cb).Returns code ↔ cb.code = some code := by
  unfold requireCode
  cases cb.code <;> simp

theorem requireCode_raises {cb : AuthorizeCallbackResponse} : ¬ (requireCode cb).Raises := by
  unfold requireCode
  cases cb.code <;> simp

/-- A document the router goes by names its issuer. -/
theorem discovered_issuer {answer : HttpAnswer}
    (h : (getDiscoveryDocument host.interpreter rp.settings.discoveryUrl {} answer).isSuccessful =
      true) :
    ∃ s, (getDiscoveryDocument host.interpreter rp.settings.discoveryUrl {} answer).get "issuer" =
      .str s ∧ s ≠ "" := by
  obtain ⟨r, doc, -, -, -, -, hdoc, hresult⟩ := getDiscoveryDocument_checked h
  have hchecked := validateAndParse_checked hdoc
  have hissuer := hchecked.issuer
  have htruthy := hchecked.issuer_truthy
  have hget : (getDiscoveryDocument host.interpreter rp.settings.discoveryUrl {} answer).get
      "issuer" = doc.get "issuer" := by
    rw [hresult, DiscoveryResult.get, buildDiscoveryResponse_lookup (by decide), Option.getD_some]
  rw [hget]
  have hparsed : ∃ parsed, urlparseValue host.interpreter (doc.get "issuer") = .ok parsed := by
    cases hparse : urlparseValue host.interpreter (doc.get "issuer") with
    | ok parsed => exact ⟨parsed, rfl⟩
    | error e => simp [validateIssuerWithPolicy, hparse] at hissuer
  obtain ⟨parsed, hparsed⟩ := hparsed
  cases hdocIssuer : doc.get "issuer" with
  | str s =>
      rw [hdocIssuer] at htruthy
      exact ⟨s, rfl, by simpa [isTruthy] using htruthy⟩
  | _ =>
      rw [hdocIssuer] at htruthy hparsed
      simp [urlparseValue, htruthy] at hparsed

theorem discover_raises {answer : HttpAnswer} : ¬ (discover host rp answer).Raises := by
  unfold discover
  simp only [Handler.bind_raises, Handler.send_raises, Handler.require_raises,
    Handler.pure_raises, Handler.require_returns, false_or, and_false, exists_false, or_false]
  rintro ⟨_, -, _, hsuccessful, hraises⟩
  obtain ⟨s, hs, -⟩ := discovered_issuer hsuccessful
  rw [hs] at hraises
  unfold strippedIssuer at hraises
  split at hraises
  · exact Handler.ok_raises hraises
  · exact Handler.ok_raises hraises

theorem discover_returns {answer : HttpAnswer} {disco : DiscoveryResult} :
    (discover host rp answer).Returns disco ↔ Discovered host rp answer disco := by
  constructor
  · intro h
    have heq : discover host rp answer = ⟨.ok disco, (discover host rp answer).sent⟩ := by
      rw [← show (discover host rp answer).result = .ok disco from h]
    exact (discover_ok heq).2
  · rintro ⟨rfl, hsuccessful, hissuer⟩
    obtain ⟨s, hs, hne⟩ := discovered_issuer hsuccessful
    have htruthy : isTruthy (.str s) = true := by simpa [isTruthy] using hne
    obtain ⟨s', hs', hexpected⟩ := hissuer (by rw [hs]; exact htruthy)
    cases hs.symm.trans hs'
    unfold discover
    simp only [Handler.bind_returns, Handler.send_returns, Handler.require_returns,
      Handler.pure_returns, hs, strippedIssuer, htruthy, Bool.not_true, Bool.false_eq_true,
      if_false, Handler.ok_returns]
    exact ⟨(), trivial, (), hsuccessful, _, rfl, (), by simpa using hexpected, trivial⟩

theorem requireEndpoint_returns {value v : Json} {name : String} :
    (requireEndpoint value name).Returns v ↔ isTruthy value = true ∧ value = v := by
  simp [requireEndpoint, Handler.bind_returns]

theorem requireEndpoint_raises {value : Json} {name : String} :
    ¬ (requireEndpoint value name).Raises := by
  simp [requireEndpoint, Handler.bind_raises]

/-- The answer to a code: a token endpoint is known, and it answered with success. -/
def Answered (disco : DiscoveryResult) (answer : TokenResponse) : Prop :=
  isTruthy (disco.get "token_endpoint") = true ∧ answer.isSuccessful = true

theorem exchangeCode_returns {disco : DiscoveryResult} {code : String} {codeVerifier token : Json}
    {answer : TokenResponse} :
    (exchangeCode rp disco code codeVerifier answer).Returns token ↔
      Answered disco answer ∧ isTruthy answer.token = true ∧ answer.token = token := by
  simp only [exchangeCode, Handler.bind_returns, requireEndpoint_returns, Handler.send_returns,
    true_and, Answered]
  cases answer.isSuccessful <;> cases isTruthy answer.token <;> simp

theorem exchangeCode_raises {disco : DiscoveryResult} {code : String} {codeVerifier : Json}
    {answer : TokenResponse} :
    (exchangeCode rp disco code codeVerifier answer).Raises ↔
      Answered disco answer ∧ isTruthy answer.token = false := by
  simp only [exchangeCode, Handler.bind_raises, requireEndpoint_raises, requireEndpoint_returns,
    Handler.send_raises, Handler.send_returns, true_and, false_or, Answered]
  cases answer.isSuccessful <;> cases isTruthy answer.token <;> simp

theorem dictGet_returns {j v : Json} {name : String} :
    (dictGet j name).Returns v ↔ ¬ NoDict j ∧ j.get name = v := by
  cases j <;> simp [dictGet, NoDict]

theorem dictGet_raises {j : Json} {name : String} : (dictGet j name).Raises ↔ NoDict j := by
  cases j <;> simp [dictGet, NoDict, noAttribute]

theorem rejected_raised {e : PyError} : (∃ m, rejected e = .raised m) ↔ e.isLibrary = false := by
  unfold rejected
  cases e.isLibrary <;> simp

/-- `validate_token` lets an exception through that is not the library's. -/
def Unhandled (idToken : Json) (answers : Answers) : Prop :=
  match idToken with
  | .str _ => ∃ e, answers.validation = .error e ∧ e.isLibrary = false
  | _ => answers.notAString.isLibrary = false

theorem validated_raises {idToken : Json} {config : TokenValidationConfig} {answers : Answers} :
    (validated rp idToken config answers).Raises ↔ Unhandled idToken answers := by
  unfold validated Unhandled
  cases idToken with
  | str jwt =>
      simp only [Handler.bind_raises, Handler.send_raises, Handler.send_returns, false_or]
      cases answers.validation <;> simp [rejected_raised]
  | _ => simp [rejected_raised]

theorem validated_returns {idToken : Json} {config : TokenValidationConfig} {answers : Answers}
    {claims : Claims} :
    (validated rp idToken config answers).Returns claims ↔
      (∃ jwt, idToken = .str jwt) ∧ answers.validation = .ok claims := by
  unfold validated
  cases idToken with
  | str jwt =>
      simp only [Handler.bind_returns, Handler.send_returns]
      cases answers.validation <;> simp
  | _ => simp

section IdToken

variable {answer : HttpAnswer} {disco : DiscoveryResult} {idToken expectedNonce : Json}
  {answers : Answers} (h : Discovered host rp answer disco)
include h

variable (idToken expectedNonce answers) in
/-- The settings of the issuer of a document. -/
theorem validateIdToken_eq :
    ∃ issuer, disco.get "issuer" = .str issuer ∧
      validateIdToken rp disco idToken expectedNonce answers = (do
        let claims ← validated rp idToken (rp.idTokenConfig (.one issuer)) answers
        Handler.require (pyEq (claimOf claims "nonce") expectedNonce) 401 "Nonce mismatch"
        return claims) := by
  obtain ⟨rfl, hsuccessful, -⟩ := h
  obtain ⟨s, hs, hne⟩ := discovered_issuer hsuccessful
  refine ⟨s, hs, ?_⟩
  have htruthy : isTruthy (.str s) = true := by simpa [isTruthy] using hne
  simp only [validateIdToken, requireEndpoint, hs, htruthy, Handler.require]
  rfl

theorem validateIdToken_raises :
    (validateIdToken rp disco idToken expectedNonce answers).Raises ↔
      Unhandled idToken answers := by
  obtain ⟨issuer, -, heq⟩ := validateIdToken_eq idToken expectedNonce answers h
  rw [heq]
  simp [Handler.bind_raises, validated_raises]

theorem validateIdToken_returns {claims : Claims} :
    (validateIdToken rp disco idToken expectedNonce answers).Returns claims ↔
      (∃ jwt, idToken = .str jwt) ∧ answers.validation = .ok claims ∧
        pyEq (claimOf claims "nonce") expectedNonce = true := by
  obtain ⟨issuer, -, heq⟩ := validateIdToken_eq idToken expectedNonce answers h
  rw [heq]
  simp only [Handler.bind_returns, validated_returns, Handler.require_returns,
    Handler.pure_returns]
  constructor
  · rintro ⟨_, ⟨hjwt, hclaims⟩, -, hnonce, rfl⟩
    exact ⟨hjwt, hclaims, hnonce⟩
  · rintro ⟨hjwt, hclaims, hnonce⟩
    exact ⟨claims, ⟨hjwt, hclaims⟩, (), hnonce, rfl⟩

end IdToken

/-- UserInfo answers with claims that are no `dict`, and its subject is asked for. -/
structure BadUserinfo (rp : Router) (disco : DiscoveryResult) (accessToken : Json) (claims : Claims)
    (answer : UserInfoResponse) : Prop where
  fetched : rp.fetchUserinfo = true
  token : isTruthy accessToken = true
  endpoint : isTruthy (disco.get "userinfo_endpoint") = true
  successful : answer.isSuccessful = true
  subject : isNull (claimOf claims "sub") = false
  truthy : isTruthy answer.claims = true
  kind : NoDict answer.claims

theorem noDict_orEmpty {j : Json} : NoDict (orEmpty j) ↔ isTruthy j = true ∧ NoDict j := by
  unfold orEmpty
  by_cases htruthy : isTruthy j = true
  · simp [htruthy]
  · simp [htruthy, NoDict]

theorem fetchUserinfo_raises {disco : DiscoveryResult} {accessToken expectedSub : Json}
    {answer : UserInfoResponse} :
    (fetchUserinfo disco accessToken expectedSub answer).Raises ↔
      (isTruthy accessToken = true ∧ isTruthy (disco.get "userinfo_endpoint") = true) ∧
        answer.isSuccessful = true ∧ isNull expectedSub = false ∧ isTruthy answer.claims = true ∧
        NoDict answer.claims := by
  have hcompared (sub : Json) :
      ¬ (if pyEq sub expectedSub then (return orEmpty answer.claims)
        else Handler.fail subMismatch : Handler Json).Raises := by
    split
    · exact Handler.pure_raises
    · simp [subMismatch]
  simp only [fetchUserinfo]
  by_cases hasked : isTruthy accessToken = true ∧ isTruthy (disco.get "userinfo_endpoint") = true
  · simp only [hasked, Bool.not_true, Bool.or_false, Bool.false_eq_true, if_false,
      Handler.bind_raises, Handler.send_raises, Handler.send_returns, false_or, true_and]
    cases answer.isSuccessful <;> cases isNull expectedSub <;>
      simp [Handler.bind_raises, dictGet_raises, noDict_orEmpty, hcompared]
  · have hmissing : (!isTruthy accessToken || !isTruthy (disco.get "userinfo_endpoint")) = true := by
      by_contra hpresent
      simp only [Bool.not_eq_true, Bool.or_eq_false_iff, Bool.not_eq_false'] at hpresent
      exact hasked hpresent
    simp [hmissing, hasked]

theorem userinfoFor_raises {disco : DiscoveryResult} {accessToken : Json} {claims : Claims}
    {answer : UserInfoResponse} :
    (userinfoFor rp disco accessToken claims answer).Raises ↔
      BadUserinfo rp disco accessToken claims answer := by
  unfold userinfoFor
  constructor
  · intro h
    split at h
    · rename_i hfetched
      obtain ⟨⟨htoken, hendpoint⟩, hsuccessful, hsub, htruthy, hkind⟩ := fetchUserinfo_raises.mp h
      exact ⟨hfetched, htoken, hendpoint, hsuccessful, hsub, htruthy, hkind⟩
    · exact absurd h Handler.ok_raises
  · rintro ⟨hfetched, htoken, hendpoint, hsuccessful, hsub, htruthy, hkind⟩
    rw [if_pos hfetched]
    exact fetchUserinfo_raises.mpr ⟨⟨htoken, hendpoint⟩, hsuccessful, hsub, htruthy, hkind⟩

end Parts

section Callbacks

variable (host : Host) (rp : Router) (flow : Json) (url : String) (answers : Answers)

/-- The callback as it was read. -/
def Parsed (cb : AuthorizeCallbackResponse) : Prop :=
  IsFlow flow ∧
    parseAuthorizeCallbackResponse host.interpreter.platform host.decimal url = .ok cb ∧
    cb.isSuccessful = true

/-- The callback carries the state of the flow and a code. -/
def Accepted (code : String) : Prop :=
  ∃ cb, Parsed host flow url cb ∧ SameState (flow.get "state") cb.state ∧ cb.code = some code

/-- The provider was found, and answered to the code. -/
def Redeemed (disco : DiscoveryResult) : Prop :=
  (∃ code, Accepted host flow url code) ∧ Discovered host rp answers.discovery disco ∧
    Answered disco answers.token

/-- The ID token in the answer is valid, for the flow. -/
structure Identified (disco : DiscoveryResult) (claims : Claims) : Prop where
  redeemed : Redeemed host rp flow url answers disco
  idToken : ∃ jwt, answers.token.token.get "id_token" = .str jwt ∧ jwt ≠ ""
  validated : answers.validation = .ok claims
  nonce : pyEq (claimOf claims "nonce") (flow.get "nonce") = true

/-- The inputs at which a callback raises what is no `HTTPException`. -/
inductive Escapes : Prop
  /-- The entry has no `keys`. -/
  | entry (truthy : isTruthy flow = true) (kind : NoDict flow)
  /-- `urlparse` refuses the URL of the callback. -/
  | address (message : String) (held : IsFlow flow)
      (refused : parseAuthorizeCallbackResponse host.interpreter.platform host.decimal url =
        .error (.value message))
  /-- `compare_digest` refuses the state. -/
  | state (cb : AuthorizeCallbackResponse) (parsed : Parsed host flow url cb)
      (refused : NotComparable (flow.get "state") cb.state)
  /-- A successful answer without a token, or with one that has no `get`. -/
  | token (disco : DiscoveryResult) (redeemed : Redeemed host rp flow url answers disco)
      (kind : isTruthy answers.token.token = false ∨ NoDict answers.token.token)
  /-- `validate_token` raises what is not the library's. -/
  | idToken (disco : DiscoveryResult) (redeemed : Redeemed host rp flow url answers disco)
      (truthy : isTruthy (answers.token.token.get "id_token") = true)
      (unhandled : Unhandled (answers.token.token.get "id_token") answers)
  /-- The claims of UserInfo have no `get`. -/
  | userinfo (disco : DiscoveryResult) (claims : Claims)
      (identified : Identified host rp flow url answers disco claims)
      (bad : BadUserinfo rp disco (answers.token.token.get "access_token") claims
        answers.userinfo)

/-- A callback from its tokens on. -/
def afterToken (disco : DiscoveryResult) (token : Json) : Handler Json := do
  let idToken ← dictGet token "id_token"
  let accessToken ← dictGet token "access_token"
  Handler.require (isTruthy idToken) 401 "Provider did not return an ID token"
  let claims ← validateIdToken rp disco idToken (flow.get "nonce") answers
  let userinfo ← userinfoFor rp disco accessToken claims answers.userinfo
  return sessionData rp claims userinfo token

/-- A callback from its code on. -/
def afterCode (code : String) : Handler Json := do
  let disco ← discover host rp answers.discovery
  let token ← exchangeCode rp disco code (flow.get "code_verifier") answers.token
  afterToken rp flow answers disco token

/-- A callback once it is parsed. -/
def afterParse (cb : AuthorizeCallbackResponse) : Handler Json := do
  checkState cb (flow.get "state")
  let code ← requireCode cb
  afterCode host rp flow answers code

theorem callbackData_eq :
    callbackData host rp flow url answers = (do
      readFlow flow
      let cb ← readCallback host url
      Handler.require cb.isSuccessful 400 "Authorization request failed"
      afterParse host rp flow answers cb) :=
  rfl

variable {host rp flow url answers}

theorem callbackData_raises :
    (callbackData host rp flow url answers).Raises ↔
      (isTruthy flow = true ∧ NoDict flow) ∨
      (IsFlow flow ∧ ∃ m, parseAuthorizeCallbackResponse host.interpreter.platform host.decimal url =
        .error (.value m)) ∨
      ∃ cb, Parsed host flow url cb ∧ (afterParse host rp flow answers cb).Raises := by
  rw [callbackData_eq]
  simp only [Handler.bind_raises, readFlow_raises, readFlow_returns, readCallback_raises,
    readCallback_returns, Handler.require_raises, Handler.require_returns, false_or, Parsed]
  constructor
  · rintro (h | ⟨-, hflow, h | ⟨cb, hcb, -, hsuccessful, h⟩⟩)
    · exact .inl h
    · exact .inr (.inl ⟨hflow, h⟩)
    · exact .inr (.inr ⟨cb, ⟨hflow, hcb, hsuccessful⟩, h⟩)
  · rintro (h | ⟨hflow, h⟩ | ⟨cb, ⟨hflow, hcb, hsuccessful⟩, h⟩)
    · exact .inl h
    · exact .inr ⟨(), hflow, .inl h⟩
    · exact .inr ⟨(), hflow, .inr ⟨cb, hcb, (), hsuccessful, h⟩⟩

theorem afterParse_raises {cb : AuthorizeCallbackResponse} (h : cb.isSuccessful = true) :
    (afterParse host rp flow answers cb).Raises ↔
      NotComparable (flow.get "state") cb.state ∨
      ∃ code, SameState (flow.get "state") cb.state ∧ cb.code = some code ∧
        (afterCode host rp flow answers code).Raises := by
  simp only [afterParse, Handler.bind_raises, checkState_raises h, checkState_returns h,
    requireCode_raises, requireCode_returns, false_or]
  constructor
  · rintro (hstate | ⟨-, hsame, code, hcode, hraises⟩)
    · exact .inl hstate
    · exact .inr ⟨code, hsame, hcode, hraises⟩
  · rintro (hstate | ⟨code, hsame, hcode, hraises⟩)
    · exact .inl hstate
    · exact .inr ⟨(), hsame, code, hcode, hraises⟩

theorem afterCode_raises {code : String} :
    (afterCode host rp flow answers code).Raises ↔
      ∃ disco, Discovered host rp answers.discovery disco ∧ Answered disco answers.token ∧
        (isTruthy answers.token.token = false ∨
          isTruthy answers.token.token = true ∧
            (afterToken rp flow answers disco answers.token.token).Raises) := by
  simp only [afterCode, Handler.bind_raises, discover_raises, discover_returns,
    exchangeCode_raises, exchangeCode_returns, false_or]
  constructor
  · rintro ⟨disco, hdisco, ⟨hanswered, hfalsy⟩ | ⟨_, ⟨hanswered, htruthy, rfl⟩, hraises⟩⟩
    · exact ⟨disco, hdisco, hanswered, .inl hfalsy⟩
    · exact ⟨disco, hdisco, hanswered, .inr ⟨htruthy, hraises⟩⟩
  · rintro ⟨disco, hdisco, hanswered, hfalsy | ⟨htruthy, hraises⟩⟩
    · exact ⟨disco, hdisco, .inl ⟨hanswered, hfalsy⟩⟩
    · exact ⟨disco, hdisco, .inr ⟨_, ⟨hanswered, htruthy, rfl⟩, hraises⟩⟩

theorem afterToken_raises {answer : HttpAnswer} {disco : DiscoveryResult}
    (h : Discovered host rp answer disco) {token : Json} :
    (afterToken rp flow answers disco token).Raises ↔
      NoDict token ∨ isTruthy (token.get "id_token") = true ∧
        (Unhandled (token.get "id_token") answers ∨
          ∃ claims, (∃ jwt, token.get "id_token" = .str jwt) ∧ answers.validation = .ok claims ∧
            pyEq (claimOf claims "nonce") (flow.get "nonce") = true ∧
            BadUserinfo rp disco (token.get "access_token") claims answers.userinfo) := by
  simp only [afterToken, Handler.bind_raises, dictGet_raises, dictGet_returns,
    Handler.require_raises, Handler.require_returns, validateIdToken_raises h,
    validateIdToken_returns h, userinfoFor_raises, Handler.pure_raises, false_or]
  constructor
  · rintro (hkind | ⟨_, ⟨hdict, rfl⟩, hkind | ⟨_, ⟨-, rfl⟩, _, htruthy, hvalidated⟩⟩)
    · exact .inl hkind
    · exact absurd hkind hdict
    · refine .inr ⟨htruthy, ?_⟩
      obtain hunhandled | ⟨claims, ⟨hjwt, hclaims, hnonce⟩, hbad | ⟨_, -, hno⟩⟩ := hvalidated
      · exact .inl hunhandled
      · exact .inr ⟨claims, hjwt, hclaims, hnonce, hbad⟩
      · exact hno.elim
  · rintro (hkind | ⟨htruthy, hvalidated⟩)
    · exact .inl hkind
    · by_cases hkind : NoDict token
      · exact .inl hkind
      · refine .inr ⟨_, ⟨hkind, rfl⟩, .inr ⟨_, ⟨hkind, rfl⟩, (), htruthy, ?_⟩⟩
        obtain hunhandled | ⟨claims, hjwt, hclaims, hnonce, hbad⟩ := hvalidated
        · exact .inl hunhandled
        · exact .inr ⟨claims, ⟨hjwt, hclaims, hnonce⟩, .inl hbad⟩

/-- A callback raises what is no `HTTPException` at these inputs and no others. -/
theorem raises_iff_escapes :
    (callbackData host rp flow url answers).Raises ↔ Escapes host rp flow url answers := by
  rw [callbackData_raises]
  constructor
  · rintro (⟨htruthy, hkind⟩ | ⟨hheld, m, hm⟩ | ⟨cb, hparsed, hraises⟩)
    · exact .entry htruthy hkind
    · exact .address m hheld hm
    · obtain hstate | ⟨code, hsame, hcode, hraises⟩ := (afterParse_raises hparsed.2.2).mp hraises
      · exact .state cb hparsed hstate
      · obtain ⟨disco, hdisco, hanswered, htoken⟩ := afterCode_raises.mp hraises
        have hredeemed : Redeemed host rp flow url answers disco :=
          ⟨⟨code, cb, hparsed, hsame, hcode⟩, hdisco, hanswered⟩
        obtain hfalsy | ⟨-, hraises⟩ := htoken
        · exact .token disco hredeemed (.inl hfalsy)
        · obtain hkind | ⟨htruthy, hunhandled | ⟨claims, ⟨jwt, hjwt⟩, hclaims, hnonce, hbad⟩⟩ :=
            (afterToken_raises hdisco).mp hraises
          · exact .token disco hredeemed (.inr hkind)
          · exact .idToken disco hredeemed htruthy hunhandled
          · have hne : jwt ≠ "" := by
              rw [hjwt] at htruthy
              simpa [isTruthy] using htruthy
            exact .userinfo disco claims ⟨hredeemed, ⟨jwt, hjwt, hne⟩, hclaims, hnonce⟩ hbad
  · have hreached {disco : DiscoveryResult} (h : Redeemed host rp flow url answers disco)
        (hraises : isTruthy answers.token.token = false ∨
          isTruthy answers.token.token = true ∧
            (afterToken rp flow answers disco answers.token.token).Raises) :
        ∃ cb, Parsed host flow url cb ∧ (afterParse host rp flow answers cb).Raises := by
      obtain ⟨⟨code, cb, hparsed, hsame, hcode⟩, hdisco, hanswered⟩ := h
      refine ⟨cb, hparsed, (afterParse_raises hparsed.2.2).mpr (.inr ⟨code, hsame, hcode, ?_⟩)⟩
      exact afterCode_raises.mpr ⟨disco, hdisco, hanswered, hraises⟩
    have hraised {disco : DiscoveryResult} (h : Redeemed host rp flow url answers disco)
        (hraises : (afterToken rp flow answers disco answers.token.token).Raises) :
        ∃ cb, Parsed host flow url cb ∧ (afterParse host rp flow answers cb).Raises := by
      cases htruthy : isTruthy answers.token.token with
      | false => exact hreached h (.inl htruthy)
      | true => exact hreached h (.inr ⟨htruthy, hraises⟩)
    rintro (⟨htruthy, hkind⟩ | ⟨m, hheld, hm⟩ | ⟨cb, hparsed, hstate⟩ | ⟨disco, h, hkind⟩ |
      ⟨disco, h, htruthy, hunhandled⟩ | ⟨disco, claims, ⟨h, ⟨jwt, hjwt, hne⟩, hclaims, hnonce⟩, hbad⟩)
    · exact .inl ⟨htruthy, hkind⟩
    · exact .inr (.inl ⟨hheld, m, hm⟩)
    · exact .inr (.inr ⟨cb, hparsed, (afterParse_raises hparsed.2.2).mpr (.inl hstate)⟩)
    · right; right
      obtain hfalsy | hkind := hkind
      · exact hreached h (.inl hfalsy)
      · exact hraised h ((afterToken_raises h.2.1).mpr (.inl hkind))
    · right; right
      exact hraised h ((afterToken_raises h.2.1).mpr (.inr ⟨htruthy, .inl hunhandled⟩))
    · right; right
      have htruthy : isTruthy (answers.token.token.get "id_token") = true := by
        rw [hjwt]
        simpa [isTruthy] using hne
      exact hraised h ((afterToken_raises h.2.1).mpr
        (.inr ⟨htruthy, .inr ⟨claims, ⟨jwt, hjwt⟩, hclaims, hnonce, hbad⟩⟩))

end Callbacks

section Entry

variable {host : Host} {rp : Router} {session : Session} {url : String} {answers : Answers}

/-- A callback takes the entry, unless it raises what is no `HTTPException`. -/
theorem callback_takes (hsaves : host.savesOnError = false)
    (hflow : session.lookup rp.flowKey ≠ none) :
    (callback host rp session url answers).session.lookup rp.flowKey = none ↔
      ¬ (callbackData host rp (rp.flowOf session) url answers).Raises := by
  simp only [callback, Handler.Raises, Router.flowOf]
  cases hresult : (callbackData host rp ((session.lookup rp.flowKey).getD .null) url
      answers).result with
  | ok identity => simp [AList.lookup_insert_ne rp.flowKey_ne]
  | error e =>
      cases e with
      | http status detail => simp [Host.persisted]
      | raised m => simpa [Host.persisted, hsaves] using hflow

/-- The entry of a login that is still there was written by one of the requests. -/
theorem Unconsumed.mem {start : Session} {secrets : Secrets} {requests : List HttpRequest}
    (h : Unconsumed host rp start secrets requests) :
    ∃ answer, .login secrets answer ∈ requests := by
  induction h with
  | written h => exact ⟨_, List.mem_append_right _ (List.mem_singleton.mpr rfl)⟩
  | left _ _ _ ih =>
      obtain ⟨answer, hmem⟩ := ih
      exact ⟨answer, List.mem_append_left _ hmem⟩

/-- A value with a text among its members is a `dict` that is not empty. -/
theorem dict_of_get {j : Json} {name text : String} (h : j.get name = .str text) :
    isTruthy j = true ∧ ¬ NoDict j := by
  cases j with
  | obj ms =>
      refine ⟨?_, fun hkind => hkind ms rfl⟩
      cases ms with
      | nil => cases h
      | cons m ms => rfl
  | _ => cases h

/-- `validate_token` is called with the ID token of the answer and the settings of the router. -/
theorem validateToken_sent {disco : DiscoveryResult} {flow : Json}
    (h : Redeemed host rp flow url answers disco) {jwt : String}
    (hjwt : answers.token.token.get "id_token" = .str jwt) (hne : jwt ≠ "") :
    ∃ issuer, .validateToken jwt (rp.idTokenConfig (.one issuer)) rp.settings.discoveryUrl ∈
      (callbackData host rp flow url answers).sent := by
  obtain ⟨⟨code, cb, ⟨hflow, hparse, hsuccessful⟩, hsame, hcode⟩, hdisco, hanswered⟩ := h
  obtain ⟨htruthy, hdict⟩ := dict_of_get hjwt
  obtain ⟨issuer, -, heq⟩ := validateIdToken_eq (.str jwt) (flow.get "nonce") answers hdisco
  have hvalidated : .validateToken jwt (rp.idTokenConfig (.one issuer)) rp.settings.discoveryUrl ∈
      (validateIdToken rp disco (.str jwt) (flow.get "nonce") answers).sent := by
    rw [heq]
    refine Handler.mem_bind_sent_left (Handler.mem_bind_sent_left ?_)
    exact List.mem_singleton.mpr rfl
  refine ⟨issuer, ?_⟩
  rw [callbackData_eq]
  refine Handler.mem_bind_sent (a := ()) (readFlow_returns.mpr hflow) ?_
  refine Handler.mem_bind_sent (readCallback_returns.mpr hparse) ?_
  refine Handler.mem_bind_sent (a := ()) (Handler.require_returns.mpr hsuccessful) ?_
  refine Handler.mem_bind_sent (a := ()) ((checkState_returns hsuccessful).mpr hsame) ?_
  refine Handler.mem_bind_sent (requireCode_returns.mpr hcode) ?_
  refine Handler.mem_bind_sent (discover_returns.mpr hdisco) ?_
  refine Handler.mem_bind_sent (exchangeCode_returns.mpr ⟨hanswered, htruthy, rfl⟩) ?_
  refine Handler.mem_bind_sent (dictGet_returns.mpr ⟨hdict, hjwt⟩) ?_
  refine Handler.mem_bind_sent (dictGet_returns.mpr ⟨hdict, rfl⟩) ?_
  refine Handler.mem_bind_sent (a := ()) (Handler.require_returns.mpr (by simpa [isTruthy] using hne)) ?_
  exact Handler.mem_bind_sent_left hvalidated

/-- What `validate_token` raises for the ID token of a callback, if it is not the library's. -/
theorem foreign_of_genuine {rt : Runtime} {r : HttpRequest}
    (hgenuine : Genuine rt host rp session r) (hr : r.callback? host = some (url, answers))
    {disco : DiscoveryResult} (h : Redeemed host rp (rp.flowOf session) url answers disco)
    {jwt : String} (hjwt : answers.token.token.get "id_token" = .str jwt) (hne : jwt ≠ "")
    {e : PyError} (he : answers.validation = .error e) (hforeign : e.isLibrary = false) :
    Foreign rt jwt e := by
  obtain ⟨issuer, hsent⟩ := validateToken_sent h hjwt hne
  have hserved : (serve host rp session r).sent =
      (callbackData host rp (rp.flowOf session) url answers).sent := by
    rw [serve_callback hr]
    simp only [callback]
    split <;> rfl
  rw [← hserved] at hsent
  have hreturned := hgenuine url answers hr jwt _ _ hsent
  rw [he] at hreturned
  obtain ⟨ls, s, req, hrun, hdone, rfl, hconfig, -⟩ := hreturned
  exact foreign_of_run hrun hdone (by rw [hconfig]; rfl) (by rw [hconfig]; rfl) hforeign

end Entry

/-- Where the session is not written back after an exception that is no `HTTPException`: a
callback takes the flow entry of its session if and only if it does not come to one of the inputs
at which it raises such an exception. An entry that was taken does not come back: whatever a later
callback finds, a login wrote in between. And where `validate_token` is the one that raises, PyJWT
could not read the header of the ID token or failed to decode it, an address could not be parsed,
or a `jwks_uri` was no string. -/
theorem flow_taken_iff (host : Host) (hsaves : host.savesOnError = false) (rp : Router)
    (session : Session) (hflow : session.lookup rp.flowKey ≠ none) (r : HttpRequest) (url : String)
    (answers : Answers) (hr : r.callback? host = some (url, answers)) :
    let reply := serve host rp session r
    let flow := rp.flowOf session
    (reply.session.lookup rp.flowKey = none ↔ ¬ Escapes host rp flow url answers) ∧
    (reply.session.lookup rp.flowKey = none → ∀ later entry,
      (sessionAfter host rp reply.session later).lookup rp.flowKey = some entry →
        ∃ secrets answer, .login secrets answer ∈ later ∧ entry = secrets.flow) ∧
    ∀ rt disco jwt e, Genuine rt host rp session r → Redeemed host rp flow url answers disco →
      answers.token.token.get "id_token" = .str jwt → jwt ≠ "" →
      answers.validation = .error e → e.isLibrary = false → Foreign rt jwt e := by
  intro reply flow
  refine ⟨?_, ?_, ?_⟩
  · simp only [reply, serve_callback hr]
    rw [callback_takes hsaves hflow, raises_iff_escapes]
  · intro htaken later entry hentry
    obtain ⟨secrets, rfl, hunconsumed⟩ := unconsumed_of_flow htaken hentry
    obtain ⟨answer, hmem⟩ := hunconsumed.mem
    exact ⟨secrets, answer, hmem, rfl⟩
  · intro rt disco jwt e hgenuine hredeemed hjwt hne he hforeign
    exact foreign_of_genuine hgenuine hr hredeemed hjwt hne he hforeign

/-- The callback of a login takes its entry. -/
theorem flow_taken_iff_sample :
    ¬ Escapes sampleHost sampleRouter sampleSecrets.flow "https://app/callback?code=c&state=state"
      sampleAnswers := by
  have hflow : sampleRouter.flowOf (sessionAfter sampleHost sampleRouter ∅ [sampleLogin]) =
      sampleSecrets.flow := by
    rw [Router.flowOf, sampleLogin_session, AList.lookup_insert, Option.getD_some]
  obtain ⟨htaken, -, -⟩ := flow_taken_iff sampleHost rfl sampleRouter
    (sessionAfter sampleHost sampleRouter ∅ [sampleLogin])
    (by rw [sampleLogin_session, AList.lookup_insert]; exact Option.some_ne_none _)
    sampleCallback "https://app/callback?code=c&state=state" sampleAnswers rfl
  obtain ⟨session, hreply, hnone⟩ := sampleCallback_reply
  rw [← hflow]
  refine htaken.mp ?_
  rw [hreply]
  exact hnone

/-- A callback with a state that is not ASCII, and one whose ID token PyJWT cannot read, leave the
entry of the login where it is, the second after the verifier was sent. -/
theorem flow_left_by_callback :
    let session := sessionAfter sampleHost sampleRouter ∅ [sampleLogin]
    let refused := serve sampleHost sampleRouter session
      (.callback "https://app/callback?code=c&state=%C3%A9" sampleAnswers)
    let unread := serve sampleHost sampleRouter session
      (.callback "https://app/callback?code=c&state=state"
        { sampleAnswers with validation := .error (.other "Not enough segments") })
    session.lookup sampleRouter.flowKey = some sampleSecrets.flow ∧
      refused.session.lookup sampleRouter.flowKey = some sampleSecrets.flow ∧
      unread.session.lookup sampleRouter.flowKey = some sampleSecrets.flow ∧
      .exchange ⟨.str "https://idp/token", "client", "c", "https://app/callback", .str "verifier",
        none⟩ ∈ unread.sent := by
  intro session refused unread
  have hsession : session = AList.insert sampleRouter.flowKey sampleSecrets.flow ∅ :=
    sampleLogin_session
  refine ⟨by rw [hsession, AList.lookup_insert], ?_, ?_⟩
  · simp only [refused, hsession]
    rfl
  · obtain ⟨left, hunread⟩ : ∃ left, unread = left ∧
        left.session.lookup sampleRouter.flowKey = some sampleSecrets.flow ∧
        left.sent[1]? = some (.exchange ⟨.str "https://idp/token", "client", "c",
          "https://app/callback", .str "verifier", none⟩) := by
      simp only [unread, hsession]
      exact ⟨_, rfl, rfl, rfl⟩
    rw [hunread.1]
    exact ⟨hunread.2.1, List.mem_of_getElem? hunread.2.2⟩

end IdentityModel.Py.Rp
