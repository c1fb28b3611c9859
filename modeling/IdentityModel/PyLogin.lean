import IdentityModel.PyRelyingParty
import IdentityModel.PyReturned

/-!
# Who is logged in

The identity of a session is written by a callback alone, and only after the whole chain of its
checks: an entry that a login left and nobody has taken since, the state of that entry, the code
exchanged with its verifier, an ID token validated for the client at the provider's discovery
address with the nonce of the entry, and a UserInfo answer for the same subject. The first part
reads a callback that succeeded backwards, the second follows the flow entry through a sequence
of requests.
-/
namespace IdentityModel.Py.Rp

open Runs Tasks Handler

section Parts

variable {host : Host} {rp : Router} {sent : List Sent}

theorem requireEndpoint_ok {value v : Json} {name : String}
    (h : requireEndpoint value name = ⟨.ok v, sent⟩) :
    v = value ∧ isTruthy value = true ∧ sent = [] := by
  obtain ⟨_, s, t, hrequire, hvalue, rfl⟩ := bind_ok.mp h
  obtain ⟨htruthy, rfl⟩ := require_eq_ok.mp hrequire
  obtain ⟨rfl, rfl⟩ := pure_eq_ok.mp hvalue
  exact ⟨rfl, htruthy, rfl⟩

theorem dictGet_ok {j v : Json} {name : String} (h : dictGet j name = ⟨.ok v, sent⟩) :
    v = j.get name ∧ sent = [] := by
  unfold dictGet at h
  split at h
  · obtain ⟨rfl, rfl⟩ := ok_eq_ok.mp h
    exact ⟨rfl, rfl⟩
  · exact absurd h fail_ne_ok

/-- A document that names the issuer its URL implies. -/
structure Discovered (host : Host) (rp : Router) (answer : HttpAnswer) (disco : DiscoveryResult) :
    Prop where
  document : disco = getDiscoveryDocument host.interpreter rp.settings.discoveryUrl {} answer
  successful : disco.isSuccessful = true
  issuer : isTruthy (disco.get "issuer") = true →
    ∃ s, disco.get "issuer" = .str s ∧
      rstripSlash s.toList = expectedIssuer rp.settings.discoveryUrl

theorem strippedIssuer_ok {issuer : Json} {stripped : List Char}
    (h : strippedIssuer issuer = ⟨.ok stripped, sent⟩) :
    sent = [] ∧ (isTruthy issuer = true → ∃ s, issuer = .str s ∧ stripped = rstripSlash s.toList) := by
  unfold strippedIssuer at h
  split at h
  · rename_i hfalsy
    obtain ⟨rfl, rfl⟩ := ok_eq_ok.mp h
    simp_all
  · split at h
    · rename_i s _
      obtain ⟨rfl, rfl⟩ := ok_eq_ok.mp h
      exact ⟨rfl, fun _ => ⟨s, rfl, rfl⟩⟩
    · exact absurd h fail_ne_ok

theorem discover_ok {answer : HttpAnswer} {disco : DiscoveryResult}
    (h : discover host rp answer = ⟨.ok disco, sent⟩) :
    sent = [.discovery rp.settings.discoveryUrl] ∧ Discovered host rp answer disco := by
  obtain ⟨_, s₁, _, hsend, h₁, rfl⟩ := bind_ok.mp h
  obtain ⟨_, s₂, _, hok, h₂, rfl⟩ := bind_ok.mp h₁
  obtain ⟨stripped, s₃, _, hstripped, h₃, rfl⟩ := bind_ok.mp h₂
  obtain ⟨_, s₄, _, hissuer, h₄, rfl⟩ := bind_ok.mp h₃
  obtain ⟨rfl, rfl⟩ := pure_eq_ok.mp h₄
  obtain rfl := send_eq_ok.mp hsend
  obtain ⟨hsuccessful, rfl⟩ := require_eq_ok.mp hok
  obtain ⟨rfl, hstr⟩ := strippedIssuer_ok hstripped
  obtain ⟨hexpected, rfl⟩ := require_eq_ok.mp hissuer
  refine ⟨rfl, rfl, hsuccessful, fun htruthy => ?_⟩
  obtain ⟨s, hs, rfl⟩ := hstr htruthy
  exact ⟨s, hs, by simpa using hexpected⟩

/-- The request that exchanges a code. -/
def Router.exchangeRequest (rp : Router) (disco : DiscoveryResult) (code : String)
    (codeVerifier : Json) : AuthorizationCodeTokenRequest :=
  ⟨disco.get "token_endpoint", rp.settings.clientId, code, rp.settings.redirectUri, codeVerifier,
    truthy rp.settings.clientSecret⟩

theorem exchangeCode_ok {disco : DiscoveryResult} {code : String} {codeVerifier token : Json}
    {answer : TokenResponse}
    (h : exchangeCode rp disco code codeVerifier answer = ⟨.ok token, sent⟩) :
    sent = [.exchange (rp.exchangeRequest disco code codeVerifier)] ∧
      answer.isSuccessful = true ∧ token = answer.token := by
  obtain ⟨endpoint, s₁, _, hendpoint, h₁, rfl⟩ := bind_ok.mp h
  obtain ⟨_, s₂, _, hsend, h₂, rfl⟩ := bind_ok.mp h₁
  obtain ⟨rfl, -, rfl⟩ := requireEndpoint_ok hendpoint
  obtain rfl := send_eq_ok.mp hsend
  split at h₂
  · exact absurd h₂ fail_ne_ok
  · rename_i hsuccessful
    split at h₂
    · exact absurd h₂ fail_ne_ok
    · obtain ⟨rfl, rfl⟩ := pure_eq_ok.mp h₂
      exact ⟨rfl, by simpa using hsuccessful, rfl⟩

theorem validated_ok {idToken : Json} {config : TokenValidationConfig} {answers : Answers}
    {claims : Claims} (h : validated rp idToken config answers = ⟨.ok claims, sent⟩) :
    ∃ jwt, idToken = .str jwt ∧ sent = [.validateToken jwt config rp.settings.discoveryUrl] ∧
      answers.validation = .ok claims := by
  unfold validated at h
  split at h
  · rename_i jwt
    obtain ⟨_, s, _, hsend, h₁, rfl⟩ := bind_ok.mp h
    obtain rfl := send_eq_ok.mp hsend
    split at h₁
    · rename_i claims' hclaims
      obtain ⟨rfl, rfl⟩ := pure_eq_ok.mp h₁
      exact ⟨jwt, rfl, rfl, hclaims⟩
    · exact absurd h₁ fail_ne_ok
  · exact absurd h fail_ne_ok

theorem validateIdToken_ok {answer : HttpAnswer} {disco : DiscoveryResult}
    {idToken expectedNonce : Json} {answers : Answers} {claims : Claims}
    (hdisco : Discovered host rp answer disco)
    (h : validateIdToken rp disco idToken expectedNonce answers = ⟨.ok claims, sent⟩) :
    ∃ jwt issuer, idToken = .str jwt ∧
      rstripSlash issuer.toList = expectedIssuer rp.settings.discoveryUrl ∧
      sent = [.validateToken jwt (rp.idTokenConfig (.one issuer)) rp.settings.discoveryUrl] ∧
      answers.validation = .ok claims ∧ pyEq (claimOf claims "nonce") expectedNonce = true := by
  obtain ⟨value, s₁, _, hvalue, h₁, rfl⟩ := bind_ok.mp h
  obtain ⟨rfl, htruthy, rfl⟩ := requireEndpoint_ok hvalue
  obtain ⟨s, hs, hexpected⟩ := hdisco.issuer htruthy
  rw [hs] at h₁
  obtain ⟨claims', s₂, _, hvalid, h₂, rfl⟩ := bind_ok.mp h₁
  obtain ⟨_, s₃, _, hchecked, h₃, rfl⟩ := bind_ok.mp h₂
  obtain ⟨rfl, rfl⟩ := pure_eq_ok.mp h₃
  obtain ⟨hnonce, rfl⟩ := require_eq_ok.mp hchecked
  obtain ⟨jwt, hjwt, rfl, hclaims⟩ := validated_ok hvalid
  exact ⟨jwt, s, hjwt, hexpected, by simp [issuerOf], hclaims, hnonce⟩

/-- UserInfo is not asked for, or one request is made; a successful answer has the expected
subject, if there is one. -/
theorem fetchUserinfo_ok {disco : DiscoveryResult} {accessToken expectedSub userinfo : Json}
    {answer : UserInfoResponse}
    (h : fetchUserinfo disco accessToken expectedSub answer = ⟨.ok userinfo, sent⟩) :
    sent = [] ∨ ∃ address, sent = [.userinfo address accessToken] ∧
      (answer.isSuccessful = true → isNull expectedSub = false →
        pyEq (answer.claims.get "sub") expectedSub = true) := by
  simp only [fetchUserinfo] at h
  split at h
  · obtain ⟨-, rfl⟩ := ok_eq_ok.mp h
    exact .inl rfl
  · right
    obtain ⟨_, s₁, _, hsend, h₁, rfl⟩ := bind_ok.mp h
    obtain rfl := send_eq_ok.mp hsend
    refine ⟨disco.get "userinfo_endpoint", ?_⟩
    split at h₁
    · rename_i hfailed
      obtain ⟨-, rfl⟩ := pure_eq_ok.mp h₁
      refine ⟨rfl, fun hsuccessful => ?_⟩
      simp [hsuccessful] at hfailed
    · split at h₁
      · rename_i hnull
        obtain ⟨-, rfl⟩ := pure_eq_ok.mp h₁
        exact ⟨rfl, fun _ hne => absurd hnull (by simp [hne])⟩
      · obtain ⟨sub, s₂, _, hsub, h₂, rfl⟩ := bind_ok.mp h₁
        obtain ⟨rfl, rfl⟩ := dictGet_ok hsub
        split at h₂
        · rename_i heq
          obtain ⟨-, rfl⟩ := pure_eq_ok.mp h₂
          refine ⟨rfl, fun _ hne => ?_⟩
          unfold orEmpty at heq
          split at heq
          · exact heq
          · rw [pyEq_null heq] at hne
            cases hne
        · exact absurd h₂ fail_ne_ok

theorem readFlow_ok {flow : Json} {u : Unit} (h : readFlow flow = ⟨.ok u, sent⟩) : sent = [] := by
  unfold readFlow at h
  split at h
  · exact absurd h fail_ne_ok
  · split at h
    · exact (require_eq_ok.mp h).2
    · exact absurd h fail_ne_ok

theorem readCallback_ok {url : String} {cb : AuthorizeCallbackResponse}
    (h : readCallback host url = ⟨.ok cb, sent⟩) :
    parseAuthorizeCallbackResponse host.interpreter.platform host.decimal url = .ok cb ∧
      sent = [] := by
  unfold readCallback at h
  split at h
  · rename_i cb' hparse
    obtain ⟨rfl, rfl⟩ := ok_eq_ok.mp h
    exact ⟨hparse, rfl⟩
  · exact absurd h fail_ne_ok
  · exact absurd h fail_ne_ok

theorem checkState_ok {cb : AuthorizeCallbackResponse} {expected : Json} {u : Unit}
    (h : checkState cb expected = ⟨.ok u, sent⟩) :
    (∃ state, expected = .str state ∧ cb.state = some state ∧ state ≠ "") ∧ sent = [] := by
  unfold checkState at h
  split at h
  · exact absurd h fail_ne_ok
  · rename_i r hr
    obtain ⟨hvalid, rfl⟩ := require_eq_ok.mp h
    exact ⟨validateAuthorizeCallbackState_valid hr hvalid, rfl⟩

theorem requireCode_ok {cb : AuthorizeCallbackResponse} {code : String}
    (h : requireCode cb = ⟨.ok code, sent⟩) : cb.code = some code ∧ sent = [] := by
  unfold requireCode at h
  split at h
  · exact absurd h fail_ne_ok
  · rename_i code' hcode
    obtain ⟨rfl, rfl⟩ := ok_eq_ok.mp h
    exact ⟨hcode, rfl⟩

end Parts

/-- What a callback went by. -/
structure Login where
  cb : AuthorizeCallbackResponse
  code : String
  disco : DiscoveryResult
  jwt : String
  issuer : String
  claims : Claims
  userinfo : Json
  /-- The request for UserInfo, if one was made. -/
  asked : List Sent

/-- The checks a callback passed on its way to an identity. -/
structure Established (host : Host) (rp : Router) (flow : Json) (url : String) (answers : Answers)
    (sent : List Sent) (identity : Json) (l : Login) : Prop where
  parsed : parseAuthorizeCallbackResponse host.interpreter.platform host.decimal url = .ok l.cb
  successful : l.cb.isSuccessful = true
  state : ∃ state, flow.get "state" = .str state ∧ l.cb.state = some state ∧ state ≠ ""
  code : l.cb.code = some l.code
  discovered : Discovered host rp answers.discovery l.disco
  exchanged : answers.token.isSuccessful = true
  idToken : answers.token.token.get "id_token" = .str l.jwt
  issuer : rstripSlash l.issuer.toList = expectedIssuer rp.settings.discoveryUrl
  validated : answers.validation = .ok l.claims
  nonce : pyEq (claimOf l.claims "nonce") (flow.get "nonce") = true
  userinfo : l.asked = [] ∨ ∃ address token, l.asked = [.userinfo address token] ∧
    (answers.userinfo.isSuccessful = true → isNull (claimOf l.claims "sub") = false →
      pyEq (answers.userinfo.claims.get "sub") (claimOf l.claims "sub") = true)
  sent : sent = [.discovery rp.settings.discoveryUrl,
    .exchange (rp.exchangeRequest l.disco l.code (flow.get "code_verifier")),
    .validateToken l.jwt (rp.idTokenConfig (.one l.issuer)) rp.settings.discoveryUrl] ++ l.asked
  identity : identity = sessionData rp l.claims l.userinfo answers.token.token

theorem callbackData_ok {host : Host} {rp : Router} {flow : Json} {url : String}
    {answers : Answers} {sent : List Sent} {identity : Json}
    (h : callbackData host rp flow url answers = ⟨.ok identity, sent⟩) :
    ∃ l, Established host rp flow url answers sent identity l := by
  obtain ⟨_, s₁, _, hflow, h₁, rfl⟩ := bind_ok.mp h
  obtain ⟨cb, s₂, _, hcb, h₂, rfl⟩ := bind_ok.mp h₁
  obtain ⟨_, s₃, _, hsuccessful, h₃, rfl⟩ := bind_ok.mp h₂
  obtain ⟨_, s₄, _, hchecked, h₄, rfl⟩ := bind_ok.mp h₃
  obtain ⟨code, s₅, _, hrequired, h₅, rfl⟩ := bind_ok.mp h₄
  obtain ⟨disco, s₆, _, hdisco, h₆, rfl⟩ := bind_ok.mp h₅
  obtain ⟨token, s₇, _, htoken, h₇, rfl⟩ := bind_ok.mp h₆
  obtain ⟨idToken, s₈, _, hidToken, h₈, rfl⟩ := bind_ok.mp h₇
  obtain ⟨accessToken, s₉, _, haccessToken, h₉, rfl⟩ := bind_ok.mp h₈
  obtain ⟨_, t₁, _, hpresent, h₁₀, rfl⟩ := bind_ok.mp h₉
  obtain ⟨claims, t₂, _, hclaims, h₁₁, rfl⟩ := bind_ok.mp h₁₀
  obtain ⟨userinfo, t₃, _, huserinfo, h₁₂, rfl⟩ := bind_ok.mp h₁₁
  obtain ⟨rfl, rfl⟩ := pure_eq_ok.mp h₁₂
  obtain rfl := readFlow_ok hflow
  obtain ⟨hparsed, rfl⟩ := readCallback_ok hcb
  obtain ⟨hsuccess, rfl⟩ := require_eq_ok.mp hsuccessful
  obtain ⟨hstate, rfl⟩ := checkState_ok hchecked
  obtain ⟨hcode, rfl⟩ := requireCode_ok hrequired
  obtain ⟨rfl, hdiscovered⟩ := discover_ok hdisco
  obtain ⟨rfl, hexchanged, rfl⟩ := exchangeCode_ok htoken
  obtain ⟨rfl, rfl⟩ := dictGet_ok hidToken
  obtain ⟨rfl, rfl⟩ := dictGet_ok haccessToken
  obtain ⟨-, rfl⟩ := require_eq_ok.mp hpresent
  obtain ⟨jwt, issuer, hjwt, hissuer, rfl, hvalidated, hnonce⟩ :=
    validateIdToken_ok hdiscovered hclaims
  refine ⟨⟨cb, code, disco, jwt, issuer, claims, userinfo, t₃⟩, hparsed, hsuccess, hstate, hcode,
    hdiscovered, hexchanged, hjwt, hissuer, hvalidated, hnonce, ?_, by simp, rfl⟩
  unfold userinfoFor at huserinfo
  split at huserinfo
  · obtain rfl | ⟨address, rfl, hsub⟩ := fetchUserinfo_ok huserinfo
    · exact .inl rfl
    · exact .inr ⟨address, _, rfl, hsub⟩
  · obtain ⟨-, rfl⟩ := ok_eq_ok.mp huserinfo
    exact .inl rfl

section Requests

variable (host : Host) (rp : Router)

theorem Router.flowKey_ne (rp : Router) : rp.flowKey ≠ rp.sessionKey := by
  intro h
  have hlength := congrArg String.length h
  simp [Router.flowKey] at hlength

/-- The callback of a request, with the URL its parameters are read from. -/
def HttpRequest.callback? : HttpRequest → Option (String × Answers)
  | .callback url answers => some (url, answers)
  | .callbackFormPost url body answers => some (formPostUrl host url body, answers)
  | _ => none

/-- The flow entry of a session. -/
def Router.flowOf (session : Session) : Json := (session.lookup rp.flowKey).getD .null

variable {host rp} {session : Session} {r : HttpRequest} {url : String} {answers : Answers}

theorem serve_callback (h : r.callback? host = some (url, answers)) :
    serve host rp session r = callback host rp session url answers := by
  cases r <;> simp_all [HttpRequest.callback?, serve]

/-- A callback that succeeds has passed its checks. -/
theorem callback_ok {redirect : Redirect}
    (h : (callback host rp session url answers).outcome = .ok redirect) :
    ∃ identity l, Established host rp (rp.flowOf session) url answers
        (callback host rp session url answers).sent identity l ∧
      (callback host rp session url answers).session =
        (session.erase rp.flowKey).insert rp.sessionKey identity := by
  simp only [callback] at h ⊢
  split at h
  · cases h
  · rename_i identity hidentity
    have hdata : callbackData host rp (rp.flowOf session) url answers =
        ⟨.ok identity, (callbackData host rp (rp.flowOf session) url answers).sent⟩ := by
      rw [← hidentity]
      rfl
    obtain ⟨l, hl⟩ := callbackData_ok hdata
    exact ⟨identity, l, hl, rfl⟩

/-- The changes of a route are kept, or the route failed and they are not. -/
theorem persisted_cases (host : Host) (before after : Session) (outcome : Except Failure Redirect) :
    host.persisted before after outcome = after ∨
      host.persisted before after outcome = before ∧ ∃ e, outcome = .error e := by
  unfold Host.persisted
  split
  · split
    · exact .inl rfl
    · exact .inr ⟨rfl, _, rfl⟩
  · exact .inl rfl

theorem lookup_persisted {before after : Session} {outcome : Except Failure Redirect} {key : String}
    (h : after.lookup key = before.lookup key) :
    (host.persisted before after outcome).lookup key = before.lookup key := by
  obtain hkept | ⟨hdropped, -⟩ := persisted_cases host before after outcome
  · rw [hkept, h]
  · rw [hdropped]

/-- A callback that fails leaves the identity as it was. -/
theorem callback_error {e : Failure}
    (h : (callback host rp session url answers).outcome = .error e) :
    (callback host rp session url answers).session.lookup rp.sessionKey =
      session.lookup rp.sessionKey := by
  simp only [callback] at h ⊢
  split at h
  · exact lookup_persisted (AList.lookup_erase_ne rp.flowKey_ne.symm)
  · cases h

theorem login_identity (secrets : Secrets) (answer : HttpAnswer) :
    (login host rp session secrets answer).session.lookup rp.sessionKey =
      session.lookup rp.sessionKey := by
  simp only [login]
  split
  · rfl
  · exact lookup_persisted (AList.lookup_insert_ne rp.flowKey_ne.symm)

theorem logout_identity : (logout rp session).session.lookup rp.sessionKey = none := by
  simp only [logout]
  rw [AList.lookup_erase_ne rp.flowKey_ne.symm, AList.lookup_erase]

/-- What is left of the flow entry after a callback is there because nothing was saved. -/
theorem callback_flow {flow : Json}
    (h : (callback host rp session url answers).session.lookup rp.flowKey = some flow) :
    (callback host rp session url answers).session = session ∧
      ∃ e, (callback host rp session url answers).outcome = .error e := by
  simp only [callback] at h ⊢
  split at h
  · rename_i e _
    obtain hkept | ⟨hdropped, -⟩ :=
      persisted_cases host session (session.erase rp.flowKey) (.error e)
    · rw [hkept, AList.lookup_erase] at h
      cases h
    · exact ⟨hdropped, e, rfl⟩
  · rw [AList.lookup_insert_ne rp.flowKey_ne, AList.lookup_erase] at h
    cases h

/-- A flow entry is written by a login, or the request failed and left the session as it was. -/
theorem serve_flow {flow : Json}
    (h : (serve host rp session r).session.lookup rp.flowKey = some flow) :
    (∃ secrets answer, r = .login secrets answer ∧ flow = secrets.flow ∧
      (serve host rp session r).session = session.insert rp.flowKey secrets.flow) ∨
      (serve host rp session r).session = session ∧
        ∃ e, (serve host rp session r).outcome = .error e := by
  cases r with
  | login secrets answer =>
      simp only [serve, login] at h ⊢
      split at h
      · exact .inr ⟨rfl, _, rfl⟩
      · rename_i value hvalue
        obtain hkept | hdropped := persisted_cases host session
          (session.insert rp.flowKey secrets.flow) (loginUrl host rp secrets value)
        · rw [hkept, AList.lookup_insert] at h
          exact .inl ⟨secrets, answer, rfl, (Option.some.inj h).symm, hkept⟩
        · exact .inr hdropped
  | callback url answers => exact .inr (callback_flow h)
  | callbackFormPost url body answers => exact .inr (callback_flow h)
  | logout =>
      simp only [serve, logout, AList.lookup_erase] at h
      cases h

end Requests

section Sequences

variable {host : Host} {rp : Router} {start : Session} {requests : List HttpRequest}
  {r : HttpRequest}

theorem sessionAfter_concat :
    sessionAfter host rp start (requests ++ [r]) =
      (serve host rp (sessionAfter host rp start requests) r).session := by
  simp [sessionAfter]

/-- The entry of a login is still there: it was written, and every request since has failed and
has left the session as it was. -/
inductive Unconsumed (host : Host) (rp : Router) (start : Session) (secrets : Secrets) :
    List HttpRequest → Prop
  | written {requests : List HttpRequest} {answer : HttpAnswer}
      (h : (serve host rp (sessionAfter host rp start requests) (.login secrets answer)).session =
        (sessionAfter host rp start requests).insert rp.flowKey secrets.flow) :
      Unconsumed host rp start secrets (requests ++ [.login secrets answer])
  | left {requests : List HttpRequest} {r : HttpRequest}
      (h : Unconsumed host rp start secrets requests)
      (same : (serve host rp (sessionAfter host rp start requests) r).session =
        sessionAfter host rp start requests)
      (failed : ∃ e, (serve host rp (sessionAfter host rp start requests) r).outcome = .error e) :
      Unconsumed host rp start secrets (requests ++ [r])

/-- Whatever flow entry a session has, a login wrote it and nobody has taken it. -/
theorem unconsumed_of_flow (hstart : start.lookup rp.flowKey = none) {flow : Json}
    (h : (sessionAfter host rp start requests).lookup rp.flowKey = some flow) :
    ∃ secrets, flow = secrets.flow ∧ Unconsumed host rp start secrets requests := by
  induction requests using List.reverseRecOn with
  | nil =>
      have hnone : (sessionAfter host rp start []).lookup rp.flowKey = none := hstart
      rw [hnone] at h
      cases h
  | append_singleton requests r ih =>
      rw [sessionAfter_concat] at h
      obtain ⟨secrets, answer, rfl, rfl, hwritten⟩ | ⟨hsame, hfailed⟩ := serve_flow h
      · exact ⟨secrets, rfl, .written hwritten⟩
      · rw [hsame] at h
        obtain ⟨secrets, rfl, hpending⟩ := ih h
        exact ⟨secrets, rfl, .left hpending hsame hfailed⟩

/-- A flow entry with a state is one of the session. -/
theorem lookup_of_state {session : Session} {state : String}
    (h : (rp.flowOf session).get "state" = .str state) :
    session.lookup rp.flowKey = some (rp.flowOf session) := by
  unfold Router.flowOf at h ⊢
  cases hflow : session.lookup rp.flowKey with
  | none =>
      rw [hflow] at h
      cases h
  | some flow => rfl

end Sequences

/-- Some run of the module answers this call of `validate_token` so. -/
def Returned (rt : Runtime) (jwt : String) (config : TokenValidationConfig) (address : String)
    (result : Result) : Prop :=
  ∃ ls s req, run rt initial ls = some s ∧ .token req (.done result) ∈ s.tasks ∧ req.jwt = jwt ∧
    req.config = config ∧ req.address = address

/-- The answer to a callback's `validate_token` is one that the module gives. -/
def Genuine (rt : Runtime) (host : Host) (rp : Router) (session : Session) (r : HttpRequest) :
    Prop :=
  ∀ url answers, r.callback? host = some (url, answers) → ∀ jwt config address,
    .validateToken jwt config address ∈ (serve host rp session r).sent →
    Returned rt jwt config address answers.validation

/-- The token was validated for the client of the router at the provider of the router: for the
client as its audience, signed under a key that a discovery document of the configured address
leads to, and issued by the issuer of that document. -/
def ValidFor (rt : Runtime) (Signed : String → JsonWebKey → String → Prop) (rp : Router)
    (jwt : String) (claims : Claims) : Prop :=
  HasAudience claims rp.settings.clientId ∧
    ∃ ls s req, run rt initial ls = some s ∧ .token req (.done (.ok claims)) ∈ s.tasks ∧
      req.jwt = jwt ∧ req.address = rp.settings.discoveryUrl ∧
      ∃ doc uri set key alg i, Grounds rt Signed s.shared.log req claims doc uri set key alg i ∧
        i.Matches claims

/-- What an identity rests on: the flow of a login, taken from the session for the first time, and
the checks of the callback that took it. -/
structure Authenticated (host : Host) (rp : Router) (rt : Runtime)
    (Signed : String → JsonWebKey → String → Prop) (start : Session) (requests : List HttpRequest)
    (url : String) (answers : Answers) (sent : List Sent) (identity : Json) (secrets : Secrets)
    (l : Login) : Prop where
  found : (sessionAfter host rp start requests).lookup rp.flowKey = some secrets.flow
  unconsumed : Unconsumed host rp start secrets requests
  established : Established host rp secrets.flow url answers sent identity l
  state : l.cb.state = some secrets.state
  exchanged : .exchange (rp.exchangeRequest l.disco l.code (.str secrets.codeVerifier)) ∈ sent
  valid : ValidFor rt Signed rp l.jwt l.claims
  nonce : l.claims.lookup "nonce" = some (.str secrets.nonce)
  subject : ∀ address token, .userinfo address token ∈ sent → answers.userinfo.isSuccessful = true →
    pyEq (answers.userinfo.claims.get "sub") (claimOf l.claims "sub") = true

section Identity

variable {host : Host} {rp : Router} {rt : Runtime}
  {Signed : String → JsonWebKey → String → Prop}

theorem lookup_of_claimOf {claims : Claims} {name s : String} (h : claimOf claims name = .str s) :
    claims.lookup name = some (.str s) := by
  unfold claimOf at h
  cases hclaim : claims.lookup name with
  | none =>
      rw [hclaim] at h
      cases h
  | some value =>
      rw [hclaim] at h
      exact congrArg some h

theorem isNull_claimOf {claims : Claims} {name : String} (h : HasClaim claims name) :
    isNull (claimOf claims name) = false := by
  obtain ⟨value, hvalue, hne⟩ := h
  unfold claimOf
  rw [hvalue]
  cases value <;> simp_all [isNull]

/-- What was returned for the settings of an ID token is valid for the client, and has a
subject. -/
theorem validFor_of_returned (hsound : rt.pyjwt.Sound Signed) (hchecks : rt.pyjwt.Checks)
    {jwt : String} {issuer : Issuer} {claims : Claims}
    (h : Returned rt jwt (rp.idTokenConfig issuer) rp.settings.discoveryUrl (.ok claims)) :
    ValidFor rt Signed rp jwt claims ∧ HasClaim claims "sub" := by
  obtain ⟨ls, s, req, hrun, hdone, hjwt, hconfig, haddress⟩ := h
  have hdecoded := decoded_of_run hrun hdone
  rw [hconfig] at hdecoded
  have haudience : HasAudience claims rp.settings.clientId :=
    hdecoded.hasAudience hchecks rfl rfl
  have hsub : HasClaim claims "sub" :=
    hdecoded.hasClaim hchecks (by simp [Router.idTokenConfig])
  have hdisco : req.config.performDisco = true := by rw [hconfig]; rfl
  have hiss : verifiesIss req.config.options = true := by rw [hconfig]; rfl
  obtain ⟨doc, uri, set, key, alg, i, hgrounds⟩ := grounds_of_run hsound hrun hdone hdisco
  exact ⟨⟨haudience, ls, s, req, hrun, hdone, hjwt, haddress, doc, uri, set, key, alg, i, hgrounds,
    hgrounds.decoded.issuer hiss⟩, hsub⟩

/-- A callback that succeeds makes an identity out of the flow of a login. -/
theorem authenticated_of_callback (hsound : rt.pyjwt.Sound Signed) (hchecks : rt.pyjwt.Checks)
    {start : Session} (hstart : start.lookup rp.flowKey = none) {requests : List HttpRequest}
    {r : HttpRequest} (hgenuine : Genuine rt host rp (sessionAfter host rp start requests) r)
    {url : String} {answers : Answers} (hr : r.callback? host = some (url, answers))
    {redirect : Redirect}
    (hok : (serve host rp (sessionAfter host rp start requests) r).outcome = .ok redirect) :
    ∃ identity secrets l,
      (serve host rp (sessionAfter host rp start requests) r).session.lookup rp.sessionKey =
        some identity ∧
      Authenticated host rp rt Signed start requests url answers
        (serve host rp (sessionAfter host rp start requests) r).sent identity secrets l := by
  have hasked := hgenuine url answers hr
  rw [serve_callback hr] at hok hasked ⊢
  obtain ⟨identity, l, hl, hsession⟩ := callback_ok hok
  obtain ⟨state, hstate, hcb, -⟩ := hl.state
  have hfound := lookup_of_state hstate
  obtain ⟨secrets, hflow, hunconsumed⟩ := unconsumed_of_flow hstart hfound
  rw [hflow] at hl hfound hstate
  have hreturned := hasked l.jwt (rp.idTokenConfig (.one l.issuer)) rp.settings.discoveryUrl
    (by simp [hl.sent])
  rw [hl.validated] at hreturned
  obtain ⟨hvalid, hsub⟩ := validFor_of_returned hsound hchecks hreturned
  refine ⟨identity, secrets, l, by rw [hsession, AList.lookup_insert], hfound, hunconsumed, hl, ?_,
    ?_, hvalid, lookup_of_claimOf (pyEq_str hl.nonce), ?_⟩
  · cases hstate
    exact hcb
  · rw [hl.sent]
    exact List.mem_append_left _ (.tail _ (.head _))
  · intro address token hmem hsuccessful
    rw [hl.sent] at hmem
    obtain hnone | ⟨_, _, _, heq⟩ := hl.userinfo
    · simp [hnone] at hmem
    · exact heq hsuccessful (isNull_claimOf hsub)

/-- Whatever the requests of a browser were and whatever the provider answered: the identity of
the session changes only at a logout, which removes it, and at a callback that succeeds, which
rests on the flow of a login nobody has taken. A callback that fails leaves it alone. -/
theorem identity_rests_on_login (hsound : rt.pyjwt.Sound Signed) (hchecks : rt.pyjwt.Checks)
    {start : Session} (hstart : start.lookup rp.flowKey = none) (requests : List HttpRequest)
    (r : HttpRequest) (hgenuine : Genuine rt host rp (sessionAfter host rp start requests) r) :
    let before := (sessionAfter host rp start requests).lookup rp.sessionKey
    let reply := serve host rp (sessionAfter host rp start requests) r
    let after := reply.session.lookup rp.sessionKey
    (after ≠ before → r = .logout ∧ after = none ∨
      ∃ url answers redirect, r.callback? host = some (url, answers) ∧
        reply.outcome = .ok redirect) ∧
    (∀ url answers redirect, r.callback? host = some (url, answers) →
      reply.outcome = .ok redirect → ∃ identity secrets l, after = some identity ∧
        Authenticated host rp rt Signed start requests url answers reply.sent identity secrets l) ∧
    (∀ url answers e, r.callback? host = some (url, answers) → reply.outcome = .error e →
      after = before) ∧
    (before ≠ none → after = none → r = .logout) := by
  intro before reply after
  have hsucceeded : ∀ url answers redirect, r.callback? host = some (url, answers) →
      reply.outcome = .ok redirect → ∃ identity secrets l, after = some identity ∧
        Authenticated host rp rt Signed start requests url answers reply.sent identity secrets l :=
    fun _ _ _ hr hok => authenticated_of_callback hsound hchecks hstart hgenuine hr hok
  have hfailed : ∀ url answers e, r.callback? host = some (url, answers) →
      reply.outcome = .error e → after = before := by
    intro url answers e hr he
    simp only [after, reply, serve_callback hr] at he ⊢
    exact callback_error he
  have hchanged : after ≠ before → r = .logout ∧ after = none ∨
      ∃ url answers redirect, r.callback? host = some (url, answers) ∧
        reply.outcome = .ok redirect := by
    intro hne
    cases hr : r.callback? host with
    | none =>
        cases r with
        | login secrets answer => exact absurd (login_identity secrets answer) hne
        | logout => exact .inl ⟨rfl, logout_identity⟩
        | callback url answers => cases hr
        | callbackFormPost url body answers => cases hr
    | some called =>
        cases hout : reply.outcome with
        | ok redirect => exact .inr ⟨called.1, called.2, redirect, rfl, rfl⟩
        | error e => exact absurd (hfailed called.1 called.2 e hr hout) hne
  refine ⟨hchanged, hsucceeded, hfailed, fun hsome hnone => ?_⟩
  obtain ⟨hlogout, -⟩ | ⟨url, answers, redirect, hr, hok⟩ := hchanged (hnone ▸ hsome.symm)
  · exact hlogout
  · obtain ⟨identity, -, -, hidentity, -⟩ := hsucceeded url answers redirect hr hok
    rw [hnone] at hidentity
    cases hidentity

end Identity

def sampleRouter : Router where
  settings :=
    { discoveryUrl := "https://idp/.well-known/openid-configuration", clientId := "client"
      redirectUri := "https://app/callback", discoveryUrl_ne := by decide, clientId_ne := by decide }
  redirectUri_ne := by decide

/-- A host that knows one code challenge. -/
def sampleHost : Host where
  interpreter := ⟨Url.asciiPlatform, fun _ => .ok "", fun _ => "", fun _ => "", fun _ => .ok ()⟩
  decimal c := if c.isDigit then some (c.toNat - '0'.toNat) else none
  codeChallenge _ := "iMnq5o6zALKXGivsnlom_0F5_WYda32GHkxlV7mq7hQ"
  replaceQuery url query := url ++ "?" ++ query
  savesOnError := false

def sampleSecrets : Secrets := ⟨"state", "nonce", "verifier"⟩

def sampleDiscovery : HttpAnswer :=
  .response
    { statusCode := 200, contentType := some "application/json", cacheControl := none
      url := some "https://idp/.well-known/openid-configuration", content := ""
      body := .ok (.obj [("issuer", .str "https://idp"), ("jwks_uri", .str "https://idp/jwks"),
        ("authorization_endpoint", .str "https://idp/authorize"),
        ("token_endpoint", .str "https://idp/token"),
        ("userinfo_endpoint", .str "https://idp/userinfo"),
        ("response_types_supported", .arr [.str "code"]),
        ("subject_types_supported", .arr [.str "public"]),
        ("id_token_signing_alg_values_supported", .arr [.str "RS256"])]) }

/-- The claims of the ID token. -/
def sampleClaims : Claims :=
  AList.insert "iss" (.str "https://idp") <| AList.insert "aud" (.str "client") <|
    AList.insert "sub" (.str "alice") <| AList.insert "nonce" (.str "nonce") <|
    AList.insert "iat" (.num ⟨false, [1], [], none, Number.one_nonempty, Number.one_noLeadingZero⟩) <|
    AList.insert "exp" (.num ⟨false, [9], [], none, by decide, by decide⟩) ∅

def sampleAnswers : Answers where
  discovery := sampleDiscovery
  token := { isSuccessful := true
             token := .obj [("id_token", .str "token"), ("access_token", .str "access")] }
  validation := .ok sampleClaims
  notAString := .other ""
  userinfo := { isSuccessful := true, claims := .obj [("sub", .str "alice")] }

/-- A process that decodes the ID token under the key and the settings it was made for. -/
def loginRuntime : Runtime where
  env := (sampleRuntime .aio).env
  pyjwt :=
    { header := fun _ => .ok ⟨some "k1", some (.str "RS256")⟩
      decode := fun _ args =>
        if args.key.kid = some "k1" ∧ args.algorithms = ["RS256"] ∧
            args.issuer = some (.one "https://idp") ∧ args.audience = some "client" ∧
            args.required = ["sub", "iat", "exp"] then
          .ok sampleClaims
        else .error (.invalidSignature "")
      str := fun _ => "" }
  flavour := .aio
  hashUri _ := 0
  hashKey _ := 0

theorem loginRuntime_decode {now : ℚ} {args : DecodeArgs} {claims : Claims}
    (h : loginRuntime.pyjwt.decode now args = .ok claims) :
    claims = sampleClaims ∧ args.key.kid = some "k1" ∧ args.algorithms = ["RS256"] ∧
      args.issuer = some (.one "https://idp") ∧ args.audience = some "client" ∧
      args.required = ["sub", "iat", "exp"] := by
  simp only [loginRuntime] at h
  split at h
  · rename_i hcond
    cases h
    exact ⟨rfl, hcond⟩
  · cases h

theorem loginRuntime_sound : loginRuntime.pyjwt.Sound SignedByK1 where
  header := by
    intro now args a claims _ ha hd header hh
    obtain ⟨-, -, halgorithms, -⟩ := loginRuntime_decode hd
    cases halgorithms.symm.trans ha
    cases hh
    rfl
  signed := by
    intro now args a claims _ ha hd
    obtain ⟨-, hkid, halgorithms, -⟩ := loginRuntime_decode hd
    cases halgorithms.symm.trans ha
    exact ⟨hkid, rfl⟩
  issuer := by
    intro now args i claims _ hi _ hd
    obtain ⟨rfl, -, -, hissuer, -⟩ := loginRuntime_decode hd
    cases hissuer.symm.trans hi
    exact ⟨"https://idp", List.mem_singleton.mpr rfl, rfl⟩

theorem loginRuntime_checks : loginRuntime.pyjwt.Checks where
  audience := by
    intro now args a claims _ ha _ hd
    obtain ⟨rfl, -, -, -, haudience, -⟩ := loginRuntime_decode hd
    cases haudience.symm.trans ha
    exact .inl rfl
  required := by
    intro now args claims _ hd name hname
    obtain ⟨rfl, -, -, -, -, hrequired⟩ := loginRuntime_decode hd
    simp only [hrequired, List.mem_cons, List.not_mem_nil, or_false] at hname
    obtain rfl | rfl | rfl := hname
    · exact ⟨_, rfl, by simp⟩
    · exact ⟨_, rfl, by simp⟩
    · exact ⟨_, rfl, by simp⟩

/-- A validation of the ID token on empty caches. -/
def loginRun : List Label :=
  [.spawn (.validateToken "token" (sampleRouter.idTokenConfig (.one "https://idp"))
      (some sampleRouter.settings.discoveryUrl))] ++
    runsAt 0 0 3 ++ [.move 0 ⟨0, .discovery sampleAnswer⟩] ++ runsAt 0 0 4 ++
    [oneKeyAnswer 0 0 "k1"] ++ runsAt 0 0 1

theorem loginRun_returned :
    Returned loginRuntime "token" (sampleRouter.idTokenConfig (.one "https://idp"))
      sampleRouter.settings.discoveryUrl (.ok sampleClaims) := by
  have htasks : (run loginRuntime initial loginRun).map (fun s => s.tasks) =
      some [.token ⟨"token", sampleRouter.idTokenConfig (.one "https://idp"),
        sampleRouter.settings.discoveryUrl, {}⟩ (.done (.ok sampleClaims))] := rfl
  obtain ⟨s, hrun, hs⟩ := Option.map_eq_some_iff.mp htasks
  exact ⟨loginRun, s, _, hrun, by rw [hs]; exact List.mem_singleton.mpr rfl, rfl, rfl, rfl⟩

def sampleLogin : HttpRequest := .login sampleSecrets sampleDiscovery

def sampleCallback : HttpRequest := .callback "https://app/callback?code=c&state=state" sampleAnswers

/-- The login leaves its entry in the session. -/
theorem sampleLogin_session :
    sessionAfter sampleHost sampleRouter ∅ [sampleLogin] =
      AList.insert sampleRouter.flowKey sampleSecrets.flow ∅ :=
  AList.ext (by decide +kernel)

/-- The callback asks for everything there is, takes the entry and sends the browser on. -/
theorem sampleCallback_reply :
    ∃ session, serve sampleHost sampleRouter
        (sessionAfter sampleHost sampleRouter ∅ [sampleLogin]) sampleCallback =
      ⟨session, [.discovery sampleRouter.settings.discoveryUrl,
        .exchange ⟨.str "https://idp/token", "client", "c", "https://app/callback",
          .str "verifier", none⟩,
        .validateToken "token" (sampleRouter.idTokenConfig (.one "https://idp"))
          sampleRouter.settings.discoveryUrl,
        .userinfo (.str "https://idp/userinfo") (.str "access")], .ok ⟨"/", 302⟩⟩ ∧
      session.lookup sampleRouter.flowKey = none := by
  rw [sampleLogin_session]
  exact ⟨_, rfl, rfl⟩

theorem sampleCallback_genuine :
    Genuine loginRuntime sampleHost sampleRouter
      (sessionAfter sampleHost sampleRouter ∅ [sampleLogin]) sampleCallback := by
  intro url answers hr jwt config address hasked
  cases hr
  obtain ⟨session, hreply, -⟩ := sampleCallback_reply
  simp only [hreply, List.mem_cons, List.not_mem_nil, reduceCtorEq, false_or, or_false,
    Sent.validateToken.injEq] at hasked
  obtain ⟨rfl, rfl, rfl⟩ := hasked
  exact loginRun_returned

theorem identity_rests_on_login_sample :
    ∃ identity secrets l,
      (serve sampleHost sampleRouter (sessionAfter sampleHost sampleRouter ∅ [sampleLogin])
        sampleCallback).session.lookup sampleRouter.sessionKey = some identity ∧
      Authenticated sampleHost sampleRouter loginRuntime SignedByK1 ∅ [sampleLogin]
        "https://app/callback?code=c&state=state" sampleAnswers
        (serve sampleHost sampleRouter (sessionAfter sampleHost sampleRouter ∅ [sampleLogin])
          sampleCallback).sent identity secrets l := by
  obtain ⟨-, hsucceeded, -⟩ := identity_rests_on_login loginRuntime_sound loginRuntime_checks rfl
    [sampleLogin] sampleCallback sampleCallback_genuine
  obtain ⟨session, hreply, -⟩ := sampleCallback_reply
  exact hsucceeded _ _ ⟨"/", 302⟩ rfl (by rw [hreply])

end IdentityModel.Py.Rp
