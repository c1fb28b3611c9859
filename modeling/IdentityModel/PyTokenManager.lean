import IdentityModel.PyDatetime
import IdentityModel.PyRelyingParty
import IdentityModel.Tasks

/-!
# The token manager

`fastapi_identity_model/token_manager.py` on one event loop. A call runs without a
break up to its next `await`: `set_tokens` does so to its end, `get_access_token`
may wait for the refresh lock, for the discovery document and for the answer of the
token endpoint. A step carries what the clock reads and what was answered. The log,
which the code does not keep, says what was stored and which grants were sent.
-/
namespace IdentityModel.Py

open Tasks

/-- The exceptions of the token manager: a `PyIdentityModelException`, the
`SuccessfulResponseAccessError` derived from it, and those of the language. -/
inductive TokenError
  | identityModel (message : String)
  | successfulResponseAccess
  | attributeError (message : String)
  | typeError (message : String)
  | overflowError
  deriving DecidableEq, Repr

structure RefreshTokenRequest where
  address : Json
  clientId : String
  refreshToken : Json
  clientSecret : Option String

structure RefreshTokenResponse where
  isSuccessful : Bool
  token : Json := .null
  error : Option String := none

/-- What a token manager is made with. -/
structure TokenSettings where
  discoveryUrl : String
  clientId : String
  clientSecret : Option String := none
  refreshBeforeSeconds : ℤ := 300

structure TokenManager where
  settings : TokenSettings
  accessToken : Json := .null
  refreshToken : Json := .null
  expiresAt : Option Datetime := none

namespace TokenManager

/-- The number of seconds a value stands for in `timedelta`. -/
def seconds : Json → Option Float64
  | .num n => some (pyNumber n)
  | .bool b => some (.finite (if b then 1 else 0))
  | _ => none

/-- `datetime.now(UTC) + timedelta(seconds=expires_in)`, if there is a number. -/
def expiry (expiresIn : Json) (now : Datetime) : Except TokenError (Option Datetime) :=
  match expiresIn with
  | .null => .ok none
  | j =>
      match seconds j with
      | none =>
          .error (.typeError ("unsupported type for timedelta seconds component: " ++ typeName j))
      | some secs =>
          match (Timedelta.ofSeconds secs).bind now.add with
          | none => .error .overflowError
          | some t => .ok (some t)

/-- The pair is stored before the expiry is worked out. -/
def storePair (m : TokenManager) (access refresh : Json) : TokenManager :=
  { m with accessToken := access, refreshToken := refresh }

/-- `set_tokens`: the manager it leaves and how it ends. -/
def setTokens (m : TokenManager) (access refresh expiresIn : Json) (now : Datetime) :
    TokenManager × Except TokenError Unit :=
  match expiry expiresIn now with
  | .ok expiresAt => ({ m.storePair access refresh with expiresAt }, .ok ())
  | .error e => (m.storePair access refresh, .error e)

def isTokenExpired (m : TokenManager) (now : Datetime) : Except TokenError Bool :=
  match m.expiresAt with
  | none => .ok false
  | some expiresAt =>
      match (Timedelta.ofSeconds (.finite m.settings.refreshBeforeSeconds)).bind expiresAt.sub with
      | none => .error .overflowError
      | some due => .ok (decide (due.val ≤ now.val))

/-- `self._access_token and not self.is_token_expired()`. -/
def usable (m : TokenManager) (now : Datetime) : Except TokenError Bool :=
  if isTruthy m.accessToken then (m.isTokenExpired now).map not else .ok false

/-- `_resolve_token_endpoint`, with the discovery document's answer. -/
def resolveTokenEndpoint (disco : DiscoveryResult) : Except TokenError Json :=
  if !disco.isSuccessful then
    .error (.identityModel ("Discovery failed while refreshing token: " ++
      (truthy disco.error).getD "no token endpoint"))
  else if !isTruthy (disco.get "token_endpoint") then .error .successfulResponseAccess
  else .ok (disco.get "token_endpoint")

def refreshRequest (m : TokenManager) (endpoint : Json) : RefreshTokenRequest :=
  ⟨endpoint, m.settings.clientId, m.refreshToken, m.settings.clientSecret⟩

/-- The members of a successful answer with an access token. -/
def grantedTokens (response : RefreshTokenResponse) : Except TokenError Json :=
  if !response.isSuccessful then
    .error (.identityModel ("Token refresh failed: " ++
      (truthy response.error).getD "no token in response"))
  else if !isTruthy response.token then .error .successfulResponseAccess
  else
    match response.token with
    | .obj members =>
        if isTruthy ((Json.obj members).get "access_token") then .ok (.obj members)
        else .error (.identityModel "Token refresh succeeded but no access token returned")
    | j => .error (.attributeError ("'" ++ typeName j ++ "' object has no attribute 'get'"))

/-- `a or b`. -/
def orElse (a b : Json) : Json := if isTruthy a then a else b

/-- The answer is stored; one without a refresh token keeps the stored one. -/
def storeGranted (m : TokenManager) (token : Json) (now : Datetime) :
    TokenManager × Except TokenError Unit :=
  m.setTokens (token.get "access_token") (orElse (token.get "refresh_token") m.refreshToken)
    (token.get "expires_in") now

end TokenManager

/-- An entry of the log: the tokens of a `set_tokens` call, a grant that was sent, or
the tokens of its answer, with the length the log had when that refresh began. -/
inductive TokenEntry
  | set (access refresh : Json)
  | sent (request : RefreshTokenRequest)
  | stored (start : ℕ) (request : RefreshTokenRequest) (token : Json)

namespace TokenEntry

def isSet : TokenEntry → Bool
  | .set _ _ => true
  | _ => false

def isSent : TokenEntry → Bool
  | .sent _ => true
  | _ => false

def isStored : TokenEntry → Bool
  | .stored _ _ _ => true
  | _ => false

end TokenEntry

/-- The manager with its refresh lock and the log, newest first. -/
structure TokenState where
  manager : TokenManager
  locked : Bool := false
  log : List TokenEntry := []

inductive TokenCall
  | setTokens (access refresh expiresIn : Json) (now : Datetime)
  | getAccessToken (now : Datetime)

/-- Where a call is: waiting for the lock, or holding it while it waits for the
discovery document or for the answer to a grant. -/
inductive TokenPhase
  | waiting
  | resolving (start : ℕ)
  | granting (start : ℕ) (request : RefreshTokenRequest)
  | done (result : Except TokenError Json)

inductive TokenEvent
  | acquired (now : Datetime)
  | resolved (disco : DiscoveryResult)
  | answered (response : RefreshTokenResponse) (now : Datetime)

namespace TokenPhase

def holds : TokenPhase → Bool
  | .resolving _ => true
  | .granting _ _ => true
  | _ => false

def isDone : TokenPhase → Bool
  | .done _ => true
  | _ => false

end TokenPhase

/-- A call up to where it first waits. -/
def TokenState.begin (s : TokenState) : TokenCall → TokenState × TokenPhase
  | .setTokens access refresh expiresIn now =>
      let r := s.manager.setTokens access refresh expiresIn now
      ({ s with manager := r.1, log := .set access refresh :: s.log },
        .done (r.2.map fun _ => .null))
  | .getAccessToken now =>
      match s.manager.usable now with
      | .error e => (s, .done (.error e))
      | .ok true => (s, .done (.ok s.manager.accessToken))
      | .ok false => (s, .waiting)

/-- The check under the lock, which is let go of unless a refresh begins. -/
def TokenState.acquire (s : TokenState) (now : Datetime) : TokenState × TokenPhase :=
  match s.manager.usable now with
  | .error e => (s, .done (.error e))
  | .ok true => (s, .done (.ok s.manager.accessToken))
  | .ok false =>
      if !isTruthy s.manager.refreshToken then
        (s, .done (.error (.identityModel "Token expired and no refresh token available")))
      else ({ s with locked := true }, .resolving s.log.length)

/-- The endpoint is known: the grant is sent with the refresh token stored now. -/
def TokenState.send (s : TokenState) (start : ℕ) (disco : DiscoveryResult) :
    TokenState × TokenPhase :=
  match TokenManager.resolveTokenEndpoint disco with
  | .error e => ({ s with locked := false }, .done (.error e))
  | .ok endpoint =>
      let request := s.manager.refreshRequest endpoint
      ({ s with log := .sent request :: s.log }, .granting start request)

/-- The grant is answered. -/
def TokenState.finish (s : TokenState) (start : ℕ) (request : RefreshTokenRequest)
    (response : RefreshTokenResponse) (now : Datetime) : TokenState × TokenPhase :=
  match TokenManager.grantedTokens response with
  | .error e => ({ s with locked := false }, .done (.error e))
  | .ok token =>
      let r := s.manager.storeGranted token now
      (⟨r.1, false, .stored start request token :: s.log⟩,
        .done (r.2.map fun _ => r.1.accessToken))

def tokenMove (s : TokenState) : TokenPhase → TokenEvent → Option (TokenState × TokenPhase)
  | .waiting, .acquired now => if s.locked then none else some (s.acquire now)
  | .resolving start, .resolved disco => some (s.send start disco)
  | .granting start request, .answered response now => some (s.finish start request response now)
  | _, _ => none

/-- The calls on one manager. -/
def tokenMachine : Machine TokenState TokenPhase TokenCall TokenEvent where
  spawn s call := some (s.begin call)
  move := tokenMove

abbrev TokenPool := Pool TokenState TokenPhase

abbrev TokenLabel := Tasks.Label TokenCall TokenEvent

/-- A manager nothing was called on. -/
def freshPool (settings : TokenSettings) : TokenPool :=
  ⟨{ manager := { settings := settings } }, []⟩

/-- A discovery document with nothing but a token endpoint. -/
def tokenDocument : DiscoveryResult where
  isSuccessful := true
  members := [("token_endpoint", .str "https://op/token")]

def tokenSettings : TokenSettings where
  discoveryUrl := "https://op"
  clientId := "app"

def tokenNoon : Datetime := ⟨63902865600000000, by decide⟩

namespace TokenManager

variable (m : TokenManager) (access refresh expiresIn : Json) (now : Datetime)

@[simp] theorem setTokens_accessToken :
    (m.setTokens access refresh expiresIn now).1.accessToken = access := by
  unfold setTokens
  split <;> rfl

@[simp] theorem setTokens_refreshToken :
    (m.setTokens access refresh expiresIn now).1.refreshToken = refresh := by
  unfold setTokens
  split <;> rfl

@[simp] theorem setTokens_settings :
    (m.setTokens access refresh expiresIn now).1.settings = m.settings := by
  unfold setTokens
  split <;> rfl

theorem setTokens_of_expiry {o : Option Datetime} (h : expiry expiresIn now = .ok o) :
    m.setTokens access refresh expiresIn now =
      ({ m.storePair access refresh with expiresAt := o }, .ok ()) := by
  simp only [setTokens, h]

variable (token : Json)

@[simp] theorem storeGranted_accessToken :
    (m.storeGranted token now).1.accessToken = token.get "access_token" :=
  setTokens_accessToken _ _ _ _ _

@[simp] theorem storeGranted_refreshToken :
    (m.storeGranted token now).1.refreshToken =
      orElse (token.get "refresh_token") m.refreshToken :=
  setTokens_refreshToken _ _ _ _ _

@[simp] theorem storeGranted_settings : (m.storeGranted token now).1.settings = m.settings :=
  setTokens_settings _ _ _ _ _

end TokenManager

namespace TokenManager

/-- A number of seconds is an expiry if the sum is an instant. -/
theorem expiry_num {n : Number} {now t : Datetime} :
    expiry (.num n) now = .ok (some t) ↔
      ∃ d, Timedelta.micros (pyNumber n) = some d ∧ t.val = now.val + d := by
  rw [← Datetime.add_seconds]
  simp only [expiry, seconds]
  cases (Timedelta.ofSeconds (pyNumber n)).bind now.add <;> simp

/-- An answer that is stored without an exception has an expiry. -/
theorem expiry_of_stored {m : TokenManager} {token : Json} {n : Number} {now : Datetime}
    (hexpires : token.get "expires_in" = .num n) (h : (m.storeGranted token now).2 = .ok ()) :
    ∃ t, expiry (.num n) now = .ok (some t) := by
  simp only [storeGranted, setTokens, hexpires] at h
  cases hexpiry : expiry (.num n) now with
  | error e => simp [hexpiry] at h
  | ok o =>
      cases o with
      | some t => exact ⟨t, rfl⟩
      | none =>
          simp only [expiry, seconds] at hexpiry
          split at hexpiry <;> cases hexpiry

/-- Granted tokens have an access token. -/
theorem access_of_granted {response : RefreshTokenResponse} {token : Json}
    (h : grantedTokens response = .ok token) : isTruthy (token.get "access_token") = true := by
  unfold grantedTokens at h
  split_ifs at h
  split at h
  · split_ifs at h with haccess
    obtain rfl := Except.ok.inj h
    exact haccess
  · cases h

/-- A token is usable while the time left is more than the margin. -/
theorem usable_eq_true {m : TokenManager} {now t : Datetime} (hm : m.expiresAt = some t)
    (haccess : isTruthy m.accessToken = true) (hbefore : 0 ≤ m.settings.refreshBeforeSeconds) :
    m.usable now = .ok true ↔ now.val + m.settings.refreshBeforeSeconds * 1000000 < t.val := by
  simp only [usable, haccess, if_true, isTokenExpired, hm]
  cases hdue : (Timedelta.ofSeconds (.finite m.settings.refreshBeforeSeconds)).bind t.sub with
  | none =>
      simp only [Except.map, reduceCtorEq, false_iff]
      intro hlt
      have hbounds := t.property
      have hnow := now.property
      have hsome : (Timedelta.ofSeconds (.finite m.settings.refreshBeforeSeconds)).bind t.sub =
          some ⟨t.val - m.settings.refreshBeforeSeconds * 1000000, by omega⟩ :=
        Datetime.sub_seconds.mpr rfl
      rw [hdue] at hsome
      cases hsome
  | some u =>
      have hu := Datetime.sub_seconds.mp hdue
      simp only [Except.map, Except.ok.injEq, Bool.not_eq_true', decide_eq_false_iff_not, hu]
      omega

end TokenManager

/-- What a move does, and when. -/
inductive TokenEffect (s : TokenState) :
    TokenPhase → TokenEvent → TokenState → TokenPhase → Prop
  | kept (now : Datetime) (free : s.locked = false) (usable : s.manager.usable now = .ok true) :
      TokenEffect s .waiting (.acquired now) s (.done (.ok s.manager.accessToken))
  | failed (now : Datetime) (e : TokenError) (free : s.locked = false)
      (due : s.manager.usable now = .ok false → isTruthy s.manager.refreshToken = false)
      (unusable : s.manager.usable now ≠ .ok true) :
      TokenEffect s .waiting (.acquired now) s (.done (.error e))
  | entered (now : Datetime) (free : s.locked = false) (due : s.manager.usable now = .ok false)
      (refreshable : isTruthy s.manager.refreshToken = true) :
      TokenEffect s .waiting (.acquired now) { s with locked := true } (.resolving s.log.length)
  | unresolved (start : ℕ) (disco : DiscoveryResult) (e : TokenError)
      (error : TokenManager.resolveTokenEndpoint disco = .error e) :
      TokenEffect s (.resolving start) (.resolved disco) { s with locked := false } (.done (.error e))
  | sent (start : ℕ) (disco : DiscoveryResult) (endpoint : Json)
      (found : TokenManager.resolveTokenEndpoint disco = .ok endpoint) :
      TokenEffect s (.resolving start) (.resolved disco)
        { s with log := .sent (s.manager.refreshRequest endpoint) :: s.log }
        (.granting start (s.manager.refreshRequest endpoint))
  | refused (start : ℕ) (request : RefreshTokenRequest) (response : RefreshTokenResponse)
      (now : Datetime) (e : TokenError) (error : TokenManager.grantedTokens response = .error e) :
      TokenEffect s (.granting start request) (.answered response now)
        { s with locked := false } (.done (.error e))
  | stored (start : ℕ) (request : RefreshTokenRequest) (response : RefreshTokenResponse)
      (now : Datetime) (token : Json) (granted : TokenManager.grantedTokens response = .ok token) :
      TokenEffect s (.granting start request) (.answered response now)
        ⟨(s.manager.storeGranted token now).1, false, .stored start request token :: s.log⟩
        (.done ((s.manager.storeGranted token now).2.map fun _ => token.get "access_token"))

variable {s w : TokenState} {x x' : TokenPhase} {e : TokenEvent}

theorem acquire_effect {now : Datetime} (hfree : s.locked = false) (h : s.acquire now = (w, x')) :
    TokenEffect s .waiting (.acquired now) w x' := by
  unfold TokenState.acquire at h
  split at h
  · rename_i e he
    cases h
    exact .failed now e hfree (by simp [he]) (by simp [he])
  · rename_i husable
    cases h
    exact .kept now hfree husable
  · rename_i hdue
    split_ifs at h with htoken
    · cases h
      have hfalsy : isTruthy s.manager.refreshToken = false := by simpa using htoken
      exact .failed now _ hfree (fun _ => hfalsy) (by simp [hdue])
    · cases h
      exact .entered now hfree hdue (by simpa using htoken)

/-- A move is one of these. -/
theorem tokenMove_effect (h : tokenMove s x e = some (w, x')) : TokenEffect s x e w x' := by
  cases x with
  | waiting =>
      cases e with
      | acquired now =>
          simp only [tokenMove] at h
          split_ifs at h with hlocked
          exact acquire_effect (by simpa using hlocked) (Option.some.inj h)
      | _ => cases h
  | resolving start =>
      cases e with
      | resolved disco =>
          have hsend := Option.some.inj h
          unfold TokenState.send at hsend
          split at hsend
          · rename_i error herror
            cases hsend
            exact .unresolved start disco error herror
          · rename_i endpoint hendpoint
            cases hsend
            exact .sent start disco endpoint hendpoint
      | _ => cases h
  | granting start request =>
      cases e with
      | answered response now =>
          have hfinish := Option.some.inj h
          unfold TokenState.finish at hfinish
          split at hfinish
          · rename_i error herror
            cases hfinish
            exact .refused start request response now error herror
          · rename_i token htoken
            simp only [TokenManager.storeGranted_accessToken] at hfinish
            cases hfinish
            exact .stored start request response now token htoken
      | _ => cases h
  | done result => cases e <;> cases h

/-- A call that holds the lock is the only one that moves but for those that wait. -/
theorem TokenEffect.holds_or_free (h : TokenEffect s x e w x') :
    x.holds = true ∨ s.locked = false := by
  cases h with
  | kept _ free => exact .inr free
  | failed _ _ free => exact .inr free
  | entered _ free => exact .inr free
  | _ => exact .inl rfl

end IdentityModel.Py
