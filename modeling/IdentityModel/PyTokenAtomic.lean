import IdentityModel.PyTokenManager

/-!
# A refresh that fails

One call of `get_access_token` with no other call on the manager in between. Where it raises, the
manager has kept what it stored, unless the answer's `expires_in` is what it raises about: the new
pair is stored by then.
-/
namespace IdentityModel.Py

open Tasks

/-- What one call meets: the clock at its two checks and when it stores, and the answers of the two
endpoints. -/
structure Encounter where
  first : Datetime
  second : Datetime
  stored : Datetime
  disco : DiscoveryResult
  response : RefreshTokenResponse

/-- A call of `get_access_token` from its beginning through all it meets. -/
def TokenState.alone (s : TokenState) (a : Encounter) : TokenState × TokenPhase :=
  let begun := s.begin (.getAccessToken a.first)
  let acquired := (tokenMove begun.1 begun.2 (.acquired a.second)).getD begun
  let resolved := (tokenMove acquired.1 acquired.2 (.resolved a.disco)).getD acquired
  (tokenMove resolved.1 resolved.2 (.answered a.response a.stored)).getD resolved

/-- The `PyIdentityModelException`s. -/
def TokenError.isIdentityModel : TokenError → Bool
  | .identityModel _ => true
  | .successfulResponseAccess => true
  | _ => false

/-- Access token, refresh token and expiry are the same. -/
structure TokenManager.SameTokens (m m' : TokenManager) : Prop where
  accessToken : m'.accessToken = m.accessToken
  refreshToken : m'.refreshToken = m.refreshToken
  expiresAt : m'.expiresAt = m.expiresAt

/-- Where the call raises, it leaves the tokens as they were and raises an exception of the
library. -/
def FailsAtomically (s : TokenState) (a : Encounter) : Prop :=
  ∀ w e, s.alone a = (w, .done (.error e)) →
    s.manager.SameTokens w.manager ∧ e.isIdentityModel = true

/-- The time a stored token is due can be worked out, if it matters. -/
def TokenManager.DueInRange (m : TokenManager) : Prop :=
  isTruthy m.accessToken = true → ∀ t, m.expiresAt = some t →
    ∃ due : Datetime, due.val = t.val - m.settings.refreshBeforeSeconds * 1000000

/-- The call finds no token it can return, and a refresh token. -/
structure TokenManager.Refreshes (m : TokenManager) (a : Encounter) : Prop where
  first : m.usable a.first = .ok false
  second : m.usable a.second = .ok false
  refreshToken : isTruthy m.refreshToken = true

/-- Discovery names an endpoint, and its answer has an access token. -/
structure Encounter.Granted (a : Encounter) : Prop where
  discovered : a.disco.isSuccessful = true
  endpoint : isTruthy (a.disco.get "token_endpoint") = true
  answered : a.response.isSuccessful = true
  accessToken : isTruthy (a.response.token.get "access_token") = true

/-- There is no `expires_in`, or it is a number of seconds whose sum with the clock is an instant. -/
def IsLifetime (expiresIn : Json) (now : Datetime) : Prop :=
  expiresIn = .null ∨ ∃ secs d, TokenManager.seconds expiresIn = some secs ∧
    Timedelta.micros secs = some d ∧ ∃ t : Datetime, t.val = now.val + d

namespace TokenManager

variable {m : TokenManager} {now : Datetime}

theorem usable_of_range (h : m.DueInRange) (now : Datetime) : ∃ b, m.usable now = .ok b := by
  unfold usable
  by_cases haccess : isTruthy m.accessToken = true
  · rw [if_pos haccess, isTokenExpired]
    cases hexpires : m.expiresAt with
    | none => exact ⟨_, rfl⟩
    | some t =>
        obtain ⟨due, hdue⟩ := h haccess t hexpires
        dsimp only
        rw [Datetime.sub_seconds.mpr hdue]
        exact ⟨_, rfl⟩
  · rw [if_neg haccess]
    exact ⟨_, rfl⟩

/-- Out of range, each check overflows. -/
theorem usable_of_not_range (h : ¬ m.DueInRange) : m.usable now = .error .overflowError := by
  unfold DueInRange at h
  push Not at h
  obtain ⟨haccess, t, hexpires, hrange⟩ := h
  rw [usable, if_pos haccess, isTokenExpired, hexpires]
  dsimp only
  cases hdue : (Timedelta.ofSeconds (.finite m.settings.refreshBeforeSeconds)).bind t.sub with
  | none => rfl
  | some due => exact absurd (Datetime.sub_seconds.mp hdue) (hrange due)

theorem resolveTokenEndpoint_ok {disco : DiscoveryResult} (hsuccess : disco.isSuccessful = true)
    (hendpoint : isTruthy (disco.get "token_endpoint") = true) :
    resolveTokenEndpoint disco = .ok (disco.get "token_endpoint") := by
  simp [resolveTokenEndpoint, hsuccess, hendpoint]

/-- Otherwise it raises an exception of the library. -/
theorem resolveTokenEndpoint_error {disco : DiscoveryResult}
    (h : ¬(disco.isSuccessful = true ∧ isTruthy (disco.get "token_endpoint") = true)) :
    ∃ e, resolveTokenEndpoint disco = .error e ∧ e.isIdentityModel = true := by
  unfold resolveTokenEndpoint
  by_cases hsuccess : disco.isSuccessful = true
  · have hendpoint : isTruthy (disco.get "token_endpoint") = false := by
      by_contra hendpoint
      exact h ⟨hsuccess, by simpa using hendpoint⟩
    simp only [hsuccess, hendpoint, Bool.not_true, Bool.false_eq_true, if_false, Bool.not_false, if_true]
    exact ⟨_, rfl, rfl⟩
  · simp only [hsuccess, Bool.not_false, if_true]
    exact ⟨_, rfl, rfl⟩

theorem grantedTokens_ok {response : RefreshTokenResponse} {members : List (String × Json)}
    (htoken : response.token = .obj members) (hsuccess : response.isSuccessful = true)
    (haccess : isTruthy (response.token.get "access_token") = true) :
    grantedTokens response = .ok response.token := by
  have htruthy : isTruthy response.token = true := by
    rw [htoken] at haccess ⊢
    cases members with
    | nil => cases haccess
    | cons member members => rfl
  rw [grantedTokens, hsuccess, htruthy, htoken]
  rw [htoken] at haccess
  simp [haccess]

/-- Otherwise it raises an exception of the library. -/
theorem grantedTokens_error {response : RefreshTokenResponse}
    (htoken : response.isSuccessful = true → ∃ members, response.token = .obj members)
    (h : ¬(response.isSuccessful = true ∧ isTruthy (response.token.get "access_token") = true)) :
    ∃ e, grantedTokens response = .error e ∧ e.isIdentityModel = true := by
  unfold grantedTokens
  by_cases hsuccess : response.isSuccessful = true
  · obtain ⟨members, hmembers⟩ := htoken hsuccess
    have haccess : isTruthy ((Json.obj members).get "access_token") = false := by
      by_contra haccess
      exact h ⟨hsuccess, by rw [hmembers]; simpa using haccess⟩
    rw [hmembers, hsuccess]
    simp only [haccess, Bool.not_true, Bool.false_eq_true, if_false]
    split_ifs <;> exact ⟨_, rfl, rfl⟩
  · simp only [hsuccess, Bool.not_false, if_true]
    exact ⟨_, rfl, rfl⟩

theorem expiry_of_lifetime {expiresIn : Json} (h : IsLifetime expiresIn now) :
    ∃ o, expiry expiresIn now = .ok o := by
  obtain rfl | ⟨secs, d, hsecs, hmicros, t, ht⟩ := h
  · exact ⟨none, rfl⟩
  · have hadd := Datetime.add_seconds.mpr ⟨d, hmicros, ht⟩
    cases expiresIn with
    | null => exact ⟨none, rfl⟩
    | _ => exact ⟨some t, by simp only [expiry, hsecs, hadd]⟩

/-- Any other expiry raises an exception of the language. -/
theorem expiry_of_not_lifetime {expiresIn : Json} (h : ¬ IsLifetime expiresIn now) :
    ∃ e, expiry expiresIn now = .error e ∧ e.isIdentityModel = false := by
  have hnull : expiresIn ≠ .null := fun hnull => h (.inl hnull)
  have hsum : ∀ secs, seconds expiresIn = some secs → (Timedelta.ofSeconds secs).bind now.add = none := by
    intro secs hsecs
    cases hadd : (Timedelta.ofSeconds secs).bind now.add with
    | none => rfl
    | some t =>
        obtain ⟨d, hmicros, ht⟩ := Datetime.add_seconds.mp hadd
        exact absurd (.inr ⟨secs, d, hsecs, hmicros, t, ht⟩) h
  unfold expiry
  split
  · exact absurd rfl hnull
  · split
    · exact ⟨_, rfl, rfl⟩
    · rename_i secs hsecs
      rw [hsum secs hsecs]
      exact ⟨_, rfl, rfl⟩

end TokenManager

section Alone

variable {s : TokenState} {a : Encounter}

theorem alone_of_begun {w : TokenState} {r : Except TokenError Json}
    (hbegin : s.begin (.getAccessToken a.first) = (w, .done r)) : s.alone a = (w, .done r) := by
  rw [TokenState.alone, hbegin]
  rfl

/-- The call waits for the lock, which is free. -/
theorem alone_of_due (hfree : s.locked = false) (hfirst : s.manager.usable a.first = .ok false) :
    s.alone a =
      let resolved := (tokenMove (s.acquire a.second).1 (s.acquire a.second).2
        (.resolved a.disco)).getD (s.acquire a.second)
      (tokenMove resolved.1 resolved.2 (.answered a.response a.stored)).getD resolved := by
  have hbegin : s.begin (.getAccessToken a.first) = (s, .waiting) := by
    simp only [TokenState.begin, hfirst]
  have hacquire : tokenMove s .waiting (.acquired a.second) = some (s.acquire a.second) := by
    simp [tokenMove, hfree]
  rw [TokenState.alone, hbegin]
  simp only [hacquire, Option.getD_some]

theorem alone_of_acquired {w : TokenState} {r : Except TokenError Json} (hfree : s.locked = false)
    (hfirst : s.manager.usable a.first = .ok false) (hacquire : s.acquire a.second = (w, .done r)) :
    s.alone a = (w, .done r) := by
  rw [alone_of_due hfree hfirst, hacquire]
  rfl

/-- The lock is taken: what remains is to send the grant and to store its answer. -/
theorem alone_of_refresh (hfree : s.locked = false) (h : s.manager.Refreshes a) :
    s.alone a =
      let sent := { s with locked := true }.send s.log.length a.disco
      (tokenMove sent.1 sent.2 (.answered a.response a.stored)).getD sent := by
  have hacquire : s.acquire a.second = ({ s with locked := true }, .resolving s.log.length) := by
    simp only [TokenState.acquire, h.second, h.refreshToken, Bool.not_true, Bool.false_eq_true, if_false]
  rw [alone_of_due hfree h.first, hacquire]
  rfl

theorem alone_unresolved {e : TokenError} (hfree : s.locked = false) (h : s.manager.Refreshes a)
    (herror : TokenManager.resolveTokenEndpoint a.disco = .error e) :
    s.alone a = ({ s with locked := false }, .done (.error e)) := by
  rw [alone_of_refresh hfree h]
  simp only [TokenState.send, herror]
  rfl

/-- The grant is sent: what remains is to store its answer. -/
theorem alone_of_sent {endpoint : Json} (hfree : s.locked = false) (h : s.manager.Refreshes a)
    (hendpoint : TokenManager.resolveTokenEndpoint a.disco = .ok endpoint) :
    ∃ (w : TokenState) (start : ℕ) (request : RefreshTokenRequest), w.manager = s.manager ∧
      s.alone a = w.finish start request a.response a.stored := by
  rw [alone_of_refresh hfree h]
  simp only [TokenState.send, hendpoint]
  exact ⟨⟨s.manager, true, .sent (s.manager.refreshRequest endpoint) :: s.log⟩, _, _, rfl, rfl⟩

/-- A call that does not get as far as a granted answer fails atomically. -/
theorem failsAtomically_of_not_granted (hfree : s.locked = false)
    (hobject : a.response.isSuccessful = true → ∃ members, a.response.token = .obj members)
    (hrange : s.manager.DueInRange) (h : ¬(s.manager.Refreshes a ∧ a.Granted)) :
    FailsAtomically s a := by
  intro w e halone
  have hsame (w : TokenState) (hw : w.manager = s.manager) : s.manager.SameTokens w.manager := by
    rw [hw]
    exact ⟨rfl, rfl, rfl⟩
  obtain ⟨first, hfirst⟩ := TokenManager.usable_of_range hrange a.first
  cases first with
  | true =>
      have hbegin : s.begin (.getAccessToken a.first) = (s, .done (.ok s.manager.accessToken)) := by
        simp only [TokenState.begin, hfirst]
      rw [alone_of_begun hbegin] at halone
      cases halone
  | false =>
      obtain ⟨second, hsecond⟩ := TokenManager.usable_of_range hrange a.second
      cases second with
      | true =>
          have hacquire : s.acquire a.second = (s, .done (.ok s.manager.accessToken)) := by
            simp only [TokenState.acquire, hsecond]
          rw [alone_of_acquired hfree hfirst hacquire] at halone
          cases halone
      | false =>
          cases htoken : isTruthy s.manager.refreshToken with
          | false =>
              have hacquire : s.acquire a.second =
                  (s, .done (.error (.identityModel "Token expired and no refresh token available"))) := by
                simp only [TokenState.acquire, hsecond, htoken, Bool.not_false, if_true]
              rw [alone_of_acquired hfree hfirst hacquire] at halone
              cases halone
              exact ⟨hsame s rfl, rfl⟩
          | true =>
              have hrefreshes : s.manager.Refreshes a := ⟨hfirst, hsecond, htoken⟩
              by_cases hdisco : a.disco.isSuccessful = true ∧
                  isTruthy (a.disco.get "token_endpoint") = true
              · obtain ⟨w', start, request, hw', hsent⟩ := alone_of_sent hfree hrefreshes
                  (TokenManager.resolveTokenEndpoint_ok hdisco.1 hdisco.2)
                have hrefused : ¬(a.response.isSuccessful = true ∧
                    isTruthy (a.response.token.get "access_token") = true) := fun hanswer =>
                  h ⟨hrefreshes, ⟨hdisco.1, hdisco.2, hanswer.1, hanswer.2⟩⟩
                obtain ⟨e', herror, hkind⟩ := TokenManager.grantedTokens_error hobject hrefused
                rw [hsent] at halone
                simp only [TokenState.finish, herror] at halone
                cases halone
                exact ⟨hsame _ hw', hkind⟩
              · obtain ⟨e', herror, hkind⟩ := TokenManager.resolveTokenEndpoint_error hdisco
                rw [alone_unresolved hfree hrefreshes herror] at halone
                cases halone
                exact ⟨hsame _ rfl, hkind⟩

/-- A granted answer is stored, and what that raises the call raises. -/
theorem alone_of_granted (hfree : s.locked = false)
    (hobject : a.response.isSuccessful = true → ∃ members, a.response.token = .obj members)
    (h : s.manager.Refreshes a) (hgranted : a.Granted) :
    ∃ w, s.alone a = (w, .done ((TokenManager.expiry (a.response.token.get "expires_in") a.stored).map
      fun _ => a.response.token.get "access_token")) := by
  obtain ⟨members, htoken⟩ := hobject hgranted.answered
  obtain ⟨w, start, request, -, hsent⟩ := alone_of_sent hfree h
    (TokenManager.resolveTokenEndpoint_ok hgranted.discovered hgranted.endpoint)
  have htokens := TokenManager.grantedTokens_ok htoken hgranted.answered hgranted.accessToken
  rw [hsent]
  simp only [TokenState.finish, htokens, TokenManager.storeGranted_accessToken]
  rw [TokenManager.storeGranted, TokenManager.setTokens]
  cases TokenManager.expiry (a.response.token.get "expires_in") a.stored <;> exact ⟨_, rfl⟩

end Alone

/-- A call alone fails atomically if and only if the time its stored token is due is in range, and an
answer it comes to store has a lifetime that can be added to the clock. -/
theorem fails_atomically_iff (s : TokenState) (a : Encounter) (hfree : s.locked = false)
    (hobject : a.response.isSuccessful = true → ∃ members, a.response.token = .obj members) :
    FailsAtomically s a ↔ s.manager.DueInRange ∧
      (s.manager.Refreshes a → a.Granted →
        IsLifetime (a.response.token.get "expires_in") a.stored) := by
  constructor
  · intro h
    constructor
    · by_contra hrange
      have hbegin : s.begin (.getAccessToken a.first) = (s, .done (.error .overflowError)) := by
        simp only [TokenState.begin, TokenManager.usable_of_not_range hrange]
      have hkind := (h s .overflowError (alone_of_begun hbegin)).2
      cases hkind
    · intro hrefreshes hgranted
      by_contra hlifetime
      obtain ⟨e, herror, hkind⟩ := TokenManager.expiry_of_not_lifetime hlifetime
      obtain ⟨w, halone⟩ := alone_of_granted hfree hobject hrefreshes hgranted
      rw [herror] at halone
      rw [(h w e halone).2] at hkind
      cases hkind
  · rintro ⟨hrange, hlifetime⟩
    by_cases hgranted : s.manager.Refreshes a ∧ a.Granted
    · obtain ⟨o, hexpiry⟩ := TokenManager.expiry_of_lifetime (hlifetime hgranted.1 hgranted.2)
      obtain ⟨w, halone⟩ := alone_of_granted hfree hobject hgranted.1 hgranted.2
      intro w' e herror
      rw [halone, hexpiry] at herror
      cases herror
    · exact failsAtomically_of_not_granted hfree hobject hrange hgranted

/-- A manager with a refresh token only, and an answer that grants a pair with this lifetime. -/
def refreshState : TokenState where
  manager := { settings := tokenSettings, refreshToken := .str "old" }

def grantWith (expiresIn : Json) : Encounter where
  first := tokenNoon
  second := tokenNoon
  stored := tokenNoon
  disco := tokenDocument
  response := ⟨true, .obj [("access_token", .str "new"), ("refresh_token", .str "fresh"),
    ("expires_in", expiresIn)], none⟩

/-- A manager with a token that is due. -/
def dueState : TokenState where
  manager :=
    { settings := tokenSettings
      accessToken := .str "stale"
      refreshToken := .str "old"
      expiresAt := some tokenNoon }

/-- The token endpoint has revoked the refresh token. -/
def refusedGrant : Encounter :=
  { grantWith .null with response := ⟨false, .null, some "invalid_grant"⟩ }

theorem fails_atomically_iff_sample :
    FailsAtomically dueState refusedGrant ∧
      ∃ w, dueState.alone refusedGrant =
        (w, .done (.error (.identityModel "Token refresh failed: invalid_grant"))) := by
  have husable : dueState.manager.usable tokenNoon = .ok false := by decide +kernel
  have hrefreshes : dueState.manager.Refreshes refusedGrant := ⟨husable, husable, rfl⟩
  refine ⟨(fails_atomically_iff dueState refusedGrant rfl ?_).mpr ⟨?_, ?_⟩,
    ⟨_, (alone_of_refresh rfl hrefreshes).trans rfl⟩⟩
  · intro hsuccess
    cases hsuccess
  · rintro - t ht
    obtain rfl := Option.some.inj ht
    exact ⟨⟨63902865300000000, by decide⟩, rfl⟩
  · intro _ hgranted
    cases hgranted.answered

/-- A lifetime in quotes is raised about when the new pair is stored. -/
theorem quoted_lifetime_stores :
    ∃ w e, refreshState.alone (grantWith (.str "3600")) = (w, .done (.error e)) ∧
      w.manager.accessToken = .str "new" ∧ w.manager.refreshToken = .str "fresh" ∧
      e = .typeError "unsupported type for timedelta seconds component: str" ∧
      ¬ FailsAtomically refreshState (grantWith (.str "3600")) := by
  refine ⟨_, _, rfl, rfl, rfl, rfl, fun h => ?_⟩
  have hkind := (h _ _ rfl).2
  cases hkind

end IdentityModel.Py
