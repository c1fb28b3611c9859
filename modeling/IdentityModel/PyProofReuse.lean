import IdentityModel.PyDpop
import IdentityModel.Results

/-!
# How often a DPoP proof is sent in Python

A proof is made for a preparation of the token request, and `retry_with_backoff` sends a
prepared request as often as it retries. A proof is sent once just when neither the
request nor its answer to a challenge is retried.
-/
namespace IdentityModel.Py.Dpop

open Results

/-- An answer the decorator retries after. -/
def Answer.retryable : Answer → Bool
  | .response r => r.status = 429 || 500 ≤ r.status
  | .requestError _ => true
  | .raised _ => false

/-- The `call`th `_request_token` sends its request again after the `n`th request: retries are
configured, what came back may be retried, and the wait is survived. -/
def World.Resends (world : World) (call n : ℕ) : Prop :=
  ∃ retries, world.retryConfig call = .ok retries ∧ 0 < retries ∧
    (world.answer n).retryable = true ∧ world.pause n = none

section Loop

variable (world : World) (request : Prepared) (retries : ℤ) (attempts attempt : ℕ)
  (last : Option Exc) (sent : List Prepared)

theorem sendLoop_succ : sendLoop world request retries (attempts + 1) attempt last sent =
    match world.answer sent.length with
    | .response r =>
        if shouldRetryResponse r attempt retries then
          match world.pause sent.length with
          | some e => (.error (.other e), sent ++ [request])
          | none =>
              sendLoop world request retries attempts (attempt + 1) last (sent ++ [request])
        else ((checkNoRedirect r).map fun _ => r, sent ++ [request])
    | .requestError m =>
        if (attempt : ℤ) < retries then
          match world.pause sent.length with
          | some e => (.error (.other e), sent ++ [request])
          | none =>
              sendLoop world request retries attempts (attempt + 1) (some (.request m))
                (sent ++ [request])
        else (.error (.request m), sent ++ [request])
    | .raised m => (.error (.other m), sent ++ [request]) := rfl

/-- The loop sends nothing but the request, at least once if it runs at all. -/
theorem sendLoop_sent : ∃ k,
    (sendLoop world request retries attempts attempt last sent).2 =
      sent ++ List.replicate k request ∧ (attempts ≠ 0 → 0 < k) := by
  induction attempts generalizing attempt last sent with
  | zero => exact ⟨0, by simp [sendLoop], fun h => absurd rfl h⟩
  | succ attempts ih =>
      have hagain : ∀ last', ∃ k, (sendLoop world request retries attempts (attempt + 1) last'
          (sent ++ [request])).2 = sent ++ List.replicate k request ∧
          (attempts + 1 ≠ 0 → 0 < k) := by
        intro last'
        obtain ⟨k, hk, -⟩ := ih (attempt + 1) last' (sent ++ [request])
        refine ⟨k + 1, ?_, fun _ => Nat.succ_pos k⟩
        rw [hk, List.replicate_succ, List.append_assoc, List.singleton_append]
      have honce : ∃ k, sent ++ [request] = sent ++ List.replicate k request ∧
          (attempts + 1 ≠ 0 → 0 < k) := ⟨1, rfl, fun _ => Nat.one_pos⟩
      rw [sendLoop_succ]
      cases world.answer sent.length with
      | response r =>
          simp only
          split
          · cases world.pause sent.length with
            | none => exact hagain last
            | some e => exact honce
          · exact honce
      | requestError m =>
          simp only
          split
          · cases world.pause sent.length with
            | none => exact hagain _
            | some e => exact honce
          · exact honce
      | raised m => exact honce

/-- The first attempt is the last one unless the request is sent again. -/
theorem sendLoop_first :
    (0 < retries ∧ (world.answer sent.length).retryable = true ∧ world.pause sent.length = none ∧
      ∃ last', sendLoop world request retries (attempts + 1) 0 last sent =
        sendLoop world request retries attempts 1 last' (sent ++ [request])) ∨
    (¬ (0 < retries ∧ (world.answer sent.length).retryable = true ∧
        world.pause sent.length = none) ∧
      (sendLoop world request retries (attempts + 1) 0 last sent).2 = sent ++ [request] ∧
      ∀ r, (sendLoop world request retries (attempts + 1) 0 last sent).1 = .ok r →
        world.answer sent.length = .response r) := by
  simp only [sendLoop_succ]
  cases world.answer sent.length with
  | response r =>
      simp only [Answer.retryable, shouldRetryResponse, Nat.cast_zero]
      by_cases hretry : (decide (r.status = 429) || decide (500 ≤ r.status)) = true
      · by_cases hpos : 0 < retries
        · cases hpause : world.pause sent.length with
          | none => exact .inl ⟨hpos, hretry, rfl, last, by simp [hretry, hpos]⟩
          | some e => simp [hretry, hpos]
        · simp [hretry, hpos, map_eq_ok]
      · simp [hretry, map_eq_ok]
  | requestError m =>
      simp only [Answer.retryable, Nat.cast_zero]
      by_cases hpos : 0 < retries
      · cases hpause : world.pause sent.length with
        | none => exact .inl ⟨hpos, trivial, rfl, some (.request m), by simp [hpos]⟩
        | some e => simp [hpos]
      · simp [hpos]
  | raised m => simp [Answer.retryable]

end Loop

section Token

variable (world : World) (request : Prepared) (call : ℕ) (sent : List Prepared)

/-- One call sends nothing but its request, and sends it more than once just when it is
retried. -/
theorem requestToken_sent : ∃ k,
    (requestToken world request call sent).2 = sent ++ List.replicate k request ∧
      (1 < k ↔ world.Resends call sent.length) := by
  unfold requestToken World.Resends
  cases hconfig : world.retryConfig call with
  | error m => exact ⟨0, by simp, by simp⟩
  | ok retries =>
      simp only [Except.ok.injEq, exists_eq_left']
      cases hn : (retries + 1).toNat with
      | zero =>
          refine ⟨0, by simp [sendLoop], fun h => by omega, fun h => ?_⟩
          have hpos := h.1
          omega
      | succ attempts =>
          obtain ⟨hpos, hretry, hpause, last', hloop⟩ | ⟨hnot, hsent, -⟩ :=
            sendLoop_first world request retries attempts none sent
          · obtain ⟨k, hk, hk0⟩ :=
              sendLoop_sent world request retries attempts 1 last' (sent ++ [request])
            refine ⟨k + 1, ?_, fun _ => ⟨hpos, hretry, hpause⟩, fun _ => ?_⟩
            · rw [hloop, hk, List.replicate_succ, List.append_assoc, List.singleton_append]
            · have hsome := hk0 (by omega)
              omega
          · exact ⟨1, hsent, fun h => by omega, fun h => absurd h hnot⟩

/-- A response that was not retried is the answer to the one request. -/
theorem requestToken_once {r : Response} (hnot : ¬ world.Resends call sent.length)
    (h : (requestToken world request call sent).1 = .ok r) :
    (requestToken world request call sent).2 = sent ++ [request] ∧
      world.answer sent.length = .response r ∧
      ∃ retries, world.retryConfig call = .ok retries ∧ 0 ≤ retries := by
  unfold requestToken World.Resends at *
  cases hconfig : world.retryConfig call with
  | error m =>
      rw [hconfig] at h
      cases h
  | ok retries =>
      simp only [hconfig, Except.ok.injEq, exists_eq_left'] at h hnot ⊢
      cases hn : (retries + 1).toNat with
      | zero =>
          rw [hn] at h
          cases h
      | succ attempts =>
          rw [hn] at h
          obtain ⟨hpos, hretry, hpause, -⟩ | ⟨-, hsent, hok⟩ :=
            sendLoop_first world request retries attempts none sent
          · exact absurd ⟨hpos, hretry, hpause⟩ hnot
          · exact ⟨hsent, hok r h, by omega⟩

/-- A challenge is neither retried nor a redirect. -/
theorem requestToken_challenge {r : Response} {nonce : String} {retries : ℤ}
    (hconfig : world.retryConfig call = .ok retries) (hretries : 0 ≤ retries)
    (hanswer : world.answer sent.length = .response r)
    (hnonce : extractDpopNonce r = .ok (some nonce)) :
    requestToken world request call sent = (.ok r, sent ++ [request]) := by
  have hstatus : r.status = 400 ∨ r.status = 401 := by
    unfold extractDpopNonce at hnonce
    cases hp : present r.dpopNonce with
    | none =>
        rw [hp] at hnonce
        cases hnonce
    | some n =>
        by_contra hother
        rw [hp] at hnonce
        simp only [not_or] at hother
        simp [hother.1, hother.2] at hnonce
  obtain ⟨attempts, hn⟩ : ∃ attempts, (retries + 1).toNat = attempts + 1 := ⟨retries.toNat, by omega⟩
  have hretry : shouldRetryResponse r 0 retries = false := by
    obtain hs | hs := hstatus <;> simp [shouldRetryResponse, hs]
  have hredirect : checkNoRedirect r = .ok () := by
    obtain hs | hs := hstatus <;> simp [checkNoRedirect, hs]
  simp only [requestToken, hconfig, hn, sendLoop_succ, hanswer, hretry, hredirect,
    Bool.false_eq_true, if_false, Except.map]

end Token

/-- The `jti` of the proof a request carries. -/
def Prepared.proofJti (lib : Library) (p : Prepared) : Option String :=
  (p.headers.lookup "DPoP").bind lib.jti

/-- No two requests carry one proof. -/
def SingleUse (lib : Library) (sent : List Prepared) : Prop :=
  (sent.map (Prepared.proofJti lib)).Nodup

/-- The first answer is a challenge, and the request is prepared for it. -/
def Challenged (lib : Library) (world : World) (request : AuthorizationCodeTokenRequest) : Prop :=
  ∃ retries r nonce second, world.retryConfig 0 = .ok retries ∧ 0 ≤ retries ∧
    world.answer 0 = .response r ∧ extractDpopNonce r = .ok (some nonce) ∧
    prepareAuthCodeTokenRequestData lib (world.draw 1) request (some nonce) = .ok second

/-- If there is a request to send, neither it nor the one for a challenge is sent again. -/
def SentOnce (lib : Library) (world : World) (request : AuthorizationCodeTokenRequest)
    (managed : Bool) : Prop :=
  (∃ first, prepareAuthCodeTokenRequestData lib (world.draw 0) request none = .ok first) →
    resolveHttpClient world request.mtls managed = .ok () →
    ¬ world.Resends 0 0 ∧ (Challenged lib world request → ¬ world.Resends 1 1)

section Proofs

variable {lib : Library} {world : World} {request : AuthorizationCodeTokenRequest} {key : DpopKey}

/-- A prepared request carries the proof made for it. -/
theorem prepare_proofJti
    (hreads : ∀ key payload token, lib.encodeProof key payload = .ok token →
      lib.jti token = some payload.jti)
    (hkey : request.dpopKey = some key) {draw : Draw} {nonce : Option String} {p : Prepared}
    (h : prepareAuthCodeTokenRequestData lib draw request nonce = .ok p) :
    p.proofJti lib = some draw.proofId := by
  simp only [prepareAuthCodeTokenRequestData, bind_eq_ok, pure, Except.pure, Except.ok.injEq] at h
  obtain ⟨headers, hheaders, auth, -, rfl⟩ := h
  simp only [tokenHeaders, hkey, map_eq_ok] at hheaders
  obtain ⟨proof, hproof, rfl⟩ := hheaders
  have hjti : lib.jti proof = some draw.proofId := by
    unfold createDpopProof at hproof
    split at hproof
    · cases hproof
    · split at hproof
      · cases hproof
      · split at hproof
        · cases hproof
        · split at hproof
          · cases hproof
          · split at hproof
            · cases hproof
            · exact hreads _ _ _ (mapError_eq_ok.mp hproof)
  have hheader : List.lookup "DPoP"
      [("Content-Type", "application/x-www-form-urlencoded"), ("DPoP", proof)] = some proof := rfl
  simp only [Prepared.proofJti, List.singleton_append, hheader, Option.bind_some, hjti]

/-- Copies of two requests with proofs of their own: none carries the proof of another just
when there is at most one of each. -/
theorem singleUse_replicate {first second : Prepared}
    (hne : first.proofJti lib ≠ second.proofJti lib) (k l : ℕ) :
    SingleUse lib (List.replicate k first ++ List.replicate l second) ↔ k ≤ 1 ∧ l ≤ 1 := by
  unfold SingleUse
  rw [List.map_append, List.map_replicate, List.map_replicate, List.nodup_append,
    List.nodup_replicate, List.nodup_replicate]
  constructor
  · rintro ⟨hk, hl, -⟩
    exact ⟨hk, hl⟩
  · rintro ⟨hk, hl⟩
    refine ⟨hk, hl, ?_⟩
    intro a ha b hb
    rw [(List.mem_replicate.mp ha).2, (List.mem_replicate.mp hb).2]
    exact hne

theorem singleUse_replicate_one {first : Prepared} (k : ℕ) :
    SingleUse lib (List.replicate k first) ↔ k ≤ 1 := by
  unfold SingleUse
  rw [List.map_replicate, List.nodup_replicate]

theorem singleUse_of_resent {first : Prepared} {k : ℕ} {rest : List Prepared} (hk : 1 < k) :
    ¬ SingleUse lib (List.replicate k first ++ rest) := by
  intro hsingle
  rw [SingleUse, List.map_append, List.nodup_append] at hsingle
  rw [← SingleUse, singleUse_replicate_one] at hsingle
  omega

@[simp] theorem conclude_sent (x : Except Exc Response × List Prepared) :
    (conclude x).2 = x.2 := by
  obtain ⟨e | r, sent⟩ := x <;> rfl

/-- What the response asks for, with the request prepared for it. -/
def Demands (lib : Library) (world : World) (request : AuthorizationCodeTokenRequest) (r : Response)
    (second : Prepared) : Prop :=
  ∃ nonce, extractDpopNonce r = .ok (some nonce) ∧
    prepareAuthCodeTokenRequestData lib (world.draw 1) request (some nonce) = .ok second

/-- A challenge adds copies of the request prepared for it to what was sent. -/
theorem honorChallenge_sent (lib : Library) (world : World)
    (request : AuthorizationCodeTokenRequest) (r : Response) (sent : List Prepared) :
    ((∀ second, ¬ Demands lib world request r second) ∧
      (honorChallenge lib world request r sent).2 = sent) ∨
    ∃ second l, Demands lib world request r second ∧
      (honorChallenge lib world request r sent).2 = sent ++ List.replicate l second ∧
      (1 < l ↔ world.Resends 1 sent.length) := by
  unfold honorChallenge Demands
  cases extractDpopNonce r with
  | error e => simp
  | ok demanded =>
      cases demanded with
      | none => simp
      | some nonce =>
          cases hsecond : prepareAuthCodeTokenRequestData lib (world.draw 1) request (some nonce) with
          | error e => simp [hsecond]
          | ok second =>
              obtain ⟨l, hl, hresent⟩ := requestToken_sent world second 1 sent
              refine .inr ⟨second, l, ⟨nonce, rfl, hsecond⟩, ?_, hresent⟩
              simp only [hsecond, conclude_sent, hl]

/-- What is sent of a prepared request. -/
theorem sent_of_prepared {first : Prepared} {managed : Bool}
    (hfirst : prepareAuthCodeTokenRequestData lib (world.draw 0) request none = .ok first)
    (hclient : resolveHttpClient world request.mtls managed = .ok ())
    (hkey : request.dpopKey = some key) :
    (∃ k rest, 1 < k ∧ world.Resends 0 0 ∧
      (requestAuthorizationCodeToken lib world request managed).2 = List.replicate k first ++ rest) ∨
    (¬ world.Resends 0 0 ∧ ¬ Challenged lib world request ∧ ∃ k, k ≤ 1 ∧
      (requestAuthorizationCodeToken lib world request managed).2 = List.replicate k first) ∨
    (¬ world.Resends 0 0 ∧ Challenged lib world request ∧ ∃ nonce second l,
      prepareAuthCodeTokenRequestData lib (world.draw 1) request (some nonce) = .ok second ∧
      (1 < l ↔ world.Resends 1 1) ∧
      (requestAuthorizationCodeToken lib world request managed).2 =
        List.replicate 1 first ++ List.replicate l second) := by
  obtain ⟨k, hk, hresent⟩ := requestToken_sent world first 0 []
  have honce := @requestToken_once world first 0 []
  have hchallenge : Challenged lib world request →
      ∃ r, requestToken world first 0 [] = (.ok r, [first]) := by
    rintro ⟨retries, r, nonce, second, hconfig, hretries, hanswer, hnonce, -⟩
    exact ⟨r, requestToken_challenge world first 0 [] hconfig hretries hanswer hnonce⟩
  simp only [requestAuthorizationCodeToken, hfirst, hclient, hkey, Option.isSome_some, if_true]
  rw [List.nil_append] at hk
  generalize hcall : requestToken world first 0 [] = call at hk honce hchallenge
  obtain ⟨e | r, sent⟩ := call
  · simp only at hk
    subst hk
    by_cases hres : world.Resends 0 0
    · exact .inl ⟨k, [], hresent.mpr hres, hres, by simp⟩
    · refine .inr (.inl ⟨hres, ?_, k, ?_, rfl⟩)
      · intro hch
        obtain ⟨r, hr⟩ := hchallenge hch
        cases hr
      · by_contra hgt
        exact hres (hresent.mp (by omega))
  · simp only at hk
    subst hk
    by_cases hres : world.Resends 0 0
    · obtain ⟨-, hsent⟩ | ⟨second, l, -, hsent, -⟩ :=
        honorChallenge_sent lib world request r (List.replicate k first)
      · exact .inl ⟨k, [], hresent.mpr hres, hres, by rw [hsent, List.append_nil]⟩
      · exact .inl ⟨k, _, hresent.mpr hres, hres, hsent⟩
    · obtain ⟨hone, hanswer, retries, hconfig, hretries⟩ := honce hres rfl
      simp only [List.nil_append] at hone
      rw [hone]
      obtain ⟨hno, hsent⟩ | ⟨second, l, ⟨nonce, hnonce, hsecond⟩, hsent, hl⟩ :=
        honorChallenge_sent lib world request r [first]
      · refine .inr (.inl ⟨hres, ?_, 1, le_rfl, hsent⟩)
        rintro ⟨retries', r', nonce, second, -, -, hanswer', hnonce, hsecond⟩
        rw [List.length_nil] at hanswer
        rw [hanswer] at hanswer'
        cases hanswer'
        exact hno second ⟨nonce, hnonce, hsecond⟩
      · exact .inr (.inr ⟨hres, ⟨retries, r, nonce, second, hconfig, hretries, hanswer, hnonce,
          hsecond⟩, nonce, second, l, hsecond, hl, hsent⟩)

/-- No two requests of a call with a key carry one proof just when no request of it is sent
again. -/
theorem single_use_iff (lib : Library) (world : World) (request : AuthorizationCodeTokenRequest)
    (managed : Bool) (key : DpopKey)
    (hreads : ∀ key payload token, lib.encodeProof key payload = .ok token →
      lib.jti token = some payload.jti)
    (hdrawn : (world.draw 0).proofId ≠ (world.draw 1).proofId)
    (hkey : request.dpopKey = some key) :
    SingleUse lib (requestAuthorizationCodeToken lib world request managed).2 ↔
      SentOnce lib world request managed := by
  cases hfirst : prepareAuthCodeTokenRequestData lib (world.draw 0) request none with
  | error e => simp [requestAuthorizationCodeToken, SentOnce, SingleUse, hfirst]
  | ok first =>
      cases hclient : resolveHttpClient world request.mtls managed with
      | error e => simp [requestAuthorizationCodeToken, SentOnce, SingleUse, hfirst, hclient]
      | ok u =>
          have honce : SentOnce lib world request managed ↔
              ¬ world.Resends 0 0 ∧ (Challenged lib world request → ¬ world.Resends 1 1) := by
            simp [SentOnce, hfirst, hclient]
          rw [honce]
          obtain ⟨k, rest, hk, hres, hsent⟩ | ⟨hres, hch, k, hk, hsent⟩ |
            ⟨hres, hch, nonce, second, l, hsecond, hl, hsent⟩ := sent_of_prepared hfirst hclient hkey
          · rw [hsent]
            exact ⟨fun h => absurd h (singleUse_of_resent hk), fun h => absurd hres h.1⟩
          · rw [hsent, singleUse_replicate_one]
            exact ⟨fun _ => ⟨hres, fun h => absurd h hch⟩, fun _ => hk⟩
          · have hne : first.proofJti lib ≠ second.proofJti lib := by
              rw [prepare_proofJti hreads hkey hfirst, prepare_proofJti hreads hkey hsecond]
              exact fun h => hdrawn (Option.some.inj h)
            rw [hsent, singleUse_replicate hne]
            constructor
            · rintro ⟨-, hle⟩
              exact ⟨hres, fun _ hagain => absurd (hl.mpr hagain) (by omega)⟩
            · rintro ⟨-, hnot⟩
              refine ⟨le_rfl, ?_⟩
              by_contra hgt
              exact hnot hch (hl.mp (by omega))

end Proofs

def sampleRequest : AuthorizationCodeTokenRequest where
  address := "https://server.example.com/token"
  clientId := "client"
  code := "SplxlOBeZQQYbYS6WxSbIA"
  redirectUri := "https://client.example.org/cb"
  dpopKey := some sampleKey

/-- Three retries are configured, no wait raises, and this is what comes back first. -/
def sampleWorld (first : Response) : World where
  draw := sampleDraw
  retryConfig _ := .ok 3
  answer n := if n = 0 then .response first else .response { status := 200, json := .ok (.obj []) }
  pause _ := none
  client := .ok ()

theorem sampleLibrary_reads (key : DpopKey) (payload : Payload) (token : String)
    (h : sampleLibrary.encodeProof key payload = .ok token) :
    sampleLibrary.jti token = some payload.jti := by
  have hapart : sampleNoncedProof ≠ sampleProof := by decide +kernel
  simp only [sampleLibrary] at h ⊢
  split at h
  · rename_i hpayload
    rw [← Except.ok.inj h, if_pos rfl, hpayload.2]
    rfl
  · split at h
    · rename_i hpayload
      rw [← Except.ok.inj h, if_neg hapart, if_pos rfl, hpayload.2]
      rfl
    · cases h

/-- A challenge is answered with a proof of its own. -/
def sampleChallenge : Response where
  status := 400
  dpopNonce := some "srv-nonce-1"
  json := .ok (.obj [("error", .str "use_dpop_nonce")])

theorem sample_single_use :
    SingleUse sampleLibrary
      (requestAuthorizationCodeToken sampleLibrary (sampleWorld sampleChallenge) sampleRequest
        false).2 := by
  refine (single_use_iff sampleLibrary _ sampleRequest false sampleKey sampleLibrary_reads
    (by decide) rfl).mpr fun _ _ => ⟨?_, fun _ => ?_⟩
  · rintro ⟨retries, -, -, hretry, -⟩
    revert hretry
    decide
  · rintro ⟨retries, -, -, hretry, -⟩
    revert hretry
    decide

/-- The token endpoint is out of service for a moment. -/
def sampleOutage : Response where
  status := 503
  json := .error (true, "Expecting value")

theorem sample_proof_reused :
    ¬ SingleUse sampleLibrary
      (requestAuthorizationCodeToken sampleLibrary (sampleWorld sampleOutage) sampleRequest
        false).2 := by
  have hresends : (sampleWorld sampleOutage).Resends 0 0 := ⟨3, rfl, by decide, by decide, rfl⟩
  have hfirst : prepareAuthCodeTokenRequestData sampleLibrary ((sampleWorld sampleOutage).draw 0)
      sampleRequest none =
      .ok ⟨[("grant_type", "authorization_code"), ("code", "SplxlOBeZQQYbYS6WxSbIA"),
          ("redirect_uri", "https://client.example.org/cb"), ("client_id", "client")],
        [("Content-Type", "application/x-www-form-urlencoded"), ("DPoP", sampleProof)], none⟩ := by
    decide +kernel
  have hclient : resolveHttpClient (sampleWorld sampleOutage) sampleRequest.mtls false = .ok () := rfl
  have hkey : sampleRequest.dpopKey = some sampleKey := rfl
  obtain ⟨k, rest, hk, -, hsent⟩ | ⟨hnot, -⟩ | ⟨hnot, -⟩ := sent_of_prepared hfirst hclient hkey
  · rw [hsent]
    exact singleUse_of_resent hk
  · exact absurd hresends hnot
  · exact absurd hresends hnot

end IdentityModel.Py.Dpop
