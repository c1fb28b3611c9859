import IdentityModel.GoDpopPath

/-!
# The DPoP transport in Go

`Transport.RoundTrip` of `go/pkg/dpop/transport.go`, and what one call does to the requests that are
sent, to the nonces that are kept and to the response that is returned. What answers the requests
is arbitrary, and so is the platform at each proof. Requests and responses have the bytes that
their bodies yield; no other call runs on the transport in between.
-/
namespace IdentityModel.GoDpop

open GoClaims (foldName)
open Results

abbrev Header := Dict String (List String)

/-- `validHeaderFieldByte`. -/
def validHeaderFieldChar (c : Char) : Bool :=
  Url.isAsciiAlpha c || Url.isDigit c ||
    c.toNat ∈ [33, 35, 36, 37, 38, 39, 42, 43, 45, 46, 94, 95, 96, 124, 126]

/-- Letters begin upper-case at the start and behind a hyphen, and go on in lower case. -/
def canonicalLetters : Bool → List Char → List Char
  | _, [] => []
  | upper, c :: rest =>
      (if upper then c.toUpper else c.toLower) :: canonicalLetters (c = '-') rest

/-- `textproto.CanonicalMIMEHeaderKey`. -/
def canonicalKey (key : String) : String :=
  if key.toList.all validHeaderFieldChar then String.ofList (canonicalLetters true key.toList)
  else key

def Header.get (h : Header) (key : String) : String :=
  ((h.lookup (canonicalKey key)).bind List.head?).getD ""

def Header.set (h : Header) (key value : String) : Header := h.insert (canonicalKey key) [value]

theorem Header.get_set_self (h : Header) (key value : String) : (h.set key value).get key = value := by
  simp [Header.get, Header.set]

theorem Header.get_set_ne (h : Header) {key other : String}
    (hne : canonicalKey other ≠ canonicalKey key) (value : String) :
    (h.set key value).get other = h.get other := by
  simp only [Header.get, Header.set, AList.lookup_insert_ne hne]

/-- A body that is read: what the server sends, or bytes that were read before, served again in
front of the rest. -/
inductive Body
  | server (unread : List UInt8)
  | prefixed (peeked : List UInt8) (body : Body)

/-- What a body yields to its end. -/
def Body.bytes : Body → List UInt8
  | .server unread => unread
  | .prefixed peeked body => peeked ++ body.bytes

/-- `io.ReadAll` of an `io.LimitReader`: what is read, and what is left of the body. -/
def Body.readLimited (n : ℕ) : Body → List UInt8 × Body
  | .server unread => (unread.take n, .server (unread.drop n))
  | .prefixed peeked body =>
      let r := body.readLimited (n - peeked.length)
      (peeked.take n ++ r.1, .prefixed (peeked.drop n) r.2)

theorem Body.readLimited_spec (n : ℕ) (body : Body) :
    (body.readLimited n).1 = body.bytes.take n ∧ (body.readLimited n).2.bytes = body.bytes.drop n := by
  induction body generalizing n with
  | server unread => exact ⟨rfl, rfl⟩
  | prefixed peeked body ih =>
      obtain ⟨hread, hleft⟩ := ih (n - peeked.length)
      simp only [Body.readLimited, Body.bytes, hread, hleft, List.take_append, List.drop_append,
        and_self]

/-- `url.URL`: its host and its text. -/
structure RequestURL where
  host : String
  text : String
  deriving DecidableEq, Repr

/-- The body of a request: what reading it yields, and what the bodies yield that `GetBody`
opens, in turn. -/
structure RequestBody where
  read : Except String (List UInt8)
  getBody : Option (ℕ → Except String (List UInt8))

/-- `http.Request`; no body is `nil` or `NoBody`. -/
structure Request where
  method : String
  url : RequestURL
  header : Header
  body : Option RequestBody

/-- A request as it is sent, with the bytes of its body. -/
structure Sent where
  method : String
  url : RequestURL
  header : Header
  body : Option (List UInt8)

structure Response where
  statusCode : ℕ
  header : Header
  body : Body

/-- What the others do in a call: the platform at each proof, and the base transport at each
request. -/
structure World where
  platform : ℕ → Platform
  base : ℕ → Sent → Except String Response

inductive RoundTripError
  | body (e : String)
  | proof (e : DpopError)
  | base (e : String)
  deriving DecidableEq, Repr

variable {K P S J : Type}

structure Transport (lib : Library K P S J) where
  key : Key lib
  accessToken : String := ""

def getNonce (nonces : Dict String String) (host : String) : String := (nonces.lookup host).getD ""

def Response.nonce (resp : Response) : String := resp.header.get "DPoP-Nonce"

def cacheNonce (host : String) (nonces : Dict String String) (resp : Response) :
    Dict String String :=
  if resp.nonce ≠ "" then nonces.insert host resp.nonce else nonces

/-- `bodyReplay`: what opens the body for each attempt, `none` without a body. -/
def bodyReplay (req : Request) :
    Except RoundTripError (Option (ℕ → Except String (List UInt8))) :=
  match req.body with
  | none => .ok none
  | some body =>
      match body.getBody with
      | some getBody => .ok (some getBody)
      | none =>
          match body.read with
          | .error e => .error (.body e)
          | .ok b => .ok (some fun _ => .ok b)

/-- The options of a proof. -/
def Transport.opts {lib : Library K P S J} (t : Transport lib) (nonce : String) : List ProofOption :=
  (if t.accessToken ≠ "" then [withAth lib t.accessToken] else []) ++
    (if nonce ≠ "" then [withNonce nonce] else [])

/-- The body that is opened for an attempt. -/
def openBody (getBody : Option (ℕ → Except String (List UInt8))) (i : ℕ) :
    Except RoundTripError (Option (List UInt8)) :=
  match getBody with
  | none => .ok none
  | some getBody => ((getBody i).mapError .body).map some

/-- What `do` sends in an attempt: a copy of the request with a proof. -/
def Transport.prepare {lib : Library K P S J} (t : Transport lib) (platform : Platform)
    (req : Request) (getBody : Option (ℕ → Except String (List UInt8))) (i : ℕ) (nonce : String) :
    Except RoundTripError Sent := do
  let body ← openBody getBody i
  let proof ← (t.key.proof platform req.method req.url.text (t.opts nonce)).mapError .proof
  let header := req.header.set "DPoP" proof
  let header :=
    if t.accessToken ≠ "" then header.set "Authorization" ("DPoP " ++ t.accessToken) else header
  return ⟨req.method, req.url, header, body⟩

/-- 64 KiB. -/
def maxChallengeBody : ℕ := 65536

/-- Decode one member into the `error` of an OAuth error; `none` when it is mistyped. -/
def decodeErrorMember (acc : Option String) (m : String × Json) : Option String :=
  if foldName m.1 = foldName "error" then
    match m.2 with
    | .str s => acc.map fun _ => s
    | .null => acc
    | _ => none
  else acc

/-- `json.Unmarshal` of an OAuth error. -/
def oauthError : Json → Option String
  | .obj ms => ms.foldl decodeErrorMember (some "")
  | .null => some ""
  | _ => none

/-- Bytes that are a JSON error body with `use_dpop_nonce`. -/
def signalsNonce (lib : Library K P S J) (buf : List UInt8) : Bool :=
  match lib.document buf with
  | .error _ => false
  | .ok document => oauthError document = some "use_dpop_nonce"

/-- `nonceChallenge`: the response as it is left, and the nonce if it is a challenge. -/
def nonceChallenge (lib : Library K P S J) (resp : Response) : Response × Option String :=
  if resp.statusCode ≠ 401 ∧ resp.statusCode ≠ 400 then (resp, none)
  else if resp.nonce = "" then (resp, none)
  else if "use_dpop_nonce".toList <:+: (resp.header.get "WWW-Authenticate").toList then
    (resp, some resp.nonce)
  else
    let r := resp.body.readLimited maxChallengeBody
    let resp : Response := { resp with body := .prefixed r.1 r.2 }
    if signalsNonce lib r.1 then (resp, some resp.nonce) else (resp, none)

/-- What a call leaves: the requests it has sent, the response and the nonces. -/
structure Outcome where
  sent : List Sent
  response : Except RoundTripError Response
  nonces : Dict String String

def Transport.roundTrip {lib : Library K P S J} (t : Transport lib) (world : World) (req : Request)
    (nonces : Dict String String) : Outcome :=
  match bodyReplay req with
  | .error e => ⟨[], .error e, nonces⟩
  | .ok getBody =>
      let host := req.url.host
      match t.prepare (world.platform 0) req getBody 0 (getNonce nonces host) with
      | .error e => ⟨[], .error e, nonces⟩
      | .ok first =>
          match world.base 0 first with
          | .error e => ⟨[first], .error (.base e), nonces⟩
          | .ok resp =>
              let nonces := cacheNonce host nonces resp
              match nonceChallenge lib resp with
              | (resp, none) => ⟨[first], .ok resp, nonces⟩
              | (_, some nonce) =>
                  match t.prepare (world.platform 1) req getBody 1 nonce with
                  | .error e => ⟨[first], .error e, nonces⟩
                  | .ok second =>
                      match world.base 1 second with
                      | .error e => ⟨[first, second], .error (.base e), nonces⟩
                      | .ok resp₂ => ⟨[first, second], .ok resp₂, cacheNonce host nonces resp₂⟩

/-- Reading the body of a request, or a body that `GetBody` opens, yields these bytes every time. -/
def Request.Yields (req : Request) (body : Option (List UInt8)) : Prop :=
  match req.body with
  | none => body = none
  | some b => ∃ bytes, body = some bytes ∧ b.read = .ok bytes ∧
      ∀ getBody, b.getBody = some getBody → ∀ i, getBody i = .ok bytes

/-- A request carries a proof of the key, made for its method, its token and a nonce. -/
def Transport.Proves {lib : Library K P S J} (t : Transport lib) (s : Sent) (nonce : String) : Prop :=
  ∃ claims, t.key.signClaims claims = .ok (s.header.get "DPoP") ∧ claims.htm = s.method ∧
    claims.ath = (if t.accessToken ≠ "" then ath lib t.accessToken else "") ∧ claims.nonce = nonce

/-- A response that asks for a nonce: in its `WWW-Authenticate`, or in a JSON error body, of which
the first 64 KiB are read. -/
structure Challenge (lib : Library K P S J) (resp : Response) : Prop where
  status : resp.statusCode = 400 ∨ resp.statusCode = 401
  nonce : resp.nonce ≠ ""
  signal : "use_dpop_nonce".toList <:+: (resp.header.get "WWW-Authenticate").toList ∨
    signalsNonce lib (resp.body.bytes.take maxChallengeBody) = true

/-- What a caller sees of two responses is the same. -/
structure Response.Same (resp served : Response) : Prop where
  statusCode : resp.statusCode = served.statusCode
  header : resp.header = served.header
  bytes : resp.body.bytes = served.body.bytes

section Attempt

variable {lib : Library K P S J} {t : Transport lib} {req : Request} {body : Option (List UInt8)}
  {getBody : Option (ℕ → Except String (List UInt8))}

/-- Every attempt opens the same bytes. -/
theorem openBody_of_yields (h : req.Yields body) (hreplay : bodyReplay req = .ok getBody) (i : ℕ) :
    openBody getBody i = .ok body := by
  unfold Request.Yields at h
  unfold bodyReplay at hreplay
  cases hbody : req.body with
  | none =>
      simp only [hbody] at h hreplay
      obtain rfl := Except.ok.inj hreplay
      rw [h, openBody]
  | some b =>
      simp only [hbody] at h hreplay
      obtain ⟨bytes, rfl, hread, hget⟩ := h
      cases hrewind : b.getBody with
      | some open_ =>
          simp only [hrewind] at hreplay
          obtain rfl := Except.ok.inj hreplay
          simp [openBody, hget open_ hrewind, Except.mapError, Except.map]
      | none =>
          simp only [hrewind, hread] at hreplay
          obtain rfl := Except.ok.inj hreplay
          rfl

theorem proofConfig_opts (platform : Platform) (nonce : String) :
    (proofConfig platform (t.opts nonce)).nonce = nonce ∧
      (proofConfig platform (t.opts nonce)).ath =
        if t.accessToken ≠ "" then ath lib t.accessToken else "" := by
  unfold proofConfig Transport.opts
  by_cases htoken : t.accessToken = "" <;> by_cases hnonce : nonce = "" <;>
    simp [htoken, hnonce, withAth, withNonce]

/-- What an attempt sends. -/
theorem prepare_spec {platform : Platform} {i : ℕ} {nonce : String} {s : Sent}
    (h : t.prepare platform req getBody i nonce = .ok s) (hyields : req.Yields body)
    (hreplay : bodyReplay req = .ok getBody) : s.body = body ∧ t.Proves s nonce := by
  simp only [Transport.prepare, bind_eq_ok, mapError_eq_ok] at h
  obtain ⟨b, hb, proof, hproof, h⟩ := h
  rw [openBody_of_yields hyields hreplay] at hb
  obtain rfl := Except.ok.inj hb
  obtain rfl := Except.ok.inj h
  refine ⟨rfl, ?_⟩
  obtain ⟨htu, jti, -, -, hsigned⟩ := proof_eq_ok.mp hproof
  obtain ⟨hnonce, hath⟩ := proofConfig_opts (t := t) platform nonce
  have hcarried : Header.get (if t.accessToken ≠ "" then
      (req.header.set "DPoP" proof).set "Authorization" ("DPoP " ++ t.accessToken)
      else req.header.set "DPoP" proof) "DPoP" = proof := by
    split
    · rw [Header.get_set_ne _ (by decide), Header.get_set_self]
    · rw [Header.get_set_self]
  exact ⟨_, by rw [hcarried]; exact hsigned, rfl, hath, hnonce⟩

/-- A response that is no challenge is left as the caller is to see it. -/
theorem nonceChallenge_none {resp left : Response}
    (h : nonceChallenge lib resp = (left, none)) : left.Same resp := by
  obtain ⟨hread, hleft⟩ := resp.body.readLimited_spec maxChallengeBody
  unfold nonceChallenge at h
  split at h
  · cases h
    exact ⟨rfl, rfl, rfl⟩
  · split at h
    · cases h
      exact ⟨rfl, rfl, rfl⟩
    · split at h
      · cases h
      · dsimp only at h
        split at h
        · cases h
        · cases h
          exact ⟨rfl, rfl, by rw [Body.bytes, hread, hleft, List.take_append_drop]⟩

/-- Only a challenge gives a nonce, and it is the one it carries. -/
theorem nonceChallenge_some {resp left : Response} {nonce : String}
    (h : nonceChallenge lib resp = (left, some nonce)) : Challenge lib resp ∧ nonce = resp.nonce := by
  obtain ⟨hread, -⟩ := resp.body.readLimited_spec maxChallengeBody
  unfold nonceChallenge at h
  split at h
  · cases h
  · next hstatus =>
      split at h
      · cases h
      · next hnonce =>
          have hstatus : resp.statusCode = 400 ∨ resp.statusCode = 401 := by omega
          split at h
          · next hheader =>
              cases h
              exact ⟨⟨hstatus, hnonce, .inl hheader⟩, rfl⟩
          · dsimp only at h
            split at h
            · next hsignal =>
                cases h
                exact ⟨⟨hstatus, hnonce, .inr (by rw [← hread]; exact hsignal)⟩, rfl⟩
            · cases h

end Attempt

/-- The answers to requests, in the order they were sent. -/
def World.received (world : World) (sent : List Sent) : List Response :=
  sent.zipIdx.filterMap fun s => (world.base s.2 s.1).toOption

/-- The last nonce that is not empty. -/
def lastNonce (resps : List Response) : Option String :=
  ((resps.map Response.nonce).filter (· ≠ "")).getLast?

theorem lookup_cacheNonce (host other : String) (nonces : Dict String String) (resp : Response) :
    (cacheNonce host nonces resp).lookup other =
      if other = host ∧ resp.nonce ≠ "" then some resp.nonce else nonces.lookup other := by
  unfold cacheNonce
  by_cases hnonce : resp.nonce = ""
  · simp [hnonce]
  · by_cases hother : other = host
    · rw [hother]
      simp [hnonce]
    · simp [hnonce, hother, AList.lookup_insert_ne]

/-- After any number of responses the cache holds the last nonce of the host, and what it held
before of any other host. -/
theorem lookup_foldl_cacheNonce (host other : String) (nonces : Dict String String)
    (resps : List Response) :
    (resps.foldl (cacheNonce host) nonces).lookup other =
      if other = host then (lastNonce resps).or (nonces.lookup other) else nonces.lookup other := by
  induction resps using List.reverseRecOn with
  | nil => simp [lastNonce]
  | append_singleton resps resp ih =>
      rw [List.foldl_append, List.foldl_cons, List.foldl_nil, lookup_cacheNonce, ih]
      by_cases hother : other = host
      · by_cases hnonce : resp.nonce = ""
        · simp [hother, hnonce, lastNonce]
        · simp [hother, hnonce, lastNonce]
      · simp [hother]

/-- What holds after a call whose request has a body, or none. -/
structure Contract {lib : Library K P S J} (t : Transport lib) (world : World) (req : Request)
    (body : Option (List UInt8)) (nonces : Dict String String) (out : Outcome) : Prop where
  atMostTwo : out.sent.length ≤ 2
  body : ∀ s ∈ out.sent, s.body = body
  first : ∀ s, out.sent[0]? = some s → t.Proves s (getNonce nonces req.url.host)
  /-- A second request answers a challenge to the first one, with the nonce of the challenge. -/
  second : ∀ s, out.sent[1]? = some s → ∃ first resp, out.sent[0]? = some first ∧
    world.base 0 first = .ok resp ∧ Challenge lib resp ∧ t.Proves s resp.nonce
  cached : out.nonces.lookup req.url.host =
    (lastNonce (world.received out.sent)).or (nonces.lookup req.url.host)
  otherHosts : ∀ host, host ≠ req.url.host → out.nonces.lookup host = nonces.lookup host
  /-- What is returned is the last response, with the bytes the server sent. -/
  response : ∀ resp, out.response = .ok resp →
    ∃ served, (world.received out.sent).getLast? = some served ∧ resp.Same served

section Call

variable {lib : Library K P S J} {t : Transport lib} {world : World} {req : Request}
  {body : Option (List UInt8)} {nonces : Dict String String}

/-- The courses a call can take. -/
inductive Course (t : Transport lib) (world : World) (req : Request)
    (getBody : Option (ℕ → Except String (List UInt8))) (nonces : Dict String String) :
    Outcome → Prop
  | unsent (e : RoundTripError) : Course t world req getBody nonces ⟨[], .error e, nonces⟩
  | failed {first : Sent} {e : String}
      (hfirst : t.prepare (world.platform 0) req getBody 0 (getNonce nonces req.url.host) = .ok first)
      (hbase : world.base 0 first = .error e) :
      Course t world req getBody nonces ⟨[first], .error (.base e), nonces⟩
  | answered {first : Sent} {resp left : Response}
      (hfirst : t.prepare (world.platform 0) req getBody 0 (getNonce nonces req.url.host) = .ok first)
      (hbase : world.base 0 first = .ok resp) (hleft : nonceChallenge lib resp = (left, none)) :
      Course t world req getBody nonces ⟨[first], .ok left, cacheNonce req.url.host nonces resp⟩
  | gaveUp {first : Sent} {resp : Response} (e : RoundTripError)
      (hfirst : t.prepare (world.platform 0) req getBody 0 (getNonce nonces req.url.host) = .ok first)
      (hbase : world.base 0 first = .ok resp) :
      Course t world req getBody nonces ⟨[first], .error e, cacheNonce req.url.host nonces resp⟩
  | retried {first second : Sent} {resp left : Response} {nonce : String}
      {answer : Except String Response}
      (hfirst : t.prepare (world.platform 0) req getBody 0 (getNonce nonces req.url.host) = .ok first)
      (hbase : world.base 0 first = .ok resp) (hleft : nonceChallenge lib resp = (left, some nonce))
      (hsecond : t.prepare (world.platform 1) req getBody 1 nonce = .ok second)
      (hanswer : world.base 1 second = answer) :
      Course t world req getBody nonces ⟨[first, second], answer.mapError .base,
        answer.toOption.toList.foldl (cacheNonce req.url.host)
          (cacheNonce req.url.host nonces resp)⟩

theorem roundTrip_course {getBody : Option (ℕ → Except String (List UInt8))}
    (hreplay : bodyReplay req = .ok getBody) :
    Course t world req getBody nonces (t.roundTrip world req nonces) := by
  simp only [Transport.roundTrip, hreplay]
  split
  · exact .unsent _
  · next first hfirst =>
      split
      · next e hbase => exact .failed hfirst hbase
      · next resp hbase =>
          split
          · next left hleft => exact .answered hfirst hbase hleft
          · next left nonce hleft =>
              split
              · next e _ => exact .gaveUp e hfirst hbase
              · next second hsecond =>
                  split
                  · next e hanswer => exact .retried hfirst hbase hleft hsecond hanswer
                  · next answer hanswer => exact .retried hfirst hbase hleft hsecond hanswer

theorem received_one (first : Sent) :
    world.received [first] = (world.base 0 first).toOption.toList := by
  cases h : (world.base 0 first).toOption <;> simp [World.received, h]

theorem received_two (first second : Sent) : world.received [first, second] =
    (world.base 0 first).toOption.toList ++ (world.base 1 second).toOption.toList := by
  cases h : (world.base 0 first).toOption <;> cases h' : (world.base 1 second).toOption <;>
    simp [World.received, List.zipIdx_cons, h, h']

/-- The nonces of all responses are kept, in turn. -/
theorem Course.nonces_eq {getBody : Option (ℕ → Except String (List UInt8))} {out : Outcome}
    (h : Course t world req getBody nonces out) :
    out.nonces = (world.received out.sent).foldl (cacheNonce req.url.host) nonces := by
  cases h with
  | unsent e => rfl
  | failed hfirst hbase =>
      rw [received_one, hbase]
      rfl
  | answered hfirst hbase hleft =>
      rw [received_one, hbase]
      rfl
  | gaveUp e hfirst hbase =>
      rw [received_one, hbase]
      rfl
  | retried hfirst hbase hleft hsecond hanswer =>
      rw [received_two, hbase, hanswer, List.foldl_append]
      rfl

/-- What is returned is the last response, as the caller is to see it. -/
theorem Course.response_same {getBody : Option (ℕ → Except String (List UInt8))} {out : Outcome}
    (h : Course t world req getBody nonces out) {resp : Response} (hok : out.response = .ok resp) :
    ∃ served, (world.received out.sent).getLast? = some served ∧ resp.Same served := by
  cases h with
  | unsent e => cases hok
  | failed hfirst hbase => cases hok
  | @answered first served left hfirst hbase hleft =>
      obtain rfl := Except.ok.inj hok
      refine ⟨served, ?_, nonceChallenge_none hleft⟩
      rw [received_one, hbase]
      rfl
  | gaveUp e hfirst hbase => cases hok
  | retried hfirst hbase hleft hsecond hanswer =>
      obtain rfl := mapError_eq_ok.mp hok
      refine ⟨resp, ?_, ⟨rfl, rfl, rfl⟩⟩
      rw [received_two, hbase, hanswer]
      rfl

/-- What was sent: one request with the nonce that was kept, and a second one only after a
challenge, with its nonce. -/
theorem Course.sent_spec {getBody : Option (ℕ → Except String (List UInt8))} {out : Outcome}
    (h : Course t world req getBody nonces out) (hyields : req.Yields body)
    (hreplay : bodyReplay req = .ok getBody) :
    out.sent.length ≤ 2 ∧ (∀ s ∈ out.sent, s.body = body) ∧
      (∀ s, out.sent[0]? = some s → t.Proves s (getNonce nonces req.url.host)) ∧
      ∀ s, out.sent[1]? = some s → ∃ first resp, out.sent[0]? = some first ∧
        world.base 0 first = .ok resp ∧ Challenge lib resp ∧ t.Proves s resp.nonce := by
  have hone {first : Sent} (hfirst : t.prepare (world.platform 0) req getBody 0
      (getNonce nonces req.url.host) = .ok first) :
      [first].length ≤ 2 ∧ (∀ s ∈ [first], s.body = body) ∧
      (∀ s, [first][0]? = some s → t.Proves s (getNonce nonces req.url.host)) ∧
      ∀ s, [first][1]? = some s → ∃ first' resp, [first][0]? = some first' ∧
        world.base 0 first' = .ok resp ∧ Challenge lib resp ∧ t.Proves s resp.nonce := by
    obtain ⟨hbody, hproves⟩ := prepare_spec hfirst hyields hreplay
    simp [hbody, hproves]
  cases h with
  | unsent e => simp
  | failed hfirst hbase => exact hone hfirst
  | answered hfirst hbase hleft => exact hone hfirst
  | gaveUp e hfirst hbase => exact hone hfirst
  | @retried first second resp left nonce answer hfirst hbase hleft hsecond hanswer =>
      obtain ⟨hbody, hproves⟩ := prepare_spec hfirst hyields hreplay
      obtain ⟨hbody', hproves'⟩ := prepare_spec hsecond hyields hreplay
      obtain ⟨hchallenge, rfl⟩ := nonceChallenge_some hleft
      simp [hbody, hbody', hproves, hproves', hbase, hchallenge]

/-- A call sends at most two requests with the same body, the second one only to answer a
challenge; it keeps the last nonce, and returns what the server sent. -/
theorem roundTrip_contract (t : Transport lib) (world : World) (nonces : Dict String String)
    (hyields : req.Yields body) :
    Contract t world req body nonces (t.roundTrip world req nonces) := by
  cases hreplay : bodyReplay req with
  | error e =>
      -- the body could not be read
      exfalso
      unfold Request.Yields at hyields
      unfold bodyReplay at hreplay
      cases hbody : req.body with
      | none => simp [hbody] at hreplay
      | some b =>
          simp only [hbody] at hyields hreplay
          obtain ⟨bytes, -, hread, -⟩ := hyields
          rw [hread] at hreplay
          split at hreplay <;> cases hreplay
  | ok getBody =>
      have hcourse : Course t world req getBody nonces (t.roundTrip world req nonces) :=
        roundTrip_course hreplay
      obtain ⟨hlength, hbody, hfirst, hsecond⟩ := hcourse.sent_spec hyields hreplay
      refine ⟨hlength, hbody, hfirst, hsecond, ?_, ?_, fun resp hok => hcourse.response_same hok⟩
      · rw [hcourse.nonces_eq, lookup_foldl_cacheNonce, if_pos rfl]
      · intro host hhost
        rw [hcourse.nonces_eq, lookup_foldl_cacheNonce, if_neg hhost]

end Call

def firstClaims : ProofClaims where
  jti := "EBESExQVFhcYGRobHB0eHw"
  htm := "POST"
  htu := "https://rs/token"
  iat := 1732200000

def secondClaims : ProofClaims where
  jti := "ICEiIyQlJicoKSorLC0uLw"
  htm := "POST"
  htu := "https://rs/token"
  iat := 1732200001
  nonce := "eyJ7S_zG"

def firstProof : String :=
  "eyJhbGciOiJFUzI1NiIsImp3ayI6eyJrdHkiOiJFQyIsImNydiI6IlAtMjU2IiwieCI6IlIxX2NBUjQwdDhfb09t" ++
    "b3E2NERKS3lDbl93cF9NLTMxVnh4MUthdkdUdGciLCJ5IjoiZGtNaDhSNjVsRlFkdFJ2a2dKMkVicXA3SWNBalMy" ++
    "eGhDQVVOQUh5UmFESSJ9LCJ0eXAiOiJkcG9wK2p3dCJ9.eyJqdGkiOiJFQkVTRXhRVkZoY1lHUm9iSEIwZUh3Iiw" ++
    "iaHRtIjoiUE9TVCIsImh0dSI6Imh0dHBzOi8vcnMvdG9rZW4iLCJpYXQiOjE3MzIyMDAwMDB9.3Hn5Y8AXkJQ1gX" ++
    "wXqt75RnpeIRdxO41Q1iOQIXDkkS0Y_XXHDD9zKipflJwiKybNJmkCg6Ae5S1OdWd5V9Bdyg"

def secondProof : String :=
  "eyJhbGciOiJFUzI1NiIsImp3ayI6eyJrdHkiOiJFQyIsImNydiI6IlAtMjU2IiwieCI6IlIxX2NBUjQwdDhfb09t" ++
    "b3E2NERKS3lDbl93cF9NLTMxVnh4MUthdkdUdGciLCJ5IjoiZGtNaDhSNjVsRlFkdFJ2a2dKMkVicXA3SWNBalMy" ++
    "eGhDQVVOQUh5UmFESSJ9LCJ0eXAiOiJkcG9wK2p3dCJ9.eyJqdGkiOiJJQ0VpSXlRbEppY29LU29yTEMwdUx3Iiw" ++
    "iaHRtIjoiUE9TVCIsImh0dSI6Imh0dHBzOi8vcnMvdG9rZW4iLCJpYXQiOjE3MzIyMDAwMDEsIm5vbmNlIjoiZXl" ++
    "KN1NfekcifQ.0GqyNPZbidxEXiAeLADT4FDC9qX_20raJg21fwIR77ioQjG6mGToChGC5rLfuiMRMTs6chQzEcf5" ++
    "Asd2VljCPQ"

def challengeBody : List UInt8 :=
  "\x7b\"error\":\"use_dpop_nonce\"\x7d".toUTF8.toList

/-- The libraries, as far as these proofs and this body are concerned. -/
def challengedLibrary : Library String (String × String) Unit Json :=
  { sampleLibrary with
    document := fun buf =>
      if buf = challengeBody then .ok (.obj [("error", .str "use_dpop_nonce")])
      else .error "unexpected end of JSON input"
    sign := fun _ payload => .ok payload
    compactSerialize := fun payload =>
      if payload = firstClaims.marshal then .ok firstProof
      else if payload = secondClaims.marshal then .ok secondProof
      else .error "go-jose/go-jose: crypto error" }

def challengedKey : Key challengedLibrary := ⟨ES256, samplePrivate, rfl⟩

def challengedTransport : Transport challengedLibrary := ⟨challengedKey, ""⟩

/-- The token endpoint wants a nonce, and then answers with another one. -/
def challengedWorld : World where
  platform i := if i = 0 then samplePlatform else
    ⟨.ok #v[32, 33, 34, 35, 36, 37, 38, 39, 40, 41, 42, 43, 44, 45, 46, 47], 1732200001000000000⟩
  base i _ :=
    if i = 0 then
      .ok ⟨400, Header.set ∅ "DPoP-Nonce" "eyJ7S_zG", .server challengeBody⟩
    else .ok ⟨200, Header.set ∅ "DPoP-Nonce" "eyJbYlK2", .server "\x7b\x7d".toUTF8.toList⟩

def challengedRequest : Request where
  method := "POST"
  url := ⟨"rs", "https://rs/token"⟩
  header := ∅
  body := some ⟨.ok [103, 61, 99], none⟩

/-- The request is sent twice, and the nonce of the second answer is kept. -/
theorem challenge_answered :
    Contract challengedTransport challengedWorld challengedRequest (some [103, 61, 99]) ∅
        (challengedTransport.roundTrip challengedWorld challengedRequest ∅) ∧
      (challengedTransport.roundTrip challengedWorld challengedRequest ∅).sent.length = 2 := by
  refine ⟨roundTrip_contract challengedTransport challengedWorld ∅ ?_, by decide +kernel⟩
  exact ⟨[103, 61, 99], rfl, rfl, nofun⟩

end IdentityModel.GoDpop
