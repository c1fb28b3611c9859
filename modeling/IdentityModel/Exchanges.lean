import IdentityModel.Runs

/-!
# Requests, redirects and bounded bodies

A request goes to an address. Its answer may send it on to a further one, as far as a policy that
is shown the addresses asked so far lets it; the body of the final answer arrives in chunks, and the
exchange is given up when the body outgrows a bound. Addresses and refusals are whatever the client
has for them.
-/
namespace IdentityModel.Exchanges

open Runs

variable {υ ε : Type*}

/-- What a policy makes of a redirect; stopped, the redirect itself is the answer. -/
inductive Verdict (ε : Type*)
  | follow
  | stop
  | refuse (why : ε)
  deriving DecidableEq

/-- The addresses asked so far, oldest first, and the one a redirect names. -/
abbrev Policy (υ ε : Type*) := List υ → υ → Verdict ε

inductive Phase (ε : Type*)
  | sent
  | reading (status : ℕ) (body : List UInt8)
  | received (status : ℕ) (body : List UInt8)
  | refused (why : ε)
  | oversized
  | broken (err : String)
  deriving DecidableEq

/-- The addresses a redirect came from, oldest first, the one asked now, and how far that is. -/
structure Exchange (υ ε : Type*) where
  previous : List υ
  url : υ
  phase : Phase ε
  deriving DecidableEq

/-- What comes over the wire. -/
inductive Wire (υ : Type*)
  | redirect (status : ℕ) (target : υ)
  | headers (status : ℕ)
  | chunk (bytes : List UInt8)
  | finished
  | failed (err : String)

def Exchange.start (url : υ) : Exchange υ ε := ⟨[], url, .sent⟩

/-- Every address asked, the current one last. -/
def Exchange.asked (x : Exchange υ ε) : List υ := x.previous ++ [x.url]

/-- The same request in another phase. -/
def Exchange.enter (x : Exchange υ ε) (phase : Phase ε) : Exchange υ ε := ⟨x.previous, x.url, phase⟩

@[simp] theorem Exchange.enter_url (x : Exchange υ ε) (phase : Phase ε) : (x.enter phase).url = x.url :=
  rfl

@[simp] theorem Exchange.enter_asked (x : Exchange υ ε) (phase : Phase ε) :
    (x.enter phase).asked = x.asked := rfl

@[simp] theorem Exchange.enter_phase (x : Exchange υ ε) (phase : Phase ε) :
    (x.enter phase).phase = phase := rfl

def onRedirect (policy : Policy υ ε) (x : Exchange υ ε) (status : ℕ) (target : υ) : Exchange υ ε :=
  match policy x.asked target with
  | .follow => ⟨x.asked, target, .sent⟩
  | .stop => x.enter (.reading status [])
  | .refuse why => x.enter (.refused why)

/-- One more chunk, unless it is too much. -/
def onChunk (cap : ℕ) (status : ℕ) (body bytes : List UInt8) : Phase ε :=
  if cap < body.length + bytes.length then .oversized else .reading status (body ++ bytes)

/-- An exchange that was refused, given up, broken off or received has ended. -/
def advance (policy : Policy υ ε) (cap : ℕ) (x : Exchange υ ε) (wire : Wire υ) :
    Option (Exchange υ ε) :=
  match x.phase, wire with
  | .sent, .redirect status target => some (onRedirect policy x status target)
  | .sent, .headers status => some (x.enter (.reading status []))
  | .sent, .failed err => some (x.enter (.broken err))
  | .reading status body, .chunk bytes => some (x.enter (onChunk cap status body bytes))
  | .reading status body, .finished => some (x.enter (.received status body))
  | .reading _ _, .failed err => some (x.enter (.broken err))
  | _, _ => none

abbrev run (policy : Policy υ ε) (cap : ℕ) : Exchange υ ε → List (Wire υ) → Option (Exchange υ ε) :=
  exec (advance policy cap)

/-- The steps as a relation, one rule per outcome. -/
inductive Advance (policy : Policy υ ε) (cap : ℕ) (x : Exchange υ ε) : Wire υ → Exchange υ ε → Prop
  | followed (status : ℕ) (target : υ) (h : policy x.asked target = .follow) :
      Advance policy cap x (.redirect status target) ⟨x.asked, target, .sent⟩
  | stopped (status : ℕ) (target : υ) (h : policy x.asked target = .stop) :
      Advance policy cap x (.redirect status target) (x.enter (.reading status []))
  | refused (status : ℕ) (target : υ) (why : ε) (h : policy x.asked target = .refuse why) :
      Advance policy cap x (.redirect status target) (x.enter (.refused why))
  | headers (status : ℕ) : Advance policy cap x (.headers status) (x.enter (.reading status []))
  | kept (status : ℕ) (body bytes : List UInt8) (hx : x.phase = .reading status body)
      (h : body.length + bytes.length ≤ cap) :
      Advance policy cap x (.chunk bytes) (x.enter (.reading status (body ++ bytes)))
  | oversized (status : ℕ) (body bytes : List UInt8) (hx : x.phase = .reading status body)
      (h : cap < body.length + bytes.length) :
      Advance policy cap x (.chunk bytes) (x.enter .oversized)
  | finished (status : ℕ) (body : List UInt8) (hx : x.phase = .reading status body) :
      Advance policy cap x .finished (x.enter (.received status body))
  | broken (err : String) : Advance policy cap x (.failed err) (x.enter (.broken err))

variable {policy : Policy υ ε} {cap limit : ℕ} {x x' : Exchange υ ε} {wire : Wire υ}
  {wires : List (Wire υ)} {R : υ → υ → Prop} {url : υ}

theorem advance_cases (h : advance policy cap x wire = some x') : Advance policy cap x wire x' := by
  obtain ⟨previous, url, phase⟩ := x
  cases phase with
  | sent =>
      cases wire with
      | redirect status target =>
          obtain rfl := Option.some.inj h
          unfold onRedirect
          split
          · rename_i hp
            exact .followed status target hp
          · rename_i hp
            exact .stopped status target hp
          · rename_i why hp
            exact .refused status target why hp
      | headers status =>
          obtain rfl := Option.some.inj h
          exact .headers status
      | failed err =>
          obtain rfl := Option.some.inj h
          exact .broken err
      | chunk bytes => cases h
      | finished => cases h
  | reading status body =>
      cases wire with
      | chunk bytes =>
          obtain rfl := Option.some.inj h
          unfold onChunk
          split
          · rename_i hlt
            exact .oversized status body bytes rfl hlt
          · rename_i hle
            exact .kept status body bytes rfl (not_lt.mp hle)
      | finished =>
          obtain rfl := Option.some.inj h
          exact .finished status body rfl
      | failed err =>
          obtain rfl := Option.some.inj h
          exact .broken err
      | redirect status target => cases h
      | headers status => cases h
  | received status body => cases wire <;> cases h
  | refused why => cases wire <;> cases h
  | oversized => cases wire <;> cases h
  | broken err => cases wire <;> cases h

/-- Only a body that is read is received. -/
theorem reading_of_received (h : advance policy cap x wire = some x') {status : ℕ}
    {body : List UInt8} (hx' : x'.phase = .received status body) :
    x.phase = .reading status body ∧ x' = x.enter (.received status body) := by
  cases advance_cases h with
  | finished status body hx =>
      cases hx'
      exact ⟨hx, rfl⟩
  | _ => cases hx'

theorem finished_of_received (h : advance policy cap x wire = some x') {status : ℕ}
    {body : List UInt8} (hx' : x'.phase = .received status body) : wire = .finished := by
  cases advance_cases h with
  | finished status body hx => rfl
  | _ => cases hx'

/-- The policy follows a redirect only to an address so related to the last one asked. -/
def Policy.Respects (policy : Policy υ ε) (R : υ → υ → Prop) : Prop :=
  ∀ asked prev next, asked.getLast? = some prev → policy asked next = .follow → R prev next

/-- The policy follows a redirect only while fewer addresses have been asked. -/
def Policy.Limited (policy : Policy υ ε) (limit : ℕ) : Prop :=
  ∀ asked next, policy asked next = .follow → asked.length < limit

/-- A policy that follows a redirect or refuses it. -/
def Policy.Decides (policy : Policy υ ε) : Prop := ∀ asked next, policy asked next ≠ .stop

/-- The body held so far. -/
def Exchange.held (x : Exchange υ ε) : List UInt8 :=
  match x.phase with
  | .reading _ body => body
  | .received _ body => body
  | _ => []

/-- The addresses asked begin with the first one, each related to the one before it, within the
limit; the body held is within the bound. -/
structure Sound (R : υ → υ → Prop) (limit cap : ℕ) (url : υ) (x : Exchange υ ε) : Prop where
  begins : x.asked.head? = some url
  chain : x.asked.IsChain R
  limited : x.asked.length ≤ limit
  bounded : x.held.length ≤ cap

theorem sound_start (hlimit : 0 < limit) : Sound R limit cap url (.start url : Exchange υ ε) where
  begins := rfl
  chain := List.isChain_singleton url
  limited := hlimit
  bounded := Nat.zero_le cap

/-- A change of phase alone. -/
theorem Sound.enter (h : Sound R limit cap url x) {phase : Phase ε}
    (hheld : (x.enter phase).held.length ≤ cap) : Sound R limit cap url (x.enter phase) :=
  ⟨h.begins, h.chain, h.limited, hheld⟩

theorem Sound.step (h : Sound R limit cap url x) (hrespects : policy.Respects R)
    (hlimited : policy.Limited limit) (hstep : advance policy cap x wire = some x') :
    Sound R limit cap url x' := by
  cases advance_cases hstep with
  | followed status target hp =>
      refine ⟨?_, ?_, ?_, Nat.zero_le cap⟩
      · rw [Exchange.asked, List.head?_append, h.begins]
        rfl
      · refine h.chain.append (List.isChain_singleton target) ?_
        intro prev hprev next hnext
        obtain rfl : target = next := by simpa using hnext
        exact hrespects x.asked prev target hprev hp
      · have hlt := hlimited x.asked target hp
        show (x.asked ++ [target]).length ≤ limit
        rw [List.length_append, List.length_singleton]
        omega
  | stopped status target hp => exact h.enter (Nat.zero_le cap)
  | refused status target why hp => exact h.enter (Nat.zero_le cap)
  | headers status => exact h.enter (Nat.zero_le cap)
  | kept status body bytes hx hle =>
      refine h.enter ?_
      show (body ++ bytes).length ≤ cap
      rwa [List.length_append]
  | oversized status body bytes hx hlt => exact h.enter (Nat.zero_le cap)
  | finished status body hx =>
      refine h.enter ?_
      have hb := h.bounded
      rwa [Exchange.held, hx] at hb
  | broken err => exact h.enter (Nat.zero_le cap)

/-- What each hop keeps holds of every address asked. -/
theorem forall_asked {P : υ → Prop} (h : Sound (fun p q => P p → P q) limit cap url x)
    (hurl : P url) : ∀ u ∈ x.asked, P u := by
  have hchain (us : List υ) (hc : us.IsChain fun p q => P p → P q)
      (hhead : ∀ u ∈ us.head?, P u) : ∀ u ∈ us, P u := by
    induction us with
    | nil => exact fun _ hu => nomatch hu
    | cons v us ih =>
        have hv : P v := hhead v rfl
        intro u hu
        obtain rfl | hu := List.mem_cons.mp hu
        · exact hv
        · refine ih hc.tail (fun w hw => ?_) u hu
          cases us with
          | nil => cases hw
          | cons w' us =>
              obtain rfl := Option.some.inj hw
              exact (List.isChain_cons_cons.mp hc).1 hv
  refine hchain x.asked h.chain fun u hu => ?_
  rw [h.begins] at hu
  obtain rfl := Option.some.inj hu
  exact hurl

/-- The bytes of a chunk. -/
def Wire.bytes : Wire υ → List UInt8
  | .chunk bytes => bytes
  | _ => []

/-- An exchange that has ended goes nowhere. -/
theorem eq_of_ended (hended : ∀ w, advance policy cap x w = none)
    (hrun : run policy cap x wires = some x') : wires = [] ∧ x' = x := by
  cases wires with
  | nil => exact ⟨rfl, (by simpa using hrun : x = x').symm⟩
  | cons w wires =>
      obtain ⟨m, hm, -⟩ := exec_cons_eq_some.mp hrun
      rw [hended w] at hm
      cases hm

/-- What was received is what came over the wire. -/
theorem received_bytes {body : List UInt8} {status status' : ℕ} {body' : List UInt8}
    (hx : x.phase = .reading status body) (hrun : run policy cap x wires = some x')
    (hx' : x'.phase = .received status' body' ∨ x'.phase = .reading status' body') :
    status' = status ∧ body' = body ++ wires.flatMap Wire.bytes := by
  induction wires generalizing x body with
  | nil =>
      obtain rfl : x = x' := by simpa using hrun
      rw [hx] at hx'
      obtain h | h := hx' <;> cases h
      simp
  | cons wire wires ih =>
      obtain ⟨m, hm, hrest⟩ := exec_cons_eq_some.mp hrun
      obtain ⟨previous, url, phase⟩ := x
      obtain rfl : phase = .reading status body := hx
      cases wire with
      | chunk bytes =>
          obtain rfl := Option.some.inj hm
          unfold onChunk at hrest
          split at hrest
          · obtain ⟨-, rfl⟩ := eq_of_ended (fun w => by cases w <;> rfl) hrest
            obtain h | h := hx' <;> cases h
          · obtain ⟨hstatus, hbody⟩ := ih rfl hrest
            refine ⟨hstatus, ?_⟩
            rw [hbody, List.flatMap_cons, List.append_assoc]
            rfl
      | finished =>
          obtain rfl := Option.some.inj hm
          obtain ⟨rfl, rfl⟩ := eq_of_ended (fun w => by cases w <;> rfl) hrest
          obtain h | h := hx' <;> cases h
          simp [Wire.bytes]
      | failed err =>
          obtain rfl := Option.some.inj hm
          obtain ⟨-, rfl⟩ := eq_of_ended (fun w => by cases w <;> rfl) hrest
          obtain h | h := hx' <;> cases h
      | redirect status target => cases hm
      | headers status => cases hm

section Views

variable {ω : Type*}

def Policy.on (policy : Policy ω ε) (view : υ → ω) : Policy υ ε :=
  fun asked next => policy (asked.map view) (view next)

theorem Policy.Respects.on {policy : Policy ω ε} {R : ω → ω → Prop} (h : policy.Respects R)
    (view : υ → ω) : (policy.on view).Respects fun p q => R (view p) (view q) := by
  intro asked prev next hlast hfollow
  refine h (asked.map view) (view prev) (view next) ?_ hfollow
  rw [List.getLast?_map, hlast]
  rfl

theorem Policy.Decides.on {policy : Policy ω ε} (h : policy.Decides) (view : υ → ω) :
    (policy.on view).Decides := fun _ _ => h _ _

theorem Policy.Limited.on {policy : Policy ω ε} (h : policy.Limited limit) (view : υ → ω) :
    (policy.on view).Limited limit := by
  intro asked next hfollow
  have hlt := h (asked.map view) (view next) hfollow
  rwa [List.length_map] at hlt

end Views

/-- Statuses of redirects; the last two repeat method and body, the others ask without a body. -/
def isRedirect (status : ℕ) : Bool := status ∈ [301, 302, 303, 307, 308]

def repeats (status : ℕ) : Bool := status ∈ [307, 308]

/-- An exchange that began with a posted form: the addresses the form was sent to, oldest first, and
whether the request under way has it. -/
structure Post (υ ε : Type*) where
  exchange : Exchange υ ε
  delivered : List υ
  carrying : Bool
  deriving DecidableEq

def Post.start (url : υ) : Post υ ε := ⟨.start url, [url], true⟩

/-- The request a redirect leads to. -/
def Post.hop (p : Post υ ε) (status : ℕ) (target : υ) (x : Exchange υ ε) : Post υ ε :=
  if p.carrying && repeats status then ⟨x, p.delivered ++ [target], true⟩ else ⟨x, p.delivered, false⟩

def Post.advance (policy : Policy υ ε) (cap : ℕ) (p : Post υ ε) (wire : Wire υ) : Option (Post υ ε) :=
  (Exchanges.advance policy cap p.exchange wire).map fun x =>
    match wire with
    | .redirect status target =>
        match policy p.exchange.asked target with
        | .follow => p.hop status target x
        | _ => ⟨x, p.delivered, p.carrying⟩
    | _ => ⟨x, p.delivered, p.carrying⟩

/-- The form went to the first addresses asked; the request under way has it when it went to all. -/
structure Carried (url : υ) (p : Post υ ε) : Prop where
  begins : p.delivered.head? = some url
  front : p.delivered <+: p.exchange.asked
  all : p.carrying = true → p.delivered = p.exchange.asked

theorem carried_start (url : υ) : Carried url (.start url : Post υ ε) where
  begins := rfl
  front := List.prefix_rfl
  all := fun _ => rfl

theorem Post.advance_exchange {p q : Post υ ε} (h : p.advance policy cap wire = some q) :
    Exchanges.advance policy cap p.exchange wire = some q.exchange := by
  obtain ⟨x, hx, rfl⟩ := Option.map_eq_some_iff.mp h
  rw [hx]
  cases wire with
  | redirect status target =>
      dsimp only
      split
      · rw [Post.hop]
        split <;> rfl
      · rfl
  | _ => rfl

/-- A hop sends the form on or loses it; any other step leaves it where it is. -/
theorem Post.advance_cases {p q : Post υ ε} (h : p.advance policy cap wire = some q) :
    (q.exchange.asked = p.exchange.asked ∧ q.delivered = p.delivered ∧ q.carrying = p.carrying) ∨
      ∃ status target, q.exchange.asked = p.exchange.asked ++ [target] ∧
        (p.carrying = true ∧ q.delivered = p.delivered ++ [target] ∧ q.carrying = true ∨
          q.delivered = p.delivered ∧ q.carrying = false) ∧ wire = .redirect status target := by
  obtain ⟨x, hx, rfl⟩ := Option.map_eq_some_iff.mp h
  cases Exchanges.advance_cases hx with
  | followed status target hp =>
      right
      refine ⟨status, target, ?_⟩
      simp only [hp, Post.hop]
      cases hcarry : p.carrying && repeats status with
      | true => exact ⟨rfl, .inl ⟨(Bool.and_eq_true_iff.mp hcarry).1, rfl, rfl⟩, trivial⟩
      | false => exact ⟨rfl, .inr ⟨rfl, rfl⟩, trivial⟩
  | stopped status target hp =>
      left
      simp only [hp]
      exact ⟨rfl, trivial, trivial⟩
  | refused status target why hp =>
      left
      simp only [hp]
      exact ⟨rfl, trivial, trivial⟩
  | _ => exact .inl ⟨rfl, rfl, rfl⟩

theorem Carried.step {p q : Post υ ε} (hp : Carried url p) (h : p.advance policy cap wire = some q) :
    Carried url q := by
  obtain ⟨hasked, hdelivered, hcarrying⟩ | ⟨status, target, hasked, hhop, -⟩ := Post.advance_cases h
  · refine ⟨hdelivered ▸ hp.begins, ?_, ?_⟩
    · rw [hdelivered, hasked]
      exact hp.front
    · intro hall
      rw [hdelivered, hasked]
      exact hp.all (hcarrying ▸ hall)
  · obtain ⟨hcarrying, hdelivered, -⟩ | ⟨hdelivered, hlost⟩ := hhop
    · have hall : q.delivered = q.exchange.asked := by rw [hdelivered, hasked, hp.all hcarrying]
      refine ⟨?_, hall ▸ List.prefix_rfl, fun _ => hall⟩
      rw [hdelivered, List.head?_append, hp.begins]
      rfl
    · refine ⟨hdelivered ▸ hp.begins, ?_, ?_⟩
      · rw [hdelivered, hasked]
        exact hp.front.trans (List.prefix_append _ _)
      · intro hall
        rw [hlost] at hall
        cases hall

/-- One step more. -/
theorem exec_snoc {σ ℓ : Type*} {step : σ → ℓ → Option σ} {s m s' : σ} {ls : List ℓ} {l : ℓ}
    (h : exec step s ls = some m) (hstep : step m l = some s') : exec step s (ls ++ [l]) = some s' := by
  induction ls generalizing s with
  | nil =>
      obtain rfl : s = m := by simpa using h
      exact exec_cons_eq_some.mpr ⟨s', hstep, rfl⟩
  | cons first ls ih =>
      obtain ⟨n, hn, hrest⟩ := exec_cons_eq_some.mp h
      exact exec_cons_eq_some.mpr ⟨n, hn, ih hrest⟩

/-- A run of the form is one of the exchange. -/
theorem exec_exchange {p q : Post υ ε} (h : exec (Post.advance policy cap) p wires = some q) :
    run policy cap p.exchange wires = some q.exchange := by
  induction wires generalizing p with
  | nil =>
      obtain rfl : p = q := by simpa using h
      rfl
  | cons wire wires ih =>
      obtain ⟨m, hm, hrest⟩ := exec_cons_eq_some.mp h
      exact exec_cons_eq_some.mpr ⟨m.exchange, p.advance_exchange hm, ih hrest⟩

/-- A redirect. -/
def Wire.isHop : Wire υ → Bool
  | .redirect _ _ => true
  | _ => false

/-- Redirects lead to the headers of the final answer, and what is held of its body came after
them. -/
theorem headers_of_reading {status : ℕ} {body : List UInt8} (hdecides : policy.Decides)
    (hx : x.phase = .sent) (hrun : run policy cap x wires = some x')
    (hx' : x'.phase = .reading status body) :
    ∃ hops chunks, wires = hops ++ Wire.headers status :: chunks ∧
      (∀ w ∈ hops, w.isHop = true) ∧ body = chunks.flatMap Wire.bytes := by
  induction wires generalizing x with
  | nil =>
      obtain rfl : x = x' := by simpa using hrun
      rw [hx] at hx'
      cases hx'
  | cons wire wires ih =>
      obtain ⟨m, hm, hrest⟩ := exec_cons_eq_some.mp hrun
      cases advance_cases hm with
      | followed status' target hp =>
          obtain ⟨hops, chunks, rfl, hhops, hbody⟩ := ih rfl hrest
          refine ⟨.redirect status' target :: hops, chunks, rfl, fun w hw => ?_, hbody⟩
          obtain rfl | hw := List.mem_cons.mp hw
          · rfl
          · exact hhops w hw
      | stopped status' target hp => exact absurd hp (hdecides _ _)
      | headers status' =>
          obtain ⟨rfl, hbody⟩ := received_bytes rfl hrest (.inr hx')
          exact ⟨[], wires, rfl, fun w hw => (by cases hw), hbody⟩
      | refused status' target why hp =>
          obtain ⟨-, rfl⟩ := eq_of_ended (fun w => by cases w <;> rfl) hrest
          cases hx'
      | broken err =>
          obtain ⟨-, rfl⟩ := eq_of_ended (fun w => by cases w <;> rfl) hrest
          cases hx'
      | kept status' body' bytes hreading hle =>
          rw [hx] at hreading
          cases hreading
      | oversized status' body' bytes hreading hlt =>
          rw [hx] at hreading
          cases hreading
      | finished status' body' hreading =>
          rw [hx] at hreading
          cases hreading

section Results

variable {ρ : Type*} {settle : Phase ε → Exchange υ ε → Option ρ}

/-- The caller waits until a step settles what it is told, looking at the phase before and at the
exchange after. -/
def await (policy : Policy υ ε) (cap : ℕ) (settle : Phase ε → Exchange υ ε → Option ρ) :
    Post υ ε → List (Wire υ) → Option (ρ × Post υ ε)
  | _, [] => none
  | p, wire :: wires =>
      (p.advance policy cap wire).bind fun q =>
        match settle p.exchange.phase q.exchange with
        | some result => some (result, q)
        | none => await policy cap settle q wires

theorem await_cons {p : Post υ ε} {result : ρ} {q : Post υ ε} :
    await policy cap settle p (wire :: wires) = some (result, q) ↔
      ∃ m, p.advance policy cap wire = some m ∧
        (settle p.exchange.phase m.exchange = some result ∧ m = q ∨
          settle p.exchange.phase m.exchange = none ∧ await policy cap settle m wires = some (result, q)) := by
  rw [await, Option.bind_eq_some_iff]
  refine exists_congr fun m => and_congr_right fun _ => ?_
  cases hsettle : settle p.exchange.phase m.exchange with
  | none => simp
  | some settled => simp [eq_comm]

/-- A result is that of the last step of a run. -/
theorem await_run {p q : Post υ ε} {result : ρ} (h : await policy cap settle p wires = some (result, q)) :
    ∃ before wire after m, wires = before ++ wire :: after ∧
      exec (Post.advance policy cap) p before = some m ∧ m.advance policy cap wire = some q ∧
        settle m.exchange.phase q.exchange = some result := by
  induction wires generalizing p with
  | nil => cases h
  | cons wire wires ih =>
      obtain ⟨m, hm, ⟨hsettle, rfl⟩ | ⟨-, hrest⟩⟩ := await_cons.mp h
      · exact ⟨[], wire, wires, p, rfl, rfl, hm, hsettle⟩
      · obtain ⟨before, last, after, n, rfl, hexec, hstep, hresult⟩ := ih hrest
        exact ⟨wire :: before, last, after, n, rfl, exec_cons_eq_some.mpr ⟨m, hm, hexec⟩, hstep, hresult⟩

/-- What holds at the start and is kept by every step holds where the result is known. -/
theorem await_invariant {Inv : Post υ ε → Prop} {p q : Post υ ε} {result : ρ}
    (hstep : ∀ p w q, Inv p → p.advance policy cap w = some q → Inv q) (hp : Inv p)
    (h : await policy cap settle p wires = some (result, q)) : Inv q := by
  obtain ⟨before, last, after, m, -, hexec, hlast, -⟩ := await_run h
  exact hstep m last q (exec_preserves (fun s l s' hs hl => hstep s l s' hs hl) hp hexec) hlast

/-- The form was carried as it should, and the exchange is sound. -/
theorem await_sound {result : ρ} {q : Post υ ε} (hlimit : 0 < limit) (hrespects : policy.Respects R)
    (hlimited : policy.Limited limit) (h : await policy cap settle (.start url) wires = some (result, q)) :
    Carried url q ∧ Sound R limit cap url q.exchange := by
  have hkept : ∀ (p : Post υ ε) w q', (Carried url p ∧ Sound R limit cap url p.exchange) →
      p.advance policy cap w = some q' → Carried url q' ∧ Sound R limit cap url q'.exchange :=
    fun p w q' hp hstep => ⟨hp.1.step hstep, hp.2.step hrespects hlimited (p.advance_exchange hstep)⟩
  exact await_invariant hkept ⟨carried_start url, sound_start hlimit⟩ h

end Results

end IdentityModel.Exchanges
