import IdentityModel.GoClaims
import IdentityModel.RustClaims

/-!
# Registered claims in Go and Rust

`parseClaims` and `Claims.validate` of `go/pkg/jwt/claims.go` beside
`Claims::from_value` and `Claims::validate` of `rust/src/jwt/claims.rs`, on one
payload with the same expected issuer and nonce, clock and skew. Go's decoder
takes a null string or date for an absent one and knows nothing of `azp`; Rust
wants strings and dates where a member is present at all, and an expected nonce
to be there even when it is empty.
-/
namespace IdentityModel.ClaimsParity

open Results

/-- What the caller expects, in seconds since the epoch and whole seconds of
skew; the clock in nanoseconds. -/
structure Expected where
  issuer : Option String
  nonce : Option String
  now : ℤ
  skew : ℕ

def nanos : ℤ := 1000000000

/-- The Go options: an issuer that is not set is the empty one. -/
def Expected.go (x : Expected) : GoClaims.Config where
  now := x.now
  clockSkew := x.skew * nanos
  expectedIssuer := x.issuer.getD ""
  expectedNonce := x.nonce.getD ""
  nonceSet := x.nonce.isSome

def Expected.rust (x : Expected) : RustClaims.ValidationOptions where
  expectedIssuer := x.issuer
  expectedNonce := x.nonce
  clockSkew := x.skew * 1000000000

def goAccepts (fmt : GoClaims.Fmt) (x : Expected) (payload : Json) : Prop :=
  ∃ c, GoClaims.parseClaims fmt payload = .ok c ∧ c.validate fmt x.go = none

/-- `now_unix` is the whole seconds of the clock. -/
def rustAccepts (lib : RustClaims.Library) (audiences : String) (x : Expected) (payload : Json) :
    Prop :=
  ∃ c, RustClaims.Claims.fromValue lib payload = .ok c ∧
    c.validate lib audiences x.rust (x.now / nanos) = none

/-- The dates are integers of magnitude at most 2^53, and `serde_json` reads their
literals as such. -/
def IntegerDates (lib : RustClaims.Library) (payload : Json) : Prop :=
  ∀ name ∈ ["exp", "nbf", "iat"], ∀ n, payload.member? name = some (.num n) →
    ∃ k : ℤ, |k| ≤ 2 ^ 53 ∧ n.value = k ∧
      (lib.asI64 n = some k ∨ lib.asI64 n = none ∧ lib.asF64 n = some k)

/-- The names are distinct. -/
def Distinct (payload : Json) : Prop := (payload.members.map Prod.fst).Nodup

/-- No member's name is a registered one in other letters. -/
def ExactNames (payload : Json) : Prop :=
  ∀ m ∈ payload.members, ∀ f, GoClaims.fieldOf m.1 = some f → m.1 = f.name

/-- What Rust asks beyond Go: strings where Go would take a null, a date or
nothing for `nbf`, a string or nothing for `azp`, and a nonce when one is
expected. -/
structure Strict (x : Expected) (payload : Json) : Prop where
  strings : ∀ name ∈ ["iss", "sub", "jti", "nonce"], payload.member? name ≠ some .null
  nbf : payload.member? "nbf" ≠ some .null
  azp : RustClaims.IsStringOrAbsent (payload.member? "azp")
  nonce : x.nonce = some "" → payload.member? "nonce" ≠ none

/-- The integer a member denotes. -/
def dateAt (payload : Json) (name : String) : Option ℤ :=
  match payload.member? name with
  | some (.num n) => some ⌊n.value⌋
  | _ => none

variable {fmt : GoClaims.Fmt} {lib : RustClaims.Library} {payload : Json} {x : Expected}
  {members : List (String × Json)} {name : String} {c : GoClaims.Claims}

theorem go_date {n : Number} {k : ℤ} (hk : |k| ≤ 2 ^ 53) (hn : n.value = k) :
    GoClaims.unmarshalNumericDate fmt (.num n) = .ok (some (k * nanos)) := by
  have hround : Float64.ofRat n.value = .finite k := by
    rw [hn]
    exact Float64.ofRat_intCast hk
  have hrange : ¬ (GoClaims.maxNumericDate < (k : ℚ) ∨ (k : ℚ) < -GoClaims.maxNumericDate) := by
    have habs : |(k : ℚ)| ≤ 2 ^ 53 := by exact_mod_cast hk
    obtain ⟨hlo, hhi⟩ := abs_le.mp habs
    unfold GoClaims.maxNumericDate
    push Not
    exact ⟨hhi, hlo⟩
  simp only [GoClaims.unmarshalNumericDate, hround, if_neg hrange, Float64.truncate_intCast]
  norm_num [Float64.ofRat, Float64.roundAway, nanos]

theorem rust_date {n : Number} {k : ℤ} (hk : |k| ≤ 2 ^ 53)
    (hn : lib.asI64 n = some k ∨ lib.asI64 n = none ∧ lib.asF64 n = some k) (name : String) :
    RustClaims.numericDate lib name (.num n) = .ok k := by
  have hrange : ¬ RustClaims.maxNumericDate < |k| := not_lt.mpr hk
  have hrangeQ : ¬ (RustClaims.maxNumericDate : ℚ) < |(k : ℚ)| := by exact_mod_cast hrange
  obtain hi | ⟨hi, hf⟩ := hn
  · simp [RustClaims.numericDate, hi, hrange]
  · simp [RustClaims.numericDate, hi, hf, hrangeQ]

/-- Saturating at 64 bits does not change how a date compares. -/
theorem le_saturate {d y : ℤ} (hd : |d| ≤ 2 ^ 53) : d ≤ RustClaims.saturate y ↔ d ≤ y := by
  obtain ⟨hlo, hhi⟩ := abs_le.mp hd
  unfold RustClaims.saturate
  constructor
  · intro h
    omega
  · intro h
    omega

theorem saturate_lt {d y : ℤ} (hd : |d| ≤ 2 ^ 53) : RustClaims.saturate y < d ↔ y < d := by
  rw [← not_le, ← not_le, le_saturate hd]

theorem skewSecs_eq (hskew : x.skew * 1000000000 < 2 ^ 63) : RustClaims.skewSecs x.rust = x.skew := by
  unfold RustClaims.skewSecs RustClaims.saturate Expected.rust
  simp only [Nat.mul_div_cancel _ (by norm_num : 0 < 1000000000)]
  omega

theorem scanKeys_of_nodup {seen : List String} (hnodup : (members.map Prod.fst).Nodup)
    (hfresh : ∀ m ∈ members, m.1 ∉ seen) : GoClaims.scanKeys seen members = "" := by
  induction members generalizing seen with
  | nil => rfl
  | cons m ms ih =>
      rw [List.map_cons, List.nodup_cons] at hnodup
      rw [GoClaims.scanKeys, if_neg (hfresh m (by simp))]
      apply ih hnodup.2
      intro m' hm'
      have hne : m'.1 ≠ m.1 := fun he => hnodup.1 (he ▸ List.mem_map_of_mem hm')
      have hold := hfresh m' (List.mem_cons_of_mem _ hm')
      simp [hne, hold]

/-- Decoding goes wrong when it does for some member. -/
theorem decodeMember_clean (acc : GoClaims.Claims × Option String) (m : String × Json) :
    (∃ c, GoClaims.decodeMember fmt acc m = .ok (c, none)) ↔ acc.2 = none ∧
      ∀ f, GoClaims.fieldOf m.1 = some f → ∃ v, GoClaims.decodeField fmt f m.2 = .ok v := by
  obtain ⟨held, error⟩ := acc
  unfold GoClaims.decodeMember
  cases hf : GoClaims.fieldOf m.1 with
  | none => simp
  | some f =>
      cases hd : GoClaims.decodeField fmt f m.2 with
      | error e => cases hmethod : f.hasMethod <;> simp [hd, hmethod]
      | ok v => cases v <;> simp [hd]

theorem decodeMembers_clean (acc : GoClaims.Claims × Option String) :
    (∃ c, members.foldlM (GoClaims.decodeMember fmt) acc = .ok (c, none)) ↔
      acc.2 = none ∧ ∀ m ∈ members, ∀ f, GoClaims.fieldOf m.1 = some f →
        ∃ v, GoClaims.decodeField fmt f m.2 = .ok v := by
  induction members generalizing acc with
  | nil =>
      obtain ⟨held, error⟩ := acc
      simp [pure, Except.pure]
  | cons m ms ih =>
      rw [List.forall_mem_cons, ← and_assoc, ← decodeMember_clean acc m]
      simp only [List.foldlM_cons, Results.bind_eq_ok]
      constructor
      · rintro ⟨c, mid, hmid, hrest⟩
        obtain ⟨hnone, hall⟩ := (ih mid).mp ⟨c, hrest⟩
        obtain ⟨held, error⟩ := mid
        obtain rfl : error = none := hnone
        exact ⟨⟨held, hmid⟩, hall⟩
      · rintro ⟨⟨held, hmid⟩, hall⟩
        obtain ⟨c, hrest⟩ := (ih (held, none)).mpr ⟨rfl, hall⟩
        exact ⟨c, _, hmid, hrest⟩

/-- A payload with distinct and exact names is decoded when each modelled member
is, and then holds the values of these members. -/
theorem parseClaims_exact (hnodup : Distinct (.obj members)) (hexact : ExactNames (.obj members)) :
    (∃ c, GoClaims.parseClaims fmt (.obj members) = .ok c) ↔
      ∀ f j, (Json.obj members).member? (GoClaims.Field.name f) = some j →
        ∃ v, GoClaims.decodeField fmt f j = .ok v := by
  have hdup : GoClaims.duplicateTopLevelKey (.obj members) = "" :=
    scanKeys_of_nodup hnodup (by simp)
  have hdecode := @decodeMembers_clean fmt members ({}, none)
  have hmembers : (∀ m ∈ members, ∀ f, GoClaims.fieldOf m.1 = some f →
        ∃ v, GoClaims.decodeField fmt f m.2 = .ok v) ↔
      ∀ f j, (Json.obj members).member? (GoClaims.Field.name f) = some j →
        ∃ v, GoClaims.decodeField fmt f j = .ok v := by
    constructor
    · intro h f j hj
      exact h _ (Json.mem_of_member? hj) f (GoClaims.fieldOf_name f)
    · intro h m hm f hf
      apply h f
      rw [← hexact m hm f hf]
      exact Json.member?_eq_some hnodup hm
  rw [← hmembers]
  simp only [GoClaims.parseClaims, hdup, GoClaims.unmarshalClaims, GoClaims.unmarshalMap]
  simp only [true_and] at hdecode
  rw [← hdecode]
  cases hfold : members.foldlM (GoClaims.decodeMember fmt) ({}, none) with
  | error e => simp
  | ok acc =>
      obtain ⟨d, err⟩ := acc
      cases err <;> simp

/-- The text of a member, empty when there is none. -/
def textAt (payload : Json) (name : String) : String :=
  ((payload.member? name).bind Json.str?).getD ""

/-- What both sides check of the values. -/
structure Valid (x : Expected) (payload : Json) : Prop where
  iat : dateAt payload "iat" ≠ none
  exp : ∃ e, dateAt payload "exp" = some e ∧ x.now - x.skew * nanos < e * nanos
  nbf : ∀ n, dateAt payload "nbf" = some n → n * nanos ≤ x.now + x.skew * nanos
  iss : ∀ e, x.issuer = some e → textAt payload "iss" = e
  nonce : ∀ e, x.nonce = some e → textAt payload "nonce" = e

/-- Every modelled member is one that Go decodes. -/
def Decodable (fmt : GoClaims.Fmt) (payload : Json) : Prop :=
  ∀ f j, payload.member? (GoClaims.Field.name f) = some j →
    ∃ v, GoClaims.decodeField fmt f j = .ok v

theorem exactValue_eq (f : GoClaims.Field) :
    GoClaims.exactValue fmt f payload = ((payload.member? f.name).bind fun j =>
      (GoClaims.decodeField fmt f j).toOption.join).getD f.zero := by
  unfold GoClaims.exactValue
  congr 2
  funext j
  unfold GoClaims.carries
  cases GoClaims.decodeField fmt f j <;> rfl

theorem textOf_carried {o : Option Json}
    (h : ∀ j, o = some j → ∃ v, GoClaims.unmarshalString name j = .ok v) :
    (o.bind fun j => (GoClaims.unmarshalString name j).toOption.join).getD "" =
      (o.bind Json.str?).getD "" := by
  cases o with
  | none => rfl
  | some j =>
      obtain ⟨v, hv⟩ := h j rfl
      cases j <;> simp_all [GoClaims.unmarshalString, Json.str?, Except.toOption]

theorem exact_iss (h : Decodable fmt payload) :
    GoClaims.exactValue fmt .iss payload = textAt payload "iss" :=
  (exactValue_eq .iss).trans (textOf_carried fun j hj => h .iss j hj)

theorem exact_nonce (h : Decodable fmt payload) :
    GoClaims.exactValue fmt .nonce payload = textAt payload "nonce" :=
  (exactValue_eq .nonce).trans (textOf_carried fun j hj => h .nonce j hj)

theorem dateOf_carried (name : String) (hdates : IntegerDates lib payload)
    (hname : name ∈ ["exp", "nbf", "iat"])
    (h : ∀ j, payload.member? name = some j →
      ∃ v, (GoClaims.unmarshalNumericDate fmt j).map some = .ok v) :
    ((payload.member? name).bind fun j =>
      ((GoClaims.unmarshalNumericDate fmt j).map some).toOption.join).getD none =
        (dateAt payload name).map fun k => k * nanos := by
  unfold dateAt
  cases hj : payload.member? name with
  | none => rfl
  | some j =>
      obtain ⟨v, hv⟩ := h j hj
      cases j with
      | num n =>
          obtain ⟨k, hk, hn, -⟩ := hdates name hname n hj
          simp [go_date hk hn, hn, Except.map, Except.toOption]
      | null => simp [GoClaims.unmarshalNumericDate, Except.map, Except.toOption]
      | _ => simp [GoClaims.unmarshalNumericDate, Except.map] at hv

theorem exact_iat (hdates : IntegerDates lib payload) (h : Decodable fmt payload) :
    GoClaims.exactValue fmt .iat payload = (dateAt payload "iat").map fun k => k * nanos :=
  (exactValue_eq .iat).trans
    (dateOf_carried "iat" hdates (by simp) fun j hj => h .iat j hj)

theorem exact_exp (hdates : IntegerDates lib payload) (h : Decodable fmt payload) :
    GoClaims.exactValue fmt .exp payload = (dateAt payload "exp").map fun k => k * nanos :=
  (exactValue_eq .exp).trans
    (dateOf_carried "exp" hdates (by simp) fun j hj => h .exp j hj)

theorem exact_nbf (hdates : IntegerDates lib payload) (h : Decodable fmt payload) :
    GoClaims.exactValue fmt .nbf payload = (dateAt payload "nbf").map fun k => k * nanos :=
  (exactValue_eq .nbf).trans
    (dateOf_carried "nbf" hdates (by simp) fun j hj => h .nbf j hj)

theorem go_validate (hdates : IntegerDates lib payload) (hdec : Decodable fmt payload)
    (hissuer : x.issuer ≠ some "")
    (hget : ∀ f, c.get f = GoClaims.exactValue fmt f payload) :
    c.validate fmt x.go = none ↔ Valid x payload := by
  have hiat : c.issuedAt = _ := (hget .iat).trans (exact_iat hdates hdec)
  have hexp : c.expiry = _ := (hget .exp).trans (exact_exp hdates hdec)
  have hnbf : c.notBefore = _ := (hget .nbf).trans (exact_nbf hdates hdec)
  have hiss : c.issuer = _ := (hget .iss).trans (exact_iss hdec)
  have hnonce : c.nonce = _ := (hget .nonce).trans (exact_nonce hdec)
  rw [GoClaims.validate_eq_none_iff]
  constructor
  · rintro ⟨hi, ⟨exp, he, hlt⟩, hn, hs, -, hno, -⟩
    refine ⟨?_, ?_, ?_, ?_, ?_⟩
    · simpa [hiat] using hi
    · rw [hexp, Option.map_eq_some_iff] at he
      obtain ⟨e, he, rfl⟩ := he
      exact ⟨e, he, hlt⟩
    · exact fun n hn' => hn (n * nanos) (by simp [hnbf, hn'])
    · intro e he
      have hne : e ≠ "" := fun hemp => hissuer (by rw [he, hemp])
      simpa [hiss, Expected.go, he, hne] using hs
    · intro e he
      simpa [hnonce, Expected.go, he] using hno
  · rintro ⟨hi, ⟨e, he, hlt⟩, hn, hs, hno⟩
    refine ⟨?_, ?_, ?_, ?_, ?_, ?_, ?_⟩
    · simpa [hiat] using hi
    · exact ⟨e * nanos, by simp [hexp, he], hlt⟩
    · intro nbf hn'
      rw [hnbf, Option.map_eq_some_iff] at hn'
      obtain ⟨n, hn', rfl⟩ := hn'
      exact hn n hn'
    · intro hne
      cases hx : x.issuer with
      | none => simp [Expected.go, hx] at hne
      | some e => simpa [hiss, Expected.go, hx] using hs e hx
    · exact fun hne => absurd rfl hne
    · intro hset
      cases hx : x.nonce with
      | none => simp [Expected.go, hx] at hset
      | some e => simpa [hnonce, Expected.go, hx] using hno e hx
    · simp [Expected.go]

/-- Go accepts a payload it decodes whose values are valid. -/
theorem goAccepts_iff (hnodup : Distinct (.obj members)) (hexact : ExactNames (.obj members))
    (hdates : IntegerDates lib (.obj members)) (hissuer : x.issuer ≠ some "") :
    goAccepts fmt x (.obj members) ↔
      Decodable fmt (.obj members) ∧ Valid x (.obj members) := by
  have hget : ∀ {c}, GoClaims.parseClaims fmt (.obj members) = .ok c →
      ∀ f, c.get f = GoClaims.exactValue fmt f (.obj members) := fun hc f =>
    (GoClaims.get_eq_exact_iff hc f).mpr (GoClaims.undisputed_of_exact_names hnodup hexact f)
  constructor
  · rintro ⟨c, hc, hv⟩
    have hdec : Decodable fmt (.obj members) := (parseClaims_exact hnodup hexact).mp ⟨c, hc⟩
    exact ⟨hdec, (go_validate hdates hdec hissuer (hget hc)).mp hv⟩
  · rintro ⟨hdec, hvalid⟩
    obtain ⟨c, hc⟩ := (parseClaims_exact hnodup hexact).mpr hdec
    exact ⟨c, hc, (go_validate hdates hdec hissuer (hget hc)).mpr hvalid⟩

theorem rust_dateOf (hdates : IntegerDates lib payload) (hname : name ∈ ["exp", "nbf", "iat"])
    (h : RustClaims.IsDateOrAbsent lib name (payload.member? name)) :
    RustClaims.dateOf lib name (payload.member? name) = dateAt payload name := by
  unfold RustClaims.dateOf dateAt
  cases hj : payload.member? name with
  | none => rfl
  | some j =>
      obtain ⟨secs, hsecs⟩ := h j hj
      cases j with
      | num n =>
          obtain ⟨k, hk, hn, hread⟩ := hdates name hname n hj
          simp [rust_date hk hread, hn, Except.toOption]
      | _ => simp [RustClaims.numericDate] at hsecs

theorem text_eq_iff (h : RustClaims.IsStringOrAbsent (payload.member? name)) {e : String} :
    (payload.member? name).bind Json.str? = some e ↔
      textAt payload name = e ∧ payload.member? name ≠ none := by
  unfold textAt
  cases hj : payload.member? name with
  | none => simp
  | some j =>
      obtain ⟨s, rfl⟩ := h j hj
      simp [Json.str?]

/-- The checks of Rust on claims it has decoded. -/
theorem rust_passes {map : RustClaims.Map} (hlookup : ∀ name, map.lookup name = payload.member? name)
    (hdates : IntegerDates lib payload) (hshape : RustClaims.Shaped lib map)
    (hskew : x.skew * 1000000000 < 2 ^ 63) :
    (RustClaims.claimsOf lib map).Passes x.rust (x.now / nanos) ↔
      Valid x payload ∧ (x.nonce ≠ none → payload.member? "nonce" ≠ none) := by
  have hexpD : RustClaims.dateOf lib "exp" (map.lookup "exp") = dateAt payload "exp" := by
    rw [hlookup]
    exact rust_dateOf hdates (by simp) (hlookup "exp" ▸ hshape.exp)
  have hnbfD : RustClaims.dateOf lib "nbf" (map.lookup "nbf") = dateAt payload "nbf" := by
    rw [hlookup]
    exact rust_dateOf hdates (by simp) (hlookup "nbf" ▸ hshape.nbf)
  have hiatD : RustClaims.dateOf lib "iat" (map.lookup "iat") = dateAt payload "iat" := by
    rw [hlookup]
    exact rust_dateOf hdates (by simp) (hlookup "iat" ▸ hshape.iat)
  have hbounded : ∀ {name k}, name ∈ ["exp", "nbf", "iat"] → dateAt payload name = some k →
      |k| ≤ 2 ^ 53 := by
    intro name k hname hk
    unfold dateAt at hk
    split at hk
    · rename_i n hn
      obtain ⟨k', hk', hval, -⟩ := hdates name hname n hn
      simp only [hval, Int.floor_intCast, Option.some.injEq] at hk
      rw [← hk]
      exact hk'
    · cases hk
  have hiss : ((map.lookup "iss").bind Json.str?).getD "" = textAt payload "iss" := by
    rw [hlookup]
    rfl
  have hnonce : ∀ e, (map.lookup "nonce").bind Json.str? = some e ↔
      textAt payload "nonce" = e ∧ payload.member? "nonce" ≠ none := by
    intro e
    rw [hlookup]
    exact text_eq_iff (hlookup "nonce" ▸ hshape.nonce)
  constructor
  · rintro ⟨hi, he, hfresh, -, hstarted, hs, -, hno, -⟩
    simp only [RustClaims.claimsOf, hexpD, hnbfD, hiatD, skewSecs_eq hskew] at hi he hfresh hstarted
    obtain ⟨e, hexp⟩ := Option.ne_none_iff_exists'.mp (he rfl)
    refine ⟨⟨hi, ⟨e, hexp, ?_⟩, ?_, ?_, ?_⟩, ?_⟩
    · have hlt := (saturate_lt (hbounded (by simp) hexp)).mp (hfresh e hexp)
      unfold nanos at hlt ⊢
      omega
    · intro n hn
      have hle := (le_saturate (hbounded (by simp) hn)).mp (hstarted n hn)
      unfold nanos at hle ⊢
      omega
    · exact fun e he => hiss.symm.trans (hs e he)
    · exact fun e he => ((hnonce e).mp (hno e he)).1
    · intro hne
      obtain ⟨e, he⟩ := Option.ne_none_iff_exists'.mp hne
      exact ((hnonce e).mp (hno e he)).2
  · rintro ⟨⟨hi, ⟨e, hexp, hlt⟩, hn, hs, hno⟩, hpresent⟩
    refine ⟨?_, ?_, ?_, ?_, ?_, ?_, ?_, ?_, ?_⟩
    · simpa only [RustClaims.claimsOf, hiatD] using hi
    · simp [RustClaims.claimsOf, hexpD, hexp]
    · intro d hd
      simp only [RustClaims.claimsOf, hexpD, hexp, Option.some.injEq] at hd
      subst hd
      rw [skewSecs_eq hskew, saturate_lt (hbounded (by simp) hexp)]
      unfold nanos at hlt ⊢
      omega
    · simp [Expected.rust]
    · intro d hd
      simp only [RustClaims.claimsOf, hnbfD] at hd
      rw [skewSecs_eq hskew, le_saturate (hbounded (by simp) hd)]
      have hle := hn d hd
      unfold nanos at hle ⊢
      omega
    · exact fun e he => hiss.trans (hs e he)
    · simp [Expected.rust]
    · intro e he
      have hne : x.nonce ≠ none := by
        rw [show x.nonce = some e from he]
        exact Option.some_ne_none e
      exact (hnonce e).mpr ⟨hno e he, hpresent hne⟩
    · simp [Expected.rust]

/-- Rust accepts a payload of the right shapes whose values are valid, and which
has the nonce that is expected. -/
theorem rustAccepts_iff {audiences : String} (hdates : IntegerDates lib (.obj members))
    (hskew : x.skew * 1000000000 < 2 ^ 63) :
    rustAccepts lib audiences x (.obj members) ↔
      RustClaims.Shaped lib (Dict.insertAll members ∅) ∧ Valid x (.obj members) ∧
        (x.nonce ≠ none → (Json.obj members).member? "nonce" ≠ none) := by
  have hpass := fun hshape => rust_passes (Json.lookup_insertAll members) hdates hshape hskew
  constructor
  · rintro ⟨c, hc, hv⟩
    obtain ⟨_, hms, hshape, rfl⟩ := RustClaims.fromValue_ok.mp hc
    obtain rfl := Json.obj.inj hms
    exact ⟨hshape, (hpass hshape).mp (RustClaims.validate_eq_none_iff.mp hv)⟩
  · rintro ⟨hshape, hvalid⟩
    refine ⟨_, RustClaims.fromValue_ok.mpr ⟨members, rfl, hshape, rfl⟩, ?_⟩
    exact RustClaims.validate_eq_none_iff.mpr ((hpass hshape).mpr hvalid)

/-- A string to Rust is a string or null to Go, and no null. -/
theorem isStringOrAbsent_iff (name : String) {o : Option Json} :
    RustClaims.IsStringOrAbsent o ↔
      (∀ j, o = some j → ∃ v, GoClaims.unmarshalString name j = .ok v) ∧ o ≠ some .null := by
  unfold RustClaims.IsStringOrAbsent
  cases o with
  | none => simp
  | some j => cases j <;> simp [GoClaims.unmarshalString]

theorem strings_of_audience {elems : List Json} {v : Option (List String)}
    (h : GoClaims.unmarshalAudience (.arr elems) = .ok v) :
    ∃ auds : List String, elems = auds.map Json.str := by
  simp only [GoClaims.unmarshalAudience] at h
  split at h
  · cases h
  · rename_i hfind
    split at h
    · cases h
    · rename_i hnull
      have hall : ∀ e ∈ elems, ∃ s, e = Json.str s := by
        intro e he
        have hstr := List.find?_eq_none.mp hfind e he
        have hne : GoClaims.isNull e = false := by
          by_contra hn
          exact hnull (List.any_eq_true.mpr ⟨e, he, by simpa using hn⟩)
        cases e <;> simp_all [GoClaims.asString, GoClaims.isNull]
      clear hfind hnull h
      induction elems with
      | nil => exact ⟨[], rfl⟩
      | cons e es ih =>
          obtain ⟨s, rfl⟩ := hall e (by simp)
          obtain ⟨auds, rfl⟩ := ih fun e' he' => hall e' (List.mem_cons_of_mem _ he')
          exact ⟨s :: auds, rfl⟩

theorem audience_of_strings (auds : List String) :
    GoClaims.unmarshalAudience (.arr (auds.map Json.str)) = .ok (some auds) := by
  have hitems : (auds.map Json.str).filterMap GoClaims.asString = auds := by
    induction auds with
    | nil => rfl
    | cons a as ih => simpa [GoClaims.asString] using ih
  have hfind : (auds.map Json.str).find?
      (fun e => (GoClaims.asString e).isNone && !GoClaims.isNull e) = none := by
    simp [GoClaims.asString]
  have hnull : (auds.map Json.str).any GoClaims.isNull = false := by simp [GoClaims.isNull]
  simp [GoClaims.unmarshalAudience, hfind, hnull, hitems]

theorem isAudience_iff {o : Option Json} :
    RustClaims.IsAudience o ↔
      ∀ j, o = some j → ∃ v, (GoClaims.unmarshalAudience j).map some = .ok v := by
  unfold RustClaims.IsAudience
  cases o with
  | none => simp
  | some j =>
      cases j with
      | arr elems =>
          constructor
          · intro h j hj
            obtain rfl := Option.some.inj hj
            obtain ⟨auds, hauds⟩ : ∃ auds : List String, Json.arr elems = .arr (auds.map Json.str) := by
              simpa using h (.arr elems) rfl
            rw [hauds, audience_of_strings]
            exact ⟨some (some auds), rfl⟩
          · intro h j hj
            obtain rfl := Option.some.inj hj
            obtain ⟨v, hv⟩ := h (.arr elems) rfl
            obtain ⟨w, hw, -⟩ := map_eq_ok.mp hv
            obtain ⟨auds, rfl⟩ := strings_of_audience hw
            exact .inr (.inr ⟨auds, rfl⟩)
      | _ => simp [GoClaims.unmarshalAudience, Except.map]

theorem isDateOrAbsent_iff (fmt : GoClaims.Fmt) (hdates : IntegerDates lib payload)
    (hname : name ∈ ["exp", "nbf", "iat"]) :
    RustClaims.IsDateOrAbsent lib name (payload.member? name) ↔
      (∀ j, payload.member? name = some j →
        ∃ v, (GoClaims.unmarshalNumericDate fmt j).map some = .ok v) ∧
      payload.member? name ≠ some .null := by
  unfold RustClaims.IsDateOrAbsent
  cases hj : payload.member? name with
  | none => simp
  | some j =>
      cases j with
      | num n =>
          obtain ⟨k, hk, hn, hread⟩ := hdates name hname n hj
          simp [go_date hk hn, rust_date hk hread, Except.map]
      | _ => simp [RustClaims.numericDate, GoClaims.unmarshalNumericDate, Except.map]

/-- The shapes Rust wants are those Go decodes, without the nulls of strings and
dates and with an `azp` that is a string. -/
theorem shaped_iff (fmt : GoClaims.Fmt) {map : RustClaims.Map}
    (hlookup : ∀ name, map.lookup name = payload.member? name)
    (hdates : IntegerDates lib payload) :
    RustClaims.Shaped lib map ↔ Decodable fmt payload ∧
      (∀ name ∈ ["iss", "sub", "jti", "nonce"], payload.member? name ≠ some .null) ∧
      (∀ name ∈ ["exp", "nbf", "iat"], payload.member? name ≠ some .null) ∧
      RustClaims.IsStringOrAbsent (payload.member? "azp") := by
  constructor
  · rintro ⟨hiss, hsub, haud, hexp, hnbf, hiat, hjti, hnonce, hazp⟩
    rw [hlookup] at hiss hsub haud hexp hnbf hiat hjti hnonce hazp
    obtain ⟨hiss, hiss'⟩ := (isStringOrAbsent_iff "iss").mp hiss
    obtain ⟨hsub, hsub'⟩ := (isStringOrAbsent_iff "sub").mp hsub
    obtain ⟨hjti, hjti'⟩ := (isStringOrAbsent_iff "jti").mp hjti
    obtain ⟨hnonce, hnonce'⟩ := (isStringOrAbsent_iff "nonce").mp hnonce
    obtain ⟨hexp, hexp'⟩ := (isDateOrAbsent_iff fmt hdates (by simp)).mp hexp
    obtain ⟨hnbf, hnbf'⟩ := (isDateOrAbsent_iff fmt hdates (by simp)).mp hnbf
    obtain ⟨hiat, hiat'⟩ := (isDateOrAbsent_iff fmt hdates (by simp)).mp hiat
    refine ⟨?_, by simp [hiss', hsub', hjti', hnonce'], by simp [hexp', hnbf', hiat'], hazp⟩
    intro f
    cases f with
    | iss => exact hiss
    | sub => exact hsub
    | aud => exact isAudience_iff.mp haud
    | exp => exact hexp
    | nbf => exact hnbf
    | iat => exact hiat
    | jti => exact hjti
    | nonce => exact hnonce
  · rintro ⟨hdec, hstr, hdate, hazp⟩
    refine ⟨?_, ?_, ?_, ?_, ?_, ?_, ?_, ?_, ?_⟩ <;> rw [hlookup]
    · exact (isStringOrAbsent_iff "iss").mpr ⟨hdec .iss, hstr "iss" (by simp)⟩
    · exact (isStringOrAbsent_iff "sub").mpr ⟨hdec .sub, hstr "sub" (by simp)⟩
    · exact isAudience_iff.mpr (hdec .aud)
    · exact (isDateOrAbsent_iff fmt hdates (by simp)).mpr ⟨hdec .exp, hdate "exp" (by simp)⟩
    · exact (isDateOrAbsent_iff fmt hdates (by simp)).mpr ⟨hdec .nbf, hdate "nbf" (by simp)⟩
    · exact (isDateOrAbsent_iff fmt hdates (by simp)).mpr ⟨hdec .iat, hdate "iat" (by simp)⟩
    · exact (isStringOrAbsent_iff "jti").mpr ⟨hdec .jti, hstr "jti" (by simp)⟩
    · exact (isStringOrAbsent_iff "nonce").mpr ⟨hdec .nonce, hstr "nonce" (by simp)⟩
    · exact hazp

/-- A date that has a value is no null. -/
theorem ne_null_of_dateAt {k : ℤ} (h : dateAt payload name = some k) :
    payload.member? name ≠ some .null := by
  intro hnull
  simp [dateAt, hnull] at h

/-- Rust accepts what Go accepts and is strict. -/
theorem registered_claims_agree (hnodup : Distinct (.obj members))
    (hexact : ExactNames (.obj members)) (hdates : IntegerDates lib (.obj members))
    (hissuer : x.issuer ≠ some "") (hskew : x.skew * 1000000000 < 2 ^ 63) (audiences : String) :
    rustAccepts lib audiences x (.obj members) ↔
      goAccepts fmt x (.obj members) ∧ Strict x (.obj members) := by
  rw [rustAccepts_iff hdates hskew, goAccepts_iff hnodup hexact hdates hissuer,
    shaped_iff fmt (Json.lookup_insertAll members) hdates]
  constructor
  · rintro ⟨⟨hdec, hstr, hdate, hazp⟩, hvalid, hpresent⟩
    refine ⟨⟨hdec, hvalid⟩, hstr, hdate "nbf" (by simp), hazp, ?_⟩
    exact fun hempty => hpresent (by simp [hempty])
  · rintro ⟨⟨hdec, hvalid⟩, hstr, hnbf, hazp, hempty⟩
    obtain ⟨e, hexp, -⟩ := hvalid.exp
    obtain ⟨i, hiat⟩ := Option.ne_none_iff_exists'.mp hvalid.iat
    refine ⟨⟨hdec, hstr, ?_, hazp⟩, hvalid, ?_⟩
    · intro name hname
      simp only [List.mem_cons, List.not_mem_nil, or_false] at hname
      obtain rfl | rfl | rfl := hname
      · exact ne_null_of_dateAt hexp
      · exact hnbf
      · exact ne_null_of_dateAt hiat
    · intro hne habsent
      obtain ⟨e, he⟩ := Option.ne_none_iff_exists'.mp hne
      have htext := hvalid.nonce e he
      rw [textAt, habsent] at htext
      exact hempty (by rw [he, ← htext]; rfl) habsent

/-- A literal of one digit. -/
def oneDigit (d : Digit) : Number where
  negative := false
  whole := [d]
  fraction := []
  exponent := none
  nonempty := by simp
  noLeadingZero := by
    by_cases h : d = 0 <;> simp [h]

theorem oneDigit_value (d : Digit) : (oneDigit d).value = (d.val : ℤ) := by
  simp [oneDigit, Number.value, digitsValue, Number.exponentValue]

theorem oneDigit_dates {members : List (String × Json)}
    (h : ∀ m ∈ members, ∀ n, m.2 = .num n → ∃ d, n = oneDigit d) :
    IntegerDates RustClaims.plainLibrary (.obj members) := by
  intro name _ n hn
  obtain ⟨d, rfl⟩ := h _ (Json.mem_of_member? hn) n rfl
  have hd := d.isLt
  refine ⟨d.val, ?_, oneDigit_value d, .inl ?_⟩
  · rw [abs_of_nonneg (by omega)]
    omega
  · have hsmall : |((d.val : ℤ) : ℚ)| < 2 ^ 63 := by
      rw [abs_of_nonneg (by positivity)]
      have hten : ((d.val : ℤ) : ℚ) < 10 := by exact_mod_cast hd
      linarith
    simp only [RustClaims.plainLibrary, oneDigit_value]
    rw [if_pos ⟨rfl, rfl, hsmall⟩, Int.floor_intCast]

def someone : Expected := ⟨some "https://idp", some "n", 2 * nanos, 1⟩

/-- The issuer and the nonce that are expected, and a token of this minute. -/
def plainClaims : List (String × Json) :=
  [("iss", .str "https://idp"), ("nonce", .str "n"), ("iat", .num (oneDigit 1)),
    ("exp", .num (oneDigit 9))]

theorem registered_claims_agree_plain :
    rustAccepts RustClaims.plainLibrary "" someone (.obj plainClaims) ↔
      goAccepts ⟨id, fun _ => ""⟩ someone (.obj plainClaims) ∧ Strict someone (.obj plainClaims) := by
  apply registered_claims_agree
  · show (plainClaims.map Prod.fst).Nodup
    decide
  · intro m hm f hf
    simp only [plainClaims, Json.members, List.mem_cons, List.not_mem_nil, or_false] at hm
    obtain rfl | rfl | rfl | rfl := hm <;> revert hf <;> cases f <;> decide
  · refine oneDigit_dates fun m hm n hn => ?_
    simp only [plainClaims, List.mem_cons, List.not_mem_nil, or_false] at hm
    obtain rfl | rfl | rfl | rfl := hm
    · cases hn
    · cases hn
    · exact ⟨1, (Json.num.inj hn).symm⟩
    · exact ⟨9, (Json.num.inj hn).symm⟩
  · simp [someone]
  · simp [someone]

/-- A null subject. -/
def nullSubject : List (String × Json) :=
  [("sub", .null), ("iat", .num (oneDigit 1)), ("exp", .num (oneDigit 9))]

def anyone : Expected := ⟨none, none, 2 * nanos, 0⟩

theorem nullSubject_dates : IntegerDates RustClaims.plainLibrary (.obj nullSubject) := by
  refine oneDigit_dates fun m hm n hn => ?_
  simp only [nullSubject, List.mem_cons, List.not_mem_nil, or_false] at hm
  obtain rfl | rfl | rfl := hm
  · cases hn
  · exact ⟨1, (Json.num.inj hn).symm⟩
  · exact ⟨9, (Json.num.inj hn).symm⟩

theorem dateAt_nullSubject : dateAt (.obj nullSubject) "iat" = some 1 ∧
    dateAt (.obj nullSubject) "exp" = some 9 ∧ dateAt (.obj nullSubject) "nbf" = none := by
  simp [dateAt, Json.member?, Json.members, nullSubject, oneDigit_value]

theorem nullSubject_goAccepts : goAccepts ⟨id, fun _ => ""⟩ anyone (.obj nullSubject) := by
  obtain ⟨hiat, hexp, hnbf⟩ := dateAt_nullSubject
  refine (goAccepts_iff ?_ ?_ nullSubject_dates (by simp [anyone])).mpr ⟨?_, ?_, ?_, ?_, ?_, ?_⟩
  · show (nullSubject.map Prod.fst).Nodup
    decide
  · intro m hm f hf
    simp only [nullSubject, Json.members, List.mem_cons, List.not_mem_nil, or_false] at hm
    obtain rfl | rfl | rfl := hm <;> revert hf <;> cases f <;> decide
  · intro f j hj
    have hmem := Json.mem_of_member? hj
    simp only [nullSubject, Json.members, List.mem_cons, Prod.mk.injEq, List.not_mem_nil,
      or_false] at hmem
    have hone := @go_date ⟨id, fun _ => ""⟩ _ _ (by norm_num) (oneDigit_value 1)
    have hnine := @go_date ⟨id, fun _ => ""⟩ _ _ (by norm_num) (oneDigit_value 9)
    cases f <;> simp_all [GoClaims.Field.name, GoClaims.decodeField, GoClaims.unmarshalString,
      Except.map]
  · rw [hiat]
    exact Option.some_ne_none _
  · exact ⟨9, hexp, by norm_num [anyone, nanos]⟩
  · rw [hnbf]
    simp
  · simp [anyone]
  · simp [anyone]

/-- Go takes a null subject for an absent one, Rust rejects it. -/
theorem null_subject_divides :
    ¬ ∀ (fmt : GoClaims.Fmt) (lib : RustClaims.Library) (audiences : String) (x : Expected)
      (members : List (String × Json)), Distinct (.obj members) → IntegerDates lib (.obj members) →
        (goAccepts fmt x (.obj members) ↔ rustAccepts lib audiences x (.obj members)) := by
  intro h
  have hdistinct : Distinct (.obj nullSubject) := by
    show (nullSubject.map Prod.fst).Nodup
    decide
  have hrust := (h ⟨id, fun _ => ""⟩ RustClaims.plainLibrary "" anyone nullSubject hdistinct
    nullSubject_dates).mp nullSubject_goAccepts
  obtain ⟨c, hc, -⟩ := hrust
  obtain ⟨_, hms, hshape, -⟩ := RustClaims.fromValue_ok.mp hc
  obtain rfl := Json.obj.inj hms
  obtain ⟨s, hs⟩ := hshape.sub .null (by rw [Json.lookup_insertAll]; rfl)
  cases hs

end IdentityModel.ClaimsParity
