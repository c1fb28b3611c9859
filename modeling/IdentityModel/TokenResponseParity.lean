import IdentityModel.ClaimsParity
import IdentityModel.TokenResponses

/-!
# Token responses in Go and Rust

What Rust takes, Go takes too, if no other number is out of range; what Go takes, Rust takes when it can
read the body, every parameter comes at most once, the type of the token is not null, and the lifetime is
no text that only Go takes for a number. Where both take it they hold the same token.
-/
namespace IdentityModel.TokenResponses

open Results
open Combinators.Rust (IdentityError)
open FlexibleSeconds (GoText Nearest)
open GoExtras (InRange extraOf lookup_extraOf storedOrder toAny)
open RustClaims (FloatReader SerdeValue)

section Go

open Go

variable {rt : Runtime} {raw : Dict String Json} {body : Json} {r r' g : Go.TokenResponse} {f : Field}

/-- The member of a field can be decoded. -/
def Go.Decodes (rt : Runtime) (f : Field) (j : Option Json) : Prop :=
  ∀ value, j = some value → (decode rt f value).isOk = true

/-- What a member leaves in a field that held `v`. -/
def Go.kept (rt : Runtime) (f : Field) (j : Option Json) (v : Go.Value f) : Go.Value f :=
  (j.bind fun value => (decode rt f value).toOption.join).getD v

theorem decodeField_eq_ok :
    decodeField rt raw r f = .ok r' ↔ Go.Decodes rt f (raw.lookup f.name) ∧
      r' = r.set f (Go.kept rt f (raw.lookup f.name) (r.get f)) := by
  unfold decodeField Go.Decodes Go.kept
  cases raw.lookup f.name with
  | none =>
      rw [Option.bind_none, Option.getD_none, TokenResponse.set_get]
      simpa using eq_comm
  | some j =>
      rw [Option.bind_some]
      cases hdecode : decode rt f j with
      | error e => simp [hdecode, Except.isOk, Except.toBool]
      | ok v =>
          cases v with
          | none =>
              simp only [Except.toOption, Option.join_some, Option.getD_none, TokenResponse.set_get]
              simpa [hdecode, Except.isOk, Except.toBool] using eq_comm
          | some v =>
              simp only [Except.toOption, Option.join_some, Option.getD_some]
              simpa [hdecode, Except.isOk, Except.toBool] using eq_comm

/-- The loop decodes every field that it visits, and `expires_in`; the order does not matter. -/
theorem decodeFields_eq_ok {fs : List Field} (hexpires : Field.expiresIn ∉ fs) (hnodup : fs.Nodup) :
    decodeFields rt raw fs r = .ok r' ↔
      (∀ f, f ∈ fs ∨ f = .expiresIn → Go.Decodes rt f (raw.lookup f.name)) ∧
        (∀ f, r'.get f = if f ∈ fs ∨ f = .expiresIn then Go.kept rt f (raw.lookup f.name) (r.get f)
          else r.get f) ∧ r'.extra = r.extra := by
  induction fs generalizing r with
  | nil =>
      rw [decodeFields, decodeField_eq_ok]
      simp only [List.not_mem_nil, false_or, forall_eq]
      refine and_congr_right fun _ => ?_
      constructor
      · rintro rfl
        refine ⟨fun f => ?_, TokenResponse.extra_set _⟩
        by_cases hf : f = .expiresIn
        · subst hf
          rw [if_pos rfl, TokenResponse.get_set]
        · rw [if_neg hf, TokenResponse.get_set_ne _ hf]
      · rintro ⟨hget, hextra⟩
        refine TokenResponse.eq_of_get (fun f => ?_) (hextra.trans (TokenResponse.extra_set _).symm)
        by_cases hf : f = .expiresIn
        · subst hf
          rw [hget, if_pos rfl, TokenResponse.get_set]
        · rw [hget, if_neg hf, TokenResponse.get_set_ne _ hf]
  | cons g fs ih =>
      obtain ⟨hg, hnodup⟩ := List.nodup_cons.mp hnodup
      rw [List.mem_cons, not_or] at hexpires
      obtain ⟨hne, hexpires⟩ := hexpires
      have hbind : decodeFields rt raw (g :: fs) r = .ok r' ↔
          ∃ mid, decodeField rt raw r g = .ok mid ∧ decodeFields rt raw fs mid = .ok r' := bind_eq_ok
      rw [hbind]
      simp only [decodeField_eq_ok, ih hexpires hnodup]
      have hother : ∀ f, f ∈ fs ∨ f = .expiresIn → f ≠ g := by
        rintro f (hf | rfl) rfl
        · exact hg hf
        · exact hne rfl
      have hcons : ∀ f, f ∈ g :: fs ∨ f = .expiresIn ↔ f = g ∨ (f ∈ fs ∨ f = .expiresIn) := by
        intro f
        rw [List.mem_cons, or_assoc]
      constructor
      · rintro ⟨mid, ⟨hdecodes, rfl⟩, hall, hget, hextra⟩
        refine ⟨fun f hf => ?_, fun f => ?_, hextra.trans (TokenResponse.extra_set _)⟩
        · obtain rfl | hf := (hcons f).mp hf
          · exact hdecodes
          · exact hall f hf
        · rw [hget f]
          by_cases hfg : f = g
          · subst hfg
            rw [if_neg fun hf => hother f hf rfl, if_pos (.inl List.mem_cons_self), TokenResponse.get_set]
          · rw [TokenResponse.get_set_ne _ hfg]
            simp only [hcons, hfg, false_or]
      · rintro ⟨hall, hget, hextra⟩
        refine ⟨_, ⟨hall g (.inl List.mem_cons_self), rfl⟩, fun f hf => hall f ((hcons f).mpr (.inr hf)),
          fun f => ?_, hextra.trans (TokenResponse.extra_set _).symm⟩
        rw [hget f]
        by_cases hfg : f = g
        · subst hfg
          rw [if_neg fun hf => hother f hf rfl, if_pos (.inl List.mem_cons_self), TokenResponse.get_set]
        · rw [TokenResponse.get_set_ne _ hfg]
          simp only [hcons, hfg, false_or]

/-- What Go reads in a member that may not be there. -/
def Go.read (rt : Runtime) (f : Field) (j : Option Json) : Go.Value f := Go.kept rt f j (zero f)

/-- What Go makes of a body that it takes. -/
def Go.reading (rt : Runtime) (body : Json) : Go.TokenResponse :=
  .ofRecord (fun f => Go.read rt f (body.member? f.name)) (extraOf rt.toRuntime known body)

theorem allFields_eq_ok :
    decodeFields rt (Dict.insertAll body.members ∅) rt.fields {} = .ok r ↔
      (∀ f, Go.Decodes rt f (body.member? f.name)) ∧
        r = .ofRecord (fun f => Go.read rt f (body.member? f.name)) none := by
  have hmem : ∀ f, f ∈ rt.fields ∨ f = .expiresIn := by
    intro f
    rw [rt.fieldsPerm.mem_iff]
    cases f <;> decide
  have hexpires : Field.expiresIn ∉ rt.fields := fun h => absurd (rt.fieldsPerm.mem_iff.mp h) (by decide)
  have hnodup : rt.fields.Nodup := rt.fieldsPerm.nodup_iff.mpr (by decide)
  have hzero : ∀ f, TokenResponse.get {} f = zero f := by
    intro f
    cases f <;> rfl
  rw [decodeFields_eq_ok hexpires hnodup]
  simp only [hmem, Json.lookup_insertAll, if_true, hzero, forall_const]
  refine and_congr_right fun _ => ?_
  constructor
  · rintro ⟨hget, hextra⟩
    refine TokenResponse.eq_of_get (fun f => ?_) hextra
    rw [TokenResponse.get_ofRecord]
    exact hget f
  · rintro rfl
    exact ⟨fun f => TokenResponse.get_ofRecord _ _ f, rfl⟩

theorem decodeMap_eq_ok :
    decodeMap rt (Dict.insertAll body.members ∅) = .ok g ↔ (∀ f, Go.Decodes rt f (body.member? f.name)) ∧
      InRange known body ∧ g = Go.reading rt body := by
  unfold decodeMap
  cases hdecode : decodeFields rt (Dict.insertAll body.members ∅) rt.fields {} with
  | error e =>
      have hnot : ¬ ∀ f, Go.Decodes rt f (body.member? f.name) := by
        intro hall
        cases hdecode.symm.trans (allFields_eq_ok.mpr ⟨hall, rfl⟩)
      constructor
      · intro h
        cases h
      · rintro ⟨hall, -⟩
        exact absurd hall hnot
  | ok r =>
      obtain ⟨hall, rfl⟩ := allFields_eq_ok.mp hdecode
      rw [and_iff_right hall]
      exact GoExtras.map_decodeRest_eq_ok _

/-- Go takes a body when it is not nested too deeply, it is an object or null, the last member of every
parameter can be decoded, and no other number is out of range. -/
theorem unmarshalJSON_eq_ok :
    unmarshalJSON rt body = .ok g ↔ body.depth ≤ GoKeySet.maxNestingDepth ∧
      ((∃ ms, body = .obj ms) ∨ body = .null) ∧ (∀ f, Go.Decodes rt f (body.member? f.name)) ∧
        InRange known body ∧ g = Go.reading rt body := by
  by_cases hdepth : GoKeySet.maxNestingDepth < body.depth
  · simp [unmarshalJSON, hdepth]
  rw [and_iff_right (Nat.le_of_not_lt hdepth), ← decodeMap_eq_ok]
  unfold unmarshalJSON
  rw [if_neg hdepth]
  cases body with
  | obj ms => simp [GoClaims.unmarshalMap, Json.members]
  | null => simp [GoClaims.unmarshalMap, Json.members, Dict.insertAll]
  | _ => simp [GoClaims.unmarshalMap]

/-- What every grant asks of a token: that it is there, and an exchange that both types are. -/
def Complete (grant : Grant) (accessToken tokenType issuedTokenType : String) : Prop :=
  accessToken ≠ "" ∧ (grant = .exchange → tokenType ≠ "" ∧ issuedTokenType ≠ "")

theorem Go.answer_eq_ok {status : ℕ} {grant : Grant} :
    Go.answer rt status grant body = .ok g ↔
      unmarshalJSON rt body = .ok g ∧ Complete grant g.accessToken g.tokenType g.issuedTokenType := by
  have htoken : ∀ g, tokenAnswer rt status body = .ok g ↔
      unmarshalJSON rt body = .ok g ∧ g.accessToken ≠ "" := by
    intro g
    unfold tokenAnswer
    cases unmarshalJSON rt body with
    | error e => simp
    | ok tr => by_cases hempty : tr.accessToken = "" <;> simp [hempty] <;> grind
  cases grant with
  | plain => simp [Go.answer, htoken, Complete]
  | exchange =>
      rw [Go.answer, bind_eq_ok]
      simp only [htoken, Complete, forall_const]
      constructor
      · rintro ⟨r, ⟨hr, haccess⟩, h⟩
        split at h
        · cases h
        · split at h
          · cases h
          · cases h
            exact ⟨hr, haccess, by assumption, by assumption⟩
      · rintro ⟨hg, haccess, htype, hissued⟩
        exact ⟨g, ⟨hg, haccess⟩, by rw [if_neg htype, if_neg hissued]⟩

end Go

section Rust

open Rust

variable {fmt : Fmt} {reader : FloatReader} {endpoint : String} {body : Json} {s : Rust.TokenResponse}

/-- How often a name comes in a body. -/
def times (name : String) (body : Json) : ℕ := body.members.countP fun m => m.1 = name

/-- The last member of every parameter can be read. -/
def Rust.ReadsAll (fmt : Fmt) (float : Number → ℚ) (body : Json) : Prop :=
  ∀ f j, body.member? (Field.name f) = some j → (read fmt float f j).isOk = true

/-- What Rust makes of a body that it takes. -/
def Rust.reading (fmt : Fmt) (reader : FloatReader) (body : Json) : Rust.TokenResponse :=
  .ofRecord (fun f => ((shape fmt reader.float).given f body).getD (zero f))
    ((shape fmt reader.float).rest body.members)

theorem get_rustReading (f : Field) :
    (Rust.reading fmt reader body).get f = ((shape fmt reader.float).given f body).getD (zero f) :=
  Rust.TokenResponse.get_ofRecord _ _ f

/-- Rust takes a body that it can read when it is an object with at most one member for each parameter,
each of which can be read, and the token is there. -/
theorem fromSlice_eq_ok :
    fromSlice fmt reader body = .ok s ↔ reader.Readable body ∧ (∃ ms, body = .obj ms) ∧
      (∀ f : Field, times f.name body ≤ 1) ∧ Rust.ReadsAll fmt reader.float body ∧
        body.member? "access_token" ≠ none ∧ s = Rust.reading fmt reader body := by
  unfold fromSlice
  split
  · rename_i hreadable
    rw [and_iff_right hreadable]
    cases body with
    | obj ms =>
        have hlawful := shape_lawful fmt reader.float
        have hfill := @SerdeShape.fill_eq_ok _ _ ms _ hlawful
        have hrequired : ∀ f, (shape fmt reader.float).required f = true ↔ f = .accessToken := by
          intro f
          exact decide_eq_true_iff
        have hpresent : (shape fmt reader.float).count .accessToken ms ≠ 0 ↔
            (Json.obj ms).member? "access_token" ≠ none := not_congr SerdeShape.member?_eq_none.symm
        simp only [hrequired, forall_eq, hpresent] at hfill
        refine map_eq_ok.trans ?_
        constructor
        · rintro ⟨a, ha, rfl⟩
          obtain ⟨hreads, honce, hpresent, rfl⟩ := hfill.mp ha
          exact ⟨⟨ms, rfl⟩, honce, (SerdeShape.reads_iff hlawful honce).mp hreads, hpresent, rfl⟩
        · rintro ⟨-, honce, hreads, hpresent, rfl⟩
          exact ⟨_, hfill.mpr ⟨(SerdeShape.reads_iff hlawful honce).mpr hreads, honce, hpresent, rfl⟩, rfl⟩
    | _ => simp
  · simp [*]

theorem Rust.answer_eq_ok {grant : Grant} :
    Rust.answer fmt reader endpoint grant body = .ok s ↔ fromSlice fmt reader body = .ok s ∧
      Complete grant s.accessToken s.tokenType (s.issuedTokenType.getD "") := by
  have htoken : ∀ s, tokenAnswer fmt reader endpoint body = .ok s ↔
      fromSlice fmt reader body = .ok s ∧ s.accessToken ≠ "" := by
    intro s
    unfold tokenAnswer
    cases fromSlice fmt reader body with
    | error e => simp
    | ok token => by_cases hempty : token.accessToken = "" <;> simp [hempty] <;> grind
  cases grant with
  | plain => simp [Rust.answer, htoken, Complete]
  | exchange =>
      have hissued : ∀ t : Option String, t.any (fun t => t ≠ "") = true ↔ t.getD "" ≠ "" := by
        intro t
        cases t <;> simp
      rw [Rust.answer, bind_eq_ok]
      simp only [htoken, Complete, forall_const, hissued, not_not]
      constructor
      · rintro ⟨r, ⟨hr, haccess⟩, h⟩
        split at h
        · cases h
        · split at h
          · cases h
          · cases h
            exact ⟨hr, haccess, by assumption, by assumption⟩
      · rintro ⟨hg, haccess, htype, hissued⟩
        exact ⟨s, ⟨hg, haccess⟩, by rw [if_neg htype, if_neg hissued]⟩

end Rust

/-- What a caller sees in a field; what is absent is the zero value of Go. -/
def Rust.seen : (f : Field) → Rust.Value f → Go.Value f
  | .accessToken, s => s
  | .tokenType, s => s
  | .expiresIn, i => i
  | .scope, s => s.getD ""
  | .refreshToken, s => s.getD ""
  | .idToken, s => s.getD ""
  | .issuedTokenType, s => s.getD ""

/-- What Rust asks of a member besides what Go does. -/
def Regular : Field → Json → Prop
  | .accessToken, j => j ≠ .null
  | .tokenType, j => j ≠ .null
  | .expiresIn, j => ¬ GoText j
  | .scope, _ => True
  | .refreshToken, _ => True
  | .idToken, _ => True
  | .issuedTokenType, _ => True

/-- The lifetime, if it is a literal, is read to the nearest float. -/
def NearestLifetime (reader : FloatReader) (body : Json) : Prop :=
  ∀ n, body.member? "expires_in" = some (.num n) → Nearest reader n

section Member

variable {rt : Go.Runtime} {fmt : Rust.Fmt} {float : Number → ℚ} {j : Json}

/-- A member that Rust takes is one that Go takes, and both see the same in it. -/
structure Agrees (rt : Go.Runtime) (fmt : Rust.Fmt) (float : Number → ℚ) (f : Field) (j : Json) : Prop where
  accepted : (Rust.read fmt float f j).isOk = true ↔ (Go.decode rt f j).isOk = true ∧ Regular f j
  seen : ∀ v, Rust.read fmt float f j = .ok v → Rust.seen f v = Go.read rt f (some j)

theorem string_agrees (j : Json) :
    ((Rust.readString fmt j).isOk = true ↔ (Go.decodeString j).isOk = true ∧ j ≠ .null) ∧
      ∀ v, Rust.readString fmt j = .ok v → v = ((Go.decodeString j).toOption.join).getD "" := by
  cases j <;> simp [Rust.readString, Go.decodeString, Except.isOk, Except.toBool, Except.toOption]

theorem option_agrees (j : Json) :
    ((Rust.readOption fmt j).isOk = true ↔ (Go.decodeString j).isOk = true ∧ True) ∧
      ∀ v, Rust.readOption fmt j = .ok v → v.getD "" = ((Go.decodeString j).toOption.join).getD "" := by
  cases j <;> simp [Rust.readOption, Rust.readString, Go.decodeString, Except.isOk, Except.toBool,
    Except.toOption, Except.map]

theorem lifetime_agrees {reader : FloatReader} (hnearest : ∀ n, j = .num n → Nearest reader n)
    (hread : reader.refusesIn j = false) :
    ((Rust.read fmt reader.float .expiresIn j).isOk = true ↔
      (Go.decode rt .expiresIn j).isOk = true ∧ ¬ GoText j) ∧
      ∀ v, Rust.read fmt reader.float .expiresIn j = .ok v →
        v = ((Go.decode rt .expiresIn j).toOption.join).getD 0 := by
  have hrust (i : Int64) : Rust.read fmt reader.float .expiresIn j = .ok i ↔
      FlexibleSeconds.Rust.seconds reader.float j = some i :=
    FlexibleSeconds.Rust.deserializeFlexibleExpiresIn_eq_ok
  have hgo (i : Int64) : Go.decode rt .expiresIn j = .ok (some i) ↔ FlexibleSeconds.Go.seconds j = some i := by
    rw [Go.decode, map_eq_ok]
    simp only [Option.some.injEq, exists_eq_right]
    exact FlexibleSeconds.Go.flexibleInt64_eq_ok
  by_cases htext : GoText j
  · have hnone : FlexibleSeconds.Rust.seconds reader.float j = none := FlexibleSeconds.seconds_goText htext
    rw [hnone] at hrust
    cases hr : Rust.read fmt reader.float .expiresIn j with
    | error e => simp [Except.isOk, Except.toBool, htext]
    | ok i => exact absurd ((hrust i).mp hr) (by simp)
  · have hagree := FlexibleSeconds.seconds_agree hnearest hread htext
    cases hr : Rust.read fmt reader.float .expiresIn j with
    | ok i =>
        have hi := (hgo i).mpr (hagree.symm.trans ((hrust i).mp hr))
        simp [hi, htext, Except.isOk, Except.toBool, Except.toOption]
    | error e =>
        have hnone : ∀ i, FlexibleSeconds.Go.seconds j ≠ some i := by
          intro i hi
          cases hr.symm.trans ((hrust i).mpr (hagree.trans hi))
        cases hg : Go.decode rt .expiresIn j with
        | error e => simp [Except.isOk, Except.toBool]
        | ok v =>
            obtain ⟨i, hi, rfl⟩ := map_eq_ok.mp hg
            exact absurd (FlexibleSeconds.Go.flexibleInt64_eq_ok.mp hi) (hnone i)

theorem member_agrees {reader : FloatReader} (f : Field)
    (hnearest : f = .expiresIn → ∀ n, j = .num n → Nearest reader n) (hread : reader.refusesIn j = false) :
    Agrees rt fmt reader.float f j := by
  cases f with
  | accessToken => exact ⟨(string_agrees j).1, (string_agrees j).2⟩
  | tokenType => exact ⟨(string_agrees j).1, (string_agrees j).2⟩
  | expiresIn => exact ⟨(lifetime_agrees (hnearest rfl) hread).1, (lifetime_agrees (hnearest rfl) hread).2⟩
  | scope => exact ⟨(option_agrees j).1, (option_agrees j).2⟩
  | refreshToken => exact ⟨(option_agrees j).1, (option_agrees j).2⟩
  | idToken => exact ⟨(option_agrees j).1, (option_agrees j).2⟩
  | issuedTokenType => exact ⟨(option_agrees j).1, (option_agrees j).2⟩

end Member

/-- Every field shows the same, and every other parameter is there in both readings. -/
structure SameToken (float : Number → ℚ) (g : Go.TokenResponse) (s : Rust.TokenResponse) : Prop where
  fields : ∀ f, g.get f = Rust.seen f (s.get f)
  extra : ∀ name, ∃ raw : Option Json,
    g.getExtra name = raw.map toAny ∧ s.getExtra float name = raw.map (SerdeValue.ofJson float)

/-- What Rust asks of a body besides what Go does. -/
structure Strict (reader : FloatReader) (body : Json) : Prop where
  readable : reader.Readable body
  once : ∀ f : Field, times f.name body ≤ 1
  tokenType : body.member? "token_type" ≠ some .null
  lifetime : ∀ j, body.member? "expires_in" = some j → ¬ GoText j

section Both

variable {rt : Go.Runtime} {fmt : Rust.Fmt} {reader : FloatReader} {body : Json}

theorem agrees_of_member (hnearest : NearestLifetime reader body) (hreadable : reader.Readable body) (f : Field)
    {j : Json} (hj : body.member? f.name = some j) : Agrees rt fmt reader.float f j := by
  have hmem := Json.mem_of_member? hj
  refine member_agrees f ?_ ?_
  · rintro rfl n rfl
    exact hnearest n hj
  · have hread := hreadable.2
    cases body with
    | obj members => exact FloatReader.refusesMember_eq_false hread hmem
    | _ => cases hmem

/-- Which members Rust can read, all of them together. -/
theorem reads_iff (hnearest : NearestLifetime reader body) (hreadable : reader.Readable body) :
    Rust.ReadsAll fmt reader.float body ↔
      (∀ f, Go.Decodes rt f (body.member? f.name)) ∧ ∀ f j, body.member? (Field.name f) = some j → Regular f j := by
  constructor
  · intro h
    have hboth (f : Field) (j : Json) (hj : body.member? f.name = some j) :
        (Go.decode rt f j).isOk = true ∧ Regular f j :=
      (agrees_of_member hnearest hreadable f hj).accepted.mp (h f j hj)
    exact ⟨fun f j hj => (hboth f j hj).1, fun f j hj => (hboth f j hj).2⟩
  · rintro ⟨hdecodes, hregular⟩ f j hj
    exact (agrees_of_member hnearest hreadable f hj).accepted.mpr ⟨hdecodes f j hj, hregular f j hj⟩

theorem regular_iff : (∀ f j, body.member? (Field.name f) = some j → Regular f j) ↔
    body.member? "access_token" ≠ some .null ∧ body.member? "token_type" ≠ some .null ∧
      ∀ j, body.member? "expires_in" = some j → ¬ GoText j := by
  constructor
  · intro h
    refine ⟨fun haccess => ?_, fun htype => ?_, h .expiresIn⟩
    · exact h .accessToken .null haccess rfl
    · exact h .tokenType .null htype rfl
  · rintro ⟨haccess, htype, hlifetime⟩ f j hj
    cases f with
    | accessToken =>
        rintro rfl
        exact haccess hj
    | tokenType =>
        rintro rfl
        exact htype hj
    | expiresIn => exact hlifetime j hj
    | _ => trivial

/-- A token that is not empty is a member of an object, and not null. -/
theorem access_given (h : (Go.reading rt body).accessToken ≠ "") :
    (∃ ms, body = .obj ms) ∧ body.member? "access_token" ≠ none ∧ body.member? "access_token" ≠ some .null := by
  have hread : (Go.reading rt body).accessToken = Go.read rt .accessToken (body.member? "access_token") := rfl
  rw [hread] at h
  have hnone : body.member? "access_token" ≠ none := by
    intro hno
    rw [hno] at h
    exact h rfl
  refine ⟨?_, hnone, ?_⟩
  · cases body with
    | obj ms => exact ⟨ms, rfl⟩
    | _ => exact absurd rfl hnone
  · intro hnull
    rw [hnull] at h
    exact h rfl

/-- Where both take the member of a field they see the same in it, and so they do where there is none. -/
theorem seen_reading (hnearest : NearestLifetime reader body) (hreadable : reader.Readable body)
    (hreads : Rust.ReadsAll fmt reader.float body) (f : Field) :
    Rust.seen f ((Rust.reading fmt reader body).get f) = (Go.reading rt body).get f := by
  rw [get_rustReading, Go.reading, Go.TokenResponse.get_ofRecord]
  cases hj : body.member? f.name with
  | none =>
      have hgiven : (Rust.shape fmt reader.float).given f body = none := by
        have hname : body.member? ((Rust.shape fmt reader.float).name f) = none := hj
        rw [SerdeShape.given, hname]
        rfl
      rw [hgiven]
      cases f <;> rfl
  | some j =>
      obtain ⟨v, hv⟩ := exists_of_isOk (hreads f j hj)
      have hgiven : (Rust.shape fmt reader.float).given f body = some v := by
        have hname : body.member? ((Rust.shape fmt reader.float).name f) = some j := hj
        have hread : (Rust.shape fmt reader.float).read f j = .ok v := hv
        rw [SerdeShape.given, hname, Option.bind_some, hread]
        rfl
      rw [hgiven]
      exact (agrees_of_member hnearest hreadable f hj).seen v hv

theorem getExtra_reading (name : String) :
    (Go.reading rt body).getExtra name = (if name ∈ known then none else body.member? name).map toAny :=
  lookup_extraOf name

theorem getExtra_rustReading {members : List (String × Json)} (name : String) :
    (Rust.reading fmt reader (.obj members)).getExtra reader.float name =
      (if name ∈ known then none else (Json.obj members).member? name).map (SerdeValue.ofJson reader.float) := by
  have hrest := SerdeShape.lookup_rest (Rust.shape_lawful fmt reader.float) members name
  rw [Rust.TokenResponse.getExtra]
  exact congrArg _ hrest

end Both

/-- On a success, and for every grant: what Go takes, Rust takes just where the body is as strict as it
asks; what Rust takes, Go takes just where no other number is out of range; and where both take it they
hold the same token, if a lifetime that is a literal is read to the nearest float. -/
theorem token_responses_agree (rt : Go.Runtime) (fmt : Rust.Fmt) (reader : FloatReader) (endpoint : String)
    (status : ℕ) (grant : Grant) (body : Json) (hnearest : NearestLifetime reader body) :
    (∀ g, Go.answer rt status grant body = .ok g →
      ((∃ s, Rust.answer fmt reader endpoint grant body = .ok s) ↔ Strict reader body)) ∧
    (∀ s, Rust.answer fmt reader endpoint grant body = .ok s →
      ((∃ g, Go.answer rt status grant body = .ok g) ↔ InRange known body)) ∧
    (∀ g s, Go.answer rt status grant body = .ok g → Rust.answer fmt reader endpoint grant body = .ok s →
      SameToken reader.float g s) := by
  have hcomplete (hreadable : reader.Readable body) (hreads : Rust.ReadsAll fmt reader.float body) :
      Complete grant (Rust.reading fmt reader body).accessToken (Rust.reading fmt reader body).tokenType
        ((Rust.reading fmt reader body).issuedTokenType.getD "") ↔
      Complete grant (Go.reading rt body).accessToken (Go.reading rt body).tokenType
        (Go.reading rt body).issuedTokenType := by
    have haccess : (Rust.reading fmt reader body).accessToken = (Go.reading rt body).accessToken :=
      seen_reading hnearest hreadable hreads .accessToken
    have htype : (Rust.reading fmt reader body).tokenType = (Go.reading rt body).tokenType :=
      seen_reading hnearest hreadable hreads .tokenType
    have hissued : (Rust.reading fmt reader body).issuedTokenType.getD "" =
        (Go.reading rt body).issuedTokenType := seen_reading hnearest hreadable hreads .issuedTokenType
    rw [haccess, htype, hissued]
  simp only [Go.answer_eq_ok, Rust.answer_eq_ok, unmarshalJSON_eq_ok, fromSlice_eq_ok]
  refine ⟨?_, ?_, ?_⟩
  · rintro g ⟨⟨-, -, hdecodes, -, rfl⟩, hgo⟩
    obtain ⟨hobj, hpresent, haccess⟩ := access_given hgo.1
    constructor
    · rintro ⟨s, ⟨hreadable, -, honce, hreads, -, rfl⟩, -⟩
      have hsplit : (∀ f, Go.Decodes rt f (body.member? f.name)) ∧
          ∀ f j, body.member? (Field.name f) = some j → Regular f j := (reads_iff hnearest hreadable).mp hreads
      obtain ⟨-, htype, hlifetime⟩ := regular_iff.mp hsplit.2
      exact ⟨hreadable, honce, htype, hlifetime⟩
    · intro h
      have hreads : Rust.ReadsAll fmt reader.float body := (reads_iff hnearest h.readable).mpr
        ⟨hdecodes, regular_iff.mpr ⟨haccess, h.tokenType, h.lifetime⟩⟩
      exact ⟨_, ⟨h.readable, hobj, h.once, hreads, hpresent, rfl⟩, (hcomplete h.readable hreads).mpr hgo⟩
  · rintro s ⟨⟨hreadable, hobj, -, hreads, -, rfl⟩, hrust⟩
    have hshallow : body.depth ≤ GoKeySet.maxNestingDepth := hreadable.1.le.trans (by decide)
    constructor
    · rintro ⟨g, ⟨-, -, -, hrange, -⟩, -⟩
      exact hrange
    · intro hrange
      exact ⟨_, ⟨hshallow, .inl hobj, ((reads_iff hnearest hreadable).mp hreads).1, hrange, rfl⟩,
        (hcomplete hreadable hreads).mp hrust⟩
  · rintro g s ⟨⟨-, -, -, -, rfl⟩, -⟩ ⟨⟨hreadable, ⟨members, rfl⟩, -, hreads, -, rfl⟩, -⟩
    exact ⟨fun f => (seen_reading hnearest hreadable hreads f).symm,
      fun name => ⟨_, getExtra_reading name, getExtra_rustReading name⟩⟩

/-- Fields and maps are visited as they are written. -/
def writtenOrder : Go.Runtime where
  toRuntime := GoExtras.storedOrder
  fmt := ⟨fun s => s, fun _ => "", fun _ => ""⟩
  fields := Go.strFields
  fieldsPerm := .refl _

def plainFmt : Rust.Fmt where
  debug s := s
  float _ := ""
  number _ := ""
  value _ := ""
  invalidType _ what := what
  unreadable _ := ""

def sampleBody : Json :=
  .obj [("access_token", .str "a"), ("token_type", .str "Bearer"),
    ("expires_in", .num RustClaims.oneAndAHalf), ("issued_token_type", .str "urn:t"), ("tenant", .null)]

theorem nearest_sample : NearestLifetime RustClaims.sampleReader sampleBody := by
  have hmember : sampleBody.member? "expires_in" = some (.num RustClaims.oneAndAHalf) := by decide
  intro n hn
  obtain rfl : RustClaims.oneAndAHalf = n := Json.num.inj (Option.some.inj (hmember.symm.trans hn))
  intro _
  decide +kernel

theorem token_responses_agree_sample :
    ∃ g s, Go.answer writtenOrder 200 .exchange sampleBody = .ok g ∧
      Rust.answer plainFmt RustClaims.sampleReader "https://idp/t" .exchange sampleBody = .ok s ∧
        SameToken Number.value g s := by
  obtain ⟨g, hg⟩ := Results.exists_of_isOk
    (show (Go.answer writtenOrder 200 .exchange sampleBody).isOk = true by decide +kernel)
  obtain ⟨s, hs⟩ := Results.exists_of_isOk
    (show (Rust.answer plainFmt RustClaims.sampleReader "https://idp/t" .exchange sampleBody).isOk = true by
      decide +kernel)
  obtain ⟨-, -, hsame⟩ := token_responses_agree writtenOrder plainFmt RustClaims.sampleReader
    "https://idp/t" 200 .exchange sampleBody nearest_sample
  exact ⟨g, s, hg, hs, hsame g s hg hs⟩

end IdentityModel.TokenResponses
