import IdentityModel.GoKeySet
import IdentityModel.RustKeySet

/-!
# Key sets in Go and Rust

`parseKeySet` of `go/pkg/jwks/jwks.go` beside `JsonWebKeySet::parse` of
`rust/src/jwks/key.rs` on one document. Both keep the usable keys among the
objects under `keys`; what a document offers is said once, for any way to match
member names. Go matches up to letter case and Rust exactly, and each has limits
of its own on what it reads at all.
-/
namespace IdentityModel.KeySetParity

open GoKeySet (Parameter)
open GoJwks (JSONWebKey)
open RustJwks (JsonWebKey)
open Results

/-- How a reader matches member names: with the parameters of a key, and with
`keys`. -/
structure Names where
  parameter : String → Option Parameter
  isKeys : String → Bool

/-- Up to letter case. -/
def folded : Names where
  parameter := GoKeySet.parameterOf
  isKeys name := GoClaims.foldName name = GoClaims.foldName "keys"

def exact : Names where
  parameter name := Parameter.all.find? fun p => p.name = name
  isKeys name := name = "keys"

/-- The parameters of a key; one that is absent is empty. -/
abbrev Texts := Parameter → String

/-- What a key of its type needs. -/
structure Usable (t : Texts) : Prop where
  kty : t .kty ≠ ""
  rsa : t .kty = "RSA" → t .n ≠ "" ∧ t .e ≠ ""
  ec : t .kty = "EC" → t .crv ≠ "" ∧ t .x ≠ "" ∧ t .y ≠ ""

theorem usable_iff (t : Texts) : Usable t ↔
    t .kty ≠ "" ∧ (t .kty = "RSA" → t .n ≠ "" ∧ t .e ≠ "") ∧
      (t .kty = "EC" → t .crv ≠ "" ∧ t .x ≠ "" ∧ t .y ≠ "") :=
  ⟨fun h => ⟨h.kty, h.rsa, h.ec⟩, fun h => ⟨h.1, h.2.1, h.2.2⟩⟩

instance : DecidablePred Usable := fun t => decidable_of_iff _ (usable_iff t).symm

/-- A string, or null for none. -/
def isText : Json → Bool
  | .null => true
  | .str _ => true
  | _ => false

namespace Names

variable (names : Names)

/-- A member that gives a parameter its text. -/
def carries (p : Parameter) (m : String × Json) : Bool :=
  names.parameter m.1 = some p && m.2.str?.isSome

/-- The last text given to a parameter. -/
def text (members : List (String × Json)) (p : Parameter) : String :=
  ((members.findRev? (names.carries p)).bind fun m => m.2.str?).getD ""

def WellTyped (members : List (String × Json)) : Prop :=
  ∀ m ∈ members, (names.parameter m.1).isSome = true → isText m.2 = true

instance (members : List (String × Json)) : Decidable (names.WellTyped members) :=
  inferInstanceAs (Decidable (∀ m ∈ members, _))

/-- The key that an object denotes, if it is a usable one. -/
def key (members : List (String × Json)) : Option Texts :=
  if names.WellTyped members ∧ Usable (names.text members) then some (names.text members) else none

def usableKeys (elems : List Json) : List Texts := elems.filterMap fun j => names.key j.members

/-- The array under `keys`: the last member matched, each of which is an array or
null. -/
structure Holds (members : List (String × Json)) (elems : List Json) : Prop where
  typed : ∀ m ∈ members, names.isKeys m.1 = true → m.2 = .null ∨ ∃ es, m.2 = .arr es
  last : ∃ name, members.findRev? (fun m => names.isKeys m.1) = some (name, .arr elems)

/-- The document is a key set, and these are its usable keys. -/
def Offers (doc : Json) (ts : List Texts) : Prop :=
  ∃ members elems, doc = .obj members ∧ names.Holds members elems ∧
    (∀ e ∈ elems, ∃ ms, e = .obj ms) ∧ names.usableKeys elems = ts ∧ ts ≠ []

end Names

/-- `parseKeySet` returns keys with these parameters. -/
def goParses (uri : String) (doc : Json) (ts : List Texts) : Prop :=
  ∃ ks, GoKeySet.parseKeySet doc uri = .ok ks ∧ ks.map GoKeySet.get = ts

variable {members : List (String × Json)} {elems : List Json} {doc : Json} {ts : List Texts}

theorem decodeMember_get (acc : JSONWebKey × Option String) (m : String × Json) (p : Parameter) :
    GoKeySet.get (GoKeySet.decodeMember acc m).1 p =
      if folded.carries p m then m.2.str?.getD "" else GoKeySet.get acc.1 p := by
  unfold GoKeySet.decodeMember Names.carries
  cases hq : GoKeySet.parameterOf m.1 with
  | none => simp [folded, hq]
  | some q =>
      cases hm : m.2 with
      | str s => simp [folded, hq, GoKeySet.get_set, Json.str?, eq_comm]
      | _ => simp [Json.str?]

/-- A parameter ends up with the last text given to it. -/
theorem decodeMembers_get (acc : JSONWebKey × Option String) (p : Parameter) :
    GoKeySet.get (members.foldl GoKeySet.decodeMember acc).1 p =
      ((members.findRev? (folded.carries p)).bind fun m => m.2.str?).getD
        (GoKeySet.get acc.1 p) := by
  induction members generalizing acc with
  | nil => rfl
  | cons m ms ih =>
      rw [List.foldl_cons, ih, decodeMember_get, List.findRev?]
      cases hlast : ms.findRev? (folded.carries p) with
      | some found =>
          have hfound : folded.carries p found = true :=
            List.find?_some ((List.findRev?_eq_find?_reverse ..).symm.trans hlast)
          obtain ⟨s, hs⟩ := Option.isSome_iff_exists.mp (Bool.and_eq_true_iff.mp hfound).2
          simp [hs]
      | none =>
          by_cases hm : folded.carries p m = true
          · obtain ⟨s, hs⟩ := Option.isSome_iff_exists.mp (Bool.and_eq_true_iff.mp hm).2
            simp [hm, hs]
          · simp [hm]

/-- Decoding goes wrong when a parameter is neither a string nor null. -/
theorem decodeMembers_error (acc : JSONWebKey × Option String) :
    (members.foldl GoKeySet.decodeMember acc).2 = none ↔
      acc.2 = none ∧ folded.WellTyped members := by
  induction members generalizing acc with
  | nil => simp [Names.WellTyped]
  | cons m ms ih =>
      have hstep : (GoKeySet.decodeMember acc m).2 = none ↔
          acc.2 = none ∧ ((folded.parameter m.1).isSome = true → isText m.2 = true) := by
        unfold GoKeySet.decodeMember
        cases hq : GoKeySet.parameterOf m.1 with
        | none => simp [folded, hq]
        | some q => cases m.2 <;> simp [folded, hq, isText]
      rw [List.foldl_cons, ih, hstep]
      simp [Names.WellTyped, and_assoc]

theorem validate_eq_none_iff (k : JSONWebKey) :
    GoKeySet.validate k = none ↔ Usable (GoKeySet.get k) := by
  rw [usable_iff]
  unfold GoKeySet.validate
  simp only [GoKeySet.get]
  split_ifs with hkty hrsa hne hec hcrv
  · simp [hkty]
  · simp [hrsa]
    tauto
  · simp [hrsa]
    tauto
  · simp [hec]
    tauto
  · simp [hec]
    tauto
  · simp [hkty, hrsa, hec]

/-- An object is parsed to its key, or reported as unusable. -/
theorem parseKey_obj (members : List (String × Json)) :
    (∃ k, GoKeySet.parseKey (.obj members) = .ok k ∧
        folded.key members = some (GoKeySet.get k)) ∨
      ∃ kid reason, GoKeySet.parseKey (.obj members) = .error (.invalidKey kid reason) ∧
        folded.key members = none := by
  have herror := @decodeMembers_error members ({}, none)
  have hget : GoKeySet.get (members.foldl GoKeySet.decodeMember ({}, none)).1 =
      folded.text members := by
    funext p
    rw [decodeMembers_get]
    cases p <;> rfl
  cases hfold : members.foldl GoKeySet.decodeMember ({}, none) with
  | mk k err =>
      rw [hfold] at herror hget
      simp only [true_and] at herror
      simp only [GoKeySet.parseKey, GoClaims.unmarshalMap]
      cases err with
      | some err =>
          have hunmarshal : GoKeySet.unmarshalKey (.obj members) = .error err := by
            simp only [GoKeySet.unmarshalKey, Json.members, hfold]
          have hill : ¬ folded.WellTyped members := fun h => by simpa using herror.mpr h
          right
          exact ⟨_, _, by rw [hunmarshal], if_neg fun h => hill h.1⟩
      | none =>
          have hunmarshal : GoKeySet.unmarshalKey (.obj members) = .ok k := by
            simp only [GoKeySet.unmarshalKey, Json.members, hfold]
          have hwell : folded.WellTyped members := herror.mp rfl
          rw [hunmarshal]
          simp only
          unfold Names.key
          rw [← hget]
          cases hv : GoKeySet.validate k with
          | none =>
              left
              exact ⟨k, rfl, if_pos ⟨hwell, (validate_eq_none_iff k).mp hv⟩⟩
          | some e =>
              have hbad : ¬ Usable (GoKeySet.get k) := by
                rw [← validate_eq_none_iff, hv]
                simp
              have hkind : ∃ kid reason, e = .invalidKey kid reason := by
                unfold GoKeySet.validate at hv
                split_ifs at hv <;> exact ⟨_, _, (Option.some.inj hv).symm⟩
              obtain ⟨kid, reason, rfl⟩ := hkind
              right
              exact ⟨kid, reason, rfl, if_neg fun h => hbad h.2⟩

theorem parseKey_not_obj {raw : Json} (h : ¬ ∃ ms, raw = .obj ms) :
    ∃ text, GoKeySet.parseKey raw = .error (.parse text) := by
  cases raw with
  | obj ms => exact absurd ⟨ms, rfl⟩ h
  | _ => exact ⟨_, rfl⟩

/-- The loop ends when every element is an object, and has then added the usable
keys in order. -/
theorem parseKeys_ok (keys : List JSONWebKey) (firstInvalid : Option GoJwks.JwksError) :
    (∀ e ∈ elems, ∃ ms, e = .obj ms) →
      ∃ ks err, GoKeySet.parseKeys keys firstInvalid elems = .ok (keys ++ ks, err) ∧
        ks.map GoKeySet.get = folded.usableKeys elems := by
  induction elems generalizing keys firstInvalid with
  | nil => exact fun _ => ⟨[], firstInvalid, by simp [GoKeySet.parseKeys], rfl⟩
  | cons raw raws ih =>
      intro hobj
      obtain ⟨ms, rfl⟩ := hobj raw (by simp)
      have hrest : ∀ e ∈ raws, ∃ ms, e = .obj ms := fun e he => hobj e (by simp [he])
      rw [GoKeySet.parseKeys]
      obtain ⟨k, hk, hkey⟩ | ⟨kid, reason, hk, hkey⟩ := parseKey_obj ms
      · obtain ⟨ks, err, hparse, hget⟩ := ih (keys ++ [k]) firstInvalid hrest
        refine ⟨k :: ks, err, by simp [hk, hparse], ?_⟩
        simp [Names.usableKeys, Json.members, hkey, hget]
      · obtain ⟨ks, err, hparse, hget⟩ :=
          ih keys (firstInvalid.or (some (.invalidKey kid reason))) hrest
        refine ⟨ks, err, by simp only [hk, hparse], ?_⟩
        simp [Names.usableKeys, Json.members, hkey, hget]

theorem parseKeys_error {keys : List JSONWebKey} {firstInvalid : Option GoJwks.JwksError}
    {result : List JSONWebKey × Option GoJwks.JwksError}
    (h : GoKeySet.parseKeys keys firstInvalid elems = .ok result) :
    ∀ e ∈ elems, ∃ ms, e = .obj ms := by
  induction elems generalizing keys firstInvalid with
  | nil => simp
  | cons raw raws ih =>
      by_cases hraw : ∃ ms, raw = .obj ms
      · rw [GoKeySet.parseKeys] at h
        have hrest : ∀ e ∈ raws, ∃ ms, e = .obj ms := by
          obtain ⟨ms, rfl⟩ := hraw
          obtain ⟨k, hk, -⟩ | ⟨kid, reason, hk, -⟩ := parseKey_obj ms
          · rw [hk] at h
            exact ih h
          · rw [hk] at h
            exact ih h
        intro e he
        obtain rfl | he := List.mem_cons.mp he
        · exact hraw
        · exact hrest e he
      · obtain ⟨text, htext⟩ := parseKey_not_obj hraw
        rw [GoKeySet.parseKeys, htext] at h
        cases h

/-- A reader of `keys` members, folded over the members, ends with the last. -/
theorem decodeKeys_spec (acc : List Json × Option String) :
    ((members.foldl GoKeySet.decodeKeys acc).2 = none ↔ acc.2 = none ∧
      ∀ m ∈ members, folded.isKeys m.1 = true → m.2 = .null ∨ ∃ es, m.2 = .arr es) ∧
    ((members.foldl GoKeySet.decodeKeys acc).2 = none →
      (members.foldl GoKeySet.decodeKeys acc).1 =
        match members.findRev? (fun m => folded.isKeys m.1) with
        | some (_, .arr elems) => elems
        | some _ => []
        | none => acc.1) := by
  induction members generalizing acc with
  | nil => simp
  | cons m ms ih =>
      obtain ⟨herr, hval⟩ := ih (GoKeySet.decodeKeys acc m)
      have hstep : (GoKeySet.decodeKeys acc m).2 = none ↔ acc.2 = none ∧
          (folded.isKeys m.1 = true → m.2 = .null ∨ ∃ es, m.2 = .arr es) := by
        unfold GoKeySet.decodeKeys folded
        by_cases hname : GoClaims.foldName m.1 = GoClaims.foldName "keys"
        · cases m.2 <;> simp [hname]
        · simp [hname]
      constructor
      · rw [List.foldl_cons, herr, hstep]
        simp [and_assoc]
      · intro hnone
        rw [List.foldl_cons] at hnone ⊢
        rw [hval hnone, List.findRev?]
        cases ms.findRev? (fun m => folded.isKeys m.1) with
        | some found =>
            obtain ⟨name, value⟩ := found
            cases value <;> rfl
        | none =>
            have hm := (hstep.mp (herr.mp hnone).1).2
            by_cases hname : folded.isKeys m.1 = true
            · have hfold : GoClaims.foldName m.1 = GoClaims.foldName "keys" := by
                simpa [folded] using hname
              obtain ⟨name, value⟩ := m
              obtain hv | ⟨es, hv⟩ := hm hname <;> simp_all [GoKeySet.decodeKeys]
            · have hfold : ¬ GoClaims.foldName m.1 = GoClaims.foldName "keys" := by
                simpa [folded] using hname
              simp [GoKeySet.decodeKeys, hfold, hname]

theorem unmarshalDocument_ok (hne : elems ≠ []) :
    GoKeySet.unmarshalDocument (.obj members) = .ok elems ↔
      (Json.obj members).depth ≤ GoKeySet.maxNestingDepth ∧ folded.Holds members elems := by
  obtain ⟨herr, hval⟩ := @decodeKeys_spec members ([], none)
  unfold GoKeySet.unmarshalDocument
  by_cases hdepth : GoKeySet.maxNestingDepth < (Json.obj members).depth
  · simp [hdepth, Nat.not_le.mpr hdepth]
  · rw [if_neg hdepth]
    simp only [Nat.not_lt.mp hdepth, true_and]
    cases hfold : members.foldl GoKeySet.decodeKeys ([], none) with
    | mk raws err =>
        rw [hfold] at herr hval
        simp only [true_and] at herr
        cases err with
        | some err =>
            have hill : ¬ folded.Holds members elems := fun h => by simpa using herr.mpr h.typed
            simp [hill]
        | none =>
            have hraws := hval rfl
            constructor
            · intro hok
              obtain rfl : raws = elems := Except.ok.inj hok
              cases hlast : members.findRev? (fun m => folded.isKeys m.1) with
              | none =>
                  rw [hlast] at hraws
                  exact absurd hraws hne
              | some found =>
                  rw [hlast] at hraws
                  obtain ⟨name, value⟩ := found
                  cases value with
                  | arr es =>
                      obtain rfl : raws = es := hraws
                      exact ⟨herr.mp rfl, name, hlast⟩
                  | _ => exact absurd hraws hne
            · rintro ⟨-, name, hlast⟩
              rw [hlast] at hraws
              exact congrArg Except.ok hraws

/-- Go parses what a document offers up to letter case, unless it is too deep. -/
theorem goParses_iff {uri : String} :
    goParses uri doc ts ↔ doc.depth ≤ GoKeySet.maxNestingDepth ∧ folded.Offers doc ts := by
  constructor
  · rintro ⟨ks, hparse, rfl⟩
    unfold GoKeySet.parseKeySet at hparse
    cases hdoc : GoKeySet.unmarshalDocument doc with
    | error err =>
        rw [hdoc] at hparse
        cases hparse
    | ok elems =>
        rw [hdoc] at hparse
        simp only at hparse
        cases hloop : GoKeySet.parseKeys [] none elems with
        | error err =>
            rw [hloop] at hparse
            cases hparse
        | ok result =>
            obtain ⟨keys, err⟩ := result
            have hobj := parseKeys_error hloop
            obtain ⟨ks', err', hloop', hget⟩ := parseKeys_ok [] none hobj
            rw [hloop, List.nil_append] at hloop'
            obtain ⟨rfl, rfl⟩ := Prod.mk.inj (Except.ok.inj hloop')
            rw [hloop] at hparse
            have hks : keys = ks ∧ keys ≠ [] := by
              cases keys with
              | nil => cases err <;> cases hparse
              | cons k rest => exact ⟨Except.ok.inj hparse, by simp⟩
            obtain ⟨rfl, hne⟩ := hks
            have helems : elems ≠ [] := by
              rintro rfl
              exact hne (by simpa [Names.usableKeys] using hget)
            have hms : ∃ members, doc = .obj members := by
              cases doc with
              | obj members => exact ⟨members, rfl⟩
              | null =>
                  obtain rfl : ([] : List Json) = elems := by
                    simpa [GoKeySet.unmarshalDocument, Json.depth] using hdoc
                  exact absurd rfl helems
              | _ =>
                  unfold GoKeySet.unmarshalDocument at hdoc
                  split_ifs at hdoc
            obtain ⟨members, rfl⟩ := hms
            obtain ⟨hdepth, hholds⟩ := (unmarshalDocument_ok helems).mp hdoc
            exact ⟨hdepth, members, elems, rfl, hholds, hobj, hget.symm, by simpa using hne⟩
  · rintro ⟨hdepth, members, elems, rfl, hholds, hobj, rfl, hne⟩
    have helems : elems ≠ [] := by
      rintro rfl
      exact hne rfl
    obtain ⟨ks, err, hloop, hget⟩ := parseKeys_ok [] none hobj
    rw [List.nil_append] at hloop
    refine ⟨ks, ?_, hget⟩
    unfold GoKeySet.parseKeySet
    rw [(unmarshalDocument_ok helems).mpr ⟨hdepth, hholds⟩]
    simp only [hloop]
    cases ks with
    | nil => exact absurd hget.symm hne
    | cons k rest => rfl

def get (k : JsonWebKey) : Texts
  | .kty => k.kty
  | .kid => k.kid
  | .use_ => k.use_
  | .alg => k.alg
  | .n => k.n
  | .e => k.e
  | .crv => k.crv
  | .x => k.x
  | .y => k.y

/-- `JsonWebKeySet::parse` returns keys with these parameters. -/
def rustParses (lib : RustKeySet.Library) (doc : Json) (ts : List Texts) : Prop :=
  ∃ set, RustKeySet.parse lib doc = .ok set ∧ set.keys.map get = ts

/-- What is kept of an object can be read into values. -/
def Readable (lib : RustKeySet.Library) (doc : Json) : Prop :=
  ∀ m ∈ doc.members, m.1 = "keys" → RustKeySet.fits lib m.2 = true

/-- An array with an array of keys as its only element, which Rust takes for a
key set. -/
def Wrapped (lib : RustKeySet.Library) (doc : Json) (ts : List Texts) : Prop :=
  ∃ elems, doc = .arr [.arr elems] ∧ RustKeySet.fits lib (.arr elems) = true ∧
    (∀ e ∈ elems, ∃ ms, e = .obj ms) ∧ exact.usableKeys elems = ts ∧ ts ≠ []

variable {lib : RustKeySet.Library} {map : Dict String Json} {name : String}

theorem exact_parameter {p : Parameter} : exact.parameter name = some p ↔ name = p.name := by
  constructor
  · intro h
    have hname : p.name = name := by simpa using List.find?_some h
    exact hname.symm
  · rintro rfl
    cases p <;> rfl

theorem nullAsEmpty_ok {s : String} : RustKeySet.nullAsEmpty lib map name = .ok s ↔
    (∀ j, map.lookup name = some j → isText j = true) ∧
      s = ((map.lookup name).bind Json.str?).getD "" := by
  unfold RustKeySet.nullAsEmpty
  cases map.lookup name with
  | none => simp
  | some j =>
      cases j with
      | null => simp [isText, Json.str?]
      | str t => simpa [isText, Json.str?] using eq_comm
      | _ => simp [isText]

theorem fromMap_ok {k : JsonWebKey} : RustKeySet.fromMap lib map = .ok k ↔
    (∀ (p : Parameter) j, map.lookup p.name = some j → isText j = true) ∧
      get k = fun p => ((map.lookup p.name).bind Json.str?).getD "" := by
  simp only [RustKeySet.fromMap, bind_eq_ok, nullAsEmpty_ok]
  constructor
  · rintro ⟨_, ⟨halg, rfl⟩, _, ⟨hcrv, rfl⟩, _, ⟨he, rfl⟩, _, ⟨hkid, rfl⟩, _, ⟨hkty, rfl⟩, _,
      ⟨hn, rfl⟩, _, ⟨huse, rfl⟩, _, ⟨hx, rfl⟩, _, ⟨hy, rfl⟩, hk⟩
    obtain rfl := Except.ok.inj hk
    constructor
    · intro p
      cases p <;> assumption
    · funext p
      cases p <;> rfl
  · rintro ⟨htext, hget⟩
    refine ⟨_, ⟨htext .alg, rfl⟩, _, ⟨htext .crv, rfl⟩, _, ⟨htext .e, rfl⟩, _, ⟨htext .kid, rfl⟩, _,
      ⟨htext .kty, rfl⟩, _, ⟨htext .n, rfl⟩, _, ⟨htext .use_, rfl⟩, _, ⟨htext .x, rfl⟩, _,
      ⟨htext .y, rfl⟩, ?_⟩
    have hfield := fun p => (congrFun hget p).symm
    obtain ⟨kty, kid, use_, alg, n, e, crv, x, y⟩ := k
    exact congrArg Except.ok (JsonWebKey.mk.injEq .. |>.mpr
      ⟨hfield .kty, hfield .kid, hfield .use_, hfield .alg, hfield .n, hfield .e, hfield .crv,
        hfield .x, hfield .y⟩)

theorem validate_eq_ok (k : JsonWebKey) :
    RustKeySet.validate lib k = .ok () ↔ Usable (get k) := by
  rw [usable_iff]
  unfold RustKeySet.validate
  simp only [get]
  split_ifs with hkty hrsa hec
  · simp [hkty]
  · simp only [false_iff]
    tauto
  · simp only [false_iff]
    tauto
  · simp only [true_iff]
    tauto

section Members

variable (hnodup : (members.map Prod.fst).Nodup)

include hnodup

theorem exact_text (p : Parameter) :
    exact.text members p = (((Json.obj members).member? p.name).bind Json.str?).getD "" := by
  unfold Names.text
  cases hlast : members.findRev? (exact.carries p) with
  | some m =>
      rw [List.findRev?_eq_find?_reverse] at hlast
      have hm : m ∈ members := List.mem_reverse.mp (List.mem_of_find?_eq_some hlast)
      have hcarries := List.find?_some hlast
      have hname : m.1 = p.name := by
        have h := (Bool.and_eq_true_iff.mp hcarries).1
        exact exact_parameter.mp (by simpa using h)
      have hmember := Json.member?_eq_some (j := .obj members) hnodup hm
      rw [← hname, hmember]
      rfl
  | none =>
      cases hj : (Json.obj members).member? p.name with
      | none => rfl
      | some j =>
          have hmem := Json.mem_of_member? hj
          rw [List.findRev?_eq_find?_reverse] at hlast
          have hno := List.find?_eq_none.mp hlast _ (List.mem_reverse.mpr hmem)
          have hj' : j.str? = none := by
            simpa [Names.carries, exact_parameter.mpr rfl] using hno
          simp [hj']

theorem exact_wellTyped : exact.WellTyped members ↔
    ∀ (p : Parameter) j, (Json.obj members).member? p.name = some j → isText j = true := by
  constructor
  · intro h p j hj
    exact h _ (Json.mem_of_member? hj) (by rw [exact_parameter.mpr rfl]; rfl)
  · intro h m hm hsome
    obtain ⟨p, hp⟩ := Option.isSome_iff_exists.mp hsome
    apply h p
    rw [← exact_parameter.mp hp]
    exact Json.member?_eq_some (j := .obj members) hnodup hm

theorem checkedKey_ok {k : JsonWebKey} : RustKeySet.checkedKey lib members = .ok k ↔
    exact.key members = some (get k) := by
  have htext : exact.text members =
      fun p => (((Json.obj members).member? p.name).bind Json.str?).getD "" :=
    funext fun p => exact_text hnodup p
  have hread : RustKeySet.fromMap lib (Dict.insertAll members ∅) = .ok k ↔
      exact.WellTyped members ∧ get k = exact.text members := by
    rw [fromMap_ok, exact_wellTyped hnodup, htext]
    simp only [Json.lookup_insertAll]
  unfold RustKeySet.checkedKey Names.key
  simp only [bind_eq_ok]
  constructor
  · rintro ⟨k', hk', _, hv, hk⟩
    obtain rfl : k' = k := Except.ok.inj hk
    obtain ⟨hwell, hget⟩ := hread.mp hk'
    rw [← hget, if_pos ⟨hwell, (validate_eq_ok k').mp hv⟩]
  · intro h
    split_ifs at h with hkey
    have hget := (Option.some.inj h).symm
    refine ⟨k, hread.mpr ⟨hkey.1, hget⟩, (), (validate_eq_ok k).mpr ?_, rfl⟩
    rw [hget]
    exact hkey.2

theorem checkedKey_error {err : RustJwks.IdentityError}
    (h : RustKeySet.checkedKey lib members = .error err) : exact.key members = none := by
  cases hkey : exact.key members with
  | none => rfl
  | some t =>
      have ht : t = get ⟨t .kty, t .kid, t .use_, t .alg, t .n, t .e, t .crv, t .x, t .y⟩ := by
        funext p
        cases p <;> rfl
      rw [ht] at hkey
      have hok : RustKeySet.checkedKey lib members =
          .ok ⟨t .kty, t .kid, t .use_, t .alg, t .n, t .e, t .crv, t .x, t .y⟩ :=
        (checkedKey_ok hnodup).mpr hkey
      rw [hok] at h
      cases h

omit hnodup in
theorem valuesOf_eq_some {j : Json} :
    RustKeySet.valuesOf lib j = some elems ↔ j = .arr elems ∧ RustKeySet.fits lib j = true := by
  cases j with
  | arr es =>
      unfold RustKeySet.valuesOf
      by_cases hfits : RustKeySet.fits lib (.arr es) = true <;> simp [hfits]
  | _ => simp [RustKeySet.valuesOf]

/-- With distinct names at most one member is `keys`. -/
theorem rawSet_obj (hne : elems ≠ []) : RustKeySet.rawSet lib (.obj members) = some elems ↔
    Readable lib (.obj members) ∧ exact.Holds members elems := by
  have hmem : ∀ m, m ∈ members.filter (fun m => m.1 = "keys") ↔ m ∈ members ∧ m.1 = "keys" := by
    simp
  have hlast : ∀ m, members.findRev? (fun m => exact.isKeys m.1) = some m →
      m ∈ members ∧ m.1 = "keys" := by
    intro m hm
    rw [List.findRev?_eq_find?_reverse] at hm
    exact ⟨List.mem_reverse.mp (List.mem_of_find?_eq_some hm),
      by simpa [exact] using List.find?_some hm⟩
  have hsub : ((members.filter fun m => m.1 = "keys").map Prod.fst).Nodup :=
    (List.filter_sublist.map Prod.fst).nodup hnodup
  rw [RustKeySet.rawSet]
  cases hkeys : members.filter fun m => m.1 = "keys" with
  | nil =>
      constructor
      · intro h
        exact absurd (Option.some.inj h).symm hne
      · rintro ⟨-, -, name, hname⟩
        have h := (hmem _).mpr (hlast _ hname)
        rw [hkeys] at h
        cases h
  | cons m rest =>
      have hm := (hmem m).mp (by rw [hkeys]; simp)
      cases rest with
      | cons n rest =>
          have hn := (hmem n).mp (by rw [hkeys]; simp)
          rw [hkeys] at hsub
          simp [hm.2, hn.2] at hsub
      | nil =>
          have honly : ∀ n ∈ members, n.1 = "keys" → n = m := by
            intro n hn hname
            have h := (hmem n).mpr ⟨hn, hname⟩
            rw [hkeys] at h
            simpa using h
          have hread : Readable lib (.obj members) ↔ RustKeySet.fits lib m.2 = true := by
            constructor
            · exact fun h => h m hm.1 hm.2
            · intro h n hn hname
              rw [honly n hn hname]
              exact h
          have hholds : exact.Holds members elems ↔ m.2 = .arr elems := by
            constructor
            · rintro ⟨-, name, hname⟩
              have hlast := hlast _ hname
              rw [← honly _ hlast.1 hlast.2]
            · intro harr
              refine ⟨?_, m.1, ?_⟩
              · intro n hn hname
                rw [honly n hn (by simpa [exact] using hname), harr]
                exact .inr ⟨elems, rfl⟩
              · cases hfind : members.findRev? (fun m => exact.isKeys m.1) with
                | some n =>
                    have hn := hlast n hfind
                    rw [honly n hn.1 hn.2, ← harr]
                | none =>
                    rw [List.findRev?_eq_find?_reverse] at hfind
                    have hno := List.find?_eq_none.mp hfind m (List.mem_reverse.mpr hm.1)
                    exact absurd (by simpa [exact] using hm.2) hno
          rw [hread, hholds]
          exact valuesOf_eq_some.trans and_comm

end Members

/-- The loop ends when every element is an object, and has then added the usable
keys in order. -/
theorem parseMembers_ok (keys : List JsonWebKey) (firstInvalid : Option RustJwks.IdentityError)
    (hdistinct : ∀ e ∈ elems, (e.members.map Prod.fst).Nodup) :
    (∀ e ∈ elems, ∃ ms, e = .obj ms) →
      ∃ ks err, RustKeySet.parseMembers lib keys firstInvalid elems = .ok (keys ++ ks, err) ∧
        ks.map get = exact.usableKeys elems := by
  induction elems generalizing keys firstInvalid with
  | nil => exact fun _ => ⟨[], firstInvalid, by simp [RustKeySet.parseMembers], rfl⟩
  | cons raw raws ih =>
      intro hobj
      obtain ⟨ms, rfl⟩ := hobj raw (by simp)
      have hrest : ∀ e ∈ raws, ∃ ms, e = .obj ms := fun e he => hobj e (by simp [he])
      have ih := fun keys err => ih keys err (fun e he => hdistinct e (by simp [he])) hrest
      have hnodup : (ms.map Prod.fst).Nodup := hdistinct (.obj ms) (by simp)
      rw [RustKeySet.parseMembers]
      cases hk : RustKeySet.checkedKey lib ms with
      | ok k =>
          obtain ⟨ks, err, hparse, hget⟩ := ih (keys ++ [k]) firstInvalid
          refine ⟨k :: ks, err, by simp [hparse], ?_⟩
          simp [Names.usableKeys, Json.members, (checkedKey_ok hnodup).mp hk, hget]
      | error e =>
          obtain ⟨ks, err, hparse, hget⟩ := ih keys (firstInvalid.or (some e))
          refine ⟨ks, err, hparse, ?_⟩
          simp [Names.usableKeys, Json.members, checkedKey_error hnodup hk, hget]

theorem parseMembers_error {keys : List JsonWebKey} {firstInvalid : Option RustJwks.IdentityError}
    {result : List JsonWebKey × Option RustJwks.IdentityError}
    (h : RustKeySet.parseMembers lib keys firstInvalid elems = .ok result) :
    ∀ e ∈ elems, ∃ ms, e = .obj ms := by
  induction elems generalizing keys firstInvalid with
  | nil => simp
  | cons raw raws ih =>
      cases raw with
      | obj ms =>
          rw [RustKeySet.parseMembers] at h
          have hrest : ∀ e ∈ raws, ∃ ms, e = .obj ms := by
            cases hk : RustKeySet.checkedKey lib ms with
            | ok k =>
                rw [hk] at h
                exact ih h
            | error e =>
                rw [hk] at h
                exact ih h
          intro e he
          obtain rfl | he := List.mem_cons.mp he
          · exact ⟨ms, rfl⟩
          · exact hrest e he
      | _ => simp [RustKeySet.parseMembers] at h

theorem rustParses_raw (hdistinct : ∀ elems, RustKeySet.rawSet lib doc = some elems →
      ∀ e ∈ elems, (e.members.map Prod.fst).Nodup) :
    rustParses lib doc ts ↔ ∃ elems, RustKeySet.rawSet lib doc = some elems ∧
      (∀ e ∈ elems, ∃ ms, e = .obj ms) ∧ exact.usableKeys elems = ts ∧ ts ≠ [] := by
  constructor
  · rintro ⟨set, hparse, rfl⟩
    unfold RustKeySet.parse at hparse
    cases hraw : RustKeySet.rawSet lib doc with
    | none =>
        rw [hraw] at hparse
        cases hparse
    | some elems =>
        rw [hraw] at hparse
        simp only at hparse
        cases hloop : RustKeySet.parseMembers lib [] none elems with
        | error err =>
            rw [hloop] at hparse
            cases hparse
        | ok result =>
            obtain ⟨keys, err⟩ := result
            have hobj := parseMembers_error hloop
            obtain ⟨ks, err', hloop', hget⟩ : ∃ ks err',
                RustKeySet.parseMembers lib [] none elems = .ok ([] ++ ks, err') ∧
                  ks.map get = exact.usableKeys elems :=
              parseMembers_ok [] none (hdistinct elems hraw) hobj
            rw [hloop, List.nil_append] at hloop'
            obtain ⟨rfl, rfl⟩ := Prod.mk.inj (Except.ok.inj hloop')
            rw [hloop] at hparse
            have hset : set.keys = keys ∧ keys ≠ [] := by
              cases keys with
              | nil => cases err <;> cases hparse
              | cons k rest =>
                  obtain rfl := Except.ok.inj hparse
                  exact ⟨rfl, by simp⟩
            rw [hset.1]
            exact ⟨elems, rfl, hobj, hget.symm, by simpa using hset.2⟩
  · rintro ⟨elems, hraw, hobj, rfl, hne⟩
    obtain ⟨ks, err, hloop, hget⟩ : ∃ ks err,
        RustKeySet.parseMembers lib [] none elems = .ok ([] ++ ks, err) ∧
          ks.map get = exact.usableKeys elems :=
      parseMembers_ok [] none (hdistinct elems hraw) hobj
    rw [List.nil_append] at hloop
    refine ⟨⟨ks⟩, ?_, hget⟩
    unfold RustKeySet.parse
    rw [hraw]
    simp only [hloop]
    cases ks with
    | nil => exact absurd hget.symm hne
    | cons k rest => rfl

/-- Rust parses what a document offers by exact names as far as it can be read,
and what an array wraps. -/
theorem rustParses_iff (hdistinct : doc.DistinctNames) :
    rustParses lib doc ts ↔ Readable lib doc ∧ exact.Offers doc ts ∨ Wrapped lib doc ts := by
  cases doc with
  | obj members =>
      have hnodup : (members.map Prod.fst).Nodup := hdistinct.members
      rw [rustParses_raw]
      · constructor
        · rintro ⟨elems, hraw, hobj, rfl, hne⟩
          have helems : elems ≠ [] := by
            rintro rfl
            exact hne rfl
          obtain ⟨hread, hholds⟩ := (rawSet_obj hnodup helems).mp hraw
          exact .inl ⟨hread, members, elems, rfl, hholds, hobj, rfl, hne⟩
        · rintro (⟨hread, members', elems, hdoc, hholds, hobj, rfl, hne⟩ | ⟨_, hdoc, -⟩)
          · obtain rfl := Json.obj.inj hdoc
            have helems : elems ≠ [] := by
              rintro rfl
              exact hne rfl
            exact ⟨elems, (rawSet_obj hnodup helems).mpr ⟨hread, hholds⟩, hobj, rfl, hne⟩
          · cases hdoc
      · intro elems hraw e he
        have helems : elems ≠ [] := List.ne_nil_of_mem he
        obtain ⟨-, hholds⟩ := (rawSet_obj hnodup helems).mp hraw
        obtain ⟨name, hlast⟩ := hholds.last
        rw [List.findRev?_eq_find?_reverse] at hlast
        have hmem := List.mem_reverse.mp (List.mem_of_find?_eq_some hlast)
        exact ((hdistinct.member hmem).elem he).members
  | arr outer =>
      have hraw : ∀ elems, elems ≠ [] → (RustKeySet.rawSet lib (.arr outer) = some elems ↔
          outer = [.arr elems] ∧ RustKeySet.fits lib (.arr elems) = true) := by
        intro elems hne
        match outer with
        | [] => simp [RustKeySet.rawSet, Ne.symm hne]
        | [keys] =>
            have h : RustKeySet.rawSet lib (.arr [keys]) = RustKeySet.valuesOf lib keys := rfl
            rw [h, valuesOf_eq_some, List.cons.injEq]
            constructor
            · rintro ⟨rfl, hfits⟩
              exact ⟨⟨rfl, rfl⟩, hfits⟩
            · rintro ⟨⟨rfl, -⟩, hfits⟩
              exact ⟨rfl, hfits⟩
        | _ :: _ :: _ => simp [RustKeySet.rawSet]
      rw [rustParses_raw]
      · constructor
        · rintro ⟨elems, hok, hobj, rfl, hne⟩
          have helems : elems ≠ [] := by
            rintro rfl
            exact hne rfl
          obtain ⟨rfl, hfits⟩ := (hraw elems helems).mp hok
          exact .inr ⟨elems, rfl, hfits, hobj, rfl, hne⟩
        · rintro (⟨-, _, _, hdoc, -⟩ | ⟨elems, hdoc, hfits, hobj, rfl, hne⟩)
          · cases hdoc
          · have helems : elems ≠ [] := by
              rintro rfl
              exact hne rfl
            exact ⟨elems, (hraw elems helems).mpr ⟨Json.arr.inj hdoc, hfits⟩, hobj, rfl, hne⟩
      · intro elems hok e he
        obtain ⟨rfl, -⟩ := (hraw elems (List.ne_nil_of_mem he)).mp hok
        exact ((hdistinct.elem (by simp)).elem he).members
  | _ =>
      constructor
      · rintro ⟨set, hparse, -⟩
        cases hparse
      · rintro (⟨-, _, _, hdoc, -⟩ | ⟨_, hdoc, -⟩) <;> cases hdoc

/-- Both reject, or both return keys with the same parameters in the same order. -/
def Agree (lib : RustKeySet.Library) (uri : String) (doc : Json) : Prop :=
  ∀ ts, goParses uri doc ts ↔ rustParses lib doc ts

/-- What has to hold of a document for the two to agree on it. -/
structure Alike (lib : RustKeySet.Library) (doc : Json) : Prop where
  /-- Within both readers' limits, members named in other letters change nothing. -/
  strays : doc.depth ≤ GoKeySet.maxNestingDepth → Readable lib doc →
    ∀ ts, folded.Offers doc ts ↔ exact.Offers doc ts
  /-- What only Rust's limits rule out is no key set for Go. -/
  unreadable : doc.depth ≤ GoKeySet.maxNestingDepth → ¬ Readable lib doc →
    ∀ ts, ¬ folded.Offers doc ts
  /-- What only Go's limits rule out is no key set for Rust. -/
  tooDeep : ¬ doc.depth ≤ GoKeySet.maxNestingDepth → Readable lib doc →
    ∀ ts, ¬ exact.Offers doc ts
  bare : ∀ ts, ¬ Wrapped lib doc ts

theorem Names.Offers.not_wrapped {names : Names} {ts' : List Texts} (h : names.Offers doc ts) :
    ¬ Wrapped lib doc ts' := by
  rintro ⟨_, rfl, -⟩
  obtain ⟨_, _, hdoc, -⟩ := h
  cases hdoc

/-- The members of a key are read alike when none has a parameter's name in other
letters. -/
theorem key_congr (h : ∀ m ∈ members, ∀ p, folded.parameter m.1 = some p → m.1 = p.name) :
    folded.key members = exact.key members := by
  have hparameter : ∀ m ∈ members, folded.parameter m.1 = exact.parameter m.1 := by
    intro m hm
    cases hp : folded.parameter m.1 with
    | some p => exact (exact_parameter.mpr (h m hm p hp)).symm
    | none =>
        cases hq : exact.parameter m.1 with
        | none => rfl
        | some q =>
            have hname : folded.parameter q.name = some q := by cases q <;> decide
            rw [exact_parameter.mp hq, hname] at hp
            cases hp
  have htext : folded.text members = exact.text members := by
    funext p
    have hcarries : ∀ m ∈ members.reverse, folded.carries p m = exact.carries p m := by
      intro m hm
      unfold Names.carries
      rw [hparameter m (List.mem_reverse.mp hm)]
    unfold Names.text
    rw [List.findRev?_eq_find?_reverse, List.findRev?_eq_find?_reverse, List.find?_congr hcarries]
  have hwell : folded.WellTyped members ↔ exact.WellTyped members := by
    unfold Names.WellTyped
    exact forall₂_congr fun m hm => by rw [hparameter m hm]
  unfold Names.key
  rw [htext]
  simp only [hwell]

/-- Object documents within both limits that spell the modelled names as they are. -/
structure Plain (lib : RustKeySet.Library) (doc : Json) : Prop where
  object : ∃ members, doc = .obj members
  keys : ∀ m ∈ doc.members, folded.isKeys m.1 = true → m.1 = "keys"
  parameters : ∀ m ∈ doc.members, ∀ elems, m.2 = .arr elems → ∀ e ∈ elems, ∀ n ∈ e.members,
    ∀ p, folded.parameter n.1 = some p → n.1 = p.name
  depth : doc.depth ≤ GoKeySet.maxNestingDepth
  readable : Readable lib doc

theorem offers_congr (h : Plain lib doc) : folded.Offers doc ts ↔ exact.Offers doc ts := by
  obtain ⟨⟨members, rfl⟩, hkeys, hparameters, -, -⟩ := h
  have hisKeys : ∀ m ∈ members, folded.isKeys m.1 = exact.isKeys m.1 := by
    intro m hm
    apply Bool.eq_iff_iff.mpr
    constructor
    · intro hm'
      simpa [exact] using hkeys m hm hm'
    · intro hm'
      have hname : m.1 = "keys" := by simpa [exact] using hm'
      rw [hname]
      rfl
  have hfind : members.findRev? (fun m => folded.isKeys m.1) =
      members.findRev? (fun m => exact.isKeys m.1) := by
    rw [List.findRev?_eq_find?_reverse, List.findRev?_eq_find?_reverse]
    exact List.find?_congr fun m hm => hisKeys m (List.mem_reverse.mp hm)
  have hholds : ∀ elems, folded.Holds members elems ↔ exact.Holds members elems := by
    intro elems
    constructor
    · rintro ⟨htyped, hlast⟩
      exact ⟨fun m hm hname => htyped m hm (by rw [hisKeys m hm, hname]), by rwa [← hfind]⟩
    · rintro ⟨htyped, hlast⟩
      exact ⟨fun m hm hname => htyped m hm (by rw [← hisKeys m hm, hname]), by rwa [hfind]⟩
  have husable : ∀ elems, exact.Holds members elems →
      folded.usableKeys elems = exact.usableKeys elems := by
    intro elems hh
    obtain ⟨name, hlast⟩ := hh.last
    rw [List.findRev?_eq_find?_reverse] at hlast
    have hmem := List.mem_reverse.mp (List.mem_of_find?_eq_some hlast)
    unfold Names.usableKeys
    apply List.filterMap_congr
    intro e he
    exact key_congr (hparameters _ hmem elems rfl e he)
  constructor
  · rintro ⟨_, elems, hdoc, hh, hobj, husable', hne⟩
    obtain rfl := Json.obj.inj hdoc
    have hh' := (hholds elems).mp hh
    exact ⟨members, elems, rfl, hh', hobj, (husable elems hh').symm.trans husable', hne⟩
  · rintro ⟨_, elems, hdoc, hh, hobj, husable', hne⟩
    obtain rfl := Json.obj.inj hdoc
    exact ⟨members, elems, rfl, (hholds elems).mpr hh, hobj, (husable elems hh).trans husable', hne⟩

theorem alike_of_plain (h : Plain lib doc) : Alike lib doc where
  strays _ _ _ := offers_congr h
  unreadable _ hread := absurd h.readable hread
  tooDeep hdepth := absurd h.depth hdepth
  bare ts := by
    rintro ⟨_, rfl, -⟩
    obtain ⟨_, hdoc⟩ := h.object
    cases hdoc

theorem agree_iff_alike {uri : String} (hdistinct : doc.DistinctNames) :
    Agree lib uri doc ↔ Alike lib doc := by
  unfold Agree
  simp only [goParses_iff, rustParses_iff hdistinct]
  constructor
  · intro h
    refine ⟨?_, ?_, ?_, ?_⟩
    · intro hdepth hread ts
      constructor
      · intro hoffers
        obtain ⟨-, hexact⟩ | hwrapped := (h ts).mp ⟨hdepth, hoffers⟩
        · exact hexact
        · exact absurd hwrapped hoffers.not_wrapped
      · exact fun hoffers => ((h ts).mpr (.inl ⟨hread, hoffers⟩)).2
    · intro hdepth hread ts hoffers
      obtain ⟨hread', -⟩ | hwrapped := (h ts).mp ⟨hdepth, hoffers⟩
      · exact hread hread'
      · exact hoffers.not_wrapped hwrapped
    · intro hdepth hread ts hoffers
      exact hdepth ((h ts).mpr (.inl ⟨hread, hoffers⟩)).1
    · intro ts hwrapped
      exact ((h ts).mpr (.inr hwrapped)).2.not_wrapped hwrapped
  · intro h ts
    constructor
    · rintro ⟨hdepth, hoffers⟩
      by_cases hread : Readable lib doc
      · exact .inl ⟨hread, (h.strays hdepth hread ts).mp hoffers⟩
      · exact absurd hoffers (h.unreadable hdepth hread ts)
    · rintro (⟨hread, hoffers⟩ | hwrapped)
      · by_cases hdepth : doc.depth ≤ GoKeySet.maxNestingDepth
        · exact ⟨hdepth, (h.strays hdepth hread ts).mpr hoffers⟩
        · exact absurd hoffers (h.tooDeep hdepth hread ts)
      · exact absurd hwrapped (h.bare ts)

/-- On a document with distinct names Go and Rust agree exactly when it is alike to
both, as every plain one is. -/
theorem key_sets_agree_iff (lib : RustKeySet.Library) (uri : String) (doc : Json)
    (hdistinct : doc.DistinctNames) :
    (Agree lib uri doc ↔ Alike lib doc) ∧ (Plain lib doc → Alike lib doc) :=
  ⟨agree_iff_alike hdistinct, alike_of_plain⟩

/-- A library that refuses no number. -/
def plainLibrary : RustKeySet.Library where
  outOfRange _ := false
  documentError _ := "invalid document"
  invalidType _ := "invalid type, expected a string"
  display _ := "value"
  debug s := "\"" ++ s ++ "\""

/-- A set with a usable key, one without a type and one that is mistyped. -/
def mixedSet : Json :=
  .obj [("keys", .arr [.obj [("kty", .str "EC"), ("crv", .str "P-256"), ("x", .str "f8"),
      ("y", .str "x_"), ("kid", .null)],
    .obj [("kid", .str "a")], .obj [("kty", .str "oct"), ("use", .bool true)]])]

theorem key_sets_agree_mixed : Agree plainLibrary "https://op/jwks" mixedSet := by
  have hdistinct : mixedSet.DistinctNames := by
    unfold Json.DistinctNames
    simp [mixedSet, Json.parts, Json.partsElems, Json.partsMembers, Json.members]
  have hplain : Plain plainLibrary mixedSet := by
    refine ⟨⟨_, rfl⟩, ?_, ?_, by decide, ?_⟩
    · simp [mixedSet, Json.members]
    · have hnames : ∀ name ∈ ["kty", "crv", "x", "y", "kid", "use"], ∀ p ∈ Parameter.all,
          folded.parameter name = some p → name = p.name := by decide
      intro m hm elems helems e he n hn p hp
      obtain rfl : m = _ := by simpa [mixedSet, Json.members] using hm
      obtain rfl := Json.arr.inj helems
      apply hnames n.1 _ p p.mem_all hp
      have hn : n.1 ∈ e.members.map Prod.fst := List.mem_map_of_mem hn
      simp only [List.mem_cons, List.not_mem_nil, or_false] at he
      obtain rfl | rfl | rfl := he <;> revert hn <;> simp +contextual [Json.members] <;> tauto
    · intro m hm _
      obtain rfl : m = _ := by simpa [mixedSet, Json.members] using hm
      rfl
  have h := key_sets_agree_iff plainLibrary "https://op/jwks" mixedSet hdistinct
  exact h.1.mpr (h.2 hplain)

/-- With `Keys` for `keys` Go finds the key and Rust finds none. -/
def capitalKeys : Json := .obj [("Keys", .arr [.obj [("kty", .str "oct")]])]

theorem capital_keys_divide :
    capitalKeys.DistinctNames ∧ ¬ Agree plainLibrary "https://op/jwks" capitalKeys := by
  constructor
  · unfold Json.DistinctNames
    simp [capitalKeys, Json.parts, Json.partsElems, Json.partsMembers, Json.members]
  · intro h
    have hgo : goParses "https://op/jwks" capitalKeys [GoKeySet.get { kty := "oct" }] :=
      ⟨[{ kty := "oct" }], rfl, rfl⟩
    obtain ⟨set, hset, -⟩ := (h _).mp hgo
    cases hset

end IdentityModel.KeySetParity
