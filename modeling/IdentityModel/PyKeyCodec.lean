import IdentityModel.JsonText
import IdentityModel.PyKeySet

/-!
# The dictionary and the JSON text of a key in Python

`as_dict`, `to_json` and `from_json` of `JsonWebKey` in `core/models.py`, and `jwks_from_dict` of
`core/parsers.py`. The strings of a key are Python's here, lists of code points with surrogates among
them: the escapes of `json.dumps` treat these apart. The validators do no more with a string than
compare it with ASCII texts, so they are those of a key of ordinary strings.
-/
namespace IdentityModel.Py.KeyCodec

open JsonText
open KeySet (isNotNone)

/-- `JsonWebKey`, with members of any type. -/
@[ext] structure JsonWebKey where
  kty : Doc
  use_ : Doc := .null
  keyOps : Doc := .null
  alg : Doc := .null
  kid : Doc := .null
  x5u : Doc := .null
  x5c : Doc := .null
  x5t : Doc := .null
  x5tS256 : Doc := .null
  crv : Doc := .null
  x : Doc := .null
  y : Doc := .null
  d : Doc := .null
  n : Doc := .null
  e : Doc := .null
  p : Doc := .null
  q : Doc := .null
  dp : Doc := .null
  dq : Doc := .null
  qi : Doc := .null
  oth : Doc := .null
  k : Doc := .null

/-- `__dict__.items()`. -/
def JsonWebKey.attributes (key : JsonWebKey) : List (String × Doc) :=
  [("kty", key.kty), ("use", key.use_), ("key_ops", key.keyOps), ("alg", key.alg), ("kid", key.kid),
    ("x5u", key.x5u), ("x5c", key.x5c), ("x5t", key.x5t), ("x5t_s256", key.x5tS256), ("crv", key.crv),
    ("x", key.x), ("y", key.y), ("d", key.d), ("n", key.n), ("e", key.e), ("p", key.p), ("q", key.q),
    ("dp", key.dp), ("dq", key.dq), ("qi", key.qi), ("oth", key.oth), ("k", key.k)]

/-- `fields(cls)`. -/
def fieldNames : List String :=
  ["kty", "use", "key_ops", "alg", "kid", "x5u", "x5c", "x5t", "x5t_s256", "crv", "x", "y", "d", "n", "e",
    "p", "q", "dp", "dq", "qi", "oth", "k"]

/-- The constructor's arguments, by field. -/
def JsonWebKey.ofFields (value : String → Doc) : JsonWebKey where
  kty := value "kty"
  use_ := value "use"
  keyOps := value "key_ops"
  alg := value "alg"
  kid := value "kid"
  x5u := value "x5u"
  x5c := value "x5c"
  x5t := value "x5t"
  x5tS256 := value "x5t_s256"
  crv := value "crv"
  x := value "x"
  y := value "y"
  d := value "d"
  n := value "n"
  e := value "e"
  p := value "p"
  q := value "q"
  dp := value "dp"
  dq := value "dq"
  qi := value "qi"
  oth := value "oth"
  k := value "k"

/-- A code point as a character; a surrogate is a replacement character. -/
def viewChar (c : CodePoint) : Char := if isHigh c || isLow c then '\uFFFD' else Char.ofNat c

def viewText (t : Text) : String := String.ofList (t.map viewChar)

/-- A number beyond all others. -/
def beyond : Number where
  negative := false
  whole := [1]
  fraction := []
  exponent := some ⟨false, none, [9, 9, 9], by simp⟩
  nonempty := Number.one_nonempty
  noLeadingZero := Number.one_noLeadingZero

mutual

/-- A value as the validators see it. -/
def view : Doc → Json
  | .null => .null
  | .bool b => .bool b
  | .num n => .num n
  | .special _ => .num beyond
  | .str t => .str (viewText t)
  | .list elems => .arr (viewElems elems)
  | .dict members => .obj (viewMembers members)

def viewElems : List Doc → List Json
  | [] => []
  | d :: ds => view d :: viewElems ds

def viewMembers : List (Text × Doc) → List (String × Json)
  | [] => []
  | (k, d) :: ms => (viewText k, view d) :: viewMembers ms

end

def JsonWebKey.view (key : JsonWebKey) : KeySet.JsonWebKey where
  kty := KeyCodec.view key.kty
  use_ := KeyCodec.view key.use_
  keyOps := KeyCodec.view key.keyOps
  alg := KeyCodec.view key.alg
  kid := KeyCodec.view key.kid
  x5u := KeyCodec.view key.x5u
  x5c := KeyCodec.view key.x5c
  x5t := KeyCodec.view key.x5t
  x5tS256 := KeyCodec.view key.x5tS256
  crv := KeyCodec.view key.crv
  x := KeyCodec.view key.x
  y := KeyCodec.view key.y
  d := KeyCodec.view key.d
  n := KeyCodec.view key.n
  e := KeyCodec.view key.e
  p := KeyCodec.view key.p
  q := KeyCodec.view key.q
  dp := KeyCodec.view key.dp
  dq := KeyCodec.view key.dq
  qi := KeyCodec.view key.qi
  oth := KeyCodec.view key.oth
  k := KeyCodec.view key.k

section Codec

variable (i : Interpreter)

/-- `__post_init__`. -/
def postInit (key : JsonWebKey) : Except DiscoError Unit := KeySet.postInit i key.view

/-- The name of a field in a JWK. -/
def jsonName (field : String) : String := if field = "x5t_s256" then "x5t#S256" else field

/-- `value is None`. -/
def isNone : Doc → Bool
  | .null => true
  | _ => false

/-- The loop of `as_dict`, which is that of `to_json`. -/
def JsonWebKey.asDict (key : JsonWebKey) : List (Text × Doc) :=
  dictOf ((key.attributes.filter fun a => !isNone a.2).map fun a => (text (jsonName a.1), a.2))

/-- `d.get(name)`. -/
def get (dict : List (Text × Doc)) (name : String) : Doc := (dict.lookup (text name)).getD .null

/-- `jwks_from_dict`. -/
def jwksFromDict (dict : List (Text × Doc)) : Except DiscoError JsonWebKey := do
  let key : JsonWebKey :=
    { kty := if isTruthy (view (get dict "kty")) then get dict "kty" else .str []
      use_ := get dict "use", keyOps := get dict "key_ops", alg := get dict "alg"
      kid := get dict "kid", x5u := get dict "x5u", x5c := get dict "x5c", x5t := get dict "x5t"
      x5tS256 := get dict "x5t#S256", crv := get dict "crv", x := get dict "x", y := get dict "y"
      d := get dict "d", n := get dict "n", e := get dict "e", p := get dict "p", q := get dict "q"
      dp := get dict "dp", dq := get dict "dq", qi := get dict "qi", oth := get dict "oth"
      k := get dict "k" }
  postInit i key
  return key

def JsonWebKey.toJson (key : JsonWebKey) : Text := dumps (.dict key.asDict)

def isStr : Doc → Bool
  | .str _ => true
  | _ => false

/-- The body of the loop of `from_json`. -/
def mappedItem (item : Text × Doc) : Text × Doc :=
  if item.1 = text "x5t#S256" then (text "x5t_s256", item.2)
  else if item.1 = text "key_ops" ∧ isStr item.2 then (item.1, .list [item.2])
  else if item.1 = text "x5c" ∧ isStr item.2 then (item.1, .list [item.2])
  else if item.1 = text "oth" ∧ isStr item.2 then (item.1, .list [.dict [(text "r", item.2)]])
  else item

/-- The mapped members that are fields. -/
def filteredData (data : List (Text × Doc)) : List (Text × Doc) :=
  (dictOf (data.map mappedItem)).filter fun item => item.1 ∈ fieldNames.map text

/-- `cls(**filtered_data)`. -/
def construct (kwargs : List (Text × Doc)) : Except DiscoError JsonWebKey := do
  if (kwargs.lookup (text "kty")).isNone then
    throw (.type_ "JsonWebKey.__init__() missing 1 required positional argument: 'kty'")
  let key := JsonWebKey.ofFields (get kwargs)
  postInit i key
  return key

/-- A `TypeError` or an `AttributeError` is raised again as a `ConfigurationException`. -/
def invalidFormat : DiscoError → DiscoError
  | .type_ message => .configuration ("Invalid JWK format: " ++ message)
  | .attribute message => .configuration ("Invalid JWK format: " ++ message)
  | e => e

/-- `from_json`. -/
def fromJson (json : Text) : Except DiscoError JsonWebKey :=
  if json.all fun c => isPySpace (viewChar c) then .error (.configuration "JSON string cannot be empty")
  else
    match loads json with
    | none => .error (.configuration "Invalid JSON format")
    | some (.dict data) => (construct i (filteredData data)).mapError invalidFormat
    | some d =>
        .error (.configuration ("Invalid JWK format: JSON must be an object, not a " ++ typeName (view d)))

end Codec

/-- The types that are declared for fields. -/
inductive DeclaredType
  | str | optStr | optStrList | optDictList
  deriving DecidableEq, Repr

def declaredType (field : String) : DeclaredType :=
  if field = "kty" then .str
  else if field ∈ ["key_ops", "x5c"] then .optStrList
  else if field = "oth" then .optDictList
  else .optStr

/-- `dict[str, str]`. -/
def textDict (members : List (Text × Text)) : Doc := .dict (members.map fun m => (m.1, .str m.2))

def HasType : DeclaredType → Doc → Prop
  | .str, d => ∃ t, d = .str t
  | .optStr, d => d = .null ∨ ∃ t, d = .str t
  | .optStrList, d => d = .null ∨ ∃ ts : List Text, d = .list (ts.map .str)
  | .optDictList, d => d = .null ∨ ∃ dicts : List (List (Text × Text)),
      (∀ members ∈ dicts, (members.map Prod.fst).Nodup) ∧ d = .list (dicts.map textDict)

/-- The members have their declared types. -/
def JsonWebKey.Typed (key : JsonWebKey) : Prop := ∀ a ∈ key.attributes, HasType (declaredType a.1) a.2

/-- No string of the key holds a high surrogate right before a low one. -/
def JsonWebKey.SurrogatesUnpaired (key : JsonWebKey) : Prop :=
  ∀ a ∈ key.attributes, ∀ t ∈ texts a.2, Unpaired t

theorem plain_of_hasType {declaredType : DeclaredType} {d : Doc} (htype : HasType declaredType d)
    (htexts : ∀ t ∈ texts d, Unpaired t) : Plain d := by
  have hstr (t : Text) (h : d = .str t) : Plain d := by
    subst h
    exact htexts t List.mem_cons_self
  cases declaredType with
  | str =>
      obtain ⟨t, ht⟩ := htype
      exact hstr t ht
  | optStr =>
      obtain rfl | ⟨t, ht⟩ := htype
      · trivial
      · exact hstr t ht
  | optStrList =>
      obtain rfl | ⟨ts, rfl⟩ := htype
      · trivial
      · refine plainElems_iff.mpr ?_
        intro d hd
        obtain ⟨t, -, rfl⟩ := List.mem_map.mp hd
        exact htexts t (mem_textsElems.mpr ⟨.str t, hd, List.mem_cons_self⟩)
  | optDictList =>
      obtain rfl | ⟨dicts, hnodup, rfl⟩ := htype
      · trivial
      · refine plainElems_iff.mpr ?_
        intro d hd
        obtain ⟨members, hmembers, rfl⟩ := List.mem_map.mp hd
        have hin (t : Text) (ht : t ∈ texts (textDict members)) : Unpaired t :=
          htexts t (mem_textsElems.mpr ⟨textDict members, hd, ht⟩)
        refine ⟨?_, plainMembers_iff.mpr ?_⟩
        · rw [List.map_map]
          exact hnodup members hmembers
        · intro m hm
          obtain ⟨entry, -, rfl⟩ := List.mem_map.mp hm
          exact ⟨hin _ (mem_textsMembers.mpr ⟨_, hm, .inl rfl⟩),
            hin _ (mem_textsMembers.mpr ⟨_, hm, .inr List.mem_cons_self⟩)⟩

section Attributes

variable {entries : List (String × Doc)} {rename : String → String}

/-- The members that are there, under other names. -/
def renamed (rename : String → String) (entries : List (String × Doc)) : List (Text × Doc) :=
  (entries.filter fun a => !isNone a.2).map fun a => (text (rename a.1), a.2)

theorem renamed_nodup (h : (entries.map fun a => rename a.1).Nodup) :
    ((renamed rename entries).map Prod.fst).Nodup := by
  have hkeys : (renamed rename entries).map Prod.fst =
      ((entries.filter fun a => !isNone a.2).map fun a => rename a.1).map text := by
    rw [renamed, List.map_map, List.map_map]
    rfl
  rw [hkeys]
  exact (h.sublist (List.filter_sublist.map _)).map text_injective

theorem mem_renamed {m : Text × Doc} : m ∈ renamed rename entries ↔
    ∃ a ∈ entries, isNone a.2 = false ∧ m = (text (rename a.1), a.2) := by
  rw [renamed, List.mem_map]
  constructor
  · rintro ⟨a, ha, rfl⟩
    obtain ⟨hmem, hsome⟩ := List.mem_filter.mp ha
    exact ⟨a, hmem, by simpa using hsome, rfl⟩
  · rintro ⟨a, hmem, hsome, rfl⟩
    exact ⟨a, List.mem_filter.mpr ⟨hmem, by simpa using hsome⟩, rfl⟩

/-- With distinct names each member is found under its own. -/
theorem get_renamed (h : (entries.map fun a => rename a.1).Nodup) {a : String × Doc} (ha : a ∈ entries) :
    get (renamed rename entries) (rename a.1) = a.2 := by
  cases hnone : isNone a.2 with
  | false =>
      have hmem : (text (rename a.1), a.2) ∈ renamed rename entries := mem_renamed.mpr ⟨a, ha, hnone, rfl⟩
      rw [get, lookup_of_mem (renamed_nodup h) hmem]
      rfl
  | true =>
      have hmissing : (renamed rename entries).lookup (text (rename a.1)) = none := by
        rw [List.lookup_eq_none_iff]
        intro m hm
        obtain ⟨b, hb, hsome, rfl⟩ := mem_renamed.mp hm
        rw [bne_iff_ne]
        intro heq
        have hsame : a = b := List.inj_on_of_nodup_map h ha hb (text_injective heq)
        rw [hsame, hsome] at hnone
        cases hnone
      have hnull : a.2 = .null := by
        cases hvalue : a.2 <;> rw [hvalue] at hnone <;> first | rfl | cases hnone
      rw [get, hmissing, hnull]
      rfl

end Attributes

section RoundTrips

variable {i : Interpreter} {key : JsonWebKey}

theorem attributes_names (key : JsonWebKey) : key.attributes.map Prod.fst = fieldNames := rfl

theorem jsonNames_nodup (key : JsonWebKey) : (key.attributes.map fun a => jsonName a.1).Nodup := by
  have hnames : (fieldNames.map jsonName).Nodup := by decide
  exact hnames

theorem names_nodup (key : JsonWebKey) : (key.attributes.map fun a => id a.1).Nodup := by
  have hnames : fieldNames.Nodup := by decide
  exact hnames

/-- The dictionary of a key: the members that are there, under their names in a JWK. -/
theorem asDict_eq (key : JsonWebKey) : key.asDict = renamed jsonName key.attributes :=
  dictOf_of_nodup (renamed_nodup (jsonNames_nodup key))

theorem isTruthy_kty (h : postInit i key = .ok ()) : isTruthy (view key.kty) = true := by
  rw [← Bool.not_eq_false]
  intro hfalse
  rw [postInit, KeySet.postInit] at h
  have hkty : key.view.kty = view key.kty := rfl
  rw [hkty, hfalse] at h
  cases h

/-- The first round trip: through the dictionary. -/
theorem jwksFromDict_asDict (h : postInit i key = .ok ()) : jwksFromDict i key.asDict = .ok key := by
  have hget : ∀ a ∈ key.attributes, get key.asDict (jsonName a.1) = a.2 := by
    intro a ha
    rw [asDict_eq]
    exact get_renamed (jsonNames_nodup key) ha
  simp only [JsonWebKey.attributes, List.forall_mem_cons, jsonName, String.reduceEq, if_false, if_true] at hget
  simp only [jwksFromDict, hget, isTruthy_kty h, if_true]
  change (do postInit i key; return key : Except DiscoError JsonWebKey) = .ok key
  rw [h]
  rfl

/-- The strings of a name are plain. -/
theorem unpaired_jsonName {a : String × Doc} (ha : a ∈ key.attributes) : Unpaired (text (jsonName a.1)) := by
  have hall : (fieldNames.all fun name => Unpaired (text (jsonName name))) = true := by decide
  have hname : a.1 ∈ fieldNames := attributes_names key ▸ List.mem_map_of_mem ha
  exact of_decide_eq_true (List.all_eq_true.mp hall _ hname)

theorem plain_asDict (htyped : key.Typed) (hpairs : key.SurrogatesUnpaired) : Plain (.dict key.asDict) := by
  rw [asDict_eq]
  refine ⟨renamed_nodup (jsonNames_nodup key), plainMembers_iff.mpr ?_⟩
  intro m hm
  obtain ⟨a, ha, -, rfl⟩ := mem_renamed.mp hm
  exact ⟨unpaired_jsonName ha, plain_of_hasType (htyped a ha) (hpairs a ha)⟩

/-- The loop of `from_json` gives a member of a typed key its field's name. -/
theorem mappedItem_attribute (htyped : key.Typed) {a : String × Doc} (ha : a ∈ key.attributes) :
    mappedItem (text (jsonName a.1), a.2) = (text a.1, a.2) := by
  have hname : a.1 ∈ fieldNames := attributes_names key ▸ List.mem_map_of_mem ha
  have hlist (field : String) (hdeclared : declaredType field ≠ .str ∧ declaredType field ≠ .optStr)
      (heq : a.1 = field) : isStr a.2 = false := by
    have htype := htyped a ha
    rw [heq] at htype
    cases hfield : declaredType field with
    | str => exact absurd hfield hdeclared.1
    | optStr => exact absurd hfield hdeclared.2
    | optStrList =>
        rw [hfield] at htype
        obtain hnull | ⟨ts, hts⟩ := htype
        · rw [hnull]
          rfl
        · rw [hts]
          rfl
    | optDictList =>
        rw [hfield] at htype
        obtain hnull | ⟨dicts, -, hdicts⟩ := htype
        · rw [hnull]
          rfl
        · rw [hdicts]
          rfl
  by_cases hx5t : a.1 = "x5t_s256"
  · have hjson : jsonName a.1 = "x5t#S256" := by rw [hx5t]; rfl
    rw [mappedItem, hjson, if_pos rfl, hx5t]
  · have hjson : jsonName a.1 = a.1 := if_neg hx5t
    have hother : ¬text a.1 = text "x5t#S256" := by
      intro heq
      rw [text_injective heq] at hname
      exact absurd hname (by decide)
    have hstr (field : String) (hdeclared : declaredType field ≠ .str ∧ declaredType field ≠ .optStr) :
        ¬(text a.1 = text field ∧ isStr a.2 = true) := by
      rintro ⟨heq, hisStr⟩
      rw [hlist field hdeclared (text_injective heq)] at hisStr
      cases hisStr
    simp only [mappedItem, hjson, if_neg hother, if_neg (hstr "key_ops" (by decide)),
      if_neg (hstr "x5c" (by decide)), if_neg (hstr "oth" (by decide))]

theorem filteredData_asDict (htyped : key.Typed) :
    filteredData key.asDict = renamed id key.attributes := by
  have hmapped : key.asDict.map mappedItem = renamed id key.attributes := by
    rw [asDict_eq, renamed, renamed, List.map_map]
    apply List.map_congr_left
    intro a ha
    exact mappedItem_attribute htyped (List.mem_of_mem_filter ha)
  rw [filteredData, hmapped, dictOf_of_nodup (renamed_nodup (names_nodup key)), List.filter_eq_self]
  intro m hm
  obtain ⟨a, ha, -, rfl⟩ := mem_renamed.mp hm
  have hname : a.1 ∈ fieldNames := attributes_names key ▸ List.mem_map_of_mem ha
  exact decide_eq_true (List.mem_map_of_mem hname)

/-- The arguments of a typed key make it again. -/
theorem construct_renamed (htyped : key.Typed) (h : postInit i key = .ok ()) :
    construct i (renamed id key.attributes) = .ok key := by
  have hget : ∀ a ∈ key.attributes, get (renamed id key.attributes) a.1 = a.2 :=
    fun a ha => get_renamed (names_nodup key) ha
  have hkty : ((renamed id key.attributes).lookup (text "kty")).isNone = false := by
    obtain ⟨t, ht⟩ := htyped ("kty", key.kty) List.mem_cons_self
    have hmem : (text "kty", key.kty) ∈ renamed id key.attributes :=
      mem_renamed.mpr ⟨("kty", key.kty), List.mem_cons_self, by rw [show key.kty = .str t from ht]; rfl, rfl⟩
    rw [lookup_of_mem (renamed_nodup (names_nodup key)) hmem]
    rfl
  have hfields : JsonWebKey.ofFields (get (renamed id key.attributes)) = key := by
    simp only [JsonWebKey.attributes, List.forall_mem_cons] at hget
    simp only [JsonWebKey.attributes, JsonWebKey.ofFields, hget]
  rw [construct, hkty]
  change (do postInit i (JsonWebKey.ofFields _); return JsonWebKey.ofFields _ : Except DiscoError JsonWebKey) = _
  rw [hfields, h]
  rfl

/-- The second one: through the text. -/
theorem fromJson_toJson (htyped : key.Typed) (hpairs : key.SurrogatesUnpaired) (h : postInit i key = .ok ()) :
    fromJson i key.toJson = .ok key := by
  have hblank : (key.toJson.all fun c => isPySpace (viewChar c)) = false := by
    have hbrace : isPySpace (viewChar (code '{')) = false := by decide
    rw [JsonWebKey.toJson, dumps, List.all_cons, hbrace, Bool.false_and]
  rw [fromJson, hblank, JsonWebKey.toJson, loads_dumps (plain_asDict htyped hpairs)]
  simp only [filteredData_asDict htyped, construct_renamed htyped h]
  rfl

/-- A key comes back from its dictionary, and from its text unless two surrogates were taken for one
code point. -/
theorem key_round_trips (i : Interpreter) (key : JsonWebKey) (htyped : key.Typed)
    (hvalid : postInit i key = .ok ()) :
    jwksFromDict i key.asDict = .ok key ∧ (key.SurrogatesUnpaired → fromJson i key.toJson = .ok key) :=
  ⟨jwksFromDict_asDict hvalid, fun hpairs => fromJson_toJson htyped hpairs hvalid⟩

/-- An interpreter whose messages are empty. -/
def quietInterpreter : Interpreter :=
  ⟨Url.asciiPlatform, fun _ => .ok "", fun _ => "", fun _ => "", fun _ => .ok ()⟩

/-- A key identifier of a high and a low surrogate. -/
def pairKey : JsonWebKey where
  kty := .str (text "oct")
  kid := .str [0xd83d, 0xde00]
  k := .str (text "czNjcjN0")

/-- The two become one code point. -/
theorem surrogates_joined : pairKey.Typed ∧ postInit quietInterpreter pairKey = .ok () ∧
    fromJson quietInterpreter pairKey.toJson = .ok { pairKey with kid := .str [0x1f600] } ∧
      fromJson quietInterpreter pairKey.toJson ≠ .ok pairKey := by
  have htyped : pairKey.Typed := by
    intro a ha
    fin_cases ha
    all_goals first | exact ⟨_, rfl⟩ | exact .inr ⟨_, rfl⟩ | exact .inl rfl
  have hloads : loads pairKey.toJson = some (.dict [(text "kty", .str (text "oct")),
      (text "kid", .str [0x1f600]), (text "k", .str (text "czNjcjN0"))]) := rfl
  have hjoined : fromJson quietInterpreter pairKey.toJson =
      .ok { pairKey with kid := .str [0x1f600] } := by
    rw [fromJson, if_neg (by decide), hloads]
    rfl
  refine ⟨htyped, rfl, hjoined, ?_⟩
  rw [hjoined]
  intro heq
  cases heq

/-- A key with a renamed member, operations and a further prime. -/
def sampleKey : JsonWebKey where
  kty := .str (text "RSA")
  keyOps := .list [.str (text "verify")]
  kid := .str (text "clé \"1\"")
  x5c := .list [.str (text "MIIB"), .str (text "MIIC")]
  x5tS256 := .str (text "dGh1bWI")
  n := .str (text "AQAB")
  e := .str (text "AQAB")
  oth := .list [textDict [(text "r", text "AQ"), (text "d", text "Ag")]]

theorem key_round_trips_sample : jwksFromDict quietInterpreter sampleKey.asDict = .ok sampleKey ∧
    fromJson quietInterpreter sampleKey.toJson = .ok sampleKey := by
  have htyped : sampleKey.Typed := by
    intro a ha
    fin_cases ha
    all_goals first
      | exact ⟨_, rfl⟩
      | exact .inl rfl
      | exact .inr ⟨_, rfl⟩
      | exact .inr ⟨[text "verify"], rfl⟩
      | exact .inr ⟨[text "MIIB", text "MIIC"], rfl⟩
      | exact .inr ⟨[[(text "r", text "AQ"), (text "d", text "Ag")]], by decide, rfl⟩
  have hpairs : sampleKey.SurrogatesUnpaired := by
    intro a ha
    fin_cases ha
    all_goals decide
  obtain ⟨hdict, htext⟩ := key_round_trips quietInterpreter sampleKey htyped rfl
  exact ⟨hdict, htext hpairs⟩

end RoundTrips

end IdentityModel.Py.KeyCodec
