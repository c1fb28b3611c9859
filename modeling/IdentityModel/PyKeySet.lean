import IdentityModel.PyDiscovery

/-!
# Key sets in Python

`_build_jwks_keys` of `core/response_processors.py` with `jwks_from_dict` of `core/parsers.py` and
the validators of `JsonWebKey` in `core/models.py`. The members of a key are decoded values of any
type, and a validator that meets the wrong one raises what Python raises; a key whose construction
raises is skipped, and says nothing about the others. What is not skipped is an exception of the
printing itself: of an unknown operation in the message about it, or of a `kid` in the log.
-/
namespace IdentityModel.Py.KeySet

open Results

/-- `JsonWebKey`, with the members as they were decoded. -/
structure JsonWebKey where
  kty : Json
  use_ : Json := .null
  keyOps : Json := .null
  alg : Json := .null
  kid : Json := .null
  x5u : Json := .null
  x5c : Json := .null
  x5t : Json := .null
  x5tS256 : Json := .null
  crv : Json := .null
  x : Json := .null
  y : Json := .null
  d : Json := .null
  n : Json := .null
  e : Json := .null
  p : Json := .null
  q : Json := .null
  dp : Json := .null
  dq : Json := .null
  qi : Json := .null
  oth : Json := .null
  k : Json := .null

/-- A decoded object; `get` is null for a name it does not have. -/
abbrev KeyDict := List (String × Json)

def KeyDict.get (key : KeyDict) (name : String) : Json := Json.get (.obj key) name

/-- `value in texts`. -/
def isOneOf (texts : List String) : Json → Bool
  | .str s => s ∈ texts
  | _ => false

/-- `value is not None`. -/
def isNotNone : Json → Bool
  | .null => false
  | _ => true

section Validation

variable (i : Interpreter)

def validCurves : List String := ["P-256", "P-384", "P-521", "secp256k1"]

/-- `_validate_ec_key`. -/
def validateEcKey (key : JsonWebKey) : Except DiscoError Unit :=
  if !([key.crv, key.x, key.y].all isTruthy) then
    .error (.configuration "EC keys require 'crv', 'x', and 'y' parameters")
  else if !isOneOf validCurves key.crv then do
    let crv ← i.format key.crv
    .error (.configuration ("Unsupported curve: " ++ crv ++ ". Supported curves: " ++
      i.reprList validCurves))
  else .ok ()

/-- `_validate_rsa_key`. -/
def validateRsaKey (key : JsonWebKey) : Except DiscoError Unit :=
  if !([key.n, key.e].all isTruthy) then
    .error (.configuration "RSA keys require 'n' and 'e' parameters")
  else .ok ()

/-- `_validate_symmetric_key`. -/
def validateSymmetricKey (key : JsonWebKey) : Except DiscoError Unit :=
  if !isNotNone key.k then .error (.configuration "Symmetric keys require 'k' parameter")
  else .ok ()

def validUseValues : List String := ["sig", "enc"]

/-- `_validate_use_parameter`; only a string has `startswith`. -/
def validateUseParameter (key : JsonWebKey) : Except DiscoError Unit :=
  match key.use_ with
  | .null => .ok ()
  | .str use =>
      if use ∉ validUseValues ∧ ¬ "https://".toList <+: use.toList then
        .error (.configuration ("Invalid 'use' parameter: " ++ use ++
          ". Must be 'sig', 'enc', or a URI"))
      else .ok ()
  | j => .error (.attribute ("'" ++ typeName j ++ "' object has no attribute 'startswith'"))

def validKeyOps : List String :=
  ["sign", "verify", "encrypt", "decrypt", "wrapKey", "unwrapKey", "deriveKey", "deriveBits"]

/-- The body of the loop of `_validate_key_ops_parameter`. -/
def validateKeyOp (op : Json) : Except DiscoError Unit :=
  if !isOneOf validKeyOps op then do
    let text ← i.format op
    .error (.configuration ("Invalid key operation: " ++ text ++ ". Valid operations: " ++
      i.reprList validKeyOps))
  else .ok ()

/-- `_validate_key_ops_parameter`. -/
def validateKeyOpsParameter (key : JsonWebKey) : Except DiscoError Unit :=
  if !isNotNone key.keyOps then .ok ()
  else do
    let ops ← iterate key.keyOps
    ops.forM (validateKeyOp i)

/-- What the type of a key requires. -/
def validateTypeParameters (key : JsonWebKey) : Except DiscoError Unit :=
  match key.kty with
  | .str "EC" => validateEcKey i key
  | .str "RSA" => validateRsaKey key
  | .str "oct" => validateSymmetricKey key
  | _ => .ok ()

/-- `_validate_key_parameters`. -/
def validateKeyParameters (key : JsonWebKey) : Except DiscoError Unit := do
  validateTypeParameters i key
  validateUseParameter key
  validateKeyOpsParameter i key
  if isNotNone key.use_ && isNotNone key.keyOps then
    .error (.configuration "The 'use' and 'key_ops' parameters are mutually exclusive")
  else .ok ()

/-- `__post_init__`. -/
def postInit (key : JsonWebKey) : Except DiscoError Unit :=
  if !isTruthy key.kty then .error (.configuration "The 'kty' (Key Type) parameter is required")
  else validateKeyParameters i key

/-- The attributes `jwks_from_dict` passes on. -/
def JsonWebKey.ofDict (dict : KeyDict) : JsonWebKey where
  kty := if isTruthy (dict.get "kty") then dict.get "kty" else .str ""
  use_ := dict.get "use"
  keyOps := dict.get "key_ops"
  alg := dict.get "alg"
  kid := dict.get "kid"
  x5u := dict.get "x5u"
  x5c := dict.get "x5c"
  x5t := dict.get "x5t"
  x5tS256 := dict.get "x5t#S256"
  crv := dict.get "crv"
  x := dict.get "x"
  y := dict.get "y"
  d := dict.get "d"
  n := dict.get "n"
  e := dict.get "e"
  p := dict.get "p"
  q := dict.get "q"
  dp := dict.get "dp"
  dq := dict.get "dq"
  qi := dict.get "qi"
  oth := dict.get "oth"
  k := dict.get "k"

/-- `jwks_from_dict`. -/
def jwksFromDict (dict : KeyDict) : Except DiscoError JsonWebKey := do
  postInit i (.ofDict dict)
  return .ofDict dict

/-- `_JWK_STRING_MEMBERS`. -/
def jwkStringMembers : List String := ["kty", "kid", "use", "alg", "n", "e", "crv", "x", "y"]

/-- The members that are there and are no strings. -/
def mistyped (dict : KeyDict) : List String :=
  jwkStringMembers.filter fun name =>
    match dict.get name with
    | .null => false
    | .str _ => false
    | _ => true

/-- The exceptions that make a key unusable: `ConfigurationException`, of which
`DiscoveryHTTPSRequiredError` is one, `TypeError` and `AttributeError`. -/
def isCaught : DiscoError → Bool
  | .configuration _ | .httpsRequired _ | .type_ _ | .attribute _ => true
  | .discovery _ | .missingFields _ _ | .parse _ | .value _ | .recursion _ => false

/-- `logger.warning` about an ignored key prints its `kid`; a string or `None` it prints always. -/
def warnIgnored (dict : KeyDict) : Except DiscoError Unit :=
  match dict.get "kid" with
  | .null => .ok ()
  | .str _ => .ok ()
  | kid => (i.logged kid).mapError DiscoError.recursion

/-- The loop of `_build_jwks_keys`: the keys and the reasons so far. Any other exception ends it. -/
def buildLoop : List KeyDict → List JsonWebKey → List String →
    Except DiscoError (List JsonWebKey × List String)
  | [], keys, skipped => .ok (keys, skipped)
  | dict :: rest, keys, skipped =>
      if mistyped dict ≠ [] then do
        warnIgnored i dict
        buildLoop rest keys (skipped ++
          ["mistyped parameter(s) " ++ i.reprList (mistyped dict) ++ ": expected a string"])
      else
        match jwksFromDict i dict with
        | .ok key => buildLoop rest (keys ++ [key]) skipped
        | .error e =>
            if isCaught e then do
              warnIgnored i dict
              buildLoop rest keys (skipped ++ [e.message])
            else .error e

/-- `_build_jwks_keys`. -/
def buildJwksKeys (rawKeys : List KeyDict) :
    Except DiscoError (List JsonWebKey × Option String) := do
  let built ← buildLoop i rawKeys [] []
  if rawKeys ≠ [] ∧ built.1 = [] then
    return ([], some ("JWKS has no usable keys: " ++ "; ".intercalate built.2))
  else return (built.1, none)

end Validation

/-- The key an entry makes. -/
def usableKey (i : Interpreter) (dict : KeyDict) : Option JsonWebKey :=
  if mistyped dict ≠ [] then none else (jwksFromDict i dict).toOption

/-- The second list is the first with elements put in anywhere, all with the property. -/
inductive Inserted {α : Type} (p : α → Prop) : List α → List α → Prop
  | nil : Inserted p [] []
  | keep (x : α) {xs ys : List α} (h : Inserted p xs ys) : Inserted p (x :: xs) (x :: ys)
  | insert {x : α} (hx : p x) {xs ys : List α} (h : Inserted p xs ys) : Inserted p xs (x :: ys)

theorem Inserted.filterMap_eq {α β : Type} {p : α → Prop} {f : α → Option β} {xs ys : List α}
    (h : Inserted p xs ys) (hp : ∀ x, p x → f x = none) : ys.filterMap f = xs.filterMap f := by
  induction h with
  | nil => rfl
  | keep x _ ih => rw [List.filterMap_cons, List.filterMap_cons, ih]
  | insert hx _ ih => rw [List.filterMap_cons_none (hp _ hx), ih]

theorem Inserted.subset {α : Type} {p : α → Prop} {xs ys : List α} (h : Inserted p xs ys) :
    xs ⊆ ys := by
  induction h with
  | nil => exact fun _ hx => hx
  | keep x _ ih => exact List.cons_subset_cons x ih
  | insert _ _ ih => exact List.subset_cons_of_subset _ ih

/-- Whatever the computation raises makes a key unusable. -/
def Contained {α : Type} (x : Except DiscoError α) : Prop := ∀ e, x = .error e → isCaught e = true

section Contained

variable {α β : Type} {i : Interpreter}

theorem Contained.ok (a : α) : Contained (.ok a : Except DiscoError α) := by
  intro e h
  cases h

theorem Contained.error {e : DiscoError} (h : isCaught e = true) :
    Contained (.error e : Except DiscoError α) := by
  intro e' he
  rw [← Except.error.inj he]
  exact h

theorem Contained.ite {c : Prop} [Decidable c] {x y : Except DiscoError α} (hx : Contained x)
    (hy : Contained y) : Contained (if c then x else y) := by
  split
  · exact hx
  · exact hy

/-- Behind a computation that raises nothing else, it is the next one that matters. -/
theorem contained_bind {x : Except DiscoError Unit} {f : Unit → Except DiscoError β}
    (hx : Contained x) : Contained (x >>= f) ↔ (x = .ok () → Contained (f ())) := by
  cases x with
  | error e => exact iff_of_true (Contained.error (hx e rfl)) fun h => by cases h
  | ok a => exact ⟨fun h _ => h, fun h => h rfl⟩

/-- The value is printed. -/
def Prints (i : Interpreter) (j : Json) : Prop := (i.format j).isOk = true

instance (i : Interpreter) (j : Json) : Decidable (Prints i j) :=
  inferInstanceAs (Decidable ((i.format j).isOk = true))

theorem uncaught_of_print {x : Except PrintError String} {e : DiscoError}
    (h : x.mapError PrintError.toDiscoError = .error e) : isCaught e = false := by
  cases x with
  | ok text => cases h
  | error printing =>
      obtain rfl : printing.toDiscoError = e := Except.error.inj h
      cases printing with
      | value message => rfl
      | recursion message => rfl

/-- What printing raises makes no key unusable. -/
theorem format_uncaught {j : Json} {e : DiscoError} (h : i.format j = .error e) :
    isCaught e = false := by
  cases j with
  | str s => cases h
  | _ => exact uncaught_of_print h

/-- A message about a value is raised and caught if and only if the value is printed. -/
theorem contained_message (j : Json) (message : String → String) :
    Contained (i.format j >>= fun text => (.error (.configuration (message text)) :
      Except DiscoError α)) ↔ Prints i j := by
  rw [Prints]
  cases h : i.format j with
  | ok text => exact iff_of_true (Contained.error rfl) rfl
  | error e =>
      refine iff_of_false (fun hcontained => ?_) (by simp [Except.isOk, Except.toBool])
      have hcaught : isCaught e = true := hcontained e rfl
      rw [format_uncaught h] at hcaught
      cases hcaught

theorem validateUseParameter_contained (key : JsonWebKey) : Contained (validateUseParameter key) := by
  unfold validateUseParameter
  split
  · exact .ok ()
  · exact .ite (.error rfl) (.ok ())
  · exact .error rfl

theorem iterate_contained (j : Json) : Contained (iterate j) := by
  cases j with
  | arr es => exact .ok es
  | str s => exact .ok _
  | obj ms => exact .ok _
  | null => exact .error rfl
  | bool b => exact .error rfl
  | num n => exact .error rfl

/-- A member of an entry whose members are of the types of their names. -/
theorem textual_of_not_mistyped {dict : KeyDict} (h : mistyped dict = []) {name : String}
    (hname : name ∈ jwkStringMembers) : dict.get name = .null ∨ ∃ s, dict.get name = .str s := by
  have hnot := List.filter_eq_nil_iff.mp h name hname
  cases hvalue : dict.get name with
  | null => exact .inl rfl
  | str s => exact .inr ⟨s, rfl⟩
  | _ => simp [hvalue] at hnot

theorem warnIgnored_of_not_mistyped {dict : KeyDict} (h : mistyped dict = []) :
    warnIgnored i dict = .ok () := by
  have hname : "kid" ∈ jwkStringMembers := by decide
  obtain hkid | ⟨kid, hkid⟩ := textual_of_not_mistyped h hname
  · rw [warnIgnored, hkid]
  · rw [warnIgnored, hkid]

/-- A curve that is printed is a string. -/
theorem validateEcKey_contained {key : JsonWebKey} (h : key.crv = .null ∨ ∃ s, key.crv = .str s) :
    Contained (validateEcKey i key) := by
  obtain hcrv | ⟨s, hcrv⟩ := h
  · have hmissing : [key.crv, key.x, key.y].all isTruthy = false := by simp [hcrv, isTruthy]
    rw [validateEcKey, hmissing]
    exact .error rfl
  · refine .ite (.error rfl) (.ite ?_ (.ok ()))
    rw [contained_message, hcrv]
    rfl

theorem validateTypeParameters_contained {dict : KeyDict} (h : mistyped dict = []) :
    Contained (validateTypeParameters i (.ofDict dict)) := by
  unfold validateTypeParameters
  split
  · exact validateEcKey_contained (textual_of_not_mistyped h (by decide))
  · exact .ite (.error rfl) (.ok ())
  · exact .ite (.error rfl) (.ok ())
  · exact .ok ()

/-- The first operation that is none of the known ones. -/
def unknownOp (key : JsonWebKey) : Option Json :=
  match iterate key.keyOps with
  | .ok ops => ops.find? fun op => !isOneOf validKeyOps op
  | .error _ => none

/-- The loop over the operations ends at the first unknown one. -/
theorem forM_validateKeyOp (ops : List Json) : ops.forM (validateKeyOp i) =
    match ops.find? fun op => !isOneOf validKeyOps op with
    | none => .ok ()
    | some op => validateKeyOp i op := by
  induction ops with
  | nil => rfl
  | cons op ops ih =>
      by_cases hop : isOneOf validKeyOps op = true
      · have hpass : validateKeyOp i op = .ok () := by rw [validateKeyOp, hop]; rfl
        rw [List.find?_cons_of_neg (by simp [hop]), ← ih]
        show (validateKeyOp i op >>= fun _ => ops.forM (validateKeyOp i)) = _
        rw [hpass]
        rfl
      · rw [List.find?_cons_of_pos (by simpa using hop)]
        show (validateKeyOp i op >>= fun _ => ops.forM (validateKeyOp i)) = validateKeyOp i op
        have hfail : ∃ e, validateKeyOp i op = .error e := by
          rw [validateKeyOp, if_pos (by simpa using hop)]
          cases i.format op with
          | ok text => exact ⟨_, rfl⟩
          | error e => exact ⟨e, rfl⟩
        obtain ⟨e, he⟩ := hfail
        rw [he]
        rfl

theorem validateKeyOpsParameter_contained (key : JsonWebKey) :
    Contained (validateKeyOpsParameter i key) ↔ ∀ op ∈ unknownOp key, Prints i op := by
  rw [unknownOp]
  cases hiter : iterate key.keyOps with
  | error e =>
      refine iff_of_true (.ite (.ok ()) ?_) fun op h => by cases h
      rw [hiter]
      exact .error (iterate_contained key.keyOps e hiter)
  | ok ops =>
      have hthere : isNotNone key.keyOps = true := by
        cases hops : key.keyOps <;> first | rfl | (rw [hops] at hiter; cases hiter)
      have hrun : validateKeyOpsParameter i key = ops.forM (validateKeyOp i) := by
        rw [validateKeyOpsParameter, hthere, hiter]
        rfl
      rw [hrun, forM_validateKeyOp]
      cases hfind : ops.find? fun op => !isOneOf validKeyOps op with
      | none =>
          refine iff_of_true (.ok ()) fun op h => ?_
          simp only [hfind] at h
          cases h
      | some op =>
          have hunknown : isOneOf validKeyOps op = false := by simpa using List.find?_some hfind
          simp only [validateKeyOp, hunknown, hfind, Bool.not_false, if_true, contained_message,
            Option.mem_some, forall_eq']

/-- The key comes to the check of its operations. -/
def ReachesKeyOps (i : Interpreter) (key : JsonWebKey) : Prop :=
  isTruthy key.kty = true ∧ validateTypeParameters i key = .ok () ∧ validateUseParameter key = .ok ()

/-- Making a key of an entry raises nothing but what makes it unusable if and only if the unknown
operation it comes to is printed. -/
theorem jwksFromDict_contained {dict : KeyDict} (h : mistyped dict = []) :
    Contained (jwksFromDict i dict) ↔ (ReachesKeyOps i (.ofDict dict) →
      ∀ op ∈ unknownOp (.ofDict dict), Prints i op) := by
  have hlast (key : JsonWebKey) : Contained (if (isNotNone key.use_ && isNotNone key.keyOps) = true
      then .error (.configuration "The 'use' and 'key_ops' parameters are mutually exclusive")
      else (.ok () : Except DiscoError Unit)) := .ite (.error rfl) (.ok ())
  have hreturn {x : Except DiscoError Unit} :
      Contained (do x; return JsonWebKey.ofDict dict) ↔ Contained x := by
    cases x with
    | ok u => exact iff_of_true (.ok _) (.ok u)
    | error e => exact ⟨fun h e' he => h e' (by rw [he]; rfl), fun h e' he => h e' (by cases he; rfl)⟩
  rw [jwksFromDict, hreturn, postInit]
  cases hkty : isTruthy (JsonWebKey.ofDict dict).kty with
  | false =>
      refine iff_of_true (Contained.error rfl) fun hreach => ?_
      rw [ReachesKeyOps, hkty] at hreach
      cases hreach.1
  | true =>
      have hparameters : Contained (validateKeyParameters i (.ofDict dict)) ↔
          (validateTypeParameters i (.ofDict dict) = .ok () →
            validateUseParameter (.ofDict dict) = .ok () →
            Contained (validateKeyOpsParameter i (.ofDict dict))) := by
        rw [validateKeyParameters, contained_bind (validateTypeParameters_contained h)]
        refine imp_congr_right fun _ => ?_
        rw [contained_bind (validateUseParameter_contained _)]
        refine imp_congr_right fun _ => ?_
        cases hops : validateKeyOpsParameter i (.ofDict dict) with
        | ok u => exact iff_of_true (hlast _) (.ok u)
        | error e => exact Iff.rfl
      show Contained (validateKeyParameters i (.ofDict dict)) ↔ _
      rw [hparameters, validateKeyOpsParameter_contained, ReachesKeyOps, hkty]
      tauto

end Contained

section Keys

variable (i : Interpreter)

/-- Printing what is wrong with an entry raises nothing: the log prints its `kid` where a member is
mistyped, and the unknown operation the key comes to goes into the message. -/
def Printable (dict : KeyDict) : Prop :=
  if mistyped dict ≠ [] then warnIgnored i dict = .ok ()
  else ReachesKeyOps i (.ofDict dict) → ∀ op ∈ unknownOp (.ofDict dict), Prints i op

variable {i} {dict : KeyDict} (rest : List KeyDict) (keys : List JsonWebKey) (skipped : List String)

/-- One entry adds its key, if it makes one. -/
theorem buildLoop_cons (h : Printable i dict) : ∃ reasons,
    buildLoop i (dict :: rest) keys skipped =
      buildLoop i rest (keys ++ (usableKey i dict).toList) (skipped ++ reasons) := by
  by_cases hmistyped : mistyped dict = []
  · rw [Printable, if_neg (not_not.mpr hmistyped), ← jwksFromDict_contained hmistyped] at h
    rw [buildLoop, if_neg (not_not.mpr hmistyped), usableKey, if_neg (not_not.mpr hmistyped)]
    cases hkey : jwksFromDict i dict with
    | ok key => exact ⟨[], by rw [List.append_nil]; rfl⟩
    | error e =>
        refine ⟨[e.message], ?_⟩
        simp only [h e hkey, if_true, warnIgnored_of_not_mistyped hmistyped]
        rw [show (Except.error e : Except DiscoError JsonWebKey).toOption = none from rfl,
          Option.toList_none, List.append_nil]
        rfl
  · rw [Printable, if_pos hmistyped] at h
    refine ⟨["mistyped parameter(s) " ++ i.reprList (mistyped dict) ++ ": expected a string"], ?_⟩
    rw [buildLoop, if_pos hmistyped, h, usableKey, if_pos hmistyped, Option.toList_none,
      List.append_nil]
    rfl

theorem buildLoop_raises (h : ¬ Printable i dict) :
    ∃ e, buildLoop i (dict :: rest) keys skipped = .error e := by
  by_cases hmistyped : mistyped dict = []
  · rw [Printable, if_neg (not_not.mpr hmistyped), ← jwksFromDict_contained hmistyped] at h
    obtain ⟨e, hkey, hescapes⟩ : ∃ e, jwksFromDict i dict = .error e ∧ isCaught e ≠ true := by
      simpa [Contained] using h
    rw [buildLoop, if_neg (not_not.mpr hmistyped), hkey]
    exact ⟨e, if_neg hescapes⟩
  · rw [Printable, if_pos hmistyped] at h
    rw [buildLoop, if_pos hmistyped]
    cases hwarn : warnIgnored i dict with
    | ok u => exact absurd hwarn h
    | error e => exact ⟨e, rfl⟩

/-- The loop adds the keys of the entries in their order. -/
theorem buildLoop_eq {rawKeys : List KeyDict} (h : ∀ dict ∈ rawKeys, Printable i dict) :
    ∃ skipped', buildLoop i rawKeys keys skipped =
      .ok (keys ++ rawKeys.filterMap (usableKey i), skipped') := by
  induction rawKeys generalizing keys skipped with
  | nil => exact ⟨skipped, by rw [buildLoop, List.filterMap_nil, List.append_nil]⟩
  | cons dict rest ih =>
      obtain ⟨reasons, hcons⟩ := buildLoop_cons rest keys skipped (h dict (by simp))
      obtain ⟨skipped', hrest⟩ := ih (keys ++ (usableKey i dict).toList) (skipped ++ reasons)
        fun d hd => h d (List.mem_cons_of_mem _ hd)
      refine ⟨skipped', ?_⟩
      rw [hcons, hrest, List.append_assoc, List.filterMap_cons]
      cases usableKey i dict <;> rfl

/-- A loop that ends has printed what is wrong with each entry. -/
theorem printable_of_buildLoop {rawKeys : List KeyDict} {built : List JsonWebKey × List String}
    (h : buildLoop i rawKeys keys skipped = .ok built) : ∀ dict ∈ rawKeys, Printable i dict := by
  induction rawKeys generalizing keys skipped with
  | nil => exact fun _ hd => by cases hd
  | cons dict rest ih =>
      have hdict : Printable i dict := by
        by_contra hnot
        obtain ⟨e, he⟩ := buildLoop_raises rest keys skipped hnot
        rw [he] at h
        cases h
      obtain ⟨reasons, hcons⟩ := buildLoop_cons rest keys skipped hdict
      rw [hcons] at h
      exact List.forall_mem_cons.mpr ⟨hdict, ih _ _ h⟩

/-- The result is the keys of the entries; without any there is an error instead. -/
theorem buildJwksKeys_eq {rawKeys : List KeyDict} (h : ∀ dict ∈ rawKeys, Printable i dict) :
    ∃ error, buildJwksKeys i rawKeys = .ok (rawKeys.filterMap (usableKey i), error) ∧
      (error = none ↔ rawKeys = [] ∨ rawKeys.filterMap (usableKey i) ≠ []) := by
  obtain ⟨skipped, hloop⟩ := buildLoop_eq [] [] h
  rw [List.nil_append] at hloop
  rw [buildJwksKeys, hloop]
  by_cases hnone : rawKeys ≠ [] ∧ rawKeys.filterMap (usableKey i) = []
  · refine ⟨some ("JWKS has no usable keys: " ++ "; ".intercalate skipped), ?_, ?_⟩
    · rw [hnone.2]
      exact if_pos ⟨hnone.1, rfl⟩
    · simp [hnone.1, hnone.2]
  · refine ⟨none, if_neg hnone, ?_⟩
    simp only [true_iff]
    by_contra hnot
    push Not at hnot
    exact hnone hnot

end Keys

/-- Bad keys hide no good one: no exception leaves the function; its keys are those of the usable
entries, in their order; there is an error exactly for entries none of which is usable; and the
unusable ones change nothing beside a usable one. -/
def HidesNone (i : Interpreter) (rawKeys : List KeyDict) : Prop :=
  (∃ error, buildJwksKeys i rawKeys = .ok (rawKeys.filterMap (usableKey i), error) ∧
    (error.isSome ↔ rawKeys ≠ [] ∧ ∀ dict ∈ rawKeys, usableKey i dict = none)) ∧
  ∀ fewer : List KeyDict, (∃ dict ∈ fewer, (usableKey i dict).isSome) →
    Inserted (fun dict => usableKey i dict = none) fewer rawKeys →
    buildJwksKeys i rawKeys = buildJwksKeys i fewer

theorem HidesNone.printable {i : Interpreter} {rawKeys : List KeyDict} (h : HidesNone i rawKeys) :
    ∀ dict ∈ rawKeys, Printable i dict := by
  obtain ⟨⟨error, hbuild, -⟩, -⟩ := h
  cases hloop : buildLoop i rawKeys [] [] with
  | ok built => exact printable_of_buildLoop [] [] hloop
  | error e =>
      rw [buildJwksKeys, hloop] at hbuild
      cases hbuild

/-- That holds if and only if what is wrong with each entry can be printed. -/
theorem bad_keys_hide_none (i : Interpreter) (rawKeys : List KeyDict) :
    HidesNone i rawKeys ↔ ∀ dict ∈ rawKeys, Printable i dict := by
  constructor
  · exact HidesNone.printable
  · intro hprint
    obtain ⟨error, hbuild, herror⟩ := buildJwksKeys_eq hprint
    refine ⟨⟨error, hbuild, ?_⟩, ?_⟩
    · rw [← not_iff_not, Option.isSome_iff_ne_none, not_not, herror, ne_eq,
        List.filterMap_eq_nil_iff]
      tauto
    · rintro fewer ⟨dict, hmem, hsome⟩ hinserted
      have hsame : rawKeys.filterMap (usableKey i) = fewer.filterMap (usableKey i) :=
        hinserted.filterMap_eq fun _ h => h
      have hne : fewer.filterMap (usableKey i) ≠ [] := by
        intro hnil
        rw [List.filterMap_eq_nil_iff.mp hnil dict hmem] at hsome
        cases hsome
      obtain ⟨error', hbuild', herror'⟩ := buildJwksKeys_eq fun d hd => hprint d (hinserted.subset hd)
      rw [hsame] at hbuild herror
      rw [hbuild', hbuild, herror.mpr (.inr hne), herror'.mpr (.inr hne)]

/-- An interpreter that prints what is nested at most so deep. -/
def limited (limit : ℕ) : Interpreter where
  platform := Url.asciiPlatform
  str j :=
    if limit < j.depth then
      .error (.recursion "maximum recursion depth exceeded while getting the repr of an object")
    else .ok ""
  ipStr _ := ""
  reprList _ := ""
  logged _ := .ok ()

def rsaEntry : KeyDict :=
  [("kty", .str "RSA"), ("kid", .str "k1"), ("n", .str "AQAB"), ("e", .str "AQAB")]

/-- A symmetric key for one operation. -/
def octEntry (op : Json) : KeyDict :=
  [("kty", .str "oct"), ("k", .str "czNjcjN0"), ("key_ops", .arr [op])]

/-- A good key between two bad ones. -/
theorem bad_keys_hide_none_sample :
    buildJwksKeys (limited 1) [octEntry (.str "fly"), rsaEntry, octEntry (.arr [.null])] =
        .ok ([.ofDict rsaEntry], none) ∧
      HidesNone (limited 1) [octEntry (.str "fly"), rsaEntry, octEntry (.arr [.null])] := by
  have hprint : ∀ dict ∈ [octEntry (.str "fly"), rsaEntry, octEntry (.arr [.null])],
      Printable (limited 1) dict := by
    intro dict hdict
    fin_cases hdict
    · exact fun _ => by decide
    · exact fun _ => by decide
    · exact fun _ => by decide
  exact ⟨rfl, (bad_keys_hide_none _ _).mpr hprint⟩

/-- Lists inside one another. -/
def nested : ℕ → Json
  | 0 => .null
  | n + 1 => .arr [nested n]

theorem depth_nested (n : ℕ) : (nested n).depth = n := by
  induction n with
  | zero => rfl
  | succ n ih => simp [nested, Json.depth, Json.depthElems, ih]

theorem not_printable_nested (limit : ℕ) :
    ¬ Printable (limited limit) (octEntry (nested (limit + 1))) := by
  intro h
  have hprints : Prints (limited limit) (nested (limit + 1)) := h ⟨rfl, rfl, rfl⟩ _ rfl
  have hfails : (limited limit).str (nested (limit + 1)) = .error
      (.recursion "maximum recursion depth exceeded while getting the repr of an object") :=
    if_pos (by rw [depth_nested]; exact Nat.lt_succ_self limit)
  rw [Prints, show (limited limit).format (nested (limit + 1)) =
    ((limited limit).str (nested (limit + 1))).mapError PrintError.toDiscoError from rfl, hfails]
    at hprints
  cases hprints

/-- An operation nested too deeply takes the good key with it. -/
theorem nested_operation_raises :
    ¬ HidesNone (limited 1000) [rsaEntry, octEntry (nested 1001)] :=
  fun h => not_printable_nested 1000 (h.printable _ (by simp))

end IdentityModel.Py.KeySet
