import IdentityModel.Json
import IdentityModel.JsonStrings

/-!
# JSON texts

Values as they are held in memory, with strings of code points, the text that is written for them and
the reader of such texts. A dictionary keeps the order in which its keys were first set. Numbers keep
their digits; the names of the numbers that are none (`NaN`, `Infinity`) are read as such. Limits on
the depth of a text and on the digits of an integer are left out.
-/
namespace IdentityModel.JsonText

/-- A value in memory. -/
inductive Doc
  | null
  | bool (b : Bool)
  | num (n : Number)
  /-- A number that JSON does not have. -/
  | special (name : String)
  | str (t : Text)
  | list (elems : List Doc)
  | dict (members : List (Text × Doc))

section Assign

variable {α : Type}

/-- `d[key] = value`. -/
def assign : List (Text × α) → Text × α → List (Text × α)
  | [], entry => [entry]
  | e :: d, entry => if e.1 = entry.1 then (e.1, entry.2) :: d else e :: assign d entry

/-- The dictionary that assignments in this order make. -/
def dictOf (entries : List (Text × α)) : List (Text × α) := entries.foldl assign []

theorem assign_of_not_mem {d : List (Text × α)} {entry : Text × α} (h : entry.1 ∉ d.map Prod.fst) :
    assign d entry = d ++ [entry] := by
  induction d with
  | nil => rfl
  | cons e d ih =>
      rw [List.map_cons, List.mem_cons, not_or] at h
      rw [assign, if_neg (Ne.symm h.1), ih h.2, List.cons_append]

/-- With distinct keys nothing is overwritten. -/
theorem dictOf_of_nodup {entries : List (Text × α)} (h : (entries.map Prod.fst).Nodup) :
    dictOf entries = entries := by
  have hfold (entries d : List (Text × α)) (h : ((d ++ entries).map Prod.fst).Nodup) :
      entries.foldl assign d = d ++ entries := by
    induction entries generalizing d with
    | nil => simp
    | cons e entries ih =>
        have hnew : e.1 ∉ d.map Prod.fst := by
          rw [List.map_append, List.map_cons] at h
          exact fun hmem => List.disjoint_of_nodup_append h hmem List.mem_cons_self
        rw [List.foldl_cons, assign_of_not_mem hnew, ih]
        · rw [List.append_assoc, List.singleton_append]
        · rw [List.append_assoc, List.singleton_append]
          exact h
  exact hfold entries [] h

/-- With distinct keys every entry is found. -/
theorem lookup_of_mem {d : List (Text × α)} (hnodup : (d.map Prod.fst).Nodup) {entry : Text × α}
    (h : entry ∈ d) : d.lookup entry.1 = some entry.2 := by
  obtain ⟨before, after, rfl⟩ := List.append_of_mem h
  refine List.lookup_eq_some_iff.mpr ⟨before, after, rfl, ?_⟩
  intro other hother
  rw [List.map_append, List.map_cons] at hnodup
  have hne : entry.1 ≠ other.1 := by
    intro heq
    have hmem : entry.1 ∈ before.map Prod.fst := heq ▸ List.mem_map_of_mem hother
    exact List.disjoint_of_nodup_append hnodup hmem List.mem_cons_self
  exact bne_iff_ne.mpr hne

end Assign

mutual

/-- The text of a value. -/
def dumps : Doc → Text
  | .null => text "null"
  | .bool true => text "true"
  | .bool false => text "false"
  | .num n => text n.text
  | .special name => text name
  | .str t => dumpsString t
  | .list elems => code '[' :: (dumpsElems elems ++ [code ']'])
  | .dict members => code '{' :: (dumpsMembers members ++ [code '}'])

def dumpsElems : List Doc → Text
  | [] => []
  | [d] => dumps d
  | d :: e :: ds => dumps d ++ code ',' :: code ' ' :: dumpsElems (e :: ds)

def dumpsMembers : List (Text × Doc) → Text
  | [] => []
  | [(k, d)] => dumpsString k ++ code ':' :: code ' ' :: dumps d
  | (k, d) :: m :: ms =>
      dumpsString k ++ code ':' :: code ' ' :: (dumps d ++ code ',' :: code ' ' :: dumpsMembers (m :: ms))

end

def isSpace (c : CodePoint) : Bool := c = code ' ' || c = code '\t' || c = code '\n' || c = code '\r'

def skipSpace (s : Text) : Text := s.dropWhile isSpace

def digit? (c : CodePoint) : Option Digit :=
  if h : 48 ≤ c.val ∧ c.val ≤ 57 then some ⟨c.val - 48, by omega⟩ else none

/-- The digits at the front. -/
def scanDigits : Text → List Digit × Text
  | [] => ([], [])
  | c :: s =>
      match digit? c with
      | some d => (d :: (scanDigits s).1, (scanDigits s).2)
      | none => ([], c :: s)

/-- The digits before the point: a zero stands alone. -/
def scanWhole (s : Text) : List Digit × Text :=
  match scanDigits s with
  | (0 :: _, _) => ([0], s.tail)
  | r => r

/-- The digits after a point; without any the point is not read. -/
def scanFraction (s : Text) : List Digit × Text :=
  if s.head? = some (code '.') then
    match scanDigits s.tail with
    | ([], _) => ([], s)
    | r => r
  else ([], s)

def scanSign (s : Text) : Option Bool × Text :=
  if s.head? = some (code '-') then (some true, s.tail)
  else if s.head? = some (code '+') then (some false, s.tail)
  else (none, s)

/-- An exponent; without digits it is not read. -/
def scanExponent (s : Text) : Option Exponent × Text :=
  if s.head? = some (code 'e') ∨ s.head? = some (code 'E') then
    let signed := scanSign s.tail
    let digits := scanDigits signed.2
    if h : digits.1 ≠ [] then (some ⟨s.head? = some (code 'E'), signed.1, digits.1, h⟩, digits.2)
    else (none, s)
  else (none, s)

def scanNumber (s : Text) : Option (Number × Text) :=
  let negative := decide (s.head? = some (code '-'))
  let whole := scanWhole (if negative then s.tail else s)
  let fraction := scanFraction whole.2
  let exponent := scanExponent fraction.2
  if h : whole.1 ≠ [] ∧ (whole.1 = [0] ∨ whole.1.head? ≠ some 0) then
    some (⟨negative, whole.1, fraction.1, exponent.1, h.1, h.2⟩, exponent.2)
  else none

/-- The words that are values. -/
def words : List (String × Doc) :=
  [("null", .null), ("true", .bool true), ("false", .bool false), ("NaN", .special "NaN"),
    ("Infinity", .special "Infinity"), ("-Infinity", .special "-Infinity")]

/-- A word, or a number. -/
def scanScalar (s : Text) : Option (Doc × Text) :=
  match words.find? fun word => (text word.1).isPrefixOf s with
  | some word => some (word.2, s.drop word.1.length)
  | none => (scanNumber s).map fun r => (.num r.1, r.2)

mutual

/-- A value at the front of a text. -/
def scanValue : ℕ → Text → Option (Doc × Text)
  | 0, _ => none
  | _ + 1, [] => none
  | fuel + 1, c :: s =>
      if c = code '"' then (scanString (s.length + 1) s).map fun r => (.str r.1, r.2)
      else if c = code '{' then scanObject fuel (skipSpace s)
      else if c = code '[' then scanArray fuel (skipSpace s)
      else scanScalar (c :: s)

/-- The rest of an array after its bracket. -/
def scanArray : ℕ → Text → Option (Doc × Text)
  | 0, _ => none
  | fuel + 1, s =>
      if s.head? = some (code ']') then some (.list [], s.tail)
      else (scanElems fuel s).map fun r => (.list r.1, r.2)

def scanElems : ℕ → Text → Option (List Doc × Text)
  | 0, _ => none
  | fuel + 1, s =>
      match scanValue fuel s with
      | none => none
      | some (d, s) =>
          match skipSpace s with
          | [] => none
          | c :: s =>
              if c = code ']' then some ([d], s)
              else if c = code ',' then (scanElems fuel (skipSpace s)).map fun r => (d :: r.1, r.2)
              else none

/-- The rest of an object after its brace. -/
def scanObject : ℕ → Text → Option (Doc × Text)
  | 0, _ => none
  | fuel + 1, s =>
      if s.head? = some (code '}') then some (.dict [], s.tail)
      else (scanMembers fuel s).map fun r => (.dict (dictOf r.1), r.2)

def scanMembers : ℕ → Text → Option (List (Text × Doc) × Text)
  | 0, _ => none
  | fuel + 1, s =>
      if s.head? = some (code '"') then
        match scanString s.length s.tail with
        | none => none
        | some (k, s) =>
            if (skipSpace s).head? = some (code ':') then
              match scanValue fuel (skipSpace (skipSpace s).tail) with
              | none => none
              | some (d, s) =>
                  match skipSpace s with
                  | [] => none
                  | c :: s =>
                      if c = code '}' then some ([(k, d)], s)
                      else if c = code ',' then
                        (scanMembers fuel (skipSpace s)).map fun r => ((k, d) :: r.1, r.2)
                      else none
            else none
      else none

end

/-- `json.loads`; a byte order mark is refused. -/
def loads (s : Text) : Option Doc :=
  if s.head? = some (code '\uFEFF') then none
  else
    match scanValue (2 * s.length) (skipSpace s) with
    | none => none
    | some (d, rest) => if skipSpace rest = [] then some d else none

mutual

/-- The strings of a value, keys among them. -/
def texts : Doc → List Text
  | .str t => [t]
  | .list elems => textsElems elems
  | .dict members => textsMembers members
  | _ => []

def textsElems : List Doc → List Text
  | [] => []
  | d :: ds => texts d ++ textsElems ds

def textsMembers : List (Text × Doc) → List Text
  | [] => []
  | (k, d) :: ms => k :: (texts d ++ textsMembers ms)

end

theorem mem_textsElems {ds : List Doc} {t : Text} : t ∈ textsElems ds ↔ ∃ d ∈ ds, t ∈ texts d := by
  induction ds with
  | nil => simp [textsElems]
  | cons d ds ih => simp [textsElems, ih]

theorem mem_textsMembers {ms : List (Text × Doc)} {t : Text} :
    t ∈ textsMembers ms ↔ ∃ m ∈ ms, t = m.1 ∨ t ∈ texts m.2 := by
  induction ms with
  | nil => simp [textsMembers]
  | cons m ms ih => simp [textsMembers, ih, or_assoc]

mutual

/-- Without numbers and surrogate pairs, and with distinct keys. -/
def Plain : Doc → Prop
  | .null => True
  | .bool _ => True
  | .num _ => False
  | .special _ => False
  | .str t => Unpaired t
  | .list elems => PlainElems elems
  | .dict members => (members.map Prod.fst).Nodup ∧ PlainMembers members

def PlainElems : List Doc → Prop
  | [] => True
  | d :: ds => Plain d ∧ PlainElems ds

def PlainMembers : List (Text × Doc) → Prop
  | [] => True
  | (k, d) :: ms => Unpaired k ∧ Plain d ∧ PlainMembers ms

end

theorem plainElems_iff {ds : List Doc} : PlainElems ds ↔ ∀ d ∈ ds, Plain d := by
  induction ds with
  | nil => simp [PlainElems]
  | cons d ds ih => simp [PlainElems, ih]

theorem plainMembers_iff {ms : List (Text × Doc)} :
    PlainMembers ms ↔ ∀ m ∈ ms, Unpaired m.1 ∧ Plain m.2 := by
  induction ms with
  | nil => simp [PlainMembers]
  | cons m ms ih => simp [PlainMembers, ih, and_assoc]

/-- The characters a value can start with. -/
def starts : Text := [code '"', code '[', code '{', code 'n', code 't', code 'f']

theorem starts_spec {c : CodePoint} (h : c ∈ starts) :
    isSpace c = false ∧ c ≠ code ']' ∧ c ≠ code '\uFEFF' := by
  have hall : (starts.all fun c => isSpace c = false ∧ c ≠ code ']' ∧ c ≠ code '\uFEFF') = true := by decide
  exact of_decide_eq_true (List.all_eq_true.mp hall c h)

theorem dumps_head {d : Doc} (h : Plain d) : ∃ c t, dumps d = c :: t ∧ c ∈ starts := by
  cases d with
  | null => exact ⟨code 'n', _, rfl, by simp [starts]⟩
  | bool b =>
      cases b with
      | true => exact ⟨code 't', _, rfl, by simp [starts]⟩
      | false => exact ⟨code 'f', _, rfl, by simp [starts]⟩
  | num n => exact h.elim
  | special name => exact h.elim
  | str t => exact ⟨code '"', _, rfl, by simp [starts]⟩
  | list elems => exact ⟨code '[', _, rfl, by simp [starts]⟩
  | dict members => exact ⟨code '{', _, rfl, by simp [starts]⟩

theorem skipSpace_cons {c : CodePoint} (h : isSpace c = false) (s : Text) : skipSpace (c :: s) = c :: s := by
  rw [skipSpace, List.dropWhile_cons, h, if_neg Bool.false_ne_true]

theorem skipSpace_dumps {d : Doc} (h : Plain d) (s : Text) : skipSpace (dumps d ++ s) = dumps d ++ s := by
  obtain ⟨c, t, heq, hc⟩ := dumps_head h
  rw [heq, List.cons_append, skipSpace_cons (starts_spec hc).1]

theorem dumpsElems_head {d : Doc} {ds : List Doc} (h : Plain d) :
    ∃ c t, dumpsElems (d :: ds) = c :: t ∧ c ∈ starts := by
  obtain ⟨c, t, heq, hc⟩ := dumps_head h
  cases ds with
  | nil => exact ⟨c, t, heq, hc⟩
  | cons e ds => exact ⟨c, t ++ code ',' :: code ' ' :: dumpsElems (e :: ds), by rw [dumpsElems, heq]; rfl, hc⟩

theorem dumpsMembers_head (m : Text × Doc) (ms : List (Text × Doc)) :
    ∃ t, dumpsMembers (m :: ms) = code '"' :: t := by
  cases ms with
  | nil => exact ⟨_, rfl⟩
  | cons n ms => exact ⟨_, rfl⟩

/-- A string at the front of a text, after its quote. -/
theorem scanString_dumpsString {t : Text} (h : Unpaired t) (s : Text) :
    ∃ rest, dumpsString t ++ s = code '"' :: rest ∧ scanString (rest.length + 1) rest = some (t, s) := by
  refine ⟨t.flatMap escapeChar ++ code '"' :: s, ?_, ?_⟩
  · rw [dumpsString, List.cons_append, List.append_assoc, List.singleton_append]
  · apply scanString_escaped h
    have := length_le_escaped t
    rw [List.length_append]
    omega

section Steps

variable {fuel : ℕ} {d : Doc} {k s t u : Text}

theorem scanValue_word (word : String) (hword : (word, d) ∈ [("null", Doc.null), ("true", .bool true),
    ("false", .bool false)]) : scanValue (fuel + 1) (text word ++ s) = some (d, s) := by
  simp only [List.mem_cons, Prod.mk.injEq, List.not_mem_nil, or_false] at hword
  obtain ⟨rfl, rfl⟩ | ⟨rfl, rfl⟩ | ⟨rfl, rfl⟩ := hword
  all_goals rfl

theorem scanValue_bracket : scanValue (fuel + 1) (code '[' :: s) = scanArray fuel (skipSpace s) := by
  rw [scanValue, if_neg (by decide), if_neg (by decide), if_pos rfl]

theorem scanValue_brace : scanValue (fuel + 1) (code '{' :: s) = scanObject fuel (skipSpace s) := by
  rw [scanValue, if_neg (by decide), if_pos rfl]

theorem skipSpace_bracket : skipSpace (code ']' :: s) = code ']' :: s := skipSpace_cons (by decide) s

theorem skipSpace_brace : skipSpace (code '}' :: s) = code '}' :: s := skipSpace_cons (by decide) s

theorem skipSpace_comma : skipSpace (code ',' :: s) = code ',' :: s := skipSpace_cons (by decide) s

theorem skipSpace_colon : skipSpace (code ':' :: s) = code ':' :: s := skipSpace_cons (by decide) s

theorem skipSpace_blank (h : skipSpace u = u) : skipSpace (code ' ' :: u) = u := by
  rw [skipSpace, List.dropWhile_cons, if_pos (by decide)]
  exact h

theorem scanElems_last (h : scanValue fuel t = some (d, code ']' :: s)) :
    scanElems (fuel + 1) t = some ([d], s) := by
  simp only [scanElems, h, skipSpace_bracket, if_true]

theorem scanElems_more (h : scanValue fuel t = some (d, code ',' :: code ' ' :: u)) (hu : skipSpace u = u) :
    scanElems (fuel + 1) t = (scanElems fuel u).map fun r => (d :: r.1, r.2) := by
  have hcomma : code ',' ≠ code ']' := by decide
  simp only [scanElems, h, skipSpace_comma, if_neg hcomma, if_true, skipSpace_blank hu]

theorem scanMembers_last (hk : Unpaired k) (hu : skipSpace u = u)
    (h : scanValue fuel u = some (d, code '}' :: s)) :
    scanMembers (fuel + 1) (dumpsString k ++ code ':' :: code ' ' :: u) = some ([(k, d)], s) := by
  obtain ⟨rest, heq, hscan⟩ := scanString_dumpsString hk (code ':' :: code ' ' :: u)
  simp only [heq, scanMembers, List.head?_cons, if_true, List.length_cons, List.tail_cons, hscan,
    skipSpace_colon, skipSpace_blank hu, h, skipSpace_brace]

theorem scanMembers_more (hk : Unpaired k) (hu : skipSpace u = u) (ht : skipSpace t = t)
    (h : scanValue fuel u = some (d, code ',' :: code ' ' :: t)) :
    scanMembers (fuel + 1) (dumpsString k ++ code ':' :: code ' ' :: u) =
      (scanMembers fuel t).map fun r => ((k, d) :: r.1, r.2) := by
  obtain ⟨rest, heq, hscan⟩ := scanString_dumpsString hk (code ':' :: code ' ' :: u)
  have hcomma : code ',' ≠ code '}' := by decide
  simp only [heq, scanMembers, List.head?_cons, if_true, List.length_cons, List.tail_cons, hscan,
    skipSpace_colon, skipSpace_blank hu, h, skipSpace_comma, if_neg hcomma, skipSpace_blank ht]

end Steps

theorem skipSpace_dumpsElems {e : Doc} {ds : List Doc} (h : Plain e) (s : Text) :
    skipSpace (dumpsElems (e :: ds) ++ s) = dumpsElems (e :: ds) ++ s := by
  obtain ⟨c, t, heq, hc⟩ := @dumpsElems_head e ds h
  rw [heq, List.cons_append, skipSpace_cons (starts_spec hc).1]

theorem skipSpace_dumpsMembers (m : Text × Doc) (ms : List (Text × Doc)) (s : Text) :
    skipSpace (dumpsMembers (m :: ms) ++ s) = dumpsMembers (m :: ms) ++ s := by
  obtain ⟨t, heq⟩ := dumpsMembers_head m ms
  rw [heq, List.cons_append, skipSpace_cons (by decide)]

mutual

/-- A value is read as it was written, whatever comes after it. -/
theorem scanValue_dumps : ∀ (d : Doc), Plain d → ∀ (fuel : ℕ) (s : Text), 2 * (dumps d).length ≤ fuel →
    scanValue fuel (dumps d ++ s) = some (d, s)
  | .null, _, fuel, s, hfuel => by
      have hlength : (dumps .null).length = 4 := rfl
      obtain ⟨fuel, rfl⟩ := Nat.exists_eq_add_of_le' (show 1 ≤ fuel by omega)
      exact scanValue_word "null" (by simp)
  | .bool true, _, fuel, s, hfuel => by
      have hlength : (dumps (.bool true)).length = 4 := rfl
      obtain ⟨fuel, rfl⟩ := Nat.exists_eq_add_of_le' (show 1 ≤ fuel by omega)
      exact scanValue_word "true" (by simp)
  | .bool false, _, fuel, s, hfuel => by
      have hlength : (dumps (.bool false)).length = 5 := rfl
      obtain ⟨fuel, rfl⟩ := Nat.exists_eq_add_of_le' (show 1 ≤ fuel by omega)
      exact scanValue_word "false" (by simp)
  | .num n, h, _, _, _ => h.elim
  | .special name, h, _, _, _ => h.elim
  | .str t, h, fuel, s, hfuel => by
      obtain ⟨rest, heq, hscan⟩ := scanString_dumpsString h s
      have hlength : (dumps (.str t)).length = (t.flatMap escapeChar).length + 2 := by
        simp [dumps, dumpsString]
      obtain ⟨fuel, rfl⟩ := Nat.exists_eq_add_of_le' (show 1 ≤ fuel by omega)
      rw [dumps, heq, scanValue, if_pos rfl, hscan]
      rfl
  | .list [], _, fuel, s, hfuel => by
      have hlength : (dumps (.list [])).length = 2 := rfl
      obtain ⟨fuel, rfl⟩ := Nat.exists_eq_add_of_le' (show 2 ≤ fuel by omega)
      have hbracket : dumps (.list []) ++ s = code '[' :: code ']' :: s := rfl
      rw [hbracket, scanValue_bracket, skipSpace_bracket, scanArray, List.head?_cons, if_pos rfl, List.tail_cons]
  | .list (d :: ds), h, fuel, s, hfuel => by
      have hlength : (dumps (.list (d :: ds))).length = (dumpsElems (d :: ds)).length + 2 := by simp [dumps]
      obtain ⟨fuel, rfl⟩ := Nat.exists_eq_add_of_le' (show 2 ≤ fuel by omega)
      have hbracket : dumps (.list (d :: ds)) ++ s = code '[' :: (dumpsElems (d :: ds) ++ code ']' :: s) := by
        simp [dumps]
      have hnext : (dumpsElems (d :: ds) ++ code ']' :: s).head? ≠ some (code ']') := by
        obtain ⟨c, t, heq, hc⟩ := @dumpsElems_head d ds h.1
        rw [heq, List.cons_append, List.head?_cons]
        exact fun hclose => (starts_spec hc).2.1 (Option.some.inj hclose)
      have helems := scanElems_dumps d ds h fuel s (by omega)
      rw [hbracket, scanValue_bracket, skipSpace_dumpsElems h.1, scanArray, if_neg hnext, helems]
      rfl
  | .dict [], _, fuel, s, hfuel => by
      have hlength : (dumps (.dict [])).length = 2 := rfl
      obtain ⟨fuel, rfl⟩ := Nat.exists_eq_add_of_le' (show 2 ≤ fuel by omega)
      have hbrace : dumps (.dict []) ++ s = code '{' :: code '}' :: s := rfl
      rw [hbrace, scanValue_brace, skipSpace_brace, scanObject, List.head?_cons, if_pos rfl, List.tail_cons]
  | .dict (m :: ms), h, fuel, s, hfuel => by
      have hlength : (dumps (.dict (m :: ms))).length = (dumpsMembers (m :: ms)).length + 2 := by simp [dumps]
      obtain ⟨fuel, rfl⟩ := Nat.exists_eq_add_of_le' (show 2 ≤ fuel by omega)
      have hbrace : dumps (.dict (m :: ms)) ++ s = code '{' :: (dumpsMembers (m :: ms) ++ code '}' :: s) := by
        simp [dumps]
      have hnext : (dumpsMembers (m :: ms) ++ code '}' :: s).head? ≠ some (code '}') := by
        obtain ⟨t, heq⟩ := dumpsMembers_head m ms
        rw [heq, List.cons_append, List.head?_cons]
        exact fun hclose => absurd (Option.some.inj hclose) (by decide)
      have hmembers := scanMembers_dumps m ms h.2 fuel s (by omega)
      rw [hbrace, scanValue_brace, skipSpace_dumpsMembers, scanObject, if_neg hnext, hmembers, Option.map_some,
        dictOf_of_nodup h.1]

theorem scanElems_dumps : ∀ (d : Doc) (ds : List Doc), PlainElems (d :: ds) → ∀ (fuel : ℕ) (s : Text),
    2 * (dumpsElems (d :: ds)).length < fuel →
      scanElems fuel (dumpsElems (d :: ds) ++ code ']' :: s) = some (d :: ds, s)
  | d, [], h, fuel, s, hfuel => by
      rw [dumpsElems] at hfuel ⊢
      obtain ⟨fuel, rfl⟩ := Nat.exists_eq_add_of_le' (show 1 ≤ fuel by omega)
      exact scanElems_last (scanValue_dumps d h.1 fuel _ (by omega))
  | d, e :: ds, h, fuel, s, hfuel => by
      have hlength : (dumpsElems (d :: e :: ds)).length = (dumps d).length + 2 + (dumpsElems (e :: ds)).length := by
        rw [dumpsElems, List.length_append, List.length_cons, List.length_cons]
        omega
      obtain ⟨fuel, rfl⟩ := Nat.exists_eq_add_of_le' (show 1 ≤ fuel by omega)
      have hvalue := scanValue_dumps d h.1 fuel (code ',' :: code ' ' :: (dumpsElems (e :: ds) ++ code ']' :: s))
        (by omega)
      have hrest := scanElems_dumps e ds h.2 fuel s (by omega)
      rw [dumpsElems, List.append_assoc, List.cons_append, List.cons_append,
        scanElems_more hvalue (skipSpace_dumpsElems h.2.1 _), hrest]
      rfl

theorem scanMembers_dumps : ∀ (m : Text × Doc) (ms : List (Text × Doc)), PlainMembers (m :: ms) →
    ∀ (fuel : ℕ) (s : Text), 2 * (dumpsMembers (m :: ms)).length < fuel →
      scanMembers fuel (dumpsMembers (m :: ms) ++ code '}' :: s) = some (m :: ms, s)
  | (k, d), [], h, fuel, s, hfuel => by
      have hlength : (dumpsMembers [(k, d)]).length = (dumpsString k).length + 2 + (dumps d).length := by
        rw [dumpsMembers, List.length_append, List.length_cons, List.length_cons]
        omega
      obtain ⟨fuel, rfl⟩ := Nat.exists_eq_add_of_le' (show 1 ≤ fuel by omega)
      have hvalue := scanValue_dumps d h.2.1 fuel (code '}' :: s) (by omega)
      rw [dumpsMembers, List.append_assoc, List.cons_append, List.cons_append]
      exact scanMembers_last h.1 (skipSpace_dumps h.2.1 _) hvalue
  | (k, d), n :: ms, h, fuel, s, hfuel => by
      have hlength : (dumpsMembers ((k, d) :: n :: ms)).length =
          (dumpsString k).length + 4 + (dumps d).length + (dumpsMembers (n :: ms)).length := by
        rw [dumpsMembers, List.length_append, List.length_cons, List.length_cons, List.length_append,
          List.length_cons, List.length_cons]
        omega
      obtain ⟨fuel, rfl⟩ := Nat.exists_eq_add_of_le' (show 1 ≤ fuel by omega)
      have hvalue := scanValue_dumps d h.2.1 fuel
        (code ',' :: code ' ' :: (dumpsMembers (n :: ms) ++ code '}' :: s)) (by omega)
      have hrest := scanMembers_dumps n ms h.2.2 fuel s (by omega)
      rw [dumpsMembers, List.append_assoc, List.cons_append, List.cons_append, List.append_assoc, List.cons_append,
        List.cons_append, scanMembers_more h.1 (skipSpace_dumps h.2.1 _) (skipSpace_dumpsMembers n ms _) hvalue,
        hrest]
      rfl

end

/-- A value without numbers and surrogate pairs is read as it was written. -/
theorem loads_dumps {d : Doc} (h : Plain d) : loads (dumps d) = some d := by
  obtain ⟨c, t, heq, hc⟩ := dumps_head h
  have hmark : (dumps d).head? ≠ some (code '\uFEFF') := by
    rw [heq, List.head?_cons]
    exact fun hmark => (starts_spec hc).2.2 (Option.some.inj hmark)
  have hspace := skipSpace_dumps h []
  have hvalue := scanValue_dumps d h (2 * (dumps d).length) [] le_rfl
  rw [List.append_nil] at hspace hvalue
  rw [loads, if_neg hmark, hspace, hvalue]
  rfl

end IdentityModel.JsonText
