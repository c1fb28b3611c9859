import IdentityModel.Url
import Mathlib.Tactic

/-!
# The parts of a URL

A URL with a scheme and an authority, put together and taken apart: what `urlparse` finds in it is
what its text shows, and any other text of that shape is parsed alike.
-/
namespace IdentityModel.Url

section Cutting

variable {c : Char} {s t : List Char}

attribute [local simp] splitAll partition afterLast

theorem splitAll_ne_nil (c : Char) (s : List Char) : splitAll c s ≠ [] := by
  cases s with
  | nil => exact List.cons_ne_nil _ _
  | cons x s =>
      rw [splitAll]
      split
      · exact List.cons_ne_nil _ _
      · split <;> exact List.cons_ne_nil _ _

theorem splitAll_append (c : Char) (s t : List Char) :
    splitAll c (s ++ c :: t) = splitAll c s ++ splitAll c t := by
  induction s with
  | nil =>
      rw [List.nil_append, splitAll]
      cases hsplit : splitAll c t with
      | nil => exact absurd hsplit (splitAll_ne_nil c t)
      | cons p ps => simp [splitAll, hsplit]
  | cons x s ih =>
      rw [List.cons_append, splitAll, ih, splitAll]
      cases hsplit : splitAll c s with
      | nil => exact absurd hsplit (splitAll_ne_nil c s)
      | cons p ps =>
          by_cases hx : x = c
          · simp [hx]
          · simp [hx]

theorem splitAll_of_not_mem (h : c ∉ s) : splitAll c s = [s] := by
  induction s with
  | nil => rfl
  | cons x s ih =>
      have hx : x ≠ c := fun hx => h (by simp [hx])
      rw [splitAll, ih fun hs => h (List.mem_cons_of_mem _ hs)]
      simp [hx]

/-- A text is what stands before the character, and the rest behind it if it occurs. -/
theorem partition_cases (c : Char) (s : List Char) :
    c ∉ (partition c s).1 ∧
      s = (partition c s).1 ++ (match (partition c s).2 with
        | none => []
        | some rest => c :: rest) := by
  induction s with
  | nil => simp [partition]
  | cons x s ih =>
      rw [partition]
      split
      · next hx => exact ⟨by simp, by simp [hx]⟩
      · next hx =>
          have hne : c ≠ x := fun hc => hx hc.symm
          exact ⟨by simp [hne, ih.1], congrArg (x :: ·) ih.2⟩

theorem partition_spec (c : Char) (s : List Char) :
    c ∉ (partition c s).1 ∧
      ∃ tail, s = (partition c s).1 ++ tail ∧ ∀ x ∈ tail.head?, x = c := by
  obtain ⟨hnot, htext⟩ := partition_cases c s
  refine ⟨hnot, _, htext, fun x hx => ?_⟩
  split at hx
  · cases hx
  · exact (Option.some.inj hx).symm

theorem partition_append_of_not_mem (h : c ∉ s) (t : List Char) :
    partition c (s ++ t) = (s ++ (partition c t).1, (partition c t).2) := by
  induction s with
  | nil => rfl
  | cons x s ih =>
      have hx : x ≠ c := fun hx => h (by simp [hx])
      rw [List.cons_append, partition, if_neg hx, ih fun hs => h (List.mem_cons_of_mem _ hs)]
      rfl

theorem partition_of_not_mem (h : c ∉ s) (rest : List Char) :
    partition c (s ++ c :: rest) = (s, some rest) := by
  rw [partition_append_of_not_mem h, partition, if_pos rfl, List.append_nil]

theorem partition_whole (h : c ∉ s) : partition c s = (s, none) := by
  have hall := partition_append_of_not_mem h []
  rwa [List.append_nil, partition, List.append_nil] at hall

theorem partition_append_of_some {rest : List Char} (h : (partition c s).2 = some rest)
    (t : List Char) : partition c (s ++ t) = ((partition c s).1, some (rest ++ t)) := by
  obtain ⟨hnot, htext⟩ := partition_cases c s
  rw [h] at htext
  conv_lhs => rw [htext, List.append_assoc, List.cons_append]
  exact partition_of_not_mem hnot (rest ++ t)

theorem partition_eq_takeWhile (c : Char) (s : List Char) :
    (partition c s).1 = s.takeWhile fun x => x ≠ c := by
  induction s with
  | nil => rfl
  | cons x s ih =>
      rw [partition]
      by_cases hx : x = c
      · simp [hx]
      · simp [hx, ih]

/-- Where a text stops. -/
theorem takeWhile_stop {p : Char → Bool} {l t : List Char} (hl : ∀ c ∈ l, p c = true)
    (ht : ∀ c ∈ t.head?, p c = false) :
    (l ++ t).takeWhile p = l ∧ (l ++ t).dropWhile p = t := by
  rw [List.takeWhile_append_of_pos hl, List.dropWhile_append_of_pos hl]
  cases t with
  | nil => simp
  | cons c t => simp [ht c rfl]

theorem afterLast_of_not_mem (h : c ∉ s) : afterLast c s = s := by
  cases s with
  | nil => rfl
  | cons x s =>
      have hx : x ≠ c := fun hx => h (by simp [hx])
      rw [afterLast, if_neg fun hs => h (List.mem_cons_of_mem _ hs), if_neg hx]

theorem afterLast_append (s : List Char) (h : c ∉ t) : afterLast c (s ++ c :: t) = t := by
  induction s with
  | nil => rw [List.nil_append, afterLast, if_neg h, if_pos rfl]
  | cons x s ih =>
      have hmem : c ∈ s ++ c :: t := by simp
      rw [List.cons_append, afterLast, if_pos hmem, ih]

/-- A text before the part behind the last character of a kind. -/
theorem afterLast_spec (c : Char) (s : List Char) :
    c ∉ afterLast c s ∧ (s = afterLast c s ∨ ∃ init, s = init ++ c :: afterLast c s) := by
  induction s with
  | nil => exact ⟨List.not_mem_nil, .inl rfl⟩
  | cons x s ih =>
      rw [afterLast]
      split
      · rename_i hmem
        obtain ⟨hnot, hwhole | ⟨init, hinit⟩⟩ := ih
        · rw [← hwhole] at hnot
          exact absurd hmem hnot
        · exact ⟨hnot, .inr ⟨x :: init, by rw [List.cons_append, ← hinit]⟩⟩
      · rename_i hmem
        split
        · rename_i hx
          exact ⟨hmem, .inr ⟨[], by rw [hx, List.nil_append]⟩⟩
        · rename_i hx
          exact ⟨by simp [Ne.symm hx, hmem], .inl rfl⟩

end Cutting

/-- A character `urlparse` takes out. -/
def isDropped (c : Char) : Bool := c = '\t' || c = '\r' || c = '\n'

/-- The text `urlparse` reads. -/
def clean (s : List Char) : List Char :=
  (s.dropWhile fun c => c.toNat ≤ 32).filter fun c => !isDropped c

/-- The text before `://`. -/
structure IsScheme (s : List Char) : Prop where
  head : s.head?.any isAsciiAlpha = true
  chars : s.all isSchemeChar = true

/-- An authority that `urlparse` takes. -/
structure IsAuthority (p : Platform) (n : List Char) : Prop where
  chars : ∀ c ∈ n, c ≠ '/' ∧ c ≠ '?' ∧ c ≠ '#'
  brackets : checkBrackets n = none
  normal : checkNetloc p n = none

/-- A text an authority ends before. -/
def Stops (rest : List Char) : Prop := ∀ c ∈ rest.head?, c = '/' ∨ c = '?' ∨ c = '#'

theorem stops_cons {c : Char} (h : c = '/' ∨ c = '?' ∨ c = '#') (rest : List Char) :
    Stops (c :: rest) := by
  intro x hx
  rwa [← Option.some.inj hx]

theorem Stops.append {s t : List Char} (hs : Stops s) (ht : s = [] → Stops t) : Stops (s ++ t) := by
  intro c hc
  cases s with
  | nil => exact ht rfl c hc
  | cons x s => exact hs c hc

/-- What follows the authority, in its parts. -/
def splitRest (scheme netloc rest : List Char) : Split :=
  let f := partition '#' rest
  let q := partition '?' f.1
  ⟨scheme, netloc, q.1, q.2.getD [], f.2.getD []⟩

section Parts

variable {p : Platform} {url : String} {scheme netloc rest : List Char} {parsed : Split}

theorem IsScheme.colon (h : IsScheme scheme) : ':' ∉ scheme := by
  intro hmem
  have := List.all_eq_true.mp h.chars _ hmem
  revert this
  decide

theorem IsScheme.ne_nil (h : IsScheme scheme) : scheme ≠ [] := by
  rintro rfl
  cases h.head

theorem splitNetloc_of_parts (hnetloc : ∀ c ∈ netloc, c ≠ '/' ∧ c ≠ '?' ∧ c ≠ '#')
    (hrest : Stops rest) :
    splitNetloc ('/' :: '/' :: (netloc ++ rest)) = (netloc, rest) := by
  have hstop := takeWhile_stop (p := fun c => c ≠ '/' && c ≠ '?' && c ≠ '#') (l := netloc)
    (t := rest) (fun c hc => by simpa [and_assoc] using hnetloc c hc) fun c hc => by
      obtain rfl | rfl | rfl := hrest c hc <;> rfl
  rw [splitNetloc, List.span_eq_takeWhile_dropWhile, hstop.1, hstop.2]

theorem splitNetloc_spec (url : List Char) (h : (splitNetloc url).1 ≠ []) :
    url = '/' :: '/' :: ((splitNetloc url).1 ++ (splitNetloc url).2) ∧
      (∀ c ∈ (splitNetloc url).1, c ≠ '/' ∧ c ≠ '?' ∧ c ≠ '#') ∧ Stops (splitNetloc url).2 := by
  unfold splitNetloc at h ⊢
  split at h
  · rename_i rest
    rw [List.span_eq_takeWhile_dropWhile]
    refine ⟨by rw [List.takeWhile_append_dropWhile], fun c hc => ?_, fun c hc => ?_⟩
    · have := List.all_eq_true.mp List.all_takeWhile c hc
      simpa [and_assoc] using this
    · have hstop := List.head?_dropWhile_not (fun c => c ≠ '/' && c ≠ '?' && c ≠ '#') rest
      rw [Option.mem_def.mp hc] at hstop
      simp only [Bool.and_eq_false_iff, decide_eq_false_iff_not, not_not] at hstop
      tauto
  · exact absurd rfl h

theorem splitScheme_spec (url : List Char) (h : (splitScheme url).1 ≠ []) :
    ∃ scheme, IsScheme scheme ∧ url = scheme ++ ':' :: (splitScheme url).2 ∧
      (splitScheme url).1 = scheme.map asciiLower := by
  obtain ⟨-, htext⟩ := partition_cases ':' url
  unfold splitScheme at h ⊢
  split at h
  · rename_i scheme rest hpartition
    rw [hpartition] at htext
    split at h
    · rename_i hscheme
      rw [if_pos hscheme]
      rw [Bool.and_eq_true] at hscheme
      refine ⟨scheme, ⟨?_, hscheme.2⟩, htext, rfl⟩
      cases scheme with
      | nil => exact absurd rfl h
      | cons c scheme =>
          rw [htext] at hscheme
          exact hscheme.1
    · exact absurd rfl h
  · exact absurd rfl h

/-- `urlparse` over the text it reads. -/
theorem urlparse_clean : urlparse p url =
    let s := splitScheme (clean url.toList)
    let n := splitNetloc s.2
    match checkBrackets n.1 with
    | some e => .error e
    | none =>
        match checkNetloc p n.1 with
        | some e => .error e
        | none => .ok (splitRest s.1 n.1 n.2) := by
  have hcleaned : ((url.toList.dropWhile fun c => decide (c.toNat ≤ 32)).filter fun c =>
      decide (c ≠ '\t') && decide (c ≠ '\r') && decide (c ≠ '\n')) = clean url.toList := by
    rw [clean]
    congr 1
    funext c
    simp [isDropped, Bool.not_or]
  rw [urlparse, hcleaned]
  rfl

/-- What a URL with a scheme and an authority looks like. -/
theorem exists_parts (h : urlparse p url = .ok parsed) (hscheme : parsed.scheme ≠ [])
    (hnetloc : parsed.netloc ≠ []) :
    ∃ scheme rest, clean url.toList = scheme ++ ':' :: '/' :: '/' :: (parsed.netloc ++ rest) ∧
      IsScheme scheme ∧ IsAuthority p parsed.netloc ∧ Stops rest ∧
      parsed = splitRest (scheme.map asciiLower) parsed.netloc rest := by
  rw [urlparse_clean] at h
  dsimp only at h
  split at h
  · cases h
  · rename_i hbrackets
    split at h
    · cases h
    · rename_i hnormal
      obtain rfl := Except.ok.inj h
      obtain ⟨scheme, hisScheme, htext, hlower⟩ := splitScheme_spec _ hscheme
      obtain ⟨hrest, hchars, hstops⟩ := splitNetloc_spec _ hnetloc
      refine ⟨scheme, _, ?_, hisScheme, ⟨hchars, hbrackets, hnormal⟩, hstops, ?_⟩
      · rw [hrest] at htext
        exact htext
      · rw [← hlower]
        rfl

/-- A text of that shape is parsed into its parts. -/
theorem urlparse_of_parts (hclean : clean url.toList = scheme ++ ':' :: '/' :: '/' :: (netloc ++ rest))
    (hscheme : IsScheme scheme) (hnetloc : IsAuthority p netloc) (hrest : Stops rest) :
    urlparse p url = .ok (splitRest (scheme.map asciiLower) netloc rest) := by
  have hhead : ((scheme ++ ':' :: '/' :: '/' :: (netloc ++ rest)).head?.any isAsciiAlpha &&
      scheme.all isSchemeChar) = true := by
    rw [Bool.and_eq_true]
    refine ⟨?_, hscheme.chars⟩
    cases scheme with
    | nil => exact absurd rfl hscheme.ne_nil
    | cons c scheme => exact hscheme.head
  have hsplit : splitScheme (scheme ++ ':' :: '/' :: '/' :: (netloc ++ rest)) =
      (scheme.map asciiLower, '/' :: '/' :: (netloc ++ rest)) := by
    rw [splitScheme, partition_of_not_mem hscheme.colon]
    simp only [hhead, if_true]
  rw [urlparse_clean]
  simp only [hclean, hsplit, splitNetloc_of_parts hnetloc.chars hrest, hnetloc.brackets,
    hnetloc.normal]

theorem mem_of_mem_splitScheme {c : Char} {s : List Char} (h : c ∈ (splitScheme s).2) : c ∈ s := by
  obtain ⟨-, htext⟩ := partition_cases ':' s
  unfold splitScheme at h
  split at h
  · rename_i before rest hpartition
    split at h
    · rw [htext, hpartition]
      exact List.mem_append_right before (List.mem_cons_of_mem ':' h)
    · exact h
  · exact h

theorem mem_of_mem_splitNetloc {c : Char} {s : List Char} (h : c ∈ (splitNetloc s).2) : c ∈ s := by
  unfold splitNetloc at h
  split at h
  · rename_i rest
    rw [List.span_eq_takeWhile_dropWhile] at h
    exact List.mem_cons_of_mem _ (List.mem_cons_of_mem _ (List.dropWhile_subset _ h))
  · exact h

/-- Without a question mark there is no query. -/
theorem query_of_no_mark (h : urlparse p url = .ok parsed) (hmark : '?' ∉ clean url.toList) :
    parsed.query = [] := by
  rw [urlparse_clean] at h
  dsimp only at h
  split at h
  · cases h
  · split at h
    · cases h
    · obtain rfl := Except.ok.inj h
      have hrest : '?' ∉ (partition '#' (splitNetloc (splitScheme (clean url.toList)).2).2).1 := by
        intro hmem
        rw [partition_eq_takeWhile] at hmem
        exact hmark (mem_of_mem_splitScheme (mem_of_mem_splitNetloc
          ((List.takeWhile_subset _) hmem)))
      rw [splitRest, partition_whole hrest]
      rfl

/-- The text before a path and a query: with any path and query behind it, it is parsed into the
same scheme and authority. -/
structure Front (p : Platform) (parsed : Split) (front : List Char) : Prop where
  hash : '#' ∉ front
  mark : '?' ∉ front
  parse : ∀ (text : String) (rest : List Char), clean text.toList = front ++ rest → Stops rest →
    urlparse p text = .ok (splitRest parsed.scheme parsed.netloc rest)

theorem exists_front (h : urlparse p url = .ok parsed) (hscheme : parsed.scheme ≠ [])
    (hnetloc : parsed.netloc ≠ []) :
    ∃ front rest, Front p parsed front ∧ clean url.toList = front ++ rest ∧ Stops rest ∧
      parsed = splitRest parsed.scheme parsed.netloc rest := by
  obtain ⟨scheme, rest, htext, hisScheme, hisAuthority, hstops, hparsed⟩ :=
    exists_parts h hscheme hnetloc
  have hlower : scheme.map asciiLower = parsed.scheme := by
    rw [hparsed]
    rfl
  have hnot (c : Char) (hc : isSchemeChar c = false) (hslash : c ≠ ':' ∧ c ≠ '/')
      (hn : c ∉ parsed.netloc) : c ∉ scheme ++ ':' :: '/' :: '/' :: parsed.netloc := by
    intro hmem
    simp only [List.mem_append, List.mem_cons, hslash.1, hslash.2, hn, or_false] at hmem
    rw [List.all_eq_true.mp hisScheme.chars c hmem] at hc
    cases hc
  refine ⟨scheme ++ ':' :: '/' :: '/' :: parsed.netloc, rest, ⟨?_, ?_, ?_⟩, ?_, hstops, ?_⟩
  · exact hnot '#' (by decide) (by decide) fun hc => (hisAuthority.chars _ hc).2.2 rfl
  · exact hnot '?' (by decide) (by decide) fun hc => (hisAuthority.chars _ hc).2.1 rfl
  · intro text rest' htext' hstops'
    rw [← hlower]
    apply urlparse_of_parts _ hisScheme hisAuthority hstops'
    rw [htext', List.append_assoc]
    rfl
  · rw [htext, List.append_assoc]
    rfl
  · rw [← hlower]
    exact hparsed

end Parts

section Clean

variable {s t : List Char}

theorem clean_append (s : List Char) (hhead : ∀ c ∈ t.head?, 32 < c.toNat)
    (ht : ∀ c ∈ t, isDropped c = false) : clean (s ++ t) = clean s ++ t := by
  have hkept : t.filter (fun c => !isDropped c) = t :=
    List.filter_eq_self.mpr fun c hc => by rw [ht c hc]; rfl
  have hlow : (t.dropWhile fun c => decide (c.toNat ≤ 32)) = t := by
    cases t with
    | nil => rfl
    | cons c t =>
        have hc : ¬ c.toNat ≤ 32 := by
          have := hhead c rfl
          omega
        rw [List.dropWhile_cons, decide_eq_false hc, if_neg Bool.false_ne_true]
  rw [clean, clean, List.dropWhile_append]
  split
  · rename_i hempty
    rw [List.isEmpty_iff.mp hempty, hlow, hkept, List.filter_nil, List.nil_append]
  · rw [List.filter_append, hkept]

/-- Cutting at a hash and cleaning commute. -/
theorem clean_takeWhile (s : List Char) :
    clean (s.takeWhile fun c => c ≠ '#') = (clean s).takeWhile fun c => c ≠ '#' := by
  have hfilter (l : List Char) : (l.takeWhile fun c => c ≠ '#').filter (fun c => !isDropped c) =
      (l.filter fun c => !isDropped c).takeWhile fun c => c ≠ '#' := by
    induction l with
    | nil => rfl
    | cons c l ih =>
        by_cases hhash : c = '#'
        · have hkept : isDropped '#' = false := by decide
          simp [hhash, hkept]
        · cases hdropped : isDropped c <;> simp_all
  rw [clean, clean, ← hfilter]
  congr 1
  induction s with
  | nil => rfl
  | cons c s ih =>
      by_cases hhash : c = '#'
      · simp [hhash]
      · by_cases hlow : c.toNat ≤ 32 <;> simp_all

/-- A text without anything to drop is read as it stands. -/
theorem clean_eq_self (hhead : ∀ c ∈ t.head?, 32 < c.toNat) (ht : ∀ c ∈ t, isDropped c = false) :
    clean t = t := clean_append [] hhead ht

theorem isDropped_of_mem_clean {c : Char} (h : c ∈ clean s) : isDropped c = false := by
  have := (List.mem_filter.mp h).2
  simpa using this

end Clean

end IdentityModel.Url
