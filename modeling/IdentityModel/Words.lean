import Mathlib.Data.List.Basic
import Mathlib.Tactic

/-!
# Words of a text

The maximal runs of characters that are not separators. Two sets of separators
give a text the same words when they tell its characters apart in the same way;
a character that only one of them separates at shows up in a word of the other.
-/
namespace IdentityModel.Words

/-- The nonempty pieces between separators. -/
def words (sep : Char → Bool) (s : String) : List String :=
  ((s.toList.splitOnP sep).filter fun w => w ≠ []).map String.ofList

variable {sep sep' : Char → Bool} {cs w : List Char} {c : Char} {s : String}

theorem splitOnP_cons_of_not (h : sep c = false) (cs : List Char) :
    ∃ w ws, cs.splitOnP sep = w :: ws ∧ (c :: cs).splitOnP sep = (c :: w) :: ws := by
  obtain ⟨w, ws, hcs⟩ := List.exists_cons_of_ne_nil (List.splitOnP_ne_nil sep cs)
  refine ⟨w, ws, hcs, ?_⟩
  rw [List.splitOnP_cons_eq_if_modifyHead, hcs]
  simp [h]

theorem splitOnP_cons_of_sep (h : sep c = true) (cs : List Char) :
    (c :: cs).splitOnP sep = [] :: cs.splitOnP sep := by
  rw [List.splitOnP_cons_eq_if_modifyHead, if_pos h]

theorem splitOnP_congr (h : ∀ c ∈ cs, sep c = sep' c) : cs.splitOnP sep = cs.splitOnP sep' := by
  induction cs with
  | nil => simp
  | cons c cs ih =>
      have hc := h c (by simp)
      have hrest := ih fun d hd => h d (List.mem_cons_of_mem _ hd)
      rw [List.splitOnP_cons_eq_if_modifyHead, List.splitOnP_cons_eq_if_modifyHead, hc, hrest]

/-- No piece holds a separator. -/
theorem not_sep_of_mem_piece (hw : w ∈ cs.splitOnP sep) (hc : c ∈ w) : sep c = false := by
  induction cs generalizing w with
  | nil =>
      obtain rfl : w = [] := by simpa using hw
      cases hc
  | cons d cs ih =>
      cases hd : sep d with
      | true =>
          rw [splitOnP_cons_of_sep hd] at hw
          obtain rfl | hw := List.mem_cons.mp hw
          · cases hc
          · exact ih hw hc
      | false =>
          obtain ⟨v, vs, hcs, hsplit⟩ := splitOnP_cons_of_not hd cs
          rw [hsplit] at hw
          obtain rfl | hw := List.mem_cons.mp hw
          · obtain rfl | hc := List.mem_cons.mp hc
            · exact hd
            · exact ih (by simp [hcs]) hc
          · exact ih (by simp [hcs, hw]) hc

/-- Every other character is in some piece. -/
theorem exists_piece (hc : c ∈ cs) (hsep : sep c = false) : ∃ w ∈ cs.splitOnP sep, c ∈ w := by
  induction cs with
  | nil => cases hc
  | cons d cs ih =>
      cases hd : sep d with
      | true =>
          obtain rfl | hc := List.mem_cons.mp hc
          · rw [hd] at hsep
            cases hsep
          · obtain ⟨w, hw, hcw⟩ := ih hc
            exact ⟨w, by simp [splitOnP_cons_of_sep hd, hw], hcw⟩
      | false =>
          obtain ⟨v, vs, hcs, hsplit⟩ := splitOnP_cons_of_not hd cs
          rw [hsplit]
          obtain rfl | hc := List.mem_cons.mp hc
          · exact ⟨c :: v, by simp, by simp⟩
          · obtain ⟨w, hw, hcw⟩ := ih hc
            rw [hcs] at hw
            obtain rfl | hw := List.mem_cons.mp hw
            · exact ⟨d :: w, by simp, by simp [hcw]⟩
            · exact ⟨w, by simp [hw], hcw⟩

theorem words_congr (h : ∀ c ∈ s.toList, sep c = sep' c) : words sep s = words sep' s := by
  unfold words
  rw [splitOnP_congr h]

theorem mem_words {v : String} :
    v ∈ words sep s ↔ v.toList ∈ s.toList.splitOnP sep ∧ v.toList ≠ [] := by
  simp only [words, List.mem_map, List.mem_filter, decide_eq_true_eq]
  constructor
  · rintro ⟨w, hw, rfl⟩
    simpa using hw
  · intro hv
    exact ⟨v.toList, hv, by simp⟩

/-- A character of the text that `sep` keeps and `sep'` separates at is in a word
of the one and in none of the other. -/
theorem exists_word_of_not_sep (hc : c ∈ s.toList) (hkeep : sep c = false) (hsep : sep' c = true) :
    ∃ v ∈ words sep s, v ∉ words sep' s := by
  obtain ⟨w, hw, hcw⟩ := exists_piece hc hkeep
  refine ⟨String.ofList w, mem_words.mpr ?_, ?_⟩
  · simp only [String.toList_ofList]
    exact ⟨hw, List.ne_nil_of_mem hcw⟩
  · intro hv
    have hpiece := (mem_words.mp hv).1
    rw [String.toList_ofList] at hpiece
    rw [not_sep_of_mem_piece hpiece hcw] at hsep
    cases hsep

end IdentityModel.Words
