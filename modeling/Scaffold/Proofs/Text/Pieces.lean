import Mathlib.Data.List.Induction

set_option autoImplicit false

/-!
# Pieces of texts

Which characters the pieces between separators have, and which a text put together from pieces.
-/
namespace Scaffold.Text

variable {c d : Char} {sep cs piece : List Char} {pieces : List (List Char)}

theorem mem_intercalate (sep : List Char) (hpiece : piece ∈ pieces) (hc : c ∈ piece) :
    c ∈ sep.intercalate pieces := by
  induction pieces with
  | nil => simp at hpiece
  | cons first others ih =>
    by_cases hnil : others = []
    · subst hnil
      simp only [List.mem_singleton] at hpiece
      subst hpiece
      simpa using hc
    · rw [List.intercalate_cons_of_ne_nil hnil]
      rcases List.mem_cons.1 hpiece with rfl | hpiece
      · simp [hc]
      · exact List.mem_append_right _ (ih hpiece)

theorem of_mem_intercalate (h : c ∈ sep.intercalate pieces) :
    c ∈ sep ∨ ∃ piece ∈ pieces, c ∈ piece := by
  induction pieces with
  | nil => simp at h
  | cons first others ih =>
    by_cases hnil : others = []
    · subst hnil
      exact .inr ⟨first, by simp, by simpa using h⟩
    · rw [List.intercalate_cons_of_ne_nil hnil] at h
      rcases List.mem_append.1 h with h | h
      · rcases List.mem_append.1 h with h | h
        · exact .inr ⟨first, by simp, h⟩
        · exact .inl h
      · rcases ih h with h | ⟨piece, hpiece, hc⟩
        · exact .inl h
        · exact .inr ⟨piece, List.mem_cons_of_mem _ hpiece, hc⟩

theorem not_mem_of_mem_splitOn (h : piece ∈ cs.splitOn c) : c ∉ piece := by
  induction cs generalizing piece with
  | nil =>
    simp only [List.splitOn_nil, List.mem_singleton] at h
    simp [h]
  | cons d cs ih =>
    rw [List.splitOn_cons_eq_if_modifyHead] at h
    by_cases hd : d = c
    · subst hd
      rw [if_pos (by simp), List.mem_cons] at h
      rcases h with rfl | h
      · simp
      · exact ih h
    · have hne : (d == c) = false := beq_eq_false_iff_ne.2 hd
      rw [hne, if_neg (by simp)] at h
      cases hs : cs.splitOn c with
      | nil => exact absurd hs (List.splitOn_ne_nil _ _)
      | cons first others =>
        rw [hs, List.modifyHead_cons, List.mem_cons] at h
        rcases h with rfl | h
        · rw [List.mem_cons, not_or]
          exact ⟨fun h => hd h.symm, ih (by simp [hs])⟩
        · exact ih (by simp [hs, h])

theorem mem_of_mem_splitOn (h : piece ∈ cs.splitOn c) (hd : d ∈ piece) : d ∈ cs := by
  have hmem := mem_intercalate [c] h hd
  rwa [List.intercalate_splitOn] at hmem

theorem head_mem_splitOn (hd : d ≠ c) (cs : List Char) :
    ∃ rest others, (d :: cs).splitOn c = (d :: rest) :: others := by
  have hne : (d == c) = false := beq_eq_false_iff_ne.2 hd
  rw [List.splitOn_cons_eq_if_modifyHead, hne, if_neg (by simp)]
  cases hs : cs.splitOn c with
  | nil => exact absurd hs (List.splitOn_ne_nil _ _)
  | cons first others => exact ⟨first, others, rfl⟩

theorem takeWhile_ne {after : List Char} (h : c ∉ after) (front : List Char) :
    (after ++ c :: front).takeWhile (· ≠ c) = after := by
  have hall : ∀ d ∈ after, decide (d ≠ c) = true := by
    intro d hd
    rw [decide_eq_true_eq]
    rintro rfl
    exact h hd
  rw [List.takeWhile_append_of_pos hall]
  simp

theorem exists_last (h : c ∈ cs) : ∃ before after, cs = before ++ c :: after ∧ c ∉ after := by
  obtain ⟨after, before, hsplit, hafter⟩ := List.eq_append_cons_of_mem (List.mem_reverse.2 h)
  refine ⟨before.reverse, after.reverse, ?_, by simpa using hafter⟩
  simpa using congrArg List.reverse hsplit

end Scaffold.Text
