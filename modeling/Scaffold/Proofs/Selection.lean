import Scaffold.Proofs.Admission
import Scaffold.Proofs.Files.Below

set_option autoImplicit false

/-!
# Selections by their members

Two lists with the same members make the same selection, in whatever order and however often they
name them. So do values that list them.
-/
namespace Scaffold

variable {xs ys : List String}

/-! ### Members in order -/

theorem insertMember_rising (x : String) (h : xs.Pairwise (· < ·)) :
    (insertMember x xs).Pairwise (· < ·) := by
  induction xs with
  | nil => exact List.pairwise_singleton _ x
  | cons y ys ih =>
    obtain ⟨hy, hys⟩ := List.pairwise_cons.1 h
    unfold insertMember
    by_cases heq : x = y
    · rw [if_pos heq]
      exact h
    · rw [if_neg heq]
      by_cases hlt : x < y
      · rw [if_pos hlt]
        refine List.pairwise_cons.2 ⟨fun z hz => ?_, h⟩
        rcases List.mem_cons.1 hz with rfl | hz
        · exact hlt
        · exact hlt.trans (hy z hz)
      · rw [if_neg hlt]
        have hyx : y < x := lt_of_le_of_ne (not_lt.1 hlt) (Ne.symm heq)
        refine List.pairwise_cons.2 ⟨fun z hz => ?_, ih hys⟩
        rcases (mem_insertMember z x ys).1 hz with rfl | hz
        · exact hyx
        · exact hy z hz

theorem membersOf_rising (xs : List String) : (membersOf xs).Pairwise (· < ·) := by
  induction xs with
  | nil => exact List.Pairwise.nil
  | cons x xs ih => exact insertMember_rising x ih

theorem membersOf_congr (h : ∀ x, x ∈ xs ↔ x ∈ ys) : membersOf xs = membersOf ys :=
  Files.eq_of_rising (membersOf_rising xs) (membersOf_rising ys) fun x => by
    rw [mem_membersOf, mem_membersOf, h x]

namespace Selection

theorem of_congr (framework : String) (h : ∀ x, x ∈ xs ↔ x ∈ ys) :
    of framework xs = of framework ys :=
  congrArg (Selection.mk framework) (membersOf_congr h)

/-! ### Values that list texts -/

theorem any_same_text (seen : List String) (t : String) :
    (seen.map Value.text).any (Value.same (.text t)) = true ↔ t ∈ seen := by
  have hsame : ∀ u, Value.same (.text t) (.text u) = (t == u) := fun u => rfl
  rw [List.any_map, List.any_eq_true]
  simp only [Function.comp_apply, hsame, beq_iff_eq, exists_eq_right']

theorem distinct_texts (texts : List String) :
    ∃ kept : List String, distinct (texts.map .text) = kept.map .text ∧ ∀ t, t ∈ kept ↔ t ∈ texts := by
  suffices h : ∀ seen : List String, ∃ kept : List String,
      (texts.map Value.text).foldl
          (fun seen v => if seen.any (Value.same v) then seen else v :: seen) (seen.map .text) =
        kept.map .text ∧ ∀ t, t ∈ kept ↔ t ∈ seen ∨ t ∈ texts by
    obtain ⟨kept, hkept, hmem⟩ := h []
    refine ⟨kept.reverse, ?_, fun t => ?_⟩
    · rw [distinct, List.map_reverse, ← hkept]
      rfl
    · simpa using hmem t
  induction texts with
  | nil => exact fun seen => ⟨seen, rfl, fun t => by simp⟩
  | cons u texts ih =>
    intro seen
    rw [List.map_cons, List.foldl_cons]
    by_cases hu : u ∈ seen
    · rw [if_pos ((any_same_text seen u).2 hu)]
      obtain ⟨kept, hkept, hmem⟩ := ih seen
      refine ⟨kept, hkept, fun t => (hmem t).trans ?_⟩
      have hin : t = u → t ∈ seen := fun h => h ▸ hu
      rw [List.mem_cons, ← or_assoc, or_iff_left_of_imp hin]
    · rw [if_neg (mt (any_same_text seen u).1 hu), ← List.map_cons]
      obtain ⟨kept, hkept, hmem⟩ := ih (u :: seen)
      refine ⟨kept, hkept, fun t => (hmem t).trans ?_⟩
      rw [List.mem_cons, List.mem_cons, or_assoc, or_left_comm]

theorem ofValues_texts {listing : Value} (framework : String)
    (h : listing.items? = some (xs.map .text)) :
    ofValues (.text framework) listing = .ok (of framework xs) := by
  obtain ⟨kept, hkept, hmem⟩ := distinct_texts xs
  have hkeys : (xs.map Value.text).all Value.isKey = true := by
    simp [Value.isKey]
  have hoptions : Validation.checkSequence .notSet Validation.checkText (.list (kept.map .text)) =
      .ok kept := Validation.checkItems_texts kept
  have hrecord : ofRecord [(.text "framework", .text framework),
      (.text "options", .list (kept.map .text))] = .ok (of framework kept) := by
    have hfield : Value.lookup? [(.text "framework", .text framework),
        (.text "options", .list (kept.map .text))] (.text "options") =
          some (.list (kept.map .text)) := rfl
    simp only [ofRecord, Validation.field, hfield, hoptions]
    rfl
  simp only [ofValues, h, hkeys, if_true, hkept, hrecord, of_congr framework hmem]

end Selection
end Scaffold
