import Mathlib.Data.List.Lex
import Scaffold.Proofs.Files.Tree

set_option autoImplicit false

/-!
# The places below a directory

In the order of the names that lead to them, which is depth first with siblings by name. The list
is that of one name after the other, each with what is below it.
-/
namespace Scaffold.Files

variable {fs fs' : Files} {S : Place}

/-- The names that lead from a directory to the places below it, in order. -/
def below (fs : Files) (S : Place) : List (List String) :=
  (fs.entries.filterMap fun x =>
    if S <+: x.1 ∧ x.1 ≠ S then some (x.1.drop S.length) else none).mergeSort (· ≤ ·)

theorem eq_of_rising_by {α β : Type} [Preorder β] (key : α → β) {xs ys : List α}
    (hxs : xs.Pairwise fun x y => key x < key y) (hys : ys.Pairwise fun x y => key x < key y)
    (h : ∀ x, x ∈ xs ↔ x ∈ ys) : xs = ys := by
  have nodup : ∀ {zs : List α}, (zs.Pairwise fun x y => key x < key y) → zs.Nodup := by
    intro zs hzs
    refine hzs.imp fun {a b} hab heq => ?_
    rw [heq] at hab
    exact lt_irrefl _ hab
  exact ((List.perm_ext_iff_of_nodup (nodup hxs) (nodup hys)).2 h).eq_of_pairwise
    (fun a b _ _ hab hba => absurd hab (lt_asymm hba)) hxs hys

theorem eq_of_rising {α : Type} [Preorder α] {xs ys : List α} (hxs : xs.Pairwise (· < ·))
    (hys : ys.Pairwise (· < ·)) (h : ∀ x, x ∈ xs ↔ x ∈ ys) : xs = ys :=
  eq_of_rising_by id hxs hys h

theorem mem_below {rel : List String} :
    rel ∈ fs.below S ↔ rel ≠ [] ∧ ∃ e, fs.get? (S ++ rel) = some e := by
  have hmem : rel ∈ fs.below S ↔ rel ≠ [] ∧ ∃ e, (S ++ rel, e) ∈ fs.entries := by
    simp only [below, List.mem_mergeSort, List.mem_filterMap]
    constructor
    · rintro ⟨⟨key, e⟩, hx, hsome⟩
      split at hsome
      · rename_i hkey
        obtain ⟨⟨rest, rfl⟩, hne⟩ := hkey
        obtain rfl : rest = rel := by simpa using hsome
        exact ⟨by simpa using hne, e, hx⟩
      · cases hsome
    · rintro ⟨hrel, e, hx⟩
      exact ⟨(S ++ rel, e), hx, by simp [hrel]⟩
  rw [hmem]
  exact and_congr_right fun hrel => (exists_get?_iff (by simp [hrel])).symm

private theorem below_nodup (h : fs.WellFormed) (S : Place) : (fs.below S).Nodup := by
  rw [below, (List.mergeSort_perm _ _).nodup_iff, List.Nodup, List.pairwise_filterMap]
  refine (List.pairwise_map.1 h.distinct).imp ?_
  intro x y hxy rel hrel rel' hrel' hsame
  apply hxy
  split at hrel
  · split at hrel'
    · rename_i hx hy
      obtain ⟨⟨rest, hx⟩, -⟩ := hx
      obtain ⟨⟨rest', hy⟩, -⟩ := hy
      have hrest : rest = rel := by simpa [← hx] using hrel
      have hrest' : rest' = rel' := by simpa [← hy] using hrel'
      rw [← hx, ← hy, hrest, hrest', hsame]
    · cases hrel'
  · cases hrel

theorem below_rising (h : fs.WellFormed) (S : Place) : (fs.below S).Pairwise (· < ·) :=
  rising_mergeSort (((List.mergeSort_perm _ _).nodup_iff).1 (below_nodup h S))

theorem below_congr (h : fs.WellFormed) (h' : fs'.WellFormed)
    (hsame : ∀ rel, rel ≠ [] → fs'.get? (S ++ rel) = fs.get? (S ++ rel)) :
    fs'.below S = fs.below S := by
  refine eq_of_rising (below_rising h' S) (below_rising h S) fun rel => ?_
  rw [mem_below, mem_below]
  exact and_congr_right fun hrel => by rw [hsame rel hrel]

theorem below_eq_flatMap (h : fs.WellFormed) (S : Place) :
    fs.below S = (fs.names S).flatMap fun n => [n] :: (fs.below (S ++ [n])).map (n :: ·) := by
  refine eq_of_rising (below_rising h S) ?_ fun rel => ?_
  · rw [List.pairwise_flatMap]
    constructor
    · intro n _
      rw [List.pairwise_cons, List.pairwise_map]
      constructor
      · intro rel hrel
        obtain ⟨tail, htail, rfl⟩ := List.mem_map.1 hrel
        obtain ⟨m, rest, rfl⟩ := List.exists_cons_of_ne_nil (mem_below.1 htail).1
        simp
      · exact (below_rising h (S ++ [n])).imp fun hab => by simpa using hab
    · refine (names_rising h S).imp fun {n m} hnm rel hrel rel' hrel' => ?_
      have first : ∀ {n : String} {rel : List String},
          rel ∈ [n] :: (fs.below (S ++ [n])).map (n :: ·) → ∃ rest, rel = n :: rest := by
        intro n rel hrel
        rcases List.mem_cons.1 hrel with rfl | hrel
        · exact ⟨[], rfl⟩
        · obtain ⟨tail, -, rfl⟩ := List.mem_map.1 hrel
          exact ⟨tail, rfl⟩
      obtain ⟨rest, rfl⟩ := first hrel
      obtain ⟨rest', rfl⟩ := first hrel'
      exact List.cons_lt_cons_iff.2 (.inl hnm)
  · rw [mem_below, List.mem_flatMap]
    constructor
    · rintro ⟨hrel, e, he⟩
      obtain ⟨n, rest, rfl⟩ := List.exists_cons_of_ne_nil hrel
      rw [← List.singleton_append, ← List.append_assoc] at he
      refine ⟨n, ?_, ?_⟩
      · rw [mem_names]
        by_cases hrest : rest = []
        · exact ⟨e, by simpa [hrest] using he⟩
        · exact ⟨_, h.above he hrest⟩
      · by_cases hrest : rest = []
        · simp [hrest]
        · exact List.mem_cons_of_mem _ (List.mem_map_of_mem (mem_below.2 ⟨hrest, e, he⟩))
    · rintro ⟨n, hn, hrel⟩
      rcases List.mem_cons.1 hrel with rfl | hrel
      · exact ⟨by simp, (mem_names fs S n).1 hn⟩
      · obtain ⟨tail, htail, rfl⟩ := List.mem_map.1 hrel
        obtain ⟨-, e, he⟩ := mem_below.1 htail
        exact ⟨by simp, e, by simpa using he⟩

end Scaffold.Files
