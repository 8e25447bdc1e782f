import Scaffold.EntryName
import Scaffold.Path
import Scaffold.Proofs.Text.Pieces

set_option autoImplicit false

/-!
# Clean names are names

Whatever the vocabulary, what is left of an entry's name once conditions and marker are gone is
again the name of an entry: a part of it that is no dot always stays.
-/
namespace Scaffold

variable {v : Vocabulary} {n : String}

theorem Path.isPlain_of_mem {c : Char} (hc : c ∈ n.toList) (hdot : c ≠ '.')
    (hslash : '/' ∉ n.toList) : Path.IsPlain n := by
  refine ⟨?_, hslash, ?_, ?_⟩
  · rintro rfl
    simp at hc
  · rintro rfl
    simp at hc
    exact hdot hc
  · rintro rfl
    simp at hc
    exact hdot hc

theorem dropWhile_dots (cs : List Char) :
    cs.dropWhile (· = '.') = [] ∨ ∃ c rest, c ≠ '.' ∧ cs.dropWhile (· = '.') = c :: rest := by
  cases hbody : cs.dropWhile (· = '.') with
  | nil => exact .inl rfl
  | cons c rest =>
    have hfirst := List.head_dropWhile_not (p := fun c : Char => decide (c = '.')) (l := cs)
      (by simp [hbody])
    simp only [hbody, List.head_cons, decide_eq_false_iff_not] at hfirst
    exact .inr ⟨c, rest, hfirst, rfl⟩

namespace NameParts

/-- The parts of a name: all of it in the stem, or a stem that goes on after its leading dots, and
pieces of the name behind it. -/
theorem ofName_cases (v : Vocabulary) (n : String) :
    ofName v n = ⟨n, [], "", false⟩ ∨
    ∃ c, c ≠ '.' ∧ c ∈ (ofName v n).stem.toList ∧
      (∀ d ∈ (ofName v n).stem.toList, d ∈ n.toList) ∧
      (∀ segment ∈ (ofName v n).segments, ∀ d ∈ segment.toList, d ∈ n.toList) ∧
      ∀ d ∈ (ofName v n).extension.toList, d ∈ n.toList := by
  have hbody : ∀ d ∈ n.toList.dropWhile (· = '.'), d ∈ n.toList :=
    fun d hd => (List.dropWhile_suffix _).mem hd
  rcases dropWhile_dots n.toList with hnil | ⟨c, rest, hc, hcons⟩
  · left
    simp [ofName, hnil]
  · obtain ⟨more, others, hpieces⟩ := Text.head_mem_splitOn hc rest
    rw [← hcons] at hpieces
    have hpiece : ∀ piece ∈ (c :: more) :: others, ∀ d ∈ piece, d ∈ n.toList := by
      intro piece hp d hd
      rw [← hpieces] at hp
      exact hbody d (Text.mem_of_mem_splitOn hp hd)
    cases others with
    | nil =>
      left
      simp [ofName, hpieces]
    | cons second others =>
      right
      simp only [ofName, hpieces, String.toList_ofList]
      refine ⟨c, hc, by simp, ?_, ?_, ?_⟩
      · intro d hd
        rcases List.mem_append.1 hd with hd | hd
        · exact (List.takeWhile_prefix _).mem hd
        · exact hpiece _ (by simp) d hd
      · intro segment hs d hd
        obtain ⟨piece, hp, rfl⟩ := List.mem_map.1 hs
        rw [String.toList_ofList] at hd
        exact hpiece piece (List.mem_cons_of_mem _ (List.dropLast_subset _ hp)) d hd
      · intro d hd
        rw [List.getLast?_eq_some_getLast (by simp), Option.getD_some] at hd
        exact hpiece _ (List.mem_cons_of_mem _ (List.getLast_mem _)) d hd

theorem keptSegments_subset (v : Vocabulary) (p : NameParts) :
    p.keptSegments v ⊆ p.segments := by
  intro segment h
  simp only [keptSegments, List.mem_map, List.mem_filter] at h
  obtain ⟨⟨s, condition⟩, ⟨hzip, -⟩, rfl⟩ := h
  exact (List.of_mem_zip hzip).1

theorem mem_clean_of_stem (v : Vocabulary) {p : NameParts} {c : Char} (hc : c ∈ p.stem.toList) :
    c ∈ (p.clean v).toList := by
  unfold clean
  rw [String.toList_intercalate]
  have hstem : p.stem.toList ∈ (p.stem :: p.keptSegments v ++
      if p.extension ≠ "" && !p.rendered then [p.extension] else []).map String.toList := by simp
  exact Text.mem_intercalate _ hstem hc

theorem of_mem_clean {p : NameParts} {c : Char} (h : c ∈ (p.clean v).toList) :
    c = '.' ∨ c ∈ p.stem.toList ∨ (∃ segment ∈ p.segments, c ∈ segment.toList) ∨
      c ∈ p.extension.toList := by
  unfold clean at h
  rw [String.toList_intercalate] at h
  rcases Text.of_mem_intercalate h with h | ⟨piece, hpiece, hc⟩
  · exact .inl (by simpa using h)
  · obtain ⟨part, hpart, rfl⟩ := List.mem_map.1 hpiece
    rcases List.mem_append.1 hpart with hpart | hpart
    · rcases List.mem_cons.1 hpart with rfl | hpart
      · exact .inr (.inl hc)
      · exact .inr (.inr (.inl ⟨part, keptSegments_subset v p hpart, hc⟩))
    · split at hpart
      · rw [List.mem_singleton] at hpart
        exact .inr (.inr (.inr (hpart ▸ hc)))
      · simp at hpart

end NameParts

namespace FileName

theorem clean_isPlain (v : Vocabulary) (h : Path.IsPlain n) : Path.IsPlain (clean v n) := by
  unfold clean
  rcases NameParts.ofName_cases v n with hwhole | ⟨c, hdot, hstem, hstems, hsegments, hextension⟩
  · rw [hwhole]
    have hself : NameParts.clean v ⟨n, [], "", false⟩ = n := by
      simp [NameParts.clean, NameParts.keptSegments, String.intercalate_singleton]
    rwa [hself]
  · refine Path.isPlain_of_mem (NameParts.mem_clean_of_stem v hstem) hdot fun hslash => h.2.1 ?_
    rcases NameParts.of_mem_clean hslash with hc | hc | ⟨segment, hs, hc⟩ | hc
    · simp at hc
    · exact hstems _ hc
    · exact hsegments segment hs _ hc
    · exact hextension _ hc

theorem destination_isPlain (s : Selection) (htargets : ∀ r ∈ v.renamings, Path.IsPlain r.target)
    (h : Path.IsPlain n) : Path.IsPlain (destination v s n) := by
  unfold destination Renaming.apply
  split
  · rename_i r hr
    exact htargets r (List.mem_of_find?_eq_some hr)
  · exact clean_isPlain v h

end FileName

namespace DirectoryName

/-- A name is taken apart at its last dot, if that dot is no leading one. -/
theorem splitLast?_spec {before segment : String} (h : splitLast? n = some (before, segment)) :
    n.toList = before.toList ++ '.' :: segment.toList ∧ '.' ∉ segment.toList ∧
      ∃ c ∈ before.toList, c ≠ '.' := by
  unfold splitLast? at h
  dsimp only at h
  split at h
  · rename_i hdot
    rcases dropWhile_dots n.toList with hnil | ⟨c, rest, hc, hcons⟩
    · simp [hnil] at hdot
    have hrest : '.' ∈ rest := by
      rw [hcons, List.mem_cons] at hdot
      exact hdot.resolve_left fun h => hc h.symm
    obtain ⟨front, after, rfl, hafter⟩ := Text.exists_last hrest
    have hname : n.toList = (n.toList.takeWhile (· = '.') ++ c :: front) ++ '.' :: after := by
      conv_lhs => rw [← List.takeWhile_append_dropWhile (p := (· = '.')) (l := n.toList), hcons]
      simp
    generalize n.toList.takeWhile (· = '.') = dots at hname
    have hsegment : (n.toList.reverse.takeWhile (· ≠ '.')).reverse = after := by
      have hreverse : n.toList.reverse = after.reverse ++ '.' :: (dots ++ c :: front).reverse := by
        simp [hname]
      rw [hreverse, Text.takeWhile_ne (by simpa using hafter), List.reverse_reverse]
    have hbefore : n.toList.take (n.toList.length - after.length - 1) = dots ++ c :: front := by
      rw [hname]
      exact List.take_left' (by simp only [List.length_append, List.length_cons]; omega)
    rw [hsegment, hbefore] at h
    obtain ⟨rfl, rfl⟩ := Prod.mk.inj (Option.some.inj h)
    simp only [String.toList_ofList]
    exact ⟨hname, hafter, c, by simp, hc⟩
  · cases h

theorem clean_isPlain (v : Vocabulary) (h : Path.IsPlain n) : Path.IsPlain (clean v n) := by
  unfold clean
  split
  · exact h
  · rename_i before segment hsplit
    split
    · obtain ⟨hname, -, c, hc, hdot⟩ := splitLast?_spec hsplit
      exact Path.isPlain_of_mem hc hdot fun hslash => h.2.1 (by simp [hname, hslash])
    · exact h

end DirectoryName
end Scaffold
