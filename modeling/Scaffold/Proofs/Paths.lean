import Scaffold.Path
import Scaffold.Proofs.Text.Pieces

set_option autoImplicit false

/-!
# Names in paths

The names that a text can give a path, paths some names further down, and how the length of a text
grows with the names in it.
-/
namespace Scaffold.Path

/-- The names of the path are such as stand between the slashes of a text. -/
def IsNormal (p : Path) : Prop := ∀ n ∈ p.names, n ≠ "" ∧ '/' ∉ n.toList ∧ n ≠ "."

def under (p : Path) (names : List String) : Path := ⟨p.anchor, p.names ++ names⟩

theorem under_nil (p : Path) : p.under [] = p := by
  simp [under]

theorem under_concat (p : Path) (names : List String) (n : String) :
    p.under (names ++ [n]) = (p.under names).child n := by
  simp [under, child]

theorem under_cons (p : Path) (n : String) (names : List String) :
    p.under (n :: names) = (p.child n).under names := by
  simp [under, child]

theorem under_inj {p : Path} {names names' : List String} (h : p.under names = p.under names') :
    names = names' :=
  List.append_cancel_left (congrArg Path.names h)

theorem isPlain_concat {names : List String} {n : String} (hnames : ∀ m ∈ names, IsPlain m)
    (hn : IsPlain n) : ∀ m ∈ names ++ [n], IsPlain m := by
  intro m hm
  rcases List.mem_append.1 hm with hm | hm
  · exact hnames m hm
  · rwa [List.mem_singleton.1 hm]

theorem IsNormal.child {p : Path} {n : String} (h : p.IsNormal) (hn : IsPlain n) :
    (p.child n).IsNormal := by
  intro m hm
  rcases List.mem_append.1 hm with hm | hm
  · exact h m hm
  · rw [List.mem_singleton.1 hm]
    exact ⟨hn.1, hn.2.1, hn.2.2.1⟩

theorem IsNormal.under {p : Path} {names : List String} (h : p.IsNormal)
    (hnames : ∀ n ∈ names, IsPlain n) : (p.under names).IsNormal := by
  intro m hm
  rcases List.mem_append.1 hm with hm | hm
  · exact h m hm
  · exact ⟨(hnames m hm).1, (hnames m hm).2.1, (hnames m hm).2.2.1⟩

theorem IsNormal.join {p q : Path} (hp : p.IsNormal) (hq : q.IsNormal) : (p.join q).IsNormal := by
  unfold Path.join
  split
  · exact hq
  · intro m hm
    rcases List.mem_append.1 hm with hm | hm
    · exact hp m hm
    · exact hq m hm

theorem ofText_isNormal (s : String) : (ofText s).IsNormal := by
  intro n hn
  simp only [ofText, namesOf, List.mem_filterMap] at hn
  obtain ⟨piece, hpiece, hsome⟩ := hn
  split at hsome
  · exact absurd hsome (by simp)
  · rename_i hnot
    obtain rfl := Option.some.inj hsome
    simp only [Bool.or_eq_true, decide_eq_true_eq, not_or] at hnot
    refine ⟨fun h => hnot.1 ?_, ?_, fun h => hnot.2 ?_⟩
    · simpa using congrArg String.toList h
    · simpa using Text.not_mem_of_mem_splitOn hpiece
    · simpa using congrArg String.toList h

theorem mem_ofText {s n : String} {c : Char} (hn : n ∈ (ofText s).names) (hc : c ∈ n.toList) :
    c ∈ s.toList := by
  simp only [ofText, namesOf, List.mem_filterMap] at hn
  obtain ⟨piece, hpiece, hsome⟩ := hn
  split at hsome
  · exact absurd hsome (by simp)
  · obtain rfl := Option.some.inj hsome
    rw [String.toList_ofList] at hc
    exact Text.mem_of_mem_splitOn hpiece hc

theorem ofText_of_isPlain {n : String} (h : IsPlain n) : ofText n = ⟨.relative, [n]⟩ := by
  obtain ⟨hempty, hslash, hdot, -⟩ := h
  have hanchor : anchorOf n.toList = .relative := by
    cases hcs : n.toList with
    | nil => rfl
    | cons c cs =>
      have hc : c ≠ '/' := fun h => hslash (by simp [hcs, h])
      simp [anchorOf, hc]
  have hnames : namesOf n.toList = [n] := by
    have hne : n.toList ≠ [] := by simpa using hempty
    have hnd : n.toList ≠ ['.'] := fun h => hdot (String.toList_inj.1 (by simpa using h))
    rw [namesOf, List.splitOn_eq_singleton hslash]
    simp [hne, hnd]
  rw [ofText, hanchor, hnames]

theorem join_ofText {n : String} (p : Path) (h : IsPlain n) : p.join (ofText n) = p.child n := by
  rw [ofText_of_isPlain h]
  rfl

theorem mem_text {p : Path} {n : String} {c : Char} (hn : n ∈ p.names) (hc : c ∈ n.toList) :
    c ∈ p.text.toList := by
  have hjoined : c ∈ "/".toList.intercalate (p.names.map String.toList) :=
    Text.mem_intercalate _ (List.mem_map_of_mem hn) hc
  have hne : p.names.isEmpty = false := by
    cases hp : p.names with
    | nil => simp [hp] at hn
    | cons m names => rfl
  unfold text
  cases p.anchor <;> simp only [hne, String.toList_append, String.toList_intercalate]
  · rw [if_neg (by simp), String.toList_intercalate]
    exact hjoined
  · exact List.mem_append_right _ hjoined
  · exact List.mem_append_right _ hjoined

theorem of_mem_text {p : Path} {c : Char} (h : c ∈ p.text.toList) :
    c = '/' ∨ c = '.' ∨ ∃ n ∈ p.names, c ∈ n.toList := by
  have hnames : c ∈ ("/".intercalate p.names).toList → c = '/' ∨ ∃ n ∈ p.names, c ∈ n.toList := by
    rw [String.toList_intercalate]
    intro hc
    rcases Text.of_mem_intercalate hc with hc | ⟨piece, hpiece, hc⟩
    · exact .inl (by simpa using hc)
    · obtain ⟨n, hn, rfl⟩ := List.mem_map.1 hpiece
      exact .inr ⟨n, hn, hc⟩
  unfold text at h
  cases hanchor : p.anchor <;> simp only [hanchor, String.toList_append] at h
  · split at h
    · exact .inr (.inl (by simpa using h))
    · rcases hnames h with hc | hc
      · exact .inl hc
      · exact .inr (.inr hc)
  all_goals
    rcases List.mem_append.1 h with hc | hc
    · exact .inl (by simpa using hc)
    · rcases hnames hc with hc | hc
      · exact .inl hc
      · exact .inr (.inr hc)

/-! ### Names without dots -/

theorem normalNames_append {xs ys zs : List String} (h : normalNames xs = normalNames ys) :
    normalNames (xs ++ zs) = normalNames (ys ++ zs) := by
  unfold normalNames at h ⊢
  rw [List.foldl_append, List.foldl_append, List.reverse_inj.1 h]

theorem normalNames_concat (names : List String) (n : String) :
    normalNames (names ++ [n]) =
      if n = ".." then (normalNames names).dropLast else normalNames names ++ [n] := by
  unfold normalNames
  rw [List.foldl_append]
  by_cases hup : n = ".."
  · simp [hup]
  · simp [hup]

theorem normalNames_of_down {names : List String} (h : ".." ∉ names) : normalNames names = names := by
  induction names using List.reverseRecOn with
  | nil => rfl
  | append_singleton front n ih =>
    have hn : n ≠ ".." := fun heq => h (by simp [heq])
    have hfront : ".." ∉ front := fun hmem => h (List.mem_append_left _ hmem)
    rw [normalNames_concat, if_neg hn, ih hfront]

theorem mem_of_mem_normalNames {names : List String} {n : String} (h : n ∈ normalNames names) :
    n ∈ names ∧ n ≠ ".." := by
  induction names using List.reverseRecOn with
  | nil => cases h
  | append_singleton front last ih =>
    rw [normalNames_concat] at h
    split at h
    · obtain ⟨hmem, hup⟩ := ih (List.dropLast_subset _ h)
      exact ⟨List.mem_append_left _ hmem, hup⟩
    · rename_i hlast
      rcases List.mem_append.1 h with hmem | hmem
      · obtain ⟨hmem, hup⟩ := ih hmem
        exact ⟨List.mem_append_left _ hmem, hup⟩
      · rw [List.mem_singleton.1 hmem]
        exact ⟨by simp, hlast⟩

/-! ### The length of texts -/

/-- The bytes of names with a slash each. -/
def span : List String → Nat
  | [] => 0
  | n :: names => n.utf8ByteSize + 1 + span names

theorem span_concat (names : List String) (n : String) :
    span (names ++ [n]) = span names + n.utf8ByteSize + 1 := by
  induction names with
  | nil => simp [span]
  | cons first names ih =>
    simp only [List.cons_append, span, ih]
    omega

theorem span_le_intercalate (names : List String) :
    span names ≤ ("/".intercalate names).utf8ByteSize + 1 := by
  induction names with
  | nil => simp [span]
  | cons n names ih =>
    by_cases hnil : names = []
    · simp [hnil, span]
    · have hslash : "/".utf8ByteSize = 1 := rfl
      rw [String.intercalate_cons_of_ne_nil hnil]
      simp only [span, String.utf8ByteSize_append] at ih ⊢
      omega

theorem span_le_text (p : Path) : span p.names ≤ p.text.utf8ByteSize + 1 := by
  have h := span_le_intercalate p.names
  unfold text
  cases p.anchor with
  | relative =>
    by_cases hnil : p.names = []
    · simp [hnil, span]
    · simpa [hnil] using h
  | root | doubleRoot =>
    simp only [String.utf8ByteSize_append]
    omega

end Scaffold.Path
