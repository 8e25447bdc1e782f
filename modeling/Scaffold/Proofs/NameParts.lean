import Mathlib.Data.List.Basic
import Scaffold.Proofs.EntryNames

set_option autoImplicit false

/-!
# Names and their parts

A file name with a dot after its leading ones is its parts with dots between them, and such parts
are what the name is taken apart into. The conditions of a name are those of its segments one by
one; only the last segment of a file to render is read in a way of its own.
-/
namespace Scaffold.NameParts

variable {v : Vocabulary} {p : NameParts} {n segment : String} {before after : List String}

/-! ### Taking apart what was put together -/

/-- Leading dots, if any, and then characters none of which is a dot, at least one. -/
def IsStem (stem : String) : Prop :=
  stem.toList.dropWhile (· = '.') ≠ [] ∧ '.' ∉ stem.toList.dropWhile (· = '.')

instance (stem : String) : Decidable (IsStem stem) := inferInstanceAs (Decidable (_ ∧ _))

theorem isStem_ofList {dots core : List Char} (hdots : ∀ d ∈ dots, d = '.') (hne : core ≠ [])
    (hcore : '.' ∉ core) : IsStem (String.ofList (dots ++ core)) := by
  have hall : ∀ d ∈ dots, decide (d = '.') = true := fun d hd => decide_eq_true (hdots d hd)
  obtain ⟨c, rest, rfl⟩ := List.exists_cons_of_ne_nil hne
  have hc : ¬c = '.' := fun heq => hcore (heq ▸ List.mem_cons_self ..)
  rw [IsStem, String.toList_ofList, List.dropWhile_append_of_pos hall,
    List.dropWhile_cons_of_neg (by simpa using hc)]
  exact ⟨hne, hcore⟩

theorem isStem_of_dotless {stem : String} (hstem : stem ≠ "") (hdot : '.' ∉ stem.toList) :
    IsStem stem := by
  have hne : stem.toList ≠ [] := by simpa using hstem
  have hall : IsStem (String.ofList ([] ++ stem.toList)) := isStem_ofList (by simp) hne hdot
  simpa using hall

structure Sound (v : Vocabulary) (p : NameParts) : Prop where
  stem : IsStem p.stem
  segments : ∀ segment ∈ p.segments, '.' ∉ segment.toList
  extension : '.' ∉ p.extension.toList
  rendered : p.rendered = (p.extension == v.marker)

def name (p : NameParts) : String := ".".intercalate (p.stem :: p.segments ++ [p.extension])

/-- A name without dots but leading ones is all stem. -/
theorem ofName_whole (v : Vocabulary) (h : '.' ∉ n.toList.dropWhile (· = '.')) :
    ofName v n = ⟨n, [], "", false⟩ := by
  unfold ofName
  simp only [List.splitOn_eq_singleton h]

/-- The characters of a name are leading dots, the rest of a stem and pieces behind dots. -/
structure Pieces (n : String) (dots core : List Char) (segments : List (List Char))
    (extension : List Char) : Prop where
  leading : ∀ d ∈ dots, d = '.'
  nonempty : core ≠ []
  dotless : ∀ piece ∈ core :: (segments ++ [extension]), '.' ∉ piece
  text : n.toList = dots ++ ['.'].intercalate (core :: (segments ++ [extension]))

theorem exists_pieces (h : '.' ∈ n.toList.dropWhile (· = '.')) :
    ∃ dots core segments extension, Pieces n dots core segments extension := by
  obtain ⟨c, rest, hc, hcons⟩ := (dropWhile_dots n.toList).resolve_left (List.ne_nil_of_mem h)
  obtain ⟨more, others, hpieces⟩ := Text.head_mem_splitOn hc rest
  have hnone : ∀ piece ∈ (c :: more) :: others, '.' ∉ piece := fun piece hpiece =>
    Text.not_mem_of_mem_splitOn (hpieces ▸ hpiece)
  have hjoined : ['.'].intercalate ((c :: more) :: others) = n.toList.dropWhile (· = '.') := by
    rw [← hpieces, List.intercalate_splitOn, hcons]
  obtain rfl | ⟨segments, extension, rfl⟩ := List.eq_nil_or_concat' others
  · rw [List.intercalate_singleton] at hjoined
    exact absurd (hjoined ▸ h) (hnone _ (by simp))
  · refine ⟨n.toList.takeWhile (· = '.'), c :: more, segments, extension, fun d hd => ?_, by simp,
      hnone, ?_⟩
    · simpa using List.all_eq_true.1 List.all_takeWhile d hd
    · rw [hjoined, List.takeWhile_append_dropWhile]

namespace Pieces
variable {dots core extension : List Char} {segments : List (List Char)}
  (h : Pieces n dots core segments extension)
include h

theorem isStem : IsStem (String.ofList (dots ++ core)) :=
  isStem_ofList h.leading h.nonempty (h.dotless core (by simp))

theorem ofName_eq (v : Vocabulary) :
    ofName v n = ⟨String.ofList (dots ++ core), segments.map String.ofList,
      String.ofList extension, String.ofList extension == v.marker⟩ := by
  have hall : ∀ d ∈ dots, decide (d = '.') = true := fun d hd => decide_eq_true (h.leading d hd)
  obtain ⟨c, rest, rfl⟩ := List.exists_cons_of_ne_nil h.nonempty
  obtain ⟨second, others, hbehind⟩ := List.exists_cons_of_ne_nil
    (l := segments ++ [extension]) (by simp)
  have hdotless := h.dotless
  have hname := h.text
  rw [hbehind] at hdotless hname
  have hc : ¬c = '.' := fun heq => hdotless _ (List.mem_cons_self ..) (heq ▸ List.mem_cons_self ..)
  have hbody : ['.'].intercalate ((c :: rest) :: second :: others) =
      c :: (rest ++ '.' :: ['.'].intercalate (second :: others)) := by
    rw [List.intercalate_cons_of_ne_nil (by simp)]
    simp
  have htake : n.toList.takeWhile (· = '.') = dots := by
    rw [hname, hbody, List.takeWhile_append_of_pos hall,
      List.takeWhile_cons_of_neg (by simpa using hc), List.append_nil]
  have hdrop : n.toList.dropWhile (· = '.') =
      ['.'].intercalate ((c :: rest) :: second :: others) := by
    rw [hname, List.dropWhile_append_of_pos hall, hbody,
      List.dropWhile_cons_of_neg (by simpa using hc)]
  unfold ofName
  simp only [htake, hdrop, List.splitOn_intercalate '.' hdotless (by simp)]
  rw [← hbehind]
  simp

theorem sound (v : Vocabulary) : (ofName v n).Sound v := by
  rw [h.ofName_eq]
  refine ⟨h.isStem, fun segment hsegment => ?_, ?_, rfl⟩
  · obtain ⟨piece, hpiece, rfl⟩ := List.mem_map.1 hsegment
    rw [String.toList_ofList]
    exact h.dotless piece (by simp [hpiece])
  · rw [String.toList_ofList]
    exact h.dotless extension (by simp)

theorem name_eq (v : Vocabulary) : (ofName v n).name = n := by
  rw [h.ofName_eq, ← String.toList_inj, NameParts.name, String.toList_intercalate, h.text]
  have hlists : (segments.map String.ofList).map String.toList = segments := by
    simp [Function.comp_def]
  rw [List.cons_append, List.map_cons, List.map_append, hlists, List.map_singleton,
    String.toList_ofList, String.toList_ofList, List.intercalate_cons_of_ne_nil (by simp),
    List.intercalate_cons_of_ne_nil (by simp)]
  simp

end Pieces

theorem ofName_name (h : p.Sound v) : ofName v p.name = p := by
  obtain ⟨stem, segments, extension, rendered⟩ := p
  obtain ⟨⟨hne, hcore⟩, hsegments, hextension, hrendered⟩ := h
  dsimp only at hne hcore hsegments hextension hrendered
  have hstem := List.takeWhile_append_dropWhile (p := fun c : Char => decide (c = '.'))
    (l := stem.toList)
  have hpieces : Pieces (name ⟨stem, segments, extension, rendered⟩)
      (stem.toList.takeWhile (· = '.')) (stem.toList.dropWhile (· = '.'))
      (segments.map String.toList) extension.toList := by
    refine ⟨fun d hd => ?_, hne, fun piece hpiece => ?_, ?_⟩
    · simpa using List.all_eq_true.1 List.all_takeWhile d hd
    · rw [List.mem_cons, List.mem_append, List.mem_map, List.mem_singleton] at hpiece
      rcases hpiece with rfl | ⟨segment, hsegment, rfl⟩ | rfl
      · exact hcore
      · exact hsegments segment hsegment
      · exact hextension
    · rw [name, String.toList_intercalate, List.cons_append, List.map_cons, List.map_append,
        List.map_singleton, List.intercalate_cons_of_ne_nil (by simp),
        List.intercalate_cons_of_ne_nil (by simp), ← List.append_assoc, ← List.append_assoc, hstem]
      rfl
  rw [hpieces.ofName_eq, hstem, hrendered]
  simp [Function.comp_def]

theorem name_ofName (v : Vocabulary) (h : '.' ∈ n.toList.dropWhile (· = '.')) :
    (ofName v n).Sound v ∧ (ofName v n).name = n := by
  obtain ⟨dots, core, segments, extension, hpieces⟩ := exists_pieces h
  exact ⟨hpieces.sound v, hpieces.name_eq v⟩

/-! ### Segments one by one -/

private theorem map_zipIdx {α β : Type} (g : α → β) (xs : List α) :
    (xs.zipIdx.map fun x => g x.1) = xs.map g :=
  calc (xs.zipIdx.map fun x => g x.1) = (xs.zipIdx.map Prod.fst).map g := (List.map_map ..).symm
    _ = xs.map g := by rw [List.zipIdx_map_fst]

def reading (v : Vocabulary) (p : NameParts) (x : String × Nat) : Condition :=
  if p.rendered && x.2 + 1 == p.segments.length && namesComponents v x.1 then .inert x.1
  else .ofSegment v x.1

theorem conditions_eq (v : Vocabulary) (p : NameParts) :
    p.conditions v = p.segments.zipIdx.map (p.reading v) := rfl

theorem reading_of_copied (h : p.rendered = false) (x : String × Nat) :
    p.reading v x = .ofSegment v x.1 := by
  simp [reading, h]

theorem reading_of_lt {x : String × Nat} (h : x.2 + 1 < p.segments.length) :
    p.reading v x = .ofSegment v x.1 := by
  have hlast : (x.2 + 1 == p.segments.length) = false := beq_eq_false_iff_ne.2 (by omega)
  simp [reading, hlast]

theorem conditions_of_copied (h : p.rendered = false) :
    p.conditions v = p.segments.map (Condition.ofSegment v) := by
  rw [conditions_eq, funext (reading_of_copied h), map_zipIdx]

theorem conditions_concat (h : p.segments = before ++ [segment]) :
    p.conditions v =
      before.map (Condition.ofSegment v) ++ [p.reading v (segment, before.length)] := by
  have hbefore : ∀ x ∈ before.zipIdx, p.reading v x = .ofSegment v x.1 := by
    intro x hx
    have hlt := List.snd_lt_of_mem_zipIdx hx
    exact reading_of_lt (by simp only [h, List.length_append, List.length_singleton]; omega)
  rw [conditions_eq, h, List.zipIdx_append, List.map_append, List.map_congr_left hbefore, map_zipIdx]
  simp

/-- A segment with others after it, or in a file that is copied, says what it says anywhere. -/
theorem conditions_around (h : p.segments = before ++ segment :: after)
    (hlast : p.rendered = true → after ≠ []) :
    p.conditions v = before.zipIdx.map (p.reading v) ++ .ofSegment v segment ::
      (after.zipIdx (before.length + 1)).map (p.reading v) := by
  have hsegment : p.reading v (segment, before.length) = .ofSegment v segment := by
    cases hrendered : p.rendered with
    | false => exact reading_of_copied hrendered _
    | true =>
      have hlength := List.length_pos_iff.2 (hlast hrendered)
      exact reading_of_lt (by simp only [h, List.length_append, List.length_cons]; omega)
  rw [conditions_eq, h, List.zipIdx_append, List.zipIdx_cons, List.map_append, List.map_cons,
    Nat.zero_add, hsegment]

/-- Of segments with their conditions, those that neither decide nor are the marker. -/
def kept (v : Vocabulary) (xs : List (String × Condition)) : List String :=
  (xs.filter fun (segment, c) => !c.isGating && segment != v.marker).map (·.1)

theorem keptSegments_eq (v : Vocabulary) (p : NameParts) :
    p.keptSegments v = kept v (p.segments.zip (p.conditions v)) := rfl

theorem kept_append (v : Vocabulary) (xs ys : List (String × Condition)) :
    kept v (xs ++ ys) = kept v xs ++ kept v ys := by
  simp [kept]

end Scaffold.NameParts
