import Scaffold.Proofs.CleanNames
import Scaffold.Proofs.Readings

set_option autoImplicit false

/-!
# What decides is what is cleaned away

A condition that is read off a name can fail for some selection as soon as it is no literal. So
cleaning drops from a file name, besides markers, just the segments for which there is a selection
that leaves the file out, and from the name of a directory its last part if there is a selection
that leaves the directory out.
-/
namespace Scaffold

variable {v : Vocabulary} {p : NameParts} {c : Condition} {d n segment : String} {i : Nat}

/-! ### Conditions that can fail -/

namespace Condition

/-- There is a selection, of whatever framework and options, for which a condition does not hold. -/
def CanFail (c : Condition) : Prop :=
  ∃ framework options, c.holds (.of framework options) = false

theorem canFail_of_framework_ne {t : String} (h : ∀ framework, framework ≠ t →
    c.holds (.of framework []) = false) : c.CanFail := by
  -- any other framework would do, and a longer one is another
  have hlonger : t ++ "!" ≠ t := fun heq => by simpa using congrArg String.length heq
  exact ⟨t ++ "!", [], h _ hlonger⟩

/-- All that is no literal can fail, save for a conjunction of nothing. -/
theorem canFail_iff : c.CanFail ↔ c.isGating = true ∧ c ≠ conjunction [] := by
  constructor
  · rintro ⟨framework, options, hfails⟩
    refine ⟨?_, fun heq => ?_⟩
    · cases hgating : c.isGating with
      | true => rfl
      | false =>
        rw [holds_of_not_gating hgating] at hfails
        cases hfails
    · rw [heq] at hfails
      cases hfails
  · rintro ⟨hgating, hnonempty⟩
    cases c with
    | inert t => cases hgating
    | negated t => exact ⟨t, [], by simp [holds, Selection.has, Selection.of]⟩
    | conjunction ts =>
      cases ts with
      | nil => exact absurd rfl hnonempty
      | cons t ts =>
        refine canFail_of_framework_ne (t := t) fun framework hne => ?_
        simp [holds, Selection.has, Selection.hasOption, Selection.of, membersOf, hne]
    | frameworkOption f o =>
      exact ⟨f, [], by simp [holds, Selection.hasOption, Selection.of, membersOf]⟩
    | framework t =>
      exact canFail_of_framework_ne (t := t) fun framework hne => by
        simp [holds, Selection.of, hne]
    | option t => exact ⟨t, [], by simp [holds, Selection.hasOption, Selection.of, membersOf]⟩

instance (c : Condition) : Decidable c.CanFail := decidable_of_iff _ canFail_iff.symm

theorem ofSegment_ne_empty (v : Vocabulary) (segment : String) :
    ofSegment v segment ≠ conjunction [] := by
  intro h
  cases h ▸ reads_ofSegment v segment with
  | conjunction _ _ plus _ text => simp [text] at plus

theorem canFail_ofSegment :
    (ofSegment v segment).CanFail ↔ (ofSegment v segment).isGating = true := by
  rw [canFail_iff, and_iff_left (ofSegment_ne_empty v segment)]

theorem not_canFail_marker : ¬(ofSegment v v.marker).CanFail := by
  have hinert : ofSegment v v.marker = inert v.marker := by
    simp [ofSegment, Vocabulary.isPassthrough]
  rw [hinert, canFail_iff]
  simp [isGating]

/-- Some selection fails conditions that are all asked for as soon as one of them can fail. -/
theorem exists_not_allHold_iff {cs : List Condition} :
    (∃ framework options, allHold (.of framework options) cs = false) ↔ ∃ c ∈ cs, c.CanFail := by
  constructor
  · rintro ⟨framework, options, hfails⟩
    obtain ⟨c, hc, hnot⟩ := List.all_eq_false.1 hfails
    exact ⟨c, hc, framework, options, Bool.eq_false_iff.2 hnot⟩
  · rintro ⟨c, hc, framework, options, hfails⟩
    exact ⟨framework, options, List.all_eq_false.2 ⟨c, hc, Bool.eq_false_iff.1 hfails⟩⟩

end Condition

/-! ### Segments of a file -/

namespace NameParts

theorem canFail_reading (x : String × Nat) :
    (p.reading v x).CanFail ↔ (p.reading v x).isGating = true := by
  unfold reading
  split
  · simp [Condition.canFail_iff, Condition.isGating]
  · exact Condition.canFail_ofSegment

theorem not_canFail_reading_marker : ¬(p.reading v (v.marker, i)).CanFail := by
  unfold reading
  split
  · simp [Condition.canFail_iff, Condition.isGating]
  · exact Condition.not_canFail_marker

theorem getElem?_conditions (v : Vocabulary) (p : NameParts) (i : Nat) :
    (p.conditions v)[i]? = p.segments[i]?.map fun segment => p.reading v (segment, i) := by
  rw [conditions_eq, List.getElem?_map, List.getElem?_zipIdx, Option.map_map, Nat.zero_add]
  rfl

theorem zip_conditions (v : Vocabulary) (p : NameParts) :
    p.segments.zip (p.conditions v) = p.segments.zipIdx.map fun x => (x.1, p.reading v x) :=
  calc p.segments.zip (p.conditions v)
      = (p.segments.zipIdx.map Prod.fst).zip (p.segments.zipIdx.map (p.reading v)) := by
        rw [List.zipIdx_map_fst, conditions_eq]
    _ = p.segments.zipIdx.map fun x => (x.1, p.reading v x) := List.zip_map' ..

def drops (v : Vocabulary) (p : NameParts) (i : Nat) : Bool :=
  (p.segments.zip (p.conditions v))[i]?.any fun (segment, c) => c.isGating || segment == v.marker

theorem drops_eq (h : p.segments[i]? = some segment) :
    p.drops v i = ((p.reading v (segment, i)).isGating || segment == v.marker) := by
  simp [drops, zip_conditions, h]

theorem keptSegments_eq_rest (v : Vocabulary) (p : NameParts) :
    p.keptSegments v = (p.segments.zipIdx.filter fun x => !p.drops v x.2).map (·.1) := by
  have hstays : ∀ x ∈ p.segments.zipIdx,
      (!(p.reading v x).isGating && x.1 != v.marker) = !p.drops v x.2 := by
    intro x hx
    rw [drops_eq (List.mem_zipIdx_iff_getElem?.1 hx), Bool.not_or]
    rfl
  rw [keptSegments, zip_conditions, List.filter_map, List.map_map, ← List.filter_congr hstays]
  rfl

theorem drops_iff (h : p.segments[i]? = some segment) (hmarker : segment ≠ v.marker) :
    p.drops v i = true ↔ (p.reading v (segment, i)).CanFail := by
  simp [drops_eq h, hmarker, canFail_reading]

theorem exists_canFail_iff (v : Vocabulary) (p : NameParts) :
    (∃ c ∈ p.conditions v, c.CanFail) ↔
      ∃ i segment, p.segments[i]? = some segment ∧ segment ≠ v.marker ∧ p.drops v i = true := by
  constructor
  · rintro ⟨c, hc, hfails⟩
    obtain ⟨i, hi⟩ := List.mem_iff_getElem?.1 hc
    rw [getElem?_conditions, Option.map_eq_some_iff] at hi
    obtain ⟨segment, hsegment, rfl⟩ := hi
    have hmarker : segment ≠ v.marker := by
      rintro rfl
      exact not_canFail_reading_marker hfails
    exact ⟨i, segment, hsegment, hmarker, (drops_iff hsegment hmarker).2 hfails⟩
  · rintro ⟨i, segment, hsegment, hmarker, hdrops⟩
    refine ⟨_, List.mem_iff_getElem?.2 ⟨i, ?_⟩, (drops_iff hsegment hmarker).1 hdrops⟩
    rw [getElem?_conditions, hsegment, Option.map_some]

end NameParts

/-! ### The last part of a directory's name -/

namespace DirectoryName

theorem cases_of_split (v : Vocabulary) (d : String) :
    (conditions v d = [] ∧ clean v d = d) ∨
      ∃ before segment, d = before ++ "." ++ segment ∧ '.' ∉ segment.toList ∧
        conditions v d = [.ofSegment v segment] ∧
        clean v d = if (Condition.ofSegment v segment).isGating then before else d := by
  unfold conditions clean
  cases hsplit : splitLast? d with
  | none => exact .inl ⟨rfl, rfl⟩
  | some parts =>
    obtain ⟨before, segment⟩ := parts
    obtain ⟨hname, hdot, -⟩ := splitLast?_spec hsplit
    refine .inr ⟨before, segment, ?_, hdot, rfl, rfl⟩
    rw [← String.toList_inj, hname]
    simp

theorem clean_ne_iff (v : Vocabulary) (d : String) :
    clean v d ≠ d ↔ ∃ c ∈ conditions v d, c.CanFail := by
  obtain ⟨hnone, hwhole⟩ | ⟨before, segment, hname, -, hcondition, hclean⟩ := cases_of_split v d
  · simp [hnone, hwhole]
  · have hshorter : before ≠ d := by
      rintro rfl
      have hlength := congrArg String.length hname
      simp [String.append_assoc] at hlength
    rw [hcondition, hclean]
    cases hgating : (Condition.ofSegment v segment).isGating with
    | true => simpa [Condition.canFail_ofSegment, hgating] using hshorter
    | false => simp [Condition.canFail_ofSegment, hgating]

theorem dropped_of_clean_ne (h : clean v d ≠ d) :
    ∃ segment, '.' ∉ segment.toList ∧ d = clean v d ++ "." ++ segment ∧
      conditions v d = [.ofSegment v segment] := by
  obtain ⟨-, hwhole⟩ | ⟨before, segment, hname, hdot, hcondition, hclean⟩ := cases_of_split v d
  · exact absurd hwhole h
  · refine ⟨segment, hdot, ?_, hcondition⟩
    cases hgating : (Condition.ofSegment v segment).isGating with
    | true => simpa [hclean, hgating] using hname
    | false => exact absurd (by simp [hclean, hgating]) h

end DirectoryName

/-! ### What is cleaned away -/

/-- Cleaning drops from a file's name, besides markers, the segments whose conditions can fail, and
there is one of them just if some selection leaves the file out. So it is with directories, whose
names lose at most what stands behind the last dot. -/
theorem cleaning_drops_what_can_fail (v : Vocabulary) (n d : String) :
    let p := NameParts.ofName v n
    (FileName.clean v n = ".".intercalate
        (p.stem :: (p.segments.zipIdx.filter fun x => !p.drops v x.2).map (·.1) ++
          if p.extension ≠ "" && !p.rendered then [p.extension] else []) ∧
      (∀ i segment, p.segments[i]? = some segment →
        ∃ c, (FileName.conditions v n)[i]? = some c ∧
          (segment ≠ v.marker → (p.drops v i = true ↔
            ∃ framework options, c.holds (.of framework options) = false))) ∧
      ((∃ framework options, FileName.isIncluded v (.of framework options) n = false) ↔
        ∃ i segment, p.segments[i]? = some segment ∧ segment ≠ v.marker ∧ p.drops v i = true)) ∧
    ((∃ framework options, DirectoryName.isIncluded v (.of framework options) d = false) ↔
      DirectoryName.clean v d ≠ d) ∧
    (DirectoryName.clean v d ≠ d → ∃ segment, '.' ∉ segment.toList ∧
      d = DirectoryName.clean v d ++ "." ++ segment ∧
      DirectoryName.conditions v d = [.ofSegment v segment]) := by
  intro p
  refine ⟨⟨?_, fun i segment hsegment => ?_, ?_⟩, ?_, DirectoryName.dropped_of_clean_ne⟩
  · rw [FileName.clean, NameParts.clean, NameParts.keptSegments_eq_rest]
  · refine ⟨p.reading v (segment, i), ?_, NameParts.drops_iff hsegment⟩
    rw [FileName.conditions, NameParts.getElem?_conditions, hsegment, Option.map_some]
  · exact Condition.exists_not_allHold_iff.trans (NameParts.exists_canFail_iff v p)
  · exact Condition.exists_not_allHold_iff.trans (DirectoryName.clean_ne_iff v d).symm

open Vocabulary

theorem app_can_fail :
    (∃ c, (FileName.conditions vueOrReact.vocabulary "App.j2.vue.ts")[1]? = some c ∧
      ∃ framework options, c.holds (.of framework options) = false) ∧
    (∃ framework options,
      FileName.isIncluded vueOrReact.vocabulary (.of framework options) "App.j2.vue.ts" = false) ∧
    ∃ segment, '.' ∉ segment.toList ∧ "state.!" = "state" ++ "." ++ segment := by
  obtain ⟨⟨-, hsegments, hexcluded⟩, -, hdirectory⟩ :=
    cleaning_drops_what_can_fail vueOrReact.vocabulary "App.j2.vue.ts" "state.!"
  have hsegment : (NameParts.ofName vueOrReact.vocabulary "App.j2.vue.ts").segments[1]? =
      some "vue" := by decide +kernel
  have hdrops : (NameParts.ofName vueOrReact.vocabulary "App.j2.vue.ts").drops
      vueOrReact.vocabulary 1 = true := by decide +kernel
  have hclean : DirectoryName.clean vueOrReact.vocabulary "state.!" = "state" := by decide +kernel
  have hmarker : "vue" ≠ vueOrReact.vocabulary.marker := by decide
  obtain ⟨c, hc, hfails⟩ := hsegments 1 "vue" hsegment
  rw [hclean] at hdirectory
  obtain ⟨last, hdot, hname, -⟩ := hdirectory (by decide)
  exact ⟨⟨c, hc, (hfails hmarker).1 hdrops⟩, hexcluded.2 ⟨1, "vue", hsegment, hmarker, hdrops⟩,
    last, hdot, hname⟩

end Scaffold
