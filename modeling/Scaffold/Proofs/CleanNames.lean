import Scaffold.Proofs.NameParts
import Scaffold.Proofs.Conditions

set_option autoImplicit false

/-!
# Clean names

What cleaning leaves of a file name carries no condition and no marker any more. So cleaning it
again changes nothing, unless the last of what stayed is an empty segment: the clean name then ends
in a dot, which the next cleaning takes for the one before an extension that is not there.
-/
namespace Scaffold

variable {v : Vocabulary} {p : NameParts} {n segment : String} {before : List String}

namespace NameParts

/-! ### What stays -/

def stays (v : Vocabulary) (segment : String) : Bool :=
  !(Condition.ofSegment v segment).isGating && segment != v.marker

theorem kept_plainly (v : Vocabulary) (segments : List String) :
    kept v (segments.zip (segments.map (Condition.ofSegment v))) = segments.filter (stays v) := by
  rw [← List.map_prod_left_eq_zip, kept, List.filter_map, List.map_map]
  exact List.map_id _

theorem keptSegments_of_copied (h : p.rendered = false) :
    p.keptSegments v = p.segments.filter (stays v) := by
  rw [keptSegments_eq, conditions_of_copied h, kept_plainly]

theorem keptSegments_concat (h : p.segments = before ++ [segment]) :
    p.keptSegments v =
      before.filter (stays v) ++ kept v [(segment, p.reading v (segment, before.length))] := by
  rw [keptSegments_eq, conditions_concat h, h, List.zip_append (by simp), kept_append, kept_plainly]
  rfl

theorem not_marker_of_kept {xs : List (String × Condition)} : v.marker ∉ kept v xs := by
  simp [kept]

def remains (v : Vocabulary) (p : NameParts) : List String :=
  p.keptSegments v ++ if p.extension ≠ "" && !p.rendered then [p.extension] else []

theorem clean_eq (v : Vocabulary) (p : NameParts) :
    p.clean v = ".".intercalate (p.stem :: p.remains v) := rfl

/-- At most one piece that remains is there for its position: the extension, or the type of the
components before the marker. -/
theorem remains_split (v : Vocabulary) (p : NameParts) :
    ∃ front last, p.remains v = front ++ last ∧ (∀ segment ∈ front, stays v segment = true) ∧
      last.length ≤ 1 := by
  cases hrendered : p.rendered with
  | false =>
    refine ⟨p.segments.filter (stays v), _, by rw [remains, keptSegments_of_copied hrendered],
      fun segment hsegment => (List.mem_filter.1 hsegment).2, ?_⟩
    split <;> simp
  | true =>
    have hremains : p.remains v = p.keptSegments v := by simp [remains, hrendered]
    obtain hnil | ⟨before, segment, hconcat⟩ := List.eq_nil_or_concat' p.segments
    · exact ⟨[], [], by simp [hremains, keptSegments, hnil], by simp, by simp⟩
    · refine ⟨before.filter (stays v), _, by rw [hremains, keptSegments_concat hconcat],
        fun segment hsegment => (List.mem_filter.1 hsegment).2, ?_⟩
      rw [kept, List.length_map]
      exact List.length_filter_le ..

theorem stays_of_remains (hsegment : segment ∈ (p.remains v).dropLast) : stays v segment = true := by
  obtain ⟨front, last, hremains, hfront, hlast⟩ := remains_split v p
  apply hfront
  match last, hlast with
  | [], _ =>
    rw [hremains, List.append_nil] at hsegment
    exact List.dropLast_subset _ hsegment
  | [_], _ => rwa [hremains, List.dropLast_concat] at hsegment

theorem marker_not_mem_remains (h : p.Sound v) : v.marker ∉ p.remains v := by
  unfold remains
  rw [List.mem_append, not_or]
  refine ⟨not_marker_of_kept, ?_⟩
  split
  · rename_i hcopied
    have hrendered : p.rendered = false := by simp_all
    have hmarker : p.extension ≠ v.marker := by simpa [hrendered] using h.rendered
    simpa using hmarker.symm
  · simp

theorem not_dot_of_remains (h : p.Sound v) (hsegment : segment ∈ p.remains v) :
    '.' ∉ segment.toList := by
  rcases List.mem_append.1 hsegment with hkept | hextension
  · exact h.segments _ (keptSegments_subset v p hkept)
  · split at hextension
    · rw [List.mem_singleton.1 hextension]
      exact h.extension
    · cases hextension

/-- Parts that cleaning leaves as they are, save for a dot at the end. -/
structure IsClean (v : Vocabulary) (p : NameParts) : Prop where
  sound : p.Sound v
  copied : p.rendered = false
  stays : ∀ segment ∈ p.segments, stays v segment = true

theorem isClean_of_remains {init : List String} {last : String} (h : p.Sound v)
    (hremains : p.remains v = init ++ [last]) :
    IsClean v ⟨p.stem, init, last, false⟩ ∧ name ⟨p.stem, init, last, false⟩ = p.clean v := by
  have hmarker : last ≠ v.marker := fun heq =>
    marker_not_mem_remains h (by simp [hremains, ← heq])
  refine ⟨⟨⟨h.stem, ?_, ?_, ?_⟩, rfl, ?_⟩, by rw [clean_eq, hremains]; rfl⟩
  · exact fun segment hsegment => not_dot_of_remains h (by simp [hremains, hsegment])
  · exact not_dot_of_remains h (by simp [hremains])
  · exact (beq_eq_false_iff_ne.2 hmarker).symm
  · exact fun segment hsegment => stays_of_remains (p := p) (by simpa [hremains] using hsegment)

theorem IsClean.remains_eq (h : p.IsClean v) :
    p.remains v = p.segments ++ if p.extension ≠ "" then [p.extension] else [] := by
  rw [remains, keptSegments_of_copied h.copied, List.filter_eq_self.2 h.stays]
  simp [h.copied]

theorem IsClean.not_gating (h : p.IsClean v) {c : Condition} (hc : c ∈ p.conditions v) :
    c.isGating = false := by
  rw [conditions_of_copied h.copied] at hc
  obtain ⟨segment, hsegment, rfl⟩ := List.mem_map.1 hc
  have hstays := h.stays segment hsegment
  simp only [NameParts.stays, Bool.and_eq_true, Bool.not_eq_true'] at hstays
  exact hstays.1

theorem IsClean.not_marker (h : p.IsClean v) : v.marker ∉ p.segments := by
  intro hmarker
  simpa [NameParts.stays] using h.stays _ hmarker

end NameParts

def Vocabulary.vueOrReact : Vocabulary.Draft where
  frameworks := ["vue", "react"]

theorem Vocabulary.vueOrReact_accepted : vueOrReact.vocabulary.Accepted :=
  .ofDraft (d := vueOrReact) (by rfl)

namespace FileName
open NameParts Vocabulary

/-- The last segment that stays is empty, and no extension stays behind it. -/
def EndsOpen (v : Vocabulary) (n : String) : Prop :=
  ((ofName v n).keptSegments v).getLast? = some "" ∧
    ((ofName v n).extension = "" ∨ isRendered v n = true)

instance (v : Vocabulary) (n : String) : Decidable (EndsOpen v n) :=
  inferInstanceAs (Decidable (_ ∧ _))

theorem endsOpen_iff : EndsOpen v n ↔ ((ofName v n).remains v).getLast? = some "" := by
  unfold EndsOpen isRendered
  by_cases hnone : (ofName v n).extension = "" ∨ (ofName v n).rendered = true
  · have hremains : (ofName v n).remains v = (ofName v n).keptSegments v := by
      rcases hnone with h | h <;> simp [remains, h]
    rw [hremains]
    exact and_iff_left hnone
  · obtain ⟨hextension, hcopied⟩ := not_or.1 hnone
    simp [remains, hextension, hcopied]

/-- A clean name is all stem, or it is the name of clean parts. -/
theorem clean_cases (v : Vocabulary) (n : String) :
    ('.' ∉ (clean v n).toList.dropWhile (· = '.') ∧ ¬EndsOpen v n) ∨
      ∃ p : NameParts, p.IsClean v ∧ p.name = clean v n ∧ (EndsOpen v n ↔ p.extension = "") := by
  by_cases hdot : '.' ∈ n.toList.dropWhile (· = '.')
  · obtain ⟨hsound, -⟩ := name_ofName v hdot
    obtain hnil | ⟨init, last, hconcat⟩ := List.eq_nil_or_concat' ((ofName v n).remains v)
    · -- The stem alone has no dot after its leading ones.
      left
      rw [clean, clean_eq, hnil, String.intercalate_singleton]
      exact ⟨hsound.stem.2, by simp [endsOpen_iff, hnil]⟩
    · right
      obtain ⟨hclean, hname⟩ := isClean_of_remains hsound hconcat
      exact ⟨_, hclean, hname, by simp [endsOpen_iff, hconcat]⟩
  · left
    have hnil : (ofName v n).remains v = [] := by
      simp [ofName_whole v hdot, remains, keptSegments]
    rw [clean, clean_eq, hnil, String.intercalate_singleton, ofName_whole v hdot]
    exact ⟨hdot, by simp [endsOpen_iff, hnil]⟩

theorem clean_whole (h : '.' ∉ n.toList.dropWhile (· = '.')) : clean v n = n := by
  rw [clean, ofName_whole v h, clean_eq]
  simp [remains, keptSegments, String.intercalate_singleton]

theorem clean_name (h : p.IsClean v) :
    clean v p.name =
      ".".intercalate (p.stem :: p.segments ++ if p.extension ≠ "" then [p.extension] else []) := by
  rw [clean, ofName_name h.sound, clean_eq, h.remains_eq, List.cons_append]

/-- Nothing in a clean name decides on it or has it rendered, and so it is included under every
selection. -/
theorem clean_leaves_no_residue (hv : v.Accepted) (n : String) :
    (∀ c ∈ conditions v (clean v n), c.isGating = false) ∧
      (∀ s, isIncluded v s (clean v n) = true) ∧
      isRendered v (clean v n) = false ∧
      v.marker ∉ (ofName v (clean v n)).segments ∧
      (ofName v (clean v n)).extension ≠ v.marker := by
  suffices h : (∀ c ∈ conditions v (clean v n), c.isGating = false) ∧
      isRendered v (clean v n) = false ∧ v.marker ∉ (ofName v (clean v n)).segments ∧
        (ofName v (clean v n)).extension ≠ v.marker by
    refine ⟨h.1, fun s => ?_, h.2⟩
    exact List.all_eq_true.2 fun c hc => Condition.holds_of_not_gating (h.1 c hc) s
  obtain ⟨hwhole, -⟩ | ⟨p, hclean, hname, -⟩ := clean_cases v n
  · have hmarker := (Vocabulary.isWord_of_isToken hv.wellFormed.marker).nonempty
    rw [conditions, isRendered, ofName_whole v hwhole]
    refine ⟨by simp [NameParts.conditions], rfl, by simp, fun heq => hmarker ?_⟩
    simp [← heq]
  · rw [← hname, conditions, isRendered, ofName_name hclean.sound]
    refine ⟨fun c => hclean.not_gating, hclean.copied, hclean.not_marker, fun heq => ?_⟩
    simpa [hclean.copied, heq] using hclean.sound.rendered

theorem app_without_residue :
    clean vueOrReact.vocabulary "..App.j2..react.vue.j2" = "..App..vue" ∧
      isIncluded vueOrReact.vocabulary ⟨"react", []⟩ "..App..vue" = true ∧
      isRendered vueOrReact.vocabulary "..App..vue" = false := by
  have hclean : clean vueOrReact.vocabulary "..App.j2..react.vue.j2" = "..App..vue" := by
    decide +kernel
  obtain ⟨-, hincluded, hrendered, -, -⟩ :=
    clean_leaves_no_residue vueOrReact_accepted "..App.j2..react.vue.j2"
  rw [hclean] at hincluded hrendered
  exact ⟨hclean, hincluded _, hrendered⟩

/-- A name is clean once it is cleaned, except that the dot before an empty last segment is lost
the next time. -/
theorem clean_clean (v : Vocabulary) (n : String) :
    (clean v (clean v n) = clean v n ↔ ¬EndsOpen v n) ∧
      clean v n = clean v (clean v n) ++ if EndsOpen v n then "." else "" := by
  obtain ⟨hwhole, hnot⟩ | ⟨p, hclean, hname, hopen⟩ := clean_cases v n
  · simp [clean_whole hwhole, hnot]
  · rw [← hname, clean_name hclean]
    by_cases hextension : p.extension = ""
    · -- The name ends in the dot before an empty extension, and that is not put back.
      have hends : EndsOpen v n := hopen.2 hextension
      have hlost : p.name = ".".intercalate (p.stem :: p.segments) ++ "." := by
        rw [name, hextension, String.intercalate_append_of_ne_nil (by simp) (by simp),
          String.intercalate_singleton, String.append_empty]
      have hshorter : ".".intercalate (p.stem :: p.segments) ≠ p.name := fun heq => by
        simpa [hlost] using congrArg String.length heq
      simpa [hlost, hextension, hends] using hshorter
    · have hends : ¬EndsOpen v n := fun h => hextension (hopen.1 h)
      simp [name, hextension, hends]

theorem empty_segment_is_cleaned_late :
    vueOrReact.vocabulary.Accepted ∧
      clean vueOrReact.vocabulary "a..j2" = "a." ∧
      clean vueOrReact.vocabulary (clean vueOrReact.vocabulary "a..j2") = "a" :=
  ⟨vueOrReact_accepted, by decide +kernel, by decide +kernel⟩

end FileName
end Scaffold
