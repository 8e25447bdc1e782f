import Mathlib.Data.List.TakeWhile
import Scaffold.Proofs.CleanNames

set_option autoImplicit false

/-!
# Variants of an entry

Two names that differ in one segment, a token in one and its negation in the other, name variants
of one entry. They are cleaned to the same name, so the variants would end up in one place; but at
most one of the two is included, and exactly one if nothing else keeps them out.
-/
namespace Scaffold

variable {v : Vocabulary} {s : Selection} {p p' : NameParts} {d t n n' segment : String}
  {before after : List String}

/-! ### A token and its negation -/

/-- A condition that nothing reads as anything but the token it is: no dash in it stands between a
framework and an option, and its negation decides too. -/
structure Vocabulary.IsNegatable (v : Vocabulary) (t : String) : Prop where
  declared : t ∈ v.frameworks ∨ t ∈ v.options
  unpaired : ∀ a b, t = a ++ "-" ++ b → a ∈ v.frameworks → b ∉ v.options
  decides : "!" ++ t ∉ v.passthrough

namespace Vocabulary.IsNegatable

theorem isWord (ht : v.IsNegatable t) (hv : v.WellFormed) : IsWord t :=
  isWord_of_isToken (ht.declared.elim (hv.framework t) (hv.option t))

theorem not_isPair (ht : v.IsNegatable t) (a b : String) : ¬Condition.IsPair v t a b :=
  fun h => ht.unpaired a b h.text h.framework h.option

theorem ofSegment_negation (ht : v.IsNegatable t) (hv : v.WellFormed) :
    Condition.ofSegment v ("!" ++ t) = .negated t := by
  have hmarker : "!" ++ t ≠ v.marker := fun h =>
    (isWord_of_isToken hv.marker).bang (h ▸ by simp)
  exact Condition.ofSegment_negated (by simp [isPassthrough, ht.decides, hmarker])

theorem holds_iff_has (ht : v.IsNegatable t) (hv : v.WellFormed) (hs : s.Fits v) :
    (Condition.ofSegment v t).holds s = true ↔ s.has t = true := by
  rcases ht.declared with hframework | hoption
  · rw [Condition.holds_framework hv hframework ht.not_isPair, hs.has_framework hv hframework]
  · rw [Condition.holds_option hv hoption ht.not_isPair, hs.has_option hv hoption]

theorem holds_negation (ht : v.IsNegatable t) (hv : v.WellFormed) (hs : s.Fits v) :
    (Condition.ofSegment v ("!" ++ t)).holds s = !(Condition.ofSegment v t).holds s := by
  rw [ht.ofSegment_negation hv, Bool.eq_iff_iff.2 (ht.holds_iff_has hv hs)]
  rfl

theorem isGating (ht : v.IsNegatable t) (hv : v.WellFormed) :
    (Condition.ofSegment v t).isGating = true := by
  have hword := ht.isWord hv
  rw [Condition.ofSegment_word (hv.not_passthrough ht.declared) hword.bang hword.plus,
    Condition.pair?_eq_none.2 ht.unpaired]
  rcases ht.declared with h | h
  · simp [isFramework, h, Condition.isGating]
  · by_cases hframework : v.isFramework t
    · simp [hframework, Condition.isGating]
    · simp [hframework, isOption, h, Condition.isGating]

theorem isGating_negation (ht : v.IsNegatable t) (hv : v.WellFormed) :
    (Condition.ofSegment v ("!" ++ t)).isGating = true := by
  rw [ht.ofSegment_negation hv]
  rfl

end Vocabulary.IsNegatable

/-! ### Around one segment of a file -/

namespace NameParts

theorem keptSegments_around (h : p.segments = before ++ segment :: after)
    (hlast : p.rendered = true → after ≠ [])
    (hgating : (Condition.ofSegment v segment).isGating = true) :
    p.keptSegments v = kept v (before.zip (before.zipIdx.map (p.reading v))) ++
      kept v (after.zip ((after.zipIdx (before.length + 1)).map (p.reading v))) := by
  have hnone : kept v [(segment, Condition.ofSegment v segment)] = [] := by simp [kept, hgating]
  rw [keptSegments_eq, conditions_around h hlast, h, List.zip_append (by simp), List.zip_cons_cons,
    ← List.singleton_append, kept_append, kept_append, hnone, List.nil_append]

theorem reading_congr (hrendered : p'.rendered = p.rendered)
    (hlength : p'.segments.length = p.segments.length) : p'.reading v = p.reading v := by
  funext x
  simp [reading, hrendered, hlength]

end NameParts

namespace FileName
open NameParts

/-- File names of the same parts but for one segment, which is a token in one and its negation in
the other, and is not the last one before the marker. -/
structure Variants (v : Vocabulary) (t : String) (before after : List String) (n n' : String) :
    Prop where
  stem : (ofName v n').stem = (ofName v n).stem
  plain : (ofName v n).segments = before ++ t :: after
  negated : (ofName v n').segments = before ++ ("!" ++ t) :: after
  extension : (ofName v n').extension = (ofName v n).extension
  inside : (ofName v n).extension = v.marker → after ≠ []

/-- With whatever stem, other segments and extension, there are two such names. -/
theorem variants_of_sound (hp : p.Sound v) (hsegments : p.segments = before ++ t :: after)
    (hinside : p.extension = v.marker → after ≠ []) :
    Variants v t before after p.name (name { p with segments := before ++ ("!" ++ t) :: after }) := by
  have hnegated : Sound v { p with segments := before ++ ("!" ++ t) :: after } := by
    refine ⟨hp.stem, ?_, hp.extension, hp.rendered⟩
    have hplain := hp.segments
    simp only [hsegments, List.mem_append, List.mem_cons] at hplain ⊢
    rintro segment (hsegment | rfl | hsegment)
    · exact hplain segment (.inl hsegment)
    · simpa using hplain t (.inr (.inl rfl))
    · exact hplain segment (.inr (.inr hsegment))
  exact ⟨by rw [ofName_name hp, ofName_name hnegated], by rw [ofName_name hp, hsegments],
    by rw [ofName_name hnegated], by rw [ofName_name hp, ofName_name hnegated],
    by rwa [ofName_name hp]⟩

theorem rendered_of_segments (h : (ofName v n).segments ≠ []) :
    (ofName v n).rendered = ((ofName v n).extension == v.marker) := by
  by_cases hdot : '.' ∈ n.toList.dropWhile (· = '.')
  · exact (name_ofName v hdot).1.rendered
  · exact absurd (by rw [ofName_whole v hdot]) h

namespace Variants
variable (h : Variants v t before after n n')
include h

theorem rendered : (ofName v n').rendered = (ofName v n).rendered := by
  rw [rendered_of_segments (by simp [h.negated]), rendered_of_segments (by simp [h.plain]),
    h.extension]

theorem inside_of_rendered (hrendered : (ofName v n).rendered = true) : after ≠ [] := by
  rw [rendered_of_segments (by simp [h.plain])] at hrendered
  exact h.inside (beq_iff_eq.1 hrendered)

theorem reading_eq : (ofName v n').reading v = (ofName v n).reading v :=
  reading_congr h.rendered (by simp [h.plain, h.negated])

theorem conditions_eq :
    ∃ front back : List Condition, front.length = before.length ∧
      conditions v n = front ++ .ofSegment v t :: back ∧
      conditions v n' = front ++ .ofSegment v ("!" ++ t) :: back :=
  ⟨before.zipIdx.map ((ofName v n).reading v),
    (after.zipIdx (before.length + 1)).map ((ofName v n).reading v), by simp,
    conditions_around h.plain h.inside_of_rendered, by
      rw [conditions, conditions_around h.negated (h.rendered ▸ h.inside_of_rendered), h.reading_eq]⟩

/-- The other conditions are the same, and with them the segment decides. -/
theorem isIncluded_eq :
    (conditions v n').eraseIdx before.length = (conditions v n).eraseIdx before.length ∧
      isIncluded v s n = (Condition.allHold s ((conditions v n).eraseIdx before.length) &&
        (Condition.ofSegment v t).holds s) ∧
      isIncluded v s n' = (Condition.allHold s ((conditions v n).eraseIdx before.length) &&
        (Condition.ofSegment v ("!" ++ t)).holds s) := by
  obtain ⟨front, back, hlength, hplain, hnegated⟩ := h.conditions_eq
  have hrest : ∀ c, (front ++ c :: back).eraseIdx before.length = front ++ back := fun c => by
    rw [← hlength, List.eraseIdx_append_of_length_le (Nat.le_refl _)]
    simp
  have hsplit : ∀ c, Condition.allHold s (front ++ c :: back) =
      (Condition.allHold s (front ++ back) && c.holds s) := fun c => by
    simp [Condition.allHold, Bool.and_assoc, Bool.and_comm]
  simp only [isIncluded, hplain, hnegated, hrest, hsplit, and_self]

theorem clean_eq (ht : v.IsNegatable t) (hv : v.WellFormed) : clean v n' = clean v n := by
  rw [clean, clean, NameParts.clean, NameParts.clean,
    keptSegments_around h.plain h.inside_of_rendered (ht.isGating hv),
    keptSegments_around h.negated (h.rendered ▸ h.inside_of_rendered) (ht.isGating_negation hv),
    h.reading_eq, h.rendered, h.extension, h.stem]

end Variants

end FileName

/-! ### Directories -/

namespace DirectoryName

theorem splitLast?_append (hd : ∃ c ∈ d.toList, c ≠ '.') (hsegment : '.' ∉ segment.toList) :
    splitLast? (d ++ "." ++ segment) = some (d, segment) := by
  have hlist : (d ++ "." ++ segment).toList = d.toList ++ '.' :: segment.toList := by simp
  have hdot : '.' ∈ (d ++ "." ++ segment).toList.dropWhile (· = '.') := by
    obtain ⟨c, hc, hne⟩ := hd
    have hnonempty : (d.toList.dropWhile (· = '.')).isEmpty = false := by
      rw [List.isEmpty_eq_false_iff, ne_eq, List.dropWhile_eq_nil_iff]
      exact fun hall => hne (by simpa using hall c hc)
    rw [hlist, List.dropWhile_append, hnonempty]
    simp
  have hafter : ((d ++ "." ++ segment).toList.reverse.takeWhile (· ≠ '.')).reverse =
      segment.toList := by
    have hreverse : (d ++ "." ++ segment).toList.reverse =
        segment.toList.reverse ++ '.' :: d.toList.reverse := by simp [hlist]
    rw [hreverse, Text.takeWhile_ne (by simpa using hsegment), List.reverse_reverse]
  unfold splitLast?
  simp only [if_pos hdot, hafter]
  rw [hlist, List.take_left' (by simp only [List.length_append, List.length_cons]; omega)]
  simp

/-- Behind nothing but dots, a segment belongs to what they lead. -/
theorem splitLast?_of_dots (hd : ∀ c ∈ d.toList, c = '.') (hsegment : '.' ∉ segment.toList) :
    splitLast? (d ++ "." ++ segment) = none := by
  have hdots : ∀ c ∈ (d ++ ".").toList, decide (c = '.') = true := by
    simpa [or_imp, forall_and] using hd
  have hdrop : (d ++ "." ++ segment).toList.dropWhile (· = '.') =
      segment.toList.dropWhile (· = '.') := by
    rw [String.toList_append, List.dropWhile_append_of_pos hdots]
  have hnone : '.' ∉ (d ++ "." ++ segment).toList.dropWhile (· = '.') := by
    rw [hdrop]
    exact fun h => hsegment ((List.dropWhile_suffix _).mem h)
  unfold splitLast?
  simp only [if_neg hnone]

theorem clean_append (hd : ∃ c ∈ d.toList, c ≠ '.') (hsegment : '.' ∉ segment.toList)
    (hgating : (Condition.ofSegment v segment).isGating = true) :
    clean v (d ++ "." ++ segment) = d := by
  unfold clean
  simp only [splitLast?_append hd hsegment, hgating, if_true]

theorem isIncluded_append (hd : ∃ c ∈ d.toList, c ≠ '.') (hsegment : '.' ∉ segment.toList) :
    isIncluded v s (d ++ "." ++ segment) = (Condition.ofSegment v segment).holds s := by
  unfold isIncluded conditions
  rw [splitLast?_append hd hsegment]
  simp [Condition.allHold]

theorem of_dots (hd : ∀ c ∈ d.toList, c = '.') (hsegment : '.' ∉ segment.toList) :
    clean v (d ++ "." ++ segment) = d ++ "." ++ segment ∧
      isIncluded v s (d ++ "." ++ segment) = true := by
  unfold clean isIncluded conditions
  rw [splitLast?_of_dots hd hsegment]
  exact ⟨rfl, rfl⟩

end DirectoryName

/-! ### Which of the variants comes out -/

/-- Variants of a file go to one place, and they are included by turns if the other conditions of
their names hold; so are variants of a directory, unless nothing but dots stands before the
condition, which then is none. -/
theorem variants_alternate (hv : v.Accepted) (hs : s.Fits v) (ht : v.IsNegatable t) :
    (∀ n n' before after, FileName.Variants v t before after n n' →
      FileName.clean v n' = FileName.clean v n ∧
      FileName.destination v s n' = FileName.destination v s n ∧
      ¬(FileName.isIncluded v s n = true ∧ FileName.isIncluded v s n' = true) ∧
      (FileName.conditions v n').eraseIdx before.length =
        (FileName.conditions v n).eraseIdx before.length ∧
      (Condition.allHold s ((FileName.conditions v n).eraseIdx before.length) = true →
        FileName.isIncluded v s n' = !FileName.isIncluded v s n)) ∧
    (∀ d : String, (∃ c ∈ d.toList, c ≠ '.') →
      DirectoryName.clean v (d ++ "." ++ t) = d ∧
      DirectoryName.clean v (d ++ "." ++ ("!" ++ t)) = d ∧
      DirectoryName.isIncluded v s (d ++ "." ++ ("!" ++ t)) =
        !DirectoryName.isIncluded v s (d ++ "." ++ t)) ∧
    ∀ d segment : String, (∀ c ∈ d.toList, c = '.') → segment = t ∨ segment = "!" ++ t →
      DirectoryName.clean v (d ++ "." ++ segment) = d ++ "." ++ segment ∧
      DirectoryName.isIncluded v s (d ++ "." ++ segment) = true := by
  have hv := hv.wellFormed
  have hplain : '.' ∉ t.toList := (ht.isWord hv).dot
  have hnegated : '.' ∉ ("!" ++ t).toList := by simpa using hplain
  have hholds := ht.holds_negation hv hs
  refine ⟨fun n n' before after h => ?_, fun d hd => ?_, fun d segment hd hsegment => ?_⟩
  · have hclean := h.clean_eq ht hv
    obtain ⟨hrest, hincluded, hincluded'⟩ := h.isIncluded_eq (s := s)
    rw [hholds] at hincluded'
    refine ⟨hclean, by rw [FileName.destination, hclean]; rfl, ?_, hrest, fun hall => ?_⟩
    · rw [hincluded, hincluded']
      cases (Condition.ofSegment v t).holds s <;> simp
    · rw [hincluded, hincluded', hall, Bool.true_and, Bool.true_and]
  · exact ⟨DirectoryName.clean_append hd hplain (ht.isGating hv),
      DirectoryName.clean_append hd hnegated (ht.isGating_negation hv), by
        rw [DirectoryName.isIncluded_append hd hplain, DirectoryName.isIncluded_append hd hnegated,
          hholds]⟩
  · rcases hsegment with rfl | rfl
    · exact DirectoryName.of_dots hd hplain
    · exact DirectoryName.of_dots hd hnegated

/-! ### Variants for one framework and for the others -/

open Vocabulary

theorem vue_isNegatable : vueOrReact.vocabulary.IsNegatable "vue" where
  declared := by decide
  unpaired _ b _ _ := List.not_mem_nil (a := b)
  decides := by decide

theorem page_alternates :
    FileName.clean vueOrReact.vocabulary "App.!vue.ts.j2" =
        FileName.clean vueOrReact.vocabulary "App.vue.ts.j2" ∧
      FileName.isIncluded vueOrReact.vocabulary ⟨"vue", []⟩ "App.!vue.ts.j2" =
        !FileName.isIncluded vueOrReact.vocabulary ⟨"vue", []⟩ "App.vue.ts.j2" ∧
      DirectoryName.clean vueOrReact.vocabulary "state.!vue" = "state" ∧
      DirectoryName.isIncluded vueOrReact.vocabulary ⟨"vue", []⟩ "..!vue" = true := by
  obtain ⟨hfiles, hdirectories, hdots⟩ := variants_alternate (s := ⟨"vue", []⟩)
    vueOrReact_accepted ⟨by decide, by decide⟩ vue_isNegatable
  have hplain : NameParts.name ⟨"App", ["vue", "ts"], "j2", true⟩ = "App.vue.ts.j2" := by
    decide +kernel
  have hnegated : NameParts.name ⟨"App", ["!vue", "ts"], "j2", true⟩ = "App.!vue.ts.j2" := by
    decide +kernel
  have hvariants : FileName.Variants vueOrReact.vocabulary "vue" [] ["ts"] "App.vue.ts.j2"
      "App.!vue.ts.j2" := by
    rw [← hplain, ← hnegated]
    exact FileName.variants_of_sound ⟨by decide +kernel, by simp, by simp, by rfl⟩ rfl (by simp)
  obtain ⟨hclean, -, -, -, hturns⟩ := hfiles _ _ _ _ hvariants
  exact ⟨hclean, hturns (by decide +kernel), (hdirectories "state" (by simp)).2.1,
    (hdots "." "!vue" (by simp) (.inr rfl)).2⟩

theorem dots_do_not_alternate :
    vueOrReact.vocabulary.Accepted ∧ Selection.Fits ⟨"vue", []⟩ vueOrReact.vocabulary ∧
      vueOrReact.vocabulary.IsNegatable "vue" ∧
      DirectoryName.isIncluded vueOrReact.vocabulary ⟨"vue", []⟩ ("..." ++ "." ++ "vue") = true ∧
      DirectoryName.isIncluded vueOrReact.vocabulary ⟨"vue", []⟩ ("..." ++ "." ++ "!vue") = true ∧
      DirectoryName.clean vueOrReact.vocabulary ("..." ++ "." ++ "vue") = "....vue" ∧
      DirectoryName.clean vueOrReact.vocabulary ("..." ++ "." ++ "!vue") = "....!vue" := by
  refine ⟨vueOrReact_accepted, ⟨by decide, by decide⟩, vue_isNegatable, ?_, ?_, ?_, ?_⟩
  all_goals decide +kernel

end Scaffold
