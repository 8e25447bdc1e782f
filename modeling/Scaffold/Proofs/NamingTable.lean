import Scaffold.Proofs.Conditions
import Scaffold.Proofs.NameParts

set_option autoImplicit false

/-!
# Files with one condition

What a file name with one segment between its stem and its extension says: a framework, an option,
a pair or a conjunction of both, or the negation of either. A token or a pair in which a framework
and an option stand around a dash further left says what these two say, and a pair that is the
marker of files to render says nothing.
-/
namespace Scaffold

def FileName.withSegment (stem segment extension : String) : String :=
  stem ++ "." ++ segment ++ "." ++ extension

variable {v : Vocabulary} {s : Selection} {stem segment extension : String} {f o : String}

theorem NameParts.ofName_withSegment (hstem : stem ≠ "") (hdot : '.' ∉ stem.toList)
    (hsegment : '.' ∉ segment.toList) (hextension : '.' ∉ extension.toList) :
    NameParts.ofName v (FileName.withSegment stem segment extension) =
      ⟨stem, [segment], extension, extension == v.marker⟩ := by
  have hsound : Sound v ⟨stem, [segment], extension, extension == v.marker⟩ :=
    ⟨isStem_of_dotless hstem hdot, by simpa using hsegment, hextension, rfl⟩
  have hname : FileName.withSegment stem segment extension =
      name ⟨stem, [segment], extension, extension == v.marker⟩ := by
    simp [FileName.withSegment, name, String.intercalate_cons_cons, String.append_assoc]
  rw [hname, ofName_name hsound]

theorem FileName.isIncluded_withSegment (hstem : stem ≠ "") (hdot : '.' ∉ stem.toList)
    (hsegment : '.' ∉ segment.toList) (hextension : '.' ∉ extension.toList)
    (hmarker : extension ≠ v.marker) :
    FileName.isIncluded v s (FileName.withSegment stem segment extension) =
      (Condition.ofSegment v segment).holds s := by
  have hrendered : (extension == v.marker) = false := by simpa using hmarker
  rw [isIncluded, conditions, NameParts.ofName_withSegment hstem hdot hsegment hextension,
    NameParts.conditions_of_copied hrendered]
  simp [Condition.allHold]

namespace Condition

/-- What a name with one condition says of a selection. Where a dash stands between a framework and
an option, the leftmost such dash decides. -/
theorem naming_table (hv : v.Accepted) (hpass : v.passthrough = Vocabulary.defaultPassthrough)
    (hs : s.Fits v) (hstem : stem ≠ "") (hdot : '.' ∉ stem.toList)
    (hextension : '.' ∉ extension.toList) (hmarker : extension ≠ v.marker)
    (hf : f ∈ v.frameworks) (ho : o ∈ v.options) :
    let included (segment : String) :=
      FileName.isIncluded v s (FileName.withSegment stem segment extension) = true
    ((∀ a b, ¬ IsPair v f a b) → (included f ↔ s.framework = f)) ∧
    (∀ a b, IsPair v f a b → (included f ↔ s.framework = a ∧ b ∈ s.options)) ∧
    ((∀ a b, ¬ IsPair v o a b) → (included o ↔ o ∈ s.options)) ∧
    (∀ a b, IsPair v o a b → (included o ↔ s.framework = a ∧ b ∈ s.options)) ∧
    (f ++ "-" ++ o = v.marker → included (f ++ "-" ++ o)) ∧
    (f ++ "-" ++ o ≠ v.marker → (∃ a b, IsPair v (f ++ "-" ++ o) a b) ∧
      ∀ a b, IsPair v (f ++ "-" ++ o) a b →
        (included (f ++ "-" ++ o) ↔ s.framework = a ∧ b ∈ s.options)) ∧
    (included (f ++ "+" ++ o) ↔ s.framework = f ∧ o ∈ s.options) ∧
    (included ("!" ++ f) ↔ s.framework ≠ f) ∧
    (included ("!" ++ o) ↔ o ∉ s.options) := by
  intro included
  have hv := hv.wellFormed
  have hword := Vocabulary.isWord_of_isToken (hv.framework f hf)
  have hword' := Vocabulary.isWord_of_isToken (hv.option o ho)
  have hbare := Vocabulary.isWord_of_isToken hv.marker
  have hincluded : ∀ segment, '.' ∉ segment.toList →
      (included segment ↔ (ofSegment v segment).holds s = true) := fun segment h => by
    rw [← FileName.isIncluded_withSegment hstem hdot h hextension hmarker]
  refine ⟨fun h => ?_, fun a b h => ?_, fun h => ?_, fun a b h => ?_, fun h => ?_, fun h => ?_,
    ?_, ?_, ?_⟩
  · rw [hincluded f hword.dot]
    exact holds_framework hv hf h
  · rw [hincluded f hword.dot]
    exact holds_pair (hv.not_passthrough (.inl hf)) hword.bang hword.plus h
  · rw [hincluded o hword'.dot]
    exact holds_option hv ho h
  · rw [hincluded o hword'.dot]
    exact holds_pair (hv.not_passthrough (.inr ho)) hword'.bang hword'.plus h
  · have hinert : v.isPassthrough (f ++ "-" ++ o) = true := by simp [Vocabulary.isPassthrough, h]
    rw [hincluded _ (by simp [hword.dot, hword'.dot])]
    unfold ofSegment
    rw [if_pos hinert]
    rfl
  · have hdecides : v.isPassthrough (f ++ "-" ++ o) = false :=
      Vocabulary.not_passthrough_default hpass (by simp) h
    refine ⟨exists_isPair rfl hf ho, fun a b hpair => ?_⟩
    rw [hincluded _ (by simp [hword.dot, hword'.dot])]
    exact holds_pair hdecides (by simp [hword.bang, hword'.bang])
      (by simp [hword.plus, hword'.plus]) hpair
  · have hdecides : v.isPassthrough (f ++ "+" ++ o) = false :=
      Vocabulary.not_passthrough_default hpass (by simp) fun h => hbare.plus (h ▸ by simp)
    rw [hincluded _ (by simp [hword.dot, hword'.dot]),
      ofSegment_conjunction hdecides hword hword'.plus]
    simp [holds, hs.has_framework hv hf, hs.has_option hv ho]
  · have hdecides : v.isPassthrough ("!" ++ f) = false :=
      Vocabulary.not_passthrough_default hpass (by simp) fun h => hbare.bang (h ▸ by simp)
    rw [hincluded _ (by simp [hword.dot]), ofSegment_negated hdecides, ne_eq,
      ← hs.has_framework hv hf]
    simp [holds]
  · have hdecides : v.isPassthrough ("!" ++ o) = false :=
      Vocabulary.not_passthrough_default hpass (by simp) fun h => hbare.bang (h ▸ by simp)
    rw [hincluded _ (by simp [hword'.dot]), ofSegment_negated hdecides, ← hs.has_option hv ho]
    simp [holds]

/-! ### Tokens with dashes -/

/-- Frameworks and options with dashes in them, and a marker that reads as a pair. -/
def dashed : Vocabulary.Draft where
  frameworks := ["a", "a-b"]
  options := ["b", "c", "b-c", "a-c", "x"]
  marker := "a-x"

theorem dashed_accepted : dashed.vocabulary.Accepted := .ofDraft (d := dashed) (by rfl)

theorem dashes_mislead :
    let included (framework : String) (options : List String) (name : String) :=
      FileName.isIncluded dashed.vocabulary ⟨framework, options⟩ name
    dashed.vocabulary.Accepted ∧
      included "a-b" [] "S.a-b.E" = false ∧
      included "a-b" ["a-c"] "S.a-c.E" = false ∧
      included "a-b" ["c"] "S.a-b-c.E" = false ∧
      included "a-b" [] "S.a-x.E" = true := by
  refine ⟨dashed_accepted, ?_, ?_, ?_, ?_⟩
  all_goals decide +kernel

theorem dashed_table :
    let included (segment : String) := FileName.isIncluded dashed.vocabulary ⟨"a", ["b-c"]⟩
      (FileName.withSegment "S" segment "E") = true
    ¬ included "a-b" ∧ ¬ included "c" ∧ included "a-b-c" ∧ ¬ included "a-b+c" ∧
      included "!a-b" ∧ included "!c" := by
  have htoken : IsPair dashed.vocabulary "a-b" "a" "b" := pair?_isPair (by decide +kernel)
  have hlong : IsPair dashed.vocabulary "a-b-c" "a" "b-c" := pair?_isPair (by decide +kernel)
  have hnone : ∀ a b, ¬ IsPair dashed.vocabulary "c" a b := by
    intro a b h
    have hpair : pair? dashed.vocabulary "c".toList = none := by decide +kernel
    rw [h.pair?_eq] at hpair
    cases hpair
  have hstem : "S" ≠ "" ∧ '.' ∉ "S".toList := by decide
  have hextension : '.' ∉ "E".toList ∧ "E" ≠ dashed.vocabulary.marker := by decide
  obtain ⟨-, hf, ho, -, -, hdash, hboth, hnot, hnot'⟩ :=
    naming_table (s := ⟨"a", ["b-c"]⟩) (f := "a-b") (o := "c") dashed_accepted rfl
      ⟨by decide, by decide⟩ hstem.1 hstem.2 hextension.1 hextension.2 (by decide) (by decide)
  refine ⟨?_, ?_, ?_, ?_, ?_, ?_⟩
  · rw [hf "a" "b" htoken]
    decide
  · rw [ho hnone]
    decide
  · exact ((hdash (by decide)).2 "a" "b-c" hlong).2 (by decide)
  · exact fun h => absurd (hboth.1 h) (by decide)
  · exact hnot.2 (by decide)
  · exact hnot'.2 (by decide)

end Condition
end Scaffold
