import Scaffold.Proofs.NamingTable

set_option autoImplicit false

/-!
# The readings of a segment

Six readings of a segment compete, and the first that fits counts. The rules are stated here without
the search that finds the reading: where a segment has several dashes between frameworks and
options, it is the leftmost that makes the pair, whatever else the segment may be declared as. No
reading loses anything, since the segment can be written from it again.
-/
namespace Scaffold.Condition

variable {v : Vocabulary} {segment f o t : String} {c : Condition}

/-! ### The rules -/

/-- A bare segment in which no dash stands between a framework and an option. -/
structure IsUnpaired (v : Vocabulary) (segment : String) : Prop extends IsBare v segment where
  unpaired : ∀ a b, segment = a ++ "-" ++ b → a ∈ v.frameworks → b ∉ v.options

inductive Reads (v : Vocabulary) (segment : String) : Condition → Prop
  | passthrough (h : v.isPassthrough segment = true) : Reads v segment (inert segment)
  | negated {t : String} (decides : v.isPassthrough segment = false)
      (text : segment = "!" ++ t) : Reads v segment (negated t)
  | conjunction {ts : List String} (decides : v.isPassthrough segment = false)
      (unnegated : ∀ t, segment ≠ "!" ++ t) (plus : '+' ∈ segment.toList)
      (single : ∀ t ∈ ts, '+' ∉ t.toList) (text : segment = "+".intercalate ts) :
      Reads v segment (conjunction ts)
  | pair {f o : String} (bare : IsBare v segment) (pair : IsPair v segment f o) :
      Reads v segment (frameworkOption f o)
  | framework (h : IsUnpaired v segment) (declared : segment ∈ v.frameworks) :
      Reads v segment (framework segment)
  | option (h : IsUnpaired v segment) (unselected : segment ∉ v.frameworks)
      (declared : segment ∈ v.options) : Reads v segment (option segment)
  | literal (h : IsUnpaired v segment) (unselected : segment ∉ v.frameworks)
      (undeclared : segment ∉ v.options) : Reads v segment (inert segment)

theorem Reads.text_eq (h : Reads v segment c) : c.text = segment := by
  cases h with
  | passthrough | framework | option | literal => rfl
  | negated _ text => exact text.symm
  | conjunction _ _ _ _ text => exact text.symm
  | pair _ pair => exact pair.text.symm

/-! ### The search -/

theorem ofSegment_of_plus (decides : v.isPassthrough segment = false)
    (unnegated : ∀ t, segment ≠ "!" ++ t) (plus : '+' ∈ segment.toList) :
    ofSegment v segment = conjunction ((segment.toList.splitOn '+').map String.ofList) := by
  have hhead : segment.toList.head? ≠ some '!' := fun h =>
    (head?_eq_bang.1 h).elim unnegated
  simp [ofSegment, decides, hhead, plus]

theorem IsBare.ofSegment_pair (h : IsBare v segment) (hpair : IsPair v segment f o) :
    ofSegment v segment = frameworkOption f o := by
  rw [h.ofSegment_eq, hpair.pair?_eq]

theorem IsUnpaired.ofSegment_eq (h : IsUnpaired v segment) :
    ofSegment v segment =
      if segment ∈ v.frameworks then framework segment
      else if segment ∈ v.options then option segment
      else inert segment := by
  rw [h.toIsBare.ofSegment_eq, pair?_eq_none.2 h.unpaired]
  simp [Vocabulary.isFramework, Vocabulary.isOption]

theorem reads_ofSegment (v : Vocabulary) (segment : String) :
    Reads v segment (ofSegment v segment) := by
  cases decides : v.isPassthrough segment with
  | true =>
    have hinert : ofSegment v segment = inert segment := by simp [ofSegment, decides]
    exact hinert ▸ .passthrough decides
  | false =>
    by_cases hbang : ∃ t, segment = "!" ++ t
    · obtain ⟨t, rfl⟩ := hbang
      exact ofSegment_negated decides ▸ .negated decides rfl
    have unnegated : ∀ t, segment ≠ "!" ++ t := fun t ht => hbang ⟨t, ht⟩
    by_cases plus : '+' ∈ segment.toList
    · rw [ofSegment_of_plus decides unnegated plus]
      refine .conjunction decides unnegated plus (fun t ht => ?_) ?_
      · obtain ⟨piece, hpiece, rfl⟩ := List.mem_map.1 ht
        rw [String.toList_ofList]
        exact Text.not_mem_of_mem_splitOn hpiece
      · rw [← String.toList_inj, String.toList_intercalate]
        simp [Function.comp_def, List.intercalate_splitOn]
    have bare : IsBare v segment := ⟨decides, unnegated, plus⟩
    by_cases hpair : ∃ f o, IsPair v segment f o
    · obtain ⟨f, o, hpair⟩ := hpair
      exact bare.ofSegment_pair hpair ▸ .pair bare hpair
    have unpaired : IsUnpaired v segment := ⟨bare, fun a b htext ha hb =>
      hpair (exists_isPair htext ha hb)⟩
    rw [unpaired.ofSegment_eq]
    split
    · exact .framework unpaired ‹_›
    split
    · exact .option unpaired ‹_› ‹_›
    · exact .literal unpaired ‹_› ‹_›

theorem Reads.ofSegment_eq (h : Reads v segment c) : ofSegment v segment = c := by
  cases h with
  | passthrough h => simp [ofSegment, h]
  | negated decides text =>
    subst text
    exact ofSegment_negated decides
  | @conjunction ts decides unnegated plus single text =>
    rw [ofSegment_of_plus decides unnegated plus]
    have hnonempty : ts ≠ [] := by
      rintro rfl
      simp [text] at plus
    have hsplit : segment.toList.splitOn '+' = ts.map String.toList := by
      rw [text, String.toList_intercalate]
      exact List.splitOn_intercalate '+' (by simpa using single) (by simpa using hnonempty)
    simp [hsplit, Function.comp_def]
  | pair bare pair => exact bare.ofSegment_pair pair
  | framework h declared => simp [h.ofSegment_eq, declared]
  | option h unselected declared => simp [h.ofSegment_eq, unselected, declared]
  | literal h unselected undeclared => simp [h.ofSegment_eq, unselected, undeclared]

/-- A segment is read by the rules and in no other way, and its reading writes it again. -/
theorem ofSegment_follows_rules (v : Vocabulary) (segment : String) :
    (∀ c, ofSegment v segment = c ↔ Reads v segment c) ∧ (ofSegment v segment).text = segment :=
  ⟨fun _ => ⟨fun h => h ▸ reads_ofSegment v segment, Reads.ofSegment_eq⟩,
    (reads_ofSegment v segment).text_eq⟩

example : "a-b" ∈ dashed.vocabulary.frameworks ∧
    ofSegment dashed.vocabulary "a-b" = frameworkOption "a" "b" := by decide +kernel

end Scaffold.Condition
