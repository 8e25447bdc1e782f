import Mathlib.Data.List.Pairwise
import Scaffold.Condition
import Scaffold.Proofs.Text.Pieces
import Scaffold.Proofs.Vocabulary

set_option autoImplicit false

/-!
# How segments are read

A segment is read by the first rule that fits it. Dashes may stand inside of tokens too, so what
decides between a token and a pair, and between one pair and another, is the leftmost dash that has
a framework before it and an option after it.
-/
namespace Scaffold.Condition

variable {v : Vocabulary} {s : Selection} {segment f o a b : String}

/-! ### Dashes -/

theorem mem_dashSplits {cs front back : List Char} :
    (front, back) ∈ dashSplits cs ↔ cs = front ++ '-' :: back := by
  induction cs generalizing front with
  | nil => simp [dashSplits]
  | cons c cs ih =>
    have hlater : (front, back) ∈ (dashSplits cs).map (fun x => (c :: x.1, x.2)) ↔
        ∃ rest, front = c :: rest ∧ cs = rest ++ '-' :: back := by
      simp only [List.mem_map, Prod.mk.injEq, Prod.exists]
      constructor
      · rintro ⟨rest, back', hmem, rfl, rfl⟩
        exact ⟨rest, rfl, ih.1 hmem⟩
      · rintro ⟨rest, rfl, hcs⟩
        exact ⟨rest, back, ih.2 hcs, rfl, rfl⟩
    unfold dashSplits
    dsimp only
    cases front with
    | nil =>
      split
      · rename_i hc
        simp [hc, eq_comm]
      · rename_i hc
        simp [hlater, hc]
    | cons d front =>
      split
      · simp [hlater, eq_comm]
      · simp [hlater, eq_comm]

theorem dashSplits_rising (cs : List Char) :
    (dashSplits cs).Pairwise fun x y => x.1.length < y.1.length := by
  induction cs with
  | nil => exact List.Pairwise.nil
  | cons c cs ih =>
    have hlater : ((dashSplits cs).map fun x => (c :: x.1, x.2)).Pairwise
        fun x y => x.1.length < y.1.length :=
      List.pairwise_map.2 (ih.imp fun h => by simpa using h)
    unfold dashSplits
    dsimp only
    split
    · refine List.pairwise_cons.2 ⟨fun x hx => ?_, hlater⟩
      obtain ⟨y, -, rfl⟩ := List.mem_map.1 hx
      simp
    · exact hlater

/-- A segment is a framework and an option around a dash, and it is so at no dash further left. -/
structure IsPair (v : Vocabulary) (segment f o : String) : Prop where
  text : segment = f ++ "-" ++ o
  framework : f ∈ v.frameworks
  option : o ∈ v.options
  first : ∀ a b, segment = a ++ "-" ++ b → a ∈ v.frameworks → b ∈ v.options →
    f.length ≤ a.length

theorem eq_of_dash (h : f ++ "-" ++ o = a ++ "-" ++ b) (hlength : f.length = a.length) :
    f = a ∧ o = b := by
  have hlist := congrArg String.toList h
  simp only [String.toList_append, List.append_assoc] at hlist
  obtain ⟨hfront, hback⟩ := List.append_inj hlist (by simpa [← String.length_toList] using hlength)
  exact ⟨String.toList_inj.1 hfront, String.toList_inj.1 (by simpa using hback)⟩

theorem IsPair.unique (h : IsPair v segment f o) (h' : IsPair v segment a b) : f = a ∧ o = b := by
  have hle := h.first a b h'.text h'.framework h'.option
  have hge := h'.first f o h.text h.framework h.option
  exact eq_of_dash (h.text.symm.trans h'.text) (by omega)

theorem mem_splits : (a, b) ∈ (dashSplits segment.toList).map
    (fun x => (String.ofList x.1, String.ofList x.2)) ↔ segment = a ++ "-" ++ b := by
  simp only [List.mem_map, Prod.mk.injEq, Prod.exists]
  constructor
  · rintro ⟨front, back, hmem, rfl, rfl⟩
    rw [← String.toList_inj]
    simpa using mem_dashSplits.1 hmem
  · intro h
    refine ⟨a.toList, b.toList, mem_dashSplits.2 ?_, by simp, by simp⟩
    simp [h]

theorem pair?_eq_none :
    pair? v segment.toList = none ↔ ∀ a b, segment = a ++ "-" ++ b → a ∈ v.frameworks →
      b ∉ v.options := by
  unfold pair?
  rw [List.find?_eq_none]
  constructor
  · intro h a b htext ha hb
    have hnot := h (a, b) (mem_splits.2 htext)
    simp [Vocabulary.isFramework, Vocabulary.isOption, ha, hb] at hnot
  · rintro h ⟨a, b⟩ hmem
    have hnot := h a b (mem_splits.1 hmem)
    simpa [Vocabulary.isFramework, Vocabulary.isOption] using hnot

theorem pair?_isPair (h : pair? v segment.toList = some (f, o)) : IsPair v segment f o := by
  unfold pair? at h
  obtain ⟨hpair, before, after, hsplits, hbefore⟩ := List.find?_eq_some_iff_append.1 h
  have hmem : segment = f ++ "-" ++ o := mem_splits.1 (hsplits ▸ by simp)
  simp only [Vocabulary.isFramework, Vocabulary.isOption, Bool.and_eq_true,
    List.contains_iff_mem] at hpair
  refine ⟨hmem, hpair.1, hpair.2, fun a b htext ha hb => ?_⟩
  have hrising : ((dashSplits segment.toList).map
      (fun x => (String.ofList x.1, String.ofList x.2))).Pairwise
        fun x y => x.1.length < y.1.length :=
    List.pairwise_map.2 ((dashSplits_rising _).imp fun h => by simpa using h)
  have hin := mem_splits.2 htext
  rw [hsplits] at hin hrising
  rcases List.mem_append.1 hin with hin | hin
  · have hnot := hbefore _ hin
    simp [Vocabulary.isFramework, Vocabulary.isOption, ha, hb] at hnot
  · rcases List.mem_cons.1 hin with heq | hin
    · cases heq
      exact Nat.le_refl _
    · exact Nat.le_of_lt ((List.pairwise_cons.1 (List.pairwise_append.1 hrising).2.1).1 _ hin)

theorem IsPair.pair?_eq (h : IsPair v segment f o) : pair? v segment.toList = some (f, o) := by
  cases hpair : pair? v segment.toList with
  | none => exact absurd h.option (pair?_eq_none.1 hpair f o h.text h.framework)
  | some found =>
    obtain ⟨rfl, rfl⟩ := h.unique (pair?_isPair hpair)
    rfl

theorem exists_isPair (htext : segment = a ++ "-" ++ b) (ha : a ∈ v.frameworks)
    (hb : b ∈ v.options) : ∃ f o, IsPair v segment f o := by
  cases hpair : pair? v segment.toList with
  | none => exact absurd hb (pair?_eq_none.1 hpair a b htext ha)
  | some found => exact ⟨found.1, found.2, pair?_isPair hpair⟩

/-! ### What a segment says -/

theorem holds_of_not_gating {c : Condition} (h : c.isGating = false) (s : Selection) :
    c.holds s = true := by
  cases c with
  | inert t => rfl
  | _ => cases h

theorem head?_eq_bang : segment.toList.head? = some '!' ↔ ∃ t, segment = "!" ++ t := by
  rw [List.head?_eq_some_iff]
  constructor
  · rintro ⟨rest, hrest⟩
    exact ⟨String.ofList rest, by rw [← String.toList_inj]; simpa using hrest⟩
  · rintro ⟨t, rfl⟩
    exact ⟨t.toList, by simp⟩

/-- A segment that neither stands outside of conditions nor is marked as one by its characters. -/
structure IsBare (v : Vocabulary) (segment : String) : Prop where
  decides : v.isPassthrough segment = false
  unnegated : ∀ t, segment ≠ "!" ++ t
  single : '+' ∉ segment.toList

/-- Such a segment says what the pair at its leftmost dash says, and else what it says as a
token. -/
theorem IsBare.ofSegment_eq (h : IsBare v segment) :
    ofSegment v segment =
      match pair? v segment.toList with
      | some (f, o) => frameworkOption f o
      | none =>
        if v.isFramework segment then framework segment
        else if v.isOption segment then option segment
        else inert segment := by
  have hhead : segment.toList.head? ≠ some '!' := fun hbang =>
    (head?_eq_bang.1 hbang).elim h.unnegated
  cases hpair : pair? v segment.toList with
  | none => simp [ofSegment, h.decides, hhead, h.single, hpair]
  | some pair => simp [ofSegment, h.decides, hhead, h.single, hpair]

theorem ofSegment_word (hpass : v.isPassthrough segment = false)
    (hbang : '!' ∉ segment.toList) (hplus : '+' ∉ segment.toList) :
    ofSegment v segment =
      match pair? v segment.toList with
      | some (f, o) => frameworkOption f o
      | none =>
        if v.isFramework segment then framework segment
        else if v.isOption segment then option segment
        else inert segment :=
  IsBare.ofSegment_eq ⟨hpass, fun t ht => hbang (by simp [ht]), hplus⟩

theorem holds_pair (hpass : v.isPassthrough segment = false)
    (hbang : '!' ∉ segment.toList) (hplus : '+' ∉ segment.toList) (h : IsPair v segment f o) :
    (ofSegment v segment).holds s = true ↔ s.framework = f ∧ o ∈ s.options := by
  rw [ofSegment_word hpass hbang hplus, h.pair?_eq]
  simp [holds, Selection.hasOption]

theorem holds_framework (hv : v.WellFormed) (hf : f ∈ v.frameworks)
    (hpair : ∀ a b, ¬ IsPair v f a b) :
    (ofSegment v f).holds s = true ↔ s.framework = f := by
  have hword := Vocabulary.isWord_of_isToken (hv.framework f hf)
  have hnone : pair? v f.toList = none := pair?_eq_none.2 fun a b htext ha hb =>
    have ⟨c, d, h⟩ := exists_isPair htext ha hb
    hpair c d h
  rw [ofSegment_word (hv.not_passthrough (.inl hf)) hword.bang hword.plus, hnone]
  simp [Vocabulary.isFramework, hf, holds]

theorem holds_option (hv : v.WellFormed) (ho : o ∈ v.options)
    (hpair : ∀ a b, ¬ IsPair v o a b) :
    (ofSegment v o).holds s = true ↔ o ∈ s.options := by
  have hword := Vocabulary.isWord_of_isToken (hv.option o ho)
  have hnone : pair? v o.toList = none := pair?_eq_none.2 fun a b htext ha hb =>
    have ⟨c, d, h⟩ := exists_isPair htext ha hb
    hpair c d h
  have hnot : o ∉ v.frameworks := fun h => hv.apart o h ho
  rw [ofSegment_word (hv.not_passthrough (.inr ho)) hword.bang hword.plus, hnone]
  simp [Vocabulary.isFramework, Vocabulary.isOption, ho, hnot, holds, Selection.hasOption]

theorem ofSegment_negated (hpass : v.isPassthrough ("!" ++ f) = false) :
    ofSegment v ("!" ++ f) = negated f := by
  unfold ofSegment
  simp [hpass]

theorem ofSegment_conjunction (hpass : v.isPassthrough (f ++ "+" ++ o) = false)
    (hf : Vocabulary.IsWord f) (ho : '+' ∉ o.toList) :
    ofSegment v (f ++ "+" ++ o) = conjunction [f, o] := by
  have hhead : (f ++ "+" ++ o).toList.head? ≠ some '!' := by
    obtain ⟨c, rest, hcons⟩ := List.exists_cons_of_ne_nil hf.nonempty
    have hbang := hf.bang
    rw [hcons, List.mem_cons, not_or] at hbang
    simpa [hcons] using fun h : c = '!' => hbang.1 h.symm
  have hsplit : (f ++ "+" ++ o).toList.splitOn '+' = [f.toList, o.toList] := by
    have hpieces : ['+'].intercalate [f.toList, o.toList] = (f ++ "+" ++ o).toList := by
      simp [List.intercalate]
    rw [← hpieces]
    exact List.splitOn_intercalate _ (by simp [hf.plus, ho]) (by simp)
  unfold ofSegment
  simp only [hpass, Bool.false_eq_true, if_false, hhead, hsplit]
  simp

end Scaffold.Condition
