import Scaffold.Proofs.Vocabulary

set_option autoImplicit false

/-!
# Which vocabularies are accepted

A vocabulary is accepted if its frameworks, its options and its bare marker are tokens and stand
apart from each other and from the tokens that never decide. A token is clear of the characters that
names are put together with and of blanks, but one line feed may end it: with a token that ends so,
a vocabulary is accepted that should not be, and there is no other.
-/
namespace Scaffold

/-! ### Records of tokens -/

namespace Validation

theorem checkItems_texts (texts : List String) :
    checkItems checkText (texts.map .text) = .ok texts := by
  suffices h : ∀ k, all (((texts.map Value.text).zipIdx k).map fun x =>
      below (toString x.2) (checkText x.1)) = .ok texts from h 0
  induction texts with
  | nil => exact fun _ => rfl
  | cons t texts ih =>
    intro k
    rw [List.map_cons, List.zipIdx_cons, List.map_cons, all, ih (k + 1)]
    rfl

end Validation

namespace Vocabulary
open Validation

variable {d : Draft} {v : Vocabulary} {t : String}

def tokenRecord (frameworks options passthrough : List String) (marker : String) :
    List (Value × Value) :=
  [(.text "frameworks", .tuple (frameworks.map .text)),
    (.text "options", .tuple (options.map .text)),
    (.text "passthrough_tokens", .tuple (passthrough.map .text)),
    (.text "render_marker", .text marker)]

def tokenDraft (frameworks options passthrough : List String) (marker : String) : Draft where
  frameworks := frameworks
  options := options
  passthrough := passthrough
  marker := marker

/-- What is left to check of fields that have the right kinds. -/
structure Draft.Keeps (d : Draft) : Prop where
  frameworks : tokenFault? "framework" d.frameworks = none
  options : tokenFault? "option" d.options = none
  marker : markerFault? d.marker = none
  fault : d.vocabulary.fault? = none

/-- The fields of a draft, each with the value that it was read from. -/
def Draft.checked (d : Draft) (frameworks options marker : Value) :
    Checked (List String × List String × List String × String × List (String × String) ×
      List Renaming) :=
  both (below "frameworks" (ruled (tokenFault? "framework") frameworks (.ok d.frameworks)))
    (both (below "options" (ruled (tokenFault? "option") options (.ok d.options)))
      (both (.ok d.passthrough)
        (both (below "render_marker" (ruled markerFault? marker (.ok d.marker)))
          (both (.ok d.componentExtensions) (.ok d.renamings)))))

theorem accept_checked {record frameworks options marker : Value} :
    accept record (d.checked frameworks options marker) = .ok v ↔ d.Keeps ∧ v = d.vocabulary := by
  rw [accept_eq_ok]
  simp only [Draft.checked, both_eq_ok, below_eq_ok, ruled_eq_ok, Except.ok.injEq]
  constructor
  · rintro ⟨d', ⟨⟨hf, hframeworks⟩, ⟨ho, hoptions⟩, hp, ⟨hm, hmarker⟩, hc, hr⟩, rfl, hfault⟩
    have hsame : d' = d := by
      cases d
      cases d'
      simp_all
    subst hsame
    exact ⟨⟨hframeworks, hoptions, hmarker, hfault⟩, rfl⟩
  · rintro ⟨h, rfl⟩
    exact ⟨d, ⟨⟨rfl, h.frameworks⟩, ⟨rfl, h.options⟩, rfl, ⟨rfl, h.marker⟩, rfl, rfl⟩, rfl, h.fault⟩

theorem ofDraft_eq_checked (d : Draft) :
    ∃ frameworks options marker : Value,
      ofDraft d = accept (.dict d.record) (d.checked frameworks options marker) :=
  ⟨_, _, _, rfl⟩

theorem ofRecord_tokenRecord (frameworks options passthrough : List String) (marker : String) :
    ofRecord (tokenRecord frameworks options passthrough marker) =
      accept (.dict (tokenRecord frameworks options passthrough marker))
        ((tokenDraft frameworks options passthrough marker).checked
          (.tuple (frameworks.map .text)) (.tuple (options.map .text)) (.text marker)) := by
  have hsequence : ∀ texts : List String,
      checkSequence .notTuple checkText (.tuple (texts.map .text)) = .ok texts := checkItems_texts
  have hframeworks : Value.lookup? (tokenRecord frameworks options passthrough marker)
      (.text "frameworks") = some (.tuple (frameworks.map .text)) := rfl
  have hoptions : Value.lookup? (tokenRecord frameworks options passthrough marker)
      (.text "options") = some (.tuple (options.map .text)) := rfl
  have hpassthrough : Value.lookup? (tokenRecord frameworks options passthrough marker)
      (.text "passthrough_tokens") = some (.tuple (passthrough.map .text)) := rfl
  simp only [ofRecord, field, hframeworks, hoptions, hpassthrough, hsequence]
  rfl

/-! ### Tokens and what ends them -/

/-- A text that has characters, all of them fit for tokens. -/
structure IsClear (t : String) : Prop where
  nonempty : t ≠ ""
  clear : ∀ c ∈ t.toList, c ≠ '.' ∧ c ≠ '!' ∧ c ≠ '+' ∧ Text.isBlank c = false

/-- Such a text, or one and a line feed. -/
def IsClearLine (t : String) : Prop := IsClear t ∨ ∃ body, IsClear body ∧ t = body ++ "\n"

theorem isClear_ofList {body : List Char} :
    IsClear (String.ofList body) ↔ (!body.isEmpty && body.all fun c =>
      c != '.' && c != '!' && c != '+' && !Text.isBlank c) = true := by
  have hiff : IsClear (String.ofList body) ↔ String.ofList body ≠ "" ∧
      ∀ c ∈ (String.ofList body).toList, c ≠ '.' ∧ c ≠ '!' ∧ c ≠ '+' ∧ Text.isBlank c = false :=
    ⟨fun h => ⟨h.nonempty, h.clear⟩, fun h => ⟨h.1, h.2⟩⟩
  rw [hiff]
  simp [and_assoc]

theorem IsClear.unended (h : IsClear t) : t.toList.getLast? ≠ some '\n' := by
  intro hlast
  have hblank := (h.clear '\n' (List.mem_of_getLast? hlast)).2.2.2
  revert hblank
  decide

theorem isToken_iff : isToken t = true ↔ IsClearLine t := by
  unfold isToken
  dsimp only
  -- a last line feed is taken off before the characters are looked at
  by_cases hlast : t.toList.getLast? = some '\n'
  · obtain ⟨front, hfront⟩ := List.getLast?_eq_some_iff.1 hlast
    have ht : t = String.ofList front ++ "\n" := by
      rw [← String.toList_inj, hfront]
      simp
    rw [if_pos hlast, hfront, List.dropLast_concat, ← isClear_ofList]
    constructor
    · exact fun h => .inr ⟨_, h, ht⟩
    · rintro (h | ⟨body, h, heq⟩)
      · exact absurd hlast h.unended
      · rw [heq] at ht
        exact (String.append_left_inj _).1 ht ▸ h
  · rw [if_neg hlast, ← isClear_ofList, String.ofList_toList]
    constructor
    · exact .inl
    · rintro (h | ⟨body, -, rfl⟩)
      · exact h
      · simp at hlast

theorem isClear_iff : IsClear t ↔ IsClearLine t ∧ t.toList.getLast? ≠ some '\n' := by
  constructor
  · exact fun h => ⟨.inl h, h.unended⟩
  · rintro ⟨h | ⟨body, -, rfl⟩, hlast⟩
    · exact h
    · simp at hlast

/-! ### What a vocabulary is accepted for -/

/-- The tokens of a draft are tokens by this rule, each of one kind only. -/
structure Draft.Follows (rule : String → Prop) (d : Draft) : Prop where
  framework : ∀ f ∈ d.frameworks, rule f
  frameworks_nodup : d.frameworks.Nodup
  option : ∀ o ∈ d.options, rule o
  options_nodup : d.options.Nodup
  marker : rule (bareMarker d.marker)
  apart : ∀ f ∈ d.frameworks, f ∉ d.options
  unshadowed : ∀ t, t ∈ d.frameworks ∨ t ∈ d.options →
    t ∉ d.passthrough ∧ t ≠ bareMarker d.marker

theorem keeps_iff : d.Keeps ↔ d.Follows IsClearLine := by
  constructor
  · rintro ⟨hframeworks, hoptions, hmarker, hfault⟩
    obtain ⟨hframework, hframeworksNodup⟩ := tokenFault?_eq_none.1 hframeworks
    obtain ⟨hoption, hoptionsNodup⟩ := tokenFault?_eq_none.1 hoptions
    obtain ⟨hunshadowed, hapart⟩ := fault?_eq_none.1 hfault
    refine ⟨fun f hf => isToken_iff.1 (hframework f hf), hframeworksNodup,
      fun o ho => isToken_iff.1 (hoption o ho), hoptionsNodup,
      isToken_iff.1 (markerFault?_eq_none.1 hmarker), hapart, fun t ht => ?_⟩
    have hdecides : d.vocabulary.isPassthrough t ≠ true := fun hpass =>
      absurd ht (not_or.2 (hunshadowed t hpass))
    simpa [isPassthrough, Draft.vocabulary] using hdecides
  · intro h
    refine ⟨tokenFault?_eq_none.2 ⟨fun f hf => isToken_iff.2 (h.framework f hf), h.frameworks_nodup⟩,
      tokenFault?_eq_none.2 ⟨fun o ho => isToken_iff.2 (h.option o ho), h.options_nodup⟩,
      markerFault?_eq_none.2 (isToken_iff.2 h.marker), fault?_eq_none.2 ⟨fun t hpass => ?_, h.apart⟩⟩
    rw [← not_or]
    intro ht
    obtain ⟨hpassthrough, hmarker⟩ := h.unshadowed t ht
    simp [isPassthrough, Draft.vocabulary, hpassthrough, hmarker] at hpass

theorem Draft.Follows.mono {rule rule' : String → Prop} (h : d.Follows rule)
    (hrule : ∀ t, t ∈ d.frameworks ∨ t ∈ d.options ∨ t = bareMarker d.marker → rule t → rule' t) :
    d.Follows rule' :=
  ⟨fun f hf => hrule f (.inl hf) (h.framework f hf), h.frameworks_nodup,
    fun o ho => hrule o (.inr (.inl ho)) (h.option o ho), h.options_nodup,
    hrule _ (.inr (.inr rfl)) h.marker, h.apart, h.unshadowed⟩

/-- A vocabulary is accepted for its tokens if these follow the rule up to a line feed at the end of
any of them; the drafts that follow the rule are the accepted ones without such an end. -/
theorem accepted_iff_follows (frameworks options passthrough : List String) (marker : String) :
    (∀ v, ofRecord (tokenRecord frameworks options passthrough marker) = .ok v ↔
      (tokenDraft frameworks options passthrough marker).Follows IsClearLine ∧
        v = (tokenDraft frameworks options passthrough marker).vocabulary) ∧
    (∀ v, ofDraft (tokenDraft frameworks options passthrough marker) = .ok v ↔
      (tokenDraft frameworks options passthrough marker).Follows IsClearLine ∧
        v = (tokenDraft frameworks options passthrough marker).vocabulary) ∧
    ((tokenDraft frameworks options passthrough marker).Follows IsClear ↔
      (∃ v, ofRecord (tokenRecord frameworks options passthrough marker) = .ok v) ∧
        ∀ t, t ∈ frameworks ∨ t ∈ options ∨ t = bareMarker marker →
          t.toList.getLast? ≠ some '\n') := by
  let d := tokenDraft frameworks options passthrough marker
  have hrecord : ∀ v, ofRecord (tokenRecord frameworks options passthrough marker) = .ok v ↔
      d.Follows IsClearLine ∧ v = d.vocabulary := fun v => by
    rw [ofRecord_tokenRecord, accept_checked, keeps_iff]
  refine ⟨hrecord, fun v => ?_, fun h => ⟨?_, fun t ht => ?_⟩, fun ⟨⟨v, hv⟩, hends⟩ => ?_⟩
  · obtain ⟨_, _, _, hchecked⟩ := ofDraft_eq_checked d
    rw [hchecked, accept_checked, keeps_iff]
  · exact ⟨_, (hrecord _).2 ⟨h.mono fun _ _ => .inl, rfl⟩⟩
  · have hclear : IsClear t := by
      rcases ht with ht | ht | rfl
      · exact h.framework t ht
      · exact h.option t ht
      · exact h.marker
    exact hclear.unended
  · exact ((hrecord v).1 hv).1.mono fun t ht hline => isClear_iff.2 ⟨hline, hends t ht⟩

theorem line_feed_passes :
    (∃ v, ofRecord (tokenRecord ["vue\n"] [] defaultPassthrough defaultMarker) = .ok v) ∧
      ¬(tokenDraft ["vue\n"] [] defaultPassthrough defaultMarker).Follows IsClear := by
  refine ⟨⟨_, by rfl⟩, fun h => ?_⟩
  have hclear : IsClear "vue\n" := h.framework _ (by simp [tokenDraft])
  exact hclear.unended (by decide)

end Vocabulary
end Scaffold
