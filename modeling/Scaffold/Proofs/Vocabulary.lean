import Scaffold.Vocabulary

set_option autoImplicit false

/-!
# Accepted vocabularies

A vocabulary is accepted from a record or from a draft. However it came about, its conditions are
tokens, each of one kind only, and none of them is a token that never decides.
-/
namespace Scaffold

/-! ### Checks that pass -/

namespace Validation
variable {α β : Type}

theorem both_eq_ok {a : Checked α} {b : Checked β} {x : α} {y : β} :
    both a b = .ok (x, y) ↔ a = .ok x ∧ b = .ok y := by
  cases a with
  | error is => simp [both]
  | ok a =>
    cases b with
    | error is => simp [both]
    | ok b => simp [both]

theorem below_eq_ok {step : String} {c : Checked α} {x : α} : below step c = .ok x ↔ c = .ok x := by
  cases c with
  | error is => simp [below]
  | ok a => simp [below]

theorem ruled_eq_ok {rule : α → Option String} {v : Value} {c : Checked α} {x : α} :
    ruled rule v c = .ok x ↔ c = .ok x ∧ rule x = none := by
  cases c with
  | error is => simp [ruled]
  | ok a =>
    cases hrule : rule a with
    | none =>
      simp only [ruled, hrule, Except.ok.injEq, iff_self_and]
      exact fun h => h ▸ hrule
    | some message =>
      simp only [ruled, hrule, refuse, reduceCtorEq, Except.ok.injEq, false_iff, not_and]
      rintro rfl
      simp [hrule]

/-- A field keeps a rule if its default and all that its check lets pass do. -/
theorem field_keeps {p : α → Prop} {entries : List (Value × Value)} {name : String} {default x : α}
    {check : Value → Checked α} (hdefault : p default) (hcheck : ∀ v a, check v = .ok a → p a)
    (h : field entries name default check = .ok x) : p x := by
  unfold field at h
  split at h
  · cases h
    exact hdefault
  · exact hcheck _ _ (below_eq_ok.1 h)

end Validation

namespace Vocabulary
open Validation

/-! ### Tokens -/

/-- A text that is neither empty nor taken apart in names. -/
structure IsWord (t : String) : Prop where
  nonempty : t.toList ≠ []
  dot : '.' ∉ t.toList
  bang : '!' ∉ t.toList
  plus : '+' ∉ t.toList

theorem isWord_of_isToken {t : String} (h : isToken t = true) : IsWord t := by
  unfold isToken at h
  simp only [Bool.and_eq_true, Bool.not_eq_true', List.isEmpty_eq_false_iff, List.all_eq_true,
    bne_iff_ne, ne_eq] at h
  obtain ⟨hbody, hall⟩ := h
  have hsub : ∀ c ∈ t.toList, c ∈ (if t.toList.getLast? = some '\n' then t.toList.dropLast
      else t.toList) ∨ c = '\n' := by
    intro c hc
    split
    · rename_i hlast
      obtain ⟨front, hfront⟩ := List.getLast?_eq_some_iff.1 hlast
      rw [hfront] at hc ⊢
      simpa using hc
    · exact .inl hc
  have hnot : ∀ c, c ≠ '\n' → (c = '.' ∨ c = '!' ∨ c = '+') → c ∉ t.toList := by
    intro c hline hc hmem
    have hin := (hsub c hmem).resolve_right hline
    obtain ⟨⟨⟨hdot, hbang⟩, hplus⟩, -⟩ := hall c hin
    rcases hc with hc | hc | hc
    · exact hdot hc
    · exact hbang hc
    · exact hplus hc
  refine ⟨?_, hnot '.' (by decide) (by simp), hnot '!' (by decide) (by simp),
    hnot '+' (by decide) (by simp)⟩
  intro hnil
  rw [hnil] at hbody
  simp at hbody

theorem tokenFault?_eq_none {kind : String} {tokens : List String} :
    tokenFault? kind tokens = none ↔ (∀ t ∈ tokens, isToken t = true) ∧ tokens.Nodup := by
  unfold tokenFault?
  split
  · rename_i t hfind
    have hnot : isToken t = false := by simpa using List.find?_some hfind
    simp only [reduceCtorEq, false_iff, not_and]
    intro hall
    simp [hall t (List.mem_of_find?_eq_some hfind)] at hnot
  · rename_i hfind
    have hall : ∀ t ∈ tokens, isToken t = true := by simpa using List.find?_eq_none.1 hfind
    split
    · exact iff_of_true rfl ⟨hall, ‹_›⟩
    · simp_all

theorem markerFault?_eq_none {s : String} : markerFault? s = none ↔ isToken (bareMarker s) = true := by
  unfold markerFault?
  split <;> simp_all

/-! ### Vocabularies -/

inductive Accepted : Vocabulary → Prop where
  | ofRecord {entries : List (Value × Value)} {v : Vocabulary}
      (h : Vocabulary.ofRecord entries = .ok v) : Accepted v
  | ofDraft {d : Draft} {v : Vocabulary} (h : Vocabulary.ofDraft d = .ok v) : Accepted v

structure WellFormed (v : Vocabulary) : Prop where
  framework : ∀ f ∈ v.frameworks, isToken f = true
  frameworks_nodup : v.frameworks.Nodup
  option : ∀ o ∈ v.options, isToken o = true
  options_nodup : v.options.Nodup
  marker : isToken v.marker = true
  unshadowed : ∀ t, v.isPassthrough t = true → t ∉ v.frameworks ∧ t ∉ v.options
  apart : ∀ f ∈ v.frameworks, f ∉ v.options

theorem membersOf_eq_nil {xs : List String} : membersOf xs = [] ↔ xs = [] := by
  simp only [List.eq_nil_iff_forall_not_mem, mem_membersOf]

theorem fault?_eq_none {v : Vocabulary} :
    v.fault? = none ↔ (∀ t, v.isPassthrough t = true → t ∉ v.frameworks ∧ t ∉ v.options) ∧
      ∀ f ∈ v.frameworks, f ∉ v.options := by
  have hshadowed : v.shadowed = [] ↔
      ∀ t, v.isPassthrough t = true → t ∉ v.frameworks ∧ t ∉ v.options := by
    rw [shadowed, membersOf_eq_nil, List.filter_eq_nil_iff]
    simp [isPassthrough]
  have hoverlap : v.overlap = [] ↔ ∀ f ∈ v.frameworks, f ∉ v.options := by
    rw [overlap, membersOf_eq_nil, List.filter_eq_nil_iff]
    simp
  rw [← hshadowed, ← hoverlap]
  by_cases hnone : v.shadowed = []
  · by_cases hnone' : v.overlap = []
    · simp [fault?, hnone, hnone']
    · simp [fault?, hnone, hnone']
  · simp [fault?, hnone]

theorem accept_eq_ok {record : Value} {v : Vocabulary}
    {fields : Checked (List String × List String × List String × String ×
      List (String × String) × List Renaming)} :
    accept record fields = .ok v ↔
      ∃ d : Draft, fields = .ok (d.frameworks, d.options, d.passthrough, d.marker,
        d.componentExtensions, d.renamings) ∧ v = d.vocabulary ∧ v.fault? = none := by
  constructor
  · intro h
    unfold accept at h
    split at h
    · cases h
    · rename_i frameworks options passthrough marker extensions renamings
      simp only at h
      split at h
      · cases h
      · rename_i hfault
        cases h
        exact ⟨⟨frameworks, options, passthrough, marker, extensions, renamings⟩, rfl, rfl, hfault⟩
  · rintro ⟨d, rfl, rfl, hfault⟩
    simp only [accept, hfault]

theorem wellFormed_of_checked {d : Draft} (hframeworks : tokenFault? "framework" d.frameworks = none)
    (hoptions : tokenFault? "option" d.options = none) (hmarker : markerFault? d.marker = none)
    (hfault : d.vocabulary.fault? = none) : d.vocabulary.WellFormed := by
  obtain ⟨hframework, hframeworksNodup⟩ := tokenFault?_eq_none.1 hframeworks
  obtain ⟨hoption, hoptionsNodup⟩ := tokenFault?_eq_none.1 hoptions
  obtain ⟨hunshadowed, hapart⟩ := fault?_eq_none.1 hfault
  exact ⟨hframework, hframeworksNodup, hoption, hoptionsNodup, markerFault?_eq_none.1 hmarker,
    hunshadowed, hapart⟩

theorem Accepted.wellFormed {v : Vocabulary} (h : v.Accepted) : v.WellFormed := by
  cases h with
  | ofRecord h =>
    have tokens : ∀ {kind : String} {w : Value} {ts : List String},
        ruled (tokenFault? kind) w (checkSequence .notTuple checkText w) = .ok ts →
          tokenFault? kind ts = none := fun h => (ruled_eq_ok.1 h).2
    obtain ⟨d, hfields, rfl, hfault⟩ := accept_eq_ok.1 h
    obtain ⟨hframeworks, hfields⟩ := both_eq_ok.1 hfields
    obtain ⟨hoptions, hfields⟩ := both_eq_ok.1 hfields
    obtain ⟨-, hfields⟩ := both_eq_ok.1 hfields
    obtain ⟨hmarker, -⟩ := both_eq_ok.1 hfields
    exact wellFormed_of_checked
      (field_keeps (p := fun ts => tokenFault? "framework" ts = none) (by decide)
        (fun _ _ => tokens) hframeworks)
      (field_keeps (p := fun ts => tokenFault? "option" ts = none) (by decide)
        (fun _ _ => tokens) hoptions)
      (field_keeps (p := fun m => markerFault? m = none) (by decide)
        (fun _ _ h => (ruled_eq_ok.1 h).2) hmarker) hfault
  | @ofDraft d v h =>
    obtain ⟨d', hfields, rfl, hfault⟩ := accept_eq_ok.1 h
    obtain ⟨hframeworks, hfields⟩ := both_eq_ok.1 hfields
    obtain ⟨hoptions, hfields⟩ := both_eq_ok.1 hfields
    obtain ⟨-, hfields⟩ := both_eq_ok.1 hfields
    obtain ⟨hmarker, -⟩ := both_eq_ok.1 hfields
    exact wellFormed_of_checked (ruled_eq_ok.1 (below_eq_ok.1 hframeworks)).2
      (ruled_eq_ok.1 (below_eq_ok.1 hoptions)).2 (ruled_eq_ok.1 (below_eq_ok.1 hmarker)).2 hfault

theorem ofDraft_eq_ok {d : Draft} {v : Vocabulary} (h : ofDraft d = .ok v) :
    v.frameworks = d.frameworks ∧ v.options = d.options := by
  obtain ⟨d', hfields, rfl, -⟩ := accept_eq_ok.1 h
  obtain ⟨hframeworks, hfields⟩ := both_eq_ok.1 hfields
  obtain ⟨hoptions, -⟩ := both_eq_ok.1 hfields
  exact ⟨(Except.ok.inj (ruled_eq_ok.1 (below_eq_ok.1 hframeworks)).1).symm,
    (Except.ok.inj (ruled_eq_ok.1 (below_eq_ok.1 hoptions)).1).symm⟩

theorem WellFormed.not_passthrough {v : Vocabulary} (hv : v.WellFormed) {t : String}
    (ht : t ∈ v.frameworks ∨ t ∈ v.options) : v.isPassthrough t = false := by
  cases hpass : v.isPassthrough t with
  | false => rfl
  | true =>
    obtain ⟨hframeworks, hoptions⟩ := hv.unshadowed t hpass
    exact absurd ht (not_or.2 ⟨hframeworks, hoptions⟩)

theorem not_passthrough_default {v : Vocabulary} (hpass : v.passthrough = defaultPassthrough)
    {t : String} (h : '-' ∈ t.toList ∨ '!' ∈ t.toList ∨ '+' ∈ t.toList) (hmarker : t ≠ v.marker) :
    v.isPassthrough t = false := by
  have hnone : t ∉ defaultPassthrough := by
    have hplain : ∀ d ∈ defaultPassthrough,
        '-' ∉ d.toList ∧ '!' ∉ d.toList ∧ '+' ∉ d.toList := by decide
    intro hmem
    obtain ⟨hdash, hbang, hplus⟩ := hplain t hmem
    rcases h with h | h | h
    · exact hdash h
    · exact hbang h
    · exact hplus h
  unfold isPassthrough
  rw [hpass]
  simp [hnone, hmarker]

end Vocabulary

/-! ### Selections -/

namespace Selection
variable {v : Vocabulary} {s : Selection} {t : String}

/-- A selection of what a vocabulary has. -/
structure Fits (s : Selection) (v : Vocabulary) : Prop where
  framework : s.framework ∈ v.frameworks
  options : ∀ o ∈ s.options, o ∈ v.options

theorem Fits.has_framework (hs : s.Fits v) (hv : v.WellFormed) (ht : t ∈ v.frameworks) :
    s.has t = true ↔ s.framework = t := by
  have hnot : t ∉ s.options := fun h => hv.apart t ht (hs.options t h)
  simp [has, hasOption, hnot]

theorem Fits.has_option (hs : s.Fits v) (hv : v.WellFormed) (ht : t ∈ v.options) :
    s.has t = true ↔ t ∈ s.options := by
  have hnot : s.framework ≠ t := fun h => hv.apart _ hs.framework (h ▸ ht)
  simp [has, hasOption, hnot]

end Selection
end Scaffold
