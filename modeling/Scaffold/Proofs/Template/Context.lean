import Mathlib.Data.List.Nodup
import Scaffold.Proofs.Vocabulary
import Scaffold.Template.Context
import Scaffold.Template.Evaluation

set_option autoImplicit false

/-!
# What a template finds in its context

Of the layers of a context the uppermost that holds a name counts, and that is the layer of the
questions on the selection. Each framework has a question of its own, under a name that keeps only
the word characters of the framework's. So the question under a name is the one that is meant by it,
unless another framework has that name as well.
-/
namespace Scaffold

/-! ### Names of questions -/

theorem Text.eq_of_helperName {f t : String} (h : Text.helperName f = "is_" ++ t)
    (ht : '_' ∉ t.toList) : f = t := by
  have hchars : (f.toList.map fun c => if Text.isWord c then c else '_') = t.toList := by
    have hlist := congrArg String.toList h
    simpa [Text.helperName] using hlist
  have hword : ∀ c ∈ f.toList, (if Text.isWord c then c else '_') = c := by
    intro c hc
    split
    · rfl
    · rename_i hother
      have hmem : '_' ∈ t.toList := by
        rw [← hchars]
        exact List.mem_map.2 ⟨c, hc, by simp [hother]⟩
      exact absurd hmem ht
  rw [List.map_congr_left hword, List.map_id'] at hchars
  exact String.toList_inj.1 hchars

namespace Template

namespace Variables
variable {vs under upper : Variables} {n m : String} {v : Value}

theorem lookup_overlay (under upper : Variables) (m : String) :
    (overlay under upper).lookup m = (upper.reverse.lookup m).or (under.lookup m) := by
  induction upper generalizing under with
  | nil => rfl
  | cons e upper ih =>
    obtain ⟨n, v⟩ := e
    change (overlay (under.set n v) upper).lookup m = _
    rw [ih, lookup_set, List.reverse_cons, List.lookup_append, Option.or_assoc]
    by_cases h : m = n
    · simp [h]
    · have hne : (m == n) = false := by simpa using h
      simp [h, List.lookup_cons, hne]

theorem names_set (vs : Variables) (n : String) (v : Value) :
    (vs.set n v).map Prod.fst = if n ∈ vs.map Prod.fst then vs.map Prod.fst
      else vs.map Prod.fst ++ [n] := by
  induction vs with
  | nil => simp [set]
  | cons e vs ih =>
    obtain ⟨k, w⟩ := e
    by_cases h : k = n
    · simp [set, h]
    · have hne : n ≠ k := fun heq => h heq.symm
      simp only [set, if_neg h, List.map_cons, ih, List.mem_cons, hne, false_or]
      split <;> simp

theorem set_nodup (h : (vs.map Prod.fst).Nodup) : ((vs.set n v).map Prod.fst).Nodup := by
  rw [names_set]
  split
  · exact h
  · rename_i hnew
    refine List.nodup_append.2 ⟨h, by simp, ?_⟩
    rintro k hk _ hn rfl
    exact hnew (List.mem_singleton.1 hn ▸ hk)

theorem overlay_nodup (h : (under.map Prod.fst).Nodup) :
    ((overlay under upper).map Prod.fst).Nodup := by
  induction upper generalizing under with
  | nil => exact h
  | cons e upper ih => exact ih (set_nodup h)

theorem mem_of_lookup (h : vs.lookup n = some v) : (n, v) ∈ vs := by
  obtain ⟨front, back, heq, -⟩ := List.lookup_eq_some_iff.1 h
  simp [heq]

theorem lookup_of_mem (hmem : (n, v) ∈ vs) (hsame : ∀ w, (n, w) ∈ vs → w = v) :
    vs.lookup n = some v := by
  cases hfound : vs.lookup n with
  | none =>
    rw [List.lookup_eq_none_iff] at hfound
    simpa using hfound _ hmem
  | some w => rw [hsame w (mem_of_lookup hfound)]

theorem lookup_reverse (h : (vs.map Prod.fst).Nodup) (m : String) :
    vs.reverse.lookup m = vs.lookup m := by
  cases hfound : vs.lookup m with
  | none =>
    rw [List.lookup_eq_none_iff] at hfound ⊢
    simpa using hfound
  | some v =>
    have hmem := mem_of_lookup hfound
    refine lookup_of_mem (List.mem_reverse.2 hmem) fun w hw => ?_
    have hsame := List.inj_on_of_nodup_map h (List.mem_reverse.1 hw) hmem rfl
    exact (Prod.mk.inj hsame).2

end Variables

/-! ### Questions -/

variable {base bindings : Variables} {vocabulary : Option Vocabulary} {v : Vocabulary}
  {s : Selection} {f : String} {frameworks : List String} {env : Environment}

theorem mem_askedFrameworks :
    f ∈ askedFrameworks (some v) s ↔ f ∈ v.frameworks ∨ (f = s.framework ∧ f ≠ "") := by
  by_cases hown : s.framework = "" ∨ s.framework ∈ v.frameworks
  · have hasked : askedFrameworks (some v) s = v.frameworks := by
      rcases hown with h | h <;> simp [askedFrameworks, h]
    rw [hasked]
    refine ⟨.inl, ?_⟩
    rintro (h | ⟨rfl, hne⟩)
    · exact h
    · exact hown.resolve_left hne
  · obtain ⟨hne, hnew⟩ := not_or.1 hown
    have hasked : askedFrameworks (some v) s = v.frameworks ++ [s.framework] := by
      simp [askedFrameworks, hne, hnew]
    rw [hasked, List.mem_append, List.mem_singleton]
    exact or_congr_right ⟨fun h => ⟨h, h ▸ hne⟩, And.left⟩

def ownQuestion (s : Selection) (f : String) : String × Value :=
  (Text.helperName f, .predicate (.isSelected s.framework f))

/-- Under a name that frameworks share stands the question on the last of them, and the other
questions are found under the names that no framework has. -/
theorem lookup_questions (s : Selection) (frameworks : List String) (m : String) :
    (questions s frameworks).lookup m =
      ((frameworks.map (ownQuestion s)).reverse.lookup m).or ((questions s []).lookup m) :=
  Variables.lookup_overlay ..

theorem lookup_contextFor (base : Variables) (vocabulary : Option Vocabulary) (bindings : Variables)
    (s : Selection) (m : String) :
    (contextFor base vocabulary bindings s).lookup m =
      ((questions s (askedFrameworks vocabulary s)).lookup m).or
        ((((Variables.overlay base bindings).set "framework" (.text s.framework)).set "options"
          (.list (s.options.map .text))).lookup m) := by
  have hnodup : ((questions s (askedFrameworks vocabulary s)).map Prod.fst).Nodup := by
    refine Variables.overlay_nodup ?_
    simp only [List.map_cons, List.map_nil]
    decide
  unfold contextFor
  rw [Variables.lookup_overlay, Variables.lookup_reverse hnodup]

theorem lookup_own (hf : f ∈ frameworks)
    (hsame : ∀ g ∈ frameworks, Text.helperName g = Text.helperName f → g = f) :
    (questions s frameworks).lookup (Text.helperName f) =
      some (.predicate (.isSelected s.framework f)) := by
  rw [lookup_questions, Variables.lookup_of_mem, Option.some_or]
  · exact List.mem_reverse.2 (List.mem_map.2 ⟨f, hf, rfl⟩)
  · intro w hw
    obtain ⟨g, hg, heq⟩ := List.mem_map.1 (List.mem_reverse.1 hw)
    obtain ⟨hname, rfl⟩ := Prod.mk.inj heq
    rw [hsame g hg hname]

theorem lookup_isFramework (hnone : "framework" ∉ frameworks) :
    (questions s frameworks).lookup "is_framework" =
      some (.predicate (.isFramework s.framework)) := by
  -- a replaced character would show as an underscore, and `framework` has none
  have hfree : (frameworks.map (ownQuestion s)).reverse.lookup "is_framework" = none := by
    rw [List.lookup_eq_none_iff]
    intro p hp
    obtain ⟨g, hg, rfl⟩ := List.mem_map.1 (List.mem_reverse.1 hp)
    have hne : "is_framework" ≠ Text.helperName g := fun heq =>
      hnone (Text.eq_of_helperName (t := "framework") heq.symm (by decide) ▸ hg)
    simpa [ownQuestion] using hne
  rw [lookup_questions, hfree, Option.none_or]
  rfl

theorem call_isFramework (env : Environment) (selected x : String) :
    env.call (.predicate (.isFramework selected)) ⟨[.text x], []⟩ = .ok (.bool (selected == x)) := by
  rfl

theorem call_isSelected (env : Environment) (selected framework : String) (a : Arguments) :
    env.call (.predicate (.isSelected selected framework)) a =
      if a.placed = [] ∧ a.named = [] then .ok (.bool (selected == framework))
      else misused .wrongType := by
  change ((a.onlyPlaced 0 0).bind fun _ => Except.ok (selected == framework)).map Value.bool = _
  obtain ⟨placed, named⟩ := a
  rcases placed with _ | ⟨w, placed⟩ <;> rcases named with _ | ⟨e, named⟩ <;> rfl

/-- The question on any framework is there unless one is called by its name, and so is the question
on each framework that shares its name with no other. -/
theorem context_tells_framework (base bindings : Variables) (v : Vocabulary) (s : Selection) :
    ∃ c, context base (some v) bindings (some s) = .ok c ∧
      ("framework" ∉ v.frameworks → s.framework ≠ "framework" →
        ∃ question, c.lookup "is_framework" = some question ∧
          ∀ (env : Environment) (x : String),
            env.call question ⟨[.text x], []⟩ = .ok (.bool (s.framework == x))) ∧
      ∀ f, f ∈ v.frameworks ∨ (f = s.framework ∧ f ≠ "") →
        (∀ g, g ∈ v.frameworks ∨ g = s.framework →
          Text.helperName g = Text.helperName f → g = f) →
        ∃ question, c.lookup (Text.helperName f) = some question ∧
          ∀ (env : Environment) (a : Arguments), env.call question a =
            if a.placed = [] ∧ a.named = [] then .ok (.bool (s.framework == f))
            else misused .wrongType := by
  refine ⟨contextFor base (some v) bindings s, rfl, fun hdeclared hselected => ?_,
    fun f hf hsame => ?_⟩
  · have hnone : "framework" ∉ askedFrameworks (some v) s := fun h =>
      (mem_askedFrameworks.1 h).elim hdeclared fun h => hselected h.1.symm
    refine ⟨.predicate (.isFramework s.framework), ?_, fun env x => call_isFramework env _ x⟩
    rw [lookup_contextFor, lookup_isFramework hnone, Option.some_or]
  · refine ⟨.predicate (.isSelected s.framework f), ?_, fun env a => call_isSelected env _ f a⟩
    rw [lookup_contextFor, lookup_own (mem_askedFrameworks.2 hf), Option.some_or]
    exact fun g hg => hsame g ((mem_askedFrameworks.1 hg).imp_right And.left)

def kits : Vocabulary.Draft where
  frameworks := ["solid-start", "vue"]

theorem kits_accepted : kits.vocabulary.Accepted := .ofDraft (d := kits) (by rfl)

/-- Neither the selected framework need be declared nor the names be free below. -/
theorem kits_told :
    kits.vocabulary.Accepted ∧
    ∃ c, context [("is_framework", .text "base")] (some kits.vocabulary)
        [("framework", .text "vue"), ("is_vue", .text "call")] (some ⟨"qwik", ["pug"]⟩) = .ok c ∧
      (∃ question, c.lookup "is_framework" = some question ∧ ∀ (env : Environment) (x : String),
        env.call question ⟨[.text x], []⟩ = .ok (.bool ("qwik" == x))) ∧
      ∀ f ∈ ["solid-start", "vue", "qwik"], ∃ question,
        c.lookup (Text.helperName f) = some question ∧
          ∀ (env : Environment) (a : Arguments), env.call question a =
            if a.placed = [] ∧ a.named = [] then .ok (.bool ("qwik" == f))
            else misused .wrongType := by
  have hnodup : (["solid-start", "vue", "qwik"].map Text.helperName).Nodup := by decide +kernel
  obtain ⟨c, hc, hany, hown⟩ := context_tells_framework [("is_framework", .text "base")]
    [("framework", .text "vue"), ("is_vue", .text "call")] kits.vocabulary ⟨"qwik", ["pug"]⟩
  have hmem : ∀ g, g ∈ kits.vocabulary.frameworks ∨ g = "qwik" ↔
      g ∈ ["solid-start", "vue", "qwik"] := fun g => by
    simp [kits, Vocabulary.Draft.vocabulary, or_assoc]
  refine ⟨kits_accepted, c, hc, hany (by decide) (by decide), fun f hf => hown f ?_ fun g hg h => ?_⟩
  · refine ((hmem f).2 hf).imp_right fun heq => ⟨heq, ?_⟩
    rw [heq]
    decide
  · exact List.inj_on_of_nodup_map hnodup ((hmem g).1 hg) hf h

/-! ### Frameworks that look alike -/

/-- Frameworks of which two differ in a character that names of questions have not, and one that is
called what the question on any framework asks for. -/
def alike : Vocabulary.Draft where
  frameworks := ["framework", "solid-start", "solid_start", "vue"]

theorem alike_accepted : alike.vocabulary.Accepted := .ofDraft (d := alike) (by rfl)

theorem alike_questions (s : Selection) : alike.frameworks.map (ownQuestion s) =
    [("is_framework", .predicate (.isSelected s.framework "framework")),
      ("is_solid_start", .predicate (.isSelected s.framework "solid-start")),
      ("is_solid_start", .predicate (.isSelected s.framework "solid_start")),
      ("is_vue", .predicate (.isSelected s.framework "vue"))] := by
  have hnames : alike.frameworks.map Text.helperName =
      ["is_framework", "is_solid_start", "is_solid_start", "is_vue"] := by decide +kernel
  simp only [alike, List.map_cons, List.map_nil, List.cons.injEq] at hnames
  simp [alike, ownQuestion, hnames]

/-- Where names clash, the last framework with a name takes it, and the one called `framework` takes
that of the question on any. The empty framework has no question. -/
theorem alike_untold :
    alike.vocabulary.Accepted ∧
    (∃ c, context [] (some alike.vocabulary) [] (some ⟨"solid-start", []⟩) = .ok c ∧
      (∃ question, c.lookup (Text.helperName "solid-start") = some question ∧
        ∀ env : Environment, env.call question ⟨[], []⟩ = .ok (.bool false)) ∧
      ∃ question, c.lookup "is_framework" = some question ∧
        ∀ env : Environment, env.call question ⟨[.text "solid-start"], []⟩ = misused .wrongType) ∧
    ∃ c, context [] (some alike.vocabulary) [] (some ⟨"", []⟩) = .ok c ∧
      c.lookup (Text.helperName "") = none := by
  have hname : Text.helperName "solid-start" = "is_solid_start" := by decide +kernel
  have hasked : askedFrameworks (some alike.vocabulary) ⟨"solid-start", []⟩ = alike.frameworks := by
    decide
  have hempty : askedFrameworks (some alike.vocabulary) ⟨"", []⟩ = alike.frameworks := by decide
  refine ⟨alike_accepted, ⟨_, rfl, ⟨.predicate (.isSelected "solid-start" "solid_start"), ?_,
    fun env => rfl⟩, .predicate (.isSelected "solid-start" "framework"), ?_, fun env => rfl⟩,
    _, rfl, ?_⟩
  · rw [lookup_contextFor, hasked, lookup_questions, alike_questions, hname]
    rfl
  · rw [lookup_contextFor, hasked, lookup_questions, alike_questions]
    rfl
  · rw [lookup_contextFor, hempty, lookup_questions, alike_questions]
    rfl

end Template
end Scaffold
