import Scaffold.Proofs.Selection
import Scaffold.Proofs.Template.Context

set_option autoImplicit false

/-!
# Selections that are told by values

A call may tell the selection outright, or leave it to the values under the names of the framework
and the options. Both come to one context. It tells the selection and nothing else under these names
and those of the questions, whatever the layers below hold there, and passes on all other names.
-/
namespace Scaffold.Template

namespace Variables
variable {vs under upper : Variables} {n m : String} {v w : Value}

/-! ### Values set over others -/

theorem set_set (vs : Variables) (n : String) (v w : Value) : (vs.set n v).set n w = vs.set n w := by
  induction vs with
  | nil => simp [set]
  | cons e vs ih =>
    obtain ⟨k, x⟩ := e
    by_cases hk : k = n
    · simp [set, hk]
    · simp [set, hk, ih]

theorem set_of_lookup (h : vs.lookup n = some v) : vs.set n v = vs := by
  induction vs with
  | nil => cases h
  | cons e vs ih =>
    obtain ⟨k, x⟩ := e
    by_cases hk : k = n
    · subst hk
      obtain rfl : x = v := by simpa using h
      simp [set]
    · have hne : (n == k) = false := by simpa using Ne.symm hk
      simp only [List.lookup_cons, hne] at h
      simp [set, hk, ih h]

theorem set_comm (hn : n ∈ vs.map Prod.fst) (hne : n ≠ m) :
    (vs.set n v).set m w = (vs.set m w).set n v := by
  induction vs with
  | nil => cases hn
  | cons e vs ih =>
    obtain ⟨k, x⟩ := e
    by_cases hkn : k = n
    · subst hkn
      simp [set, hne]
    · by_cases hkm : k = m
      · subst hkm
        simp [set, hkn]
      · have hin : n ∈ vs.map Prod.fst := by
          simpa [Ne.symm hkn] using hn
        simp [set, hkn, hkm, ih hin]

theorem overlay_set_under (hunder : n ∈ under.map Prod.fst) (hupper : n ∉ upper.map Prod.fst) :
    overlay (under.set n v) upper = (overlay under upper).set n v := by
  induction upper generalizing under with
  | nil => rfl
  | cons e upper ih =>
    obtain ⟨m, w⟩ := e
    obtain ⟨hne, hrest⟩ : n ≠ m ∧ n ∉ upper.map Prod.fst := by simpa using hupper
    have hstays : n ∈ (under.set m w).map Prod.fst := by
      rw [names_set]
      split
      · exact hunder
      · exact List.mem_append_left _ hunder
    change overlay ((under.set n v).set m w) upper = _
    rw [set_comm hunder hne, ih hstays hrest]
    rfl

theorem overlay_set (h : (upper.map Prod.fst).Nodup) :
    overlay under (upper.set n v) = (overlay under upper).set n v := by
  induction upper generalizing under with
  | nil => rfl
  | cons e upper ih =>
    obtain ⟨m, w⟩ := e
    obtain ⟨hnew, hrest⟩ := List.nodup_cons.1 h
    by_cases hm : m = n
    · subst hm
      have hthere : m ∈ (under.set m w).map Prod.fst := by
        rw [names_set]
        split <;> simp_all
      have hset : set ((m, w) :: upper) m v = (m, v) :: upper := if_pos rfl
      rw [hset]
      change overlay (under.set m v) upper = (overlay (under.set m w) upper).set m v
      rw [← overlay_set_under hthere hnew, set_set]
    · have hset : set ((m, w) :: upper) n v = (m, w) :: set upper n v := if_neg hm
      rw [hset]
      exact ih hrest

end Variables

variable {base bindings : Variables} {vocabulary : Option Vocabulary} {s : Selection}
  {frameworks options texts : List String} {framework f m : String} {listing : Value}

/-! ### The selection in the values of a call -/

def telling (bindings : Variables) (framework : String) (listing : Value) : Variables :=
  (bindings.set "framework" (.text framework)).set "options" listing

theorem overlay_telling (h : (bindings.map Prod.fst).Nodup) :
    Variables.overlay base (telling bindings framework listing) =
      telling (Variables.overlay base bindings) framework listing := by
  unfold telling
  rw [Variables.overlay_set (Variables.set_nodup h), Variables.overlay_set h]

theorem telling_again (bindings : Variables) (framework : String) (listing listing' : Value) :
    telling (telling bindings framework listing) framework listing' =
      telling bindings framework listing' := by
  unfold telling
  rw [Variables.set_of_lookup (n := "framework"), Variables.set_set]
  simp [Variables.lookup_set]

theorem contextFor_telling (h : (bindings.map Prod.fst).Nodup) :
    contextFor base vocabulary (telling bindings s.framework listing) s =
      contextFor base vocabulary bindings s := by
  have hselected := telling_again (Variables.overlay base bindings) s.framework listing
    (.list (s.options.map .text))
  rw [← overlay_telling h] at hselected
  unfold telling at hselected ⊢
  simp only [contextFor, hselected]

theorem items?_orElse {items : List Value} (h : listing.items? = some items) :
    (orElse (some listing) (.tuple [])).items? = some items := by
  by_cases htrue : listing.isTrue = true
  · simpa [orElse, htrue] using h
  · have hnone : items = [] := by
      cases listing with
      | text t =>
        obtain rfl : t = "" := by simpa [Value.isTrue] using htrue
        simpa [Value.items?] using h.symm
      | list vs | tuple vs | dict vs =>
        simp_all [Value.isTrue, Value.items?]
      | range a b k =>
        have hzero : Value.rangeLength a b k = 0 := by simpa [Value.isTrue] using htrue
        simpa [Value.items?, Value.rangeItems, hzero] using h.symm
      | view kind sized vs =>
        have hempty : sized = true ∧ vs = [] := by simpa [Value.isTrue] using htrue
        simpa [Value.items?, hempty.2] using h.symm
      | absent strict cause =>
        cases strict <;> simp_all [Value.items?]
      | _ => cases h
    simp [orElse, htrue, Value.items?, hnone]

theorem orElse_text (t : String) : orElse (some (.text t)) (.text "") = .text t := by
  by_cases ht : t = "" <;> simp [orElse, Value.isTrue, ht]

theorem impliedSelection_telling (h : (bindings.map Prod.fst).Nodup)
    (hlisting : listing.items? = some (texts.map .text)) :
    impliedSelection base (telling bindings framework listing) =
      .ok (Selection.of framework texts) := by
  have hframework : (telling (Variables.overlay base bindings) framework listing).lookup
      "framework" = some (.text framework) := by
    simp [telling, Variables.lookup_set]
  have hoptions : (telling (Variables.overlay base bindings) framework listing).lookup
      "options" = some listing := by
    simp [telling, Variables.lookup_set]
  unfold impliedSelection
  dsimp only
  rw [overlay_telling h, hframework, hoptions, orElse_text]
  exact Selection.ofValues_texts framework (items?_orElse hlisting)

/-! ### What is found under each name -/

/-- The names that every context gives to the selection and to the questions on it, apart from those
of its frameworks. -/
def fixedNames : List String :=
  ["framework", "options", "has_option", "has_any_option", "has_all_options", "is_framework"]

theorem lookup_questions_of_ne (h : ∀ f ∈ frameworks, Text.helperName f ≠ m) :
    (questions s frameworks).lookup m = (questions s []).lookup m := by
  have hnone : (frameworks.map (ownQuestion s)).reverse.lookup m = none := by
    rw [List.lookup_eq_none_iff]
    intro p hp
    obtain ⟨g, hg, rfl⟩ := List.mem_map.1 (List.mem_reverse.1 hp)
    simpa [ownQuestion] using Ne.symm (h g hg)
  rw [lookup_questions, hnone, Option.none_or]

theorem helperName_ne (h : m.toList.head? ≠ some 'i') (f : String) : Text.helperName f ≠ m := by
  rintro rfl
  exact h (by simp [Text.helperName])

theorem lookup_contextFor_of_ne (h : ∀ f ∈ askedFrameworks vocabulary s, Text.helperName f ≠ m) :
    (contextFor base vocabulary bindings s).lookup m =
      ((questions s []).lookup m).or
        ((telling (Variables.overlay base bindings) s.framework
          (.list (s.options.map .text))).lookup m) := by
  rw [lookup_contextFor, lookup_questions_of_ne h]
  rfl

theorem lookup_contextFor_other (hbindings : (bindings.map Prod.fst).Nodup)
    (hm : m ∉ fixedNames) (h : ∀ f ∈ askedFrameworks vocabulary s, Text.helperName f ≠ m) :
    (contextFor base vocabulary bindings s).lookup m = (bindings.lookup m).or (base.lookup m) := by
  simp only [fixedNames, List.mem_cons, List.not_mem_nil, or_false, not_or] at hm
  obtain ⟨hframework, hoptions, hhas, hany, hall, his⟩ := hm
  have hquestions : (questions s []).lookup m = none := by
    rw [List.lookup_eq_none_iff]
    simp [questions, Variables.overlay, hhas, hany, hall, his]
  rw [lookup_contextFor_of_ne h, hquestions, Option.none_or, telling, Variables.lookup_set,
    if_neg hoptions, Variables.lookup_set, if_neg hframework, Variables.lookup_overlay,
    Variables.lookup_reverse hbindings]

/-! ### What the questions on options answer -/

theorem call_hasOption (env : Environment) (active : List String) (o : String) :
    env.call (.predicate (.hasOption active)) ⟨[.text o], []⟩ =
      .ok (.bool (decide (o ∈ active))) := by
  rw [← List.contains_eq_mem]
  rfl

theorem anyActive_texts (active os : List String) :
    Predicate.anyActive active (os.map .text) = .ok (decide (∃ o ∈ os, o ∈ active)) := by
  induction os with
  | nil => rfl
  | cons o os ih =>
    have hstep : Predicate.anyActive active ((o :: os).map .text) =
        if active.contains o then .ok true else Predicate.anyActive active (os.map .text) := rfl
    rw [hstep, ih]
    by_cases ho : o ∈ active <;> simp [ho]

theorem allActive_texts (active os : List String) :
    Predicate.allActive active (os.map .text) = .ok (decide (∀ o ∈ os, o ∈ active)) := by
  induction os with
  | nil => rfl
  | cons o os ih =>
    have hstep : Predicate.allActive active ((o :: os).map .text) =
        if active.contains o then Predicate.allActive active (os.map .text) else .ok false := rfl
    rw [hstep, ih]
    by_cases ho : o ∈ active <;> simp [ho]

theorem call_hasAnyOption (env : Environment) (active os : List String) :
    env.call (.predicate (.hasAnyOption active)) ⟨os.map .text, []⟩ =
      .ok (.bool (decide (∃ o ∈ os, o ∈ active))) :=
  congrArg (Except.map Value.bool) (anyActive_texts active os)

theorem call_hasAllOptions (env : Environment) (active os : List String) :
    env.call (.predicate (.hasAllOptions active)) ⟨os.map .text, []⟩ =
      .ok (.bool (decide (∀ o ∈ os, o ∈ active))) :=
  congrArg (Except.map Value.bool) (allActive_texts active os)

/-- A context tells a selection: its framework, its options in order and each once, and whether
options are among them. -/
structure Tells (c : Variables) (framework : String) (options : List String) : Prop where
  frameworkEntry : c.lookup "framework" = some (.text framework)
  optionsEntry : ∃ members : List String, c.lookup "options" = some (.list (members.map .text)) ∧
    members.Pairwise (· < ·) ∧ ∀ o, o ∈ members ↔ o ∈ options
  hasOption : ∃ question, c.lookup "has_option" = some question ∧
    ∀ (env : Environment) (o : String),
      env.call question ⟨[.text o], []⟩ = .ok (.bool (decide (o ∈ options)))
  hasAnyOption : ∃ question, c.lookup "has_any_option" = some question ∧
    ∀ (env : Environment) (os : List String),
      env.call question ⟨os.map .text, []⟩ = .ok (.bool (decide (∃ o ∈ os, o ∈ options)))
  hasAllOptions : ∃ question, c.lookup "has_all_options" = some question ∧
    ∀ (env : Environment) (os : List String),
      env.call question ⟨os.map .text, []⟩ = .ok (.bool (decide (∀ o ∈ os, o ∈ options)))

theorem contextFor_tells (base : Variables) (vocabulary : Option Vocabulary) (bindings : Variables)
    (framework : String) (options : List String) :
    Tells (contextFor base vocabulary bindings (Selection.of framework options)) framework
      options := by
  generalize hs : Selection.of framework options = s
  have hframework : s.framework = framework := by rw [← hs]; rfl
  have hmember (o : String) : o ∈ s.options ↔ o ∈ options := by
    rw [← hs]
    exact mem_membersOf o options
  have hrising : s.options.Pairwise (· < ·) := by
    rw [← hs]
    exact membersOf_rising options
  have hfound {m : String} (hm : m.toList.head? ≠ some 'i') :
      (contextFor base vocabulary bindings s).lookup m =
        ((questions s []).lookup m).or
          ((telling (Variables.overlay base bindings) s.framework
            (.list (s.options.map .text))).lookup m) :=
    lookup_contextFor_of_ne fun f _ => helperName_ne hm f
  constructor
  · rw [hfound (by decide), telling, Variables.lookup_set, Variables.lookup_set, hframework]
    rfl
  · refine ⟨s.options, ?_, hrising, hmember⟩
    rw [hfound (by decide), telling, Variables.lookup_set]
    rfl
  · refine ⟨.predicate (.hasOption s.options), hfound (by decide), fun env o => ?_⟩
    simp only [call_hasOption, hmember]
  · refine ⟨.predicate (.hasAnyOption s.options), hfound (by decide), fun env os => ?_⟩
    simp only [call_hasAnyOption, hmember]
  · refine ⟨.predicate (.hasAllOptions s.options), hfound (by decide), fun env os => ?_⟩
    simp only [call_hasAllOptions, hmember]

/-- A selection that is told outright, and one that is told by values under its names, whatever the
order in which they list the options and however often, come to the same context. It tells the
selection, and under the names that are not its own what the layers below hold. -/
theorem context_told_by_values (base : Variables) (vocabulary : Option Vocabulary)
    (bindings : Variables) (framework : String) (options : List String) (listing : Value)
    (texts : List String) (hbindings : (bindings.map Prod.fst).Nodup)
    (hlisting : listing.items? = some (texts.map .text)) (hsame : ∀ o, o ∈ texts ↔ o ∈ options) :
    ∃ c, context base vocabulary bindings (some (Selection.of framework options)) = .ok c ∧
      context base vocabulary (telling bindings framework listing) none = .ok c ∧
      Tells c framework options ∧
      ∀ m, m ∉ fixedNames →
        (∀ f ∈ askedFrameworks vocabulary (Selection.of framework options),
          Text.helperName f ≠ m) →
        c.lookup m = (bindings.lookup m).or (base.lookup m) := by
  refine ⟨contextFor base vocabulary bindings (Selection.of framework options), rfl, ?_,
    contextFor_tells base vocabulary bindings framework options,
    fun m hm h => lookup_contextFor_other hbindings hm h⟩
  have himplied : impliedSelection base (telling bindings framework listing) =
      .ok (Selection.of framework options) := by
    rw [impliedSelection_telling hbindings hlisting, Selection.of_congr framework hsame]
  have hcontext : contextFor base vocabulary (telling bindings framework listing)
      (Selection.of framework options) =
        contextFor base vocabulary bindings (Selection.of framework options) :=
    contextFor_telling (s := Selection.of framework options) hbindings
  simp only [context, himplied, Except.map, hcontext]

theorem styles_told :
    ∃ c, context [("has_option", .text "base"), ("license", .text "none"), ("title", .text "base")]
        (some kits.vocabulary) [("options", .int 3), ("title", .text "call")]
        (some (Selection.of "qwik" ["sass", "pug"])) = .ok c ∧
      context [("has_option", .text "base"), ("license", .text "none"), ("title", .text "base")]
        (some kits.vocabulary) [("options", .tuple [.text "pug", .text "sass", .text "pug"]),
          ("title", .text "call"), ("framework", .text "qwik")] none = .ok c ∧
      Tells c "qwik" ["sass", "pug"] ∧ c.lookup "title" = some (.text "call") ∧
      c.lookup "license" = some (.text "none") := by
  obtain ⟨c, hoptions, hvalues, htells, hother⟩ := context_told_by_values
    [("has_option", .text "base"), ("license", .text "none"), ("title", .text "base")]
    (some kits.vocabulary) [("options", .int 3), ("title", .text "call")] "qwik" ["sass", "pug"]
    (.tuple [.text "pug", .text "sass", .text "pug"]) ["pug", "sass", "pug"] (by decide) rfl
    (fun o => by simp [or_comm])
  refine ⟨c, hoptions, hvalues, htells, ?_, ?_⟩
  · exact hother "title" (by decide) fun f _ => helperName_ne (by decide) f
  · exact hother "license" (by decide) fun f _ => helperName_ne (by decide) f

end Scaffold.Template
