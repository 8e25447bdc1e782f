import Scaffold.Proofs.OneChoice
import Scaffold.Proofs.Project.Asked

set_option autoImplicit false

/-!
# What users answer for a project

The default of a manifest is one of its frameworks, or the empty text, which is none. So whoever is
asked answers with a framework of the project, but for a blank line where the default is the empty
text; and always with options of the project. Only in that one case a project whose user is asked
for both is refused the selection.
-/
namespace Scaffold

namespace Manifest
variable {entries : List (Value × Value)} {m : Manifest} {d : String}

theorem fault?_of_ofRecord (h : ofRecord entries = .ok m) : m.fault? = none := by
  unfold ofRecord at h
  dsimp only at h
  split at h
  · cases h
  · split at h
    · cases h
    · rename_i hfault
      cases h
      exact hfault

theorem default_known (h : ofRecord entries = .ok m) (hd : m.defaultFramework = some d) :
    d = "" ∨ d ∈ m.frameworks := by
  have hfault := fault?_of_ofRecord h
  unfold fault? at hfault
  split at hfault
  · cases hfault
  · rename_i hnone
    simpa [hd, or_iff_not_imp_left] using hnone

end Manifest

namespace Project
open Prompt Text

variable {p : Project} {entries : List (Value × Value)} {marker : String} {v : Vocabulary}
  {framework : String} {options : List String} {q : Request} {t t' : Terminal}

theorem nonempty_of_vocabulary (hv : p.manifest.vocabulary marker = .ok v) :
    ∀ f ∈ p.manifest.frameworks, f ≠ "" := by
  have hp : ofType p.type { p.settings with marker := marker } =
      .ok ⟨p.type, { p.settings with marker := marker }, v⟩ := by
    unfold ofType
    change p.type.manifest.vocabulary marker = .ok v at hv
    rw [hv]
    rfl
  exact (ofType_nonempty hp).1

theorem askFramework_takes (h : p.askFramework t = (.ok framework, t')) :
    ∃ (turned : List String) (line : String),
      t.answers = turned.map Answer.line ++ Answer.line line :: t'.answers ∧
        Takes p.manifest.frameworks p.manifest.defaultFramework line framework := by
  obtain ⟨turned, line, hanswers, -, hline⟩ := select_took h
  exact ⟨turned, line, hanswers, (selectVerdict_judges t.markup _ _).answers_of_accept hline⟩

theorem askOptions_sublist (h : p.askOptions t = (.ok options, t')) :
    options.Sublist p.manifest.options := by
  obtain ⟨hempty, hasked⟩ := multiselect_takes h
  by_cases hne : p.manifest.options = []
  · rw [(hempty hne).1]
    exact List.nil_sublist _
  · obtain ⟨_, _, -, -, -, rfl⟩ := hasked hne
    exact List.filter_sublist

def unknownText (p : Project) (framework : String) : String :=
  "Unknown framework " ++ quoted framework ++ " for " ++ p.name ++ " (expected one of " ++
    ", ".intercalate p.manifest.frameworks ++ ")"

theorem select_of_sublist (framework : String) (h : options.Sublist p.manifest.options) :
    p.select framework options =
      if framework ∈ p.manifest.frameworks then .ok (Selection.of framework options)
      else .error (.invalid (p.unknownText framework)) := by
  by_cases hframework : framework ∈ p.manifest.frameworks
  · rw [if_pos hframework]
    exact select_eq_ok hframework fun o ho => h.subset ho
  · have hcontains : p.manifest.frameworks.contains framework = false := by simpa using hframework
    rw [if_neg hframework]
    unfold select unknownText
    simp only [hcontains]
    simp

def parentFor (p : Project) (homes : Homes) (q : Request) : Act Path := do
  if Text.packageName q.name = "" then throw (.invalid (nameText q.name))
  let first ← Act.consult fun fs => p.firstParent homes q fs
  let rounds := (← get).terminal.answers.length + 1
  p.findParent homes (Text.packageName q.name) rounds first

def asked (p : Project) : Act Selection := do
  let framework ← Act.talk p.askFramework
  let options ← Act.talk p.askOptions
  return Selection.of framework options

theorem prepare_eq (p : Project) (homes : Homes) (q : Request) :
    p.prepare homes q = p.parentFor homes q >>= fun parent =>
      p.choose q >>= fun selection => pure (parent, selection) := by
  unfold prepare parentFor
  by_cases hname : Text.packageName q.name = ""
  · simp [hname]
  · simp [hname]

section
variable (hm : Manifest.ofRecord entries = .ok p.manifest)
  (hv : p.manifest.vocabulary marker = .ok v)

include hm hv in
theorem answered_known (h : p.askFramework t = (.ok framework, t')) :
    framework ∈ p.manifest.frameworks ↔ framework ≠ "" := by
  refine ⟨nonempty_of_vocabulary hv framework, fun hne => ?_⟩
  obtain ⟨turned, line, -, htakes⟩ := askFramework_takes h
  cases htakes with
  | default blank given => exact (Manifest.default_known hm given).resolve_left hne
  | choice entered names => exact names.mem

include hv in
theorem answered_blank (h : p.askFramework t = (.ok framework, t')) :
    ∃ (turned : List String) (line : String),
      t.answers = turned.map Answer.line ++ Answer.line line :: t'.answers ∧
        (framework = "" ↔ p.manifest.defaultFramework = some "" ∧ stripped line = "") := by
  obtain ⟨turned, line, hanswers, htakes⟩ := askFramework_takes h
  refine ⟨turned, line, hanswers, ?_⟩
  cases htakes with
  | default blank given => simp [blank, given]
  | choice entered names =>
    refine iff_of_false (nonempty_of_vocabulary hv _ names.mem) ?_
    rintro ⟨hdefault, hblank⟩
    cases hdefault.symm.trans (entered hblank)

include hm hv in
theorem select_answered {u u' : Terminal} (hframework : p.askFramework t = (.ok framework, t'))
    (hoptions : p.askOptions u = (.ok options, u')) :
    p.select framework options =
      if framework = "" then .error (.invalid (p.unknownText ""))
      else .ok (Selection.of framework options) := by
  have hknown := answered_known hm hv hframework
  rw [select_of_sublist framework (askOptions_sublist hoptions)]
  by_cases hblank : framework = ""
  · subst hblank
    rw [if_neg fun hmem => hknown.1 hmem rfl, if_pos rfl]
  · rw [if_pos (hknown.2 hblank), if_neg hblank]

include hm hv in
theorem choose_asked_both (hnone : q.framework = none) (hnone' : q.options = none) :
    p.choose q = p.asked >>= fun selection =>
      if selection.framework = "" then throw (.invalid (p.unknownText "")) else pure selection := by
  funext s
  unfold choose asked given
  rw [hnone, hnone']
  simp only [bind_assoc, pure_bind]
  refine Act.bind_congr_ok fun framework s₁ hframework => ?_
  refine Act.bind_congr_ok fun options s₂ hoptions => ?_
  rw [Act.consult, select_answered hm hv (Act.talk_ok hframework).1 (Act.talk_ok hoptions).1]
  change _ = (if framework = "" then _ else _ : Act Selection) s₂
  split <;> rfl

include hm hv in
/-- Of an accepted manifest with an accepted vocabulary: a user who is asked for a framework answers
with one of the project, or else with the empty text, and this just by a blank line where it is the
default; who is asked for options answers with options of the project in their order. Both answers
make a selection unless the framework is the empty text, and a project whose user is asked for both
is made as if they were not looked at but for that. -/
theorem answers_select :
    (∀ t t' framework, p.askFramework t = (.ok framework, t') →
      (framework ∈ p.manifest.frameworks ↔ framework ≠ "") ∧
      ∃ (turned : List String) (line : String),
        t.answers = turned.map Answer.line ++ Answer.line line :: t'.answers ∧
          (framework = "" ↔ p.manifest.defaultFramework = some "" ∧ stripped line = "")) ∧
    (∀ t t' options, p.askOptions t = (.ok options, t') → options.Sublist p.manifest.options) ∧
    (∀ t t' u u' framework options, p.askFramework t = (.ok framework, t') →
      p.askOptions u = (.ok options, u') →
      p.select framework options =
        if framework = "" then .error (.invalid (p.unknownText ""))
        else .ok (Selection.of framework options)) ∧
    ∀ (homes : Homes) (q : Request), q.framework = none → q.options = none →
      p.build homes q = (do
        let parent ← p.parentFor homes q
        let selection ← p.asked
        if selection.framework = "" then throw (.invalid (p.unknownText ""))
        p.fill (Text.packageName q.name) parent selection q.bindings) := by
  refine ⟨fun t t' framework h => ⟨answered_known hm hv h, answered_blank hv h⟩,
    fun t t' options => askOptions_sublist,
    fun t t' u u' framework options => select_answered hm hv, fun homes q hnone hnone' => ?_⟩
  rw [build_eq, prepare_eq, choose_asked_both hm hv hnone hnone']
  simp only [bind_assoc, pure_bind]
  refine congrArg _ (funext fun parent => congrArg _ (funext fun selection => ?_))
  split <;> simp

end

/-! ### A default for each project -/

def fieldsWith (default : String) : List (Value × Value) :=
  [(.text "name", .text "web"), (.text "frameworks", .list [.text "vue", .text "react"]),
    (.text "options", .list [.text "pug", .text "sass"]), (.text "default_framework", .text default)]

def projectWith (default : String) : Project where
  type := ⟨⟨"web", "", ["vue", "react"], ["pug", "sass"], some default, Vocabulary.defaultPassthrough,
    Vocabulary.defaultExtensions, [], "templates"⟩, ⟨.root, ["p"]⟩⟩
  settings := ⟨⟨.root, ["p"]⟩, ⟨.root, ["w"]⟩, "j2", false⟩
  vocabulary := ⟨["vue", "react"], ["pug", "sass"], Vocabulary.defaultPassthrough, "j2",
    [("vue", "vue")], []⟩

theorem exists_of_toOption {α : Type} {r : Except Failure α × Terminal} {a : α}
    (h : r.1.toOption = some a) : ∃ t', r = (.ok a, t') :=
  ⟨r.2, Prod.ext (Act.ok_of_toOption h) rfl⟩

theorem default_answered :
    Manifest.ofRecord (fieldsWith "react") = .ok (projectWith "react").manifest ∧
      (projectWith "react").manifest.vocabulary "j2" = .ok (projectWith "react").vocabulary ∧
      (projectWith "react").select "react" ["pug", "sass"] =
        .ok (Selection.of "react" ["pug", "sass"]) := by
  have hm : Manifest.ofRecord (fieldsWith "react") = .ok (projectWith "react").manifest := by rfl
  have hv : (projectWith "react").manifest.vocabulary "j2" = .ok (projectWith "react").vocabulary := by
    rfl
  obtain ⟨t', hframework⟩ : ∃ t',
      (projectWith "react").askFramework { width := 80, answers := [.line "  "] } = (.ok "react", t') :=
    exists_of_toOption (by decide +kernel)
  obtain ⟨u', hoptions⟩ : ∃ u',
      (projectWith "react").askOptions { width := 80, answers := [.line "2, 1"] } =
        (.ok ["pug", "sass"], u') :=
    exists_of_toOption (by decide +kernel)
  refine ⟨hm, hv, ?_⟩
  rw [(answers_select hm hv).2.2.1 _ _ _ _ _ _ hframework hoptions]
  exact if_neg (by decide)

/-- The empty text is accepted as a default, and a blank line then answers with it; but it is no
framework, and no selection is made for it. -/
theorem empty_default_refused :
    Manifest.ofRecord (fieldsWith "") = .ok (projectWith "").manifest ∧
      (projectWith "").manifest.vocabulary "j2" = .ok (projectWith "").vocabulary ∧
      (∃ t', (projectWith "").askFramework { width := 80, answers := [.line ""] } = (.ok "", t')) ∧
      (∃ u', (projectWith "").askOptions { width := 80, answers := [.line ""] } = (.ok [], u')) ∧
      "" ∉ (projectWith "").manifest.frameworks ∧
      (projectWith "").select "" [] = .error (.invalid
        "Unknown framework '' for web (expected one of vue, react)") :=
  ⟨by rfl, by rfl, exists_of_toOption (by decide +kernel), exists_of_toOption (by decide +kernel),
    by decide, by rfl⟩

end Project
end Scaffold
