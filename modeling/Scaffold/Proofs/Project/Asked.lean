import Scaffold.Proofs.Answers
import Scaffold.Proofs.Project.Replacement
import Scaffold.Proofs.Project.Types
import Scaffold.Proofs.Selection

set_option autoImplicit false

/-!
# Projects that are asked for

Where nothing is in the way, a project whose framework and options are typed is the one for which
they are told beforehand. Options come in the order of the project when they are typed, and in any
order when they are told: a selection has them in its own.
-/
namespace Scaffold

/-- Frameworks and options have names that can be typed on a line, with commas between options, and
shown as they are. -/
structure Manifest.Typable (m : Manifest) : Prop where
  framework_no_blank : ∀ f ∈ m.frameworks, ∀ c ∈ f.toList, Text.isBlank c = false
  framework_no_bracket : ∀ f ∈ m.frameworks, '[' ∉ f.toList
  option_no_blank : ∀ o ∈ m.options, ∀ c ∈ o.toList, Text.isBlank c = false
  option_no_comma : ∀ o ∈ m.options, ',' ∉ o.toList
  option_no_bracket : ∀ o ∈ m.options, '[' ∉ o.toList

def Request.telling (q : Request) (framework : String) (options : List String) : Request :=
  { q with framework := some framework, options := some options }

namespace Project
open Prompt

variable {p : Project} {homes : Homes} {q : Request} {t : ProjectType} {settings : Settings}
  {framework : String} {options : List String} {s s' : Session}

theorem select_eq_ok (hframework : framework ∈ p.manifest.frameworks)
    (hoptions : ∀ o ∈ options, o ∈ p.manifest.options) :
    p.select framework options = .ok (Selection.of framework options) := by
  simpa [select, hframework] using hoptions

theorem ofType_nonempty (h : ofType t settings = .ok p) :
    (∀ f ∈ p.manifest.frameworks, f ≠ "") ∧ ∀ o ∈ p.manifest.options, o ≠ "" := by
  obtain ⟨rfl, -, hvocabulary⟩ := ofType_eq_ok h
  have hwell := (Vocabulary.Accepted.ofDraft hvocabulary).wellFormed
  obtain ⟨hframeworks, hoptions⟩ := Vocabulary.ofDraft_eq_ok hvocabulary
  have hword : ∀ w, Vocabulary.isToken w = true → w ≠ "" := by
    rintro w hw rfl
    exact (Vocabulary.isWord_of_isToken hw).nonempty rfl
  constructor
  · intro f hf
    exact hword f (hwell.framework f (hframeworks ▸ hf))
  · intro o ho
    exact hword o (hwell.option o (hoptions ▸ ho))

theorem choose_asked (hp : ofType t settings = .ok p) (h : p.manifest.Typable)
    (hframework : framework ∈ p.manifest.frameworks)
    (hoptions : ∀ o ∈ options, o ∈ p.manifest.options) (hnone : q.framework = none)
    (hnone' : q.options = none)
    (hanswers : s.terminal.answers = [.line framework, .line (",".intercalate options)]) :
    ∃ s₁, p.choose q s = (p.select framework options, s₁) ∧ s.Alike s₁ := by
  obtain ⟨fs, width, answers, printed, markup⟩ := s
  obtain rfl : answers = [.line framework, .line (",".intercalate options)] := hanswers
  obtain ⟨hnonempty, hnonempty'⟩ := ofType_nonempty hp
  have htyped : Typed framework := by
    refine ⟨hnonempty framework hframework, ?_⟩
    rw [Text.stripped, strip_of_no_blank (h.framework_no_blank framework hframework),
      String.ofList_toList]
  have hlist : Listable options :=
    ⟨fun o ho => hnonempty' o (hoptions o ho), fun o ho => h.option_no_blank o (hoptions o ho),
      fun o ho => h.option_no_comma o (hoptions o ho)⟩
  have hselect : Talk.Comes p.askFramework [framework] framework :=
    comes_select (by decide) h.framework_no_bracket hframework htyped
  obtain ⟨printed₁, hrun⟩ := hselect.takes fs width markup [.line (",".intercalate options)] printed
  obtain ⟨t', hrun', hwidth, hmarkup⟩ : ∃ t',
      p.askOptions ⟨width, [.line (",".intercalate options)], printed₁, markup⟩ =
        (.ok (p.manifest.options.filter options.contains), t') ∧ t'.width = width ∧
          t'.markup = markup :=
    multiselect_line (by decide) h.option_no_bracket hoptions hlist width printed₁ markup
  have hsame : p.select framework (p.manifest.options.filter options.contains) =
      p.select framework options := by
    rw [select_eq_ok hframework hoptions, select_eq_ok hframework fun o => List.mem_of_mem_filter,
      Selection.of, Selection.of, membersOf_congr fun o => ?_]
    simpa using hoptions o
  refine ⟨⟨fs, t'⟩, ?_, rfl, hwidth, hmarkup⟩
  unfold choose given
  rw [hnone, hnone']
  simp only [Act.bind_run, hrun, Act.talk_run hrun' fs, Act.consult, hsame]

theorem fill_steady (p : Project) (package : String) (parent : Path) (selection : Selection)
    (bindings : Template.Variables) : (p.fill package parent selection bindings).Steady :=
  (Act.steady_change _).bind fun _ =>
    (Walk.materialize_steady _ _ _).bind fun _ => Act.steady_pure _

theorem prepare_alike
    (hfree : ∀ parent, p.firstParent homes q s.files = .ok parent →
      p.Free (Text.packageName q.name) s.files parent)
    (hchoose : p.choose q s = (p.select framework options, s')) (h : s.Alike s') :
    ∃ s₁, p.prepare homes q s = (p.settled homes q framework options s.files, s₁) ∧ s.Alike s₁ := by
  obtain ⟨s₁, rfl | rfl, hprepare⟩ := prepare_free hfree hchoose
  · exact ⟨s₁, hprepare, .refl s₁⟩
  · exact ⟨s₁, hprepare, h⟩

theorem select_of_settled {fs : Files} {parent : Path} {selection : Selection}
    (h : p.settled homes q framework options fs = .ok (parent, selection)) :
    p.firstParent homes q fs = .ok parent ∧ p.select framework options = .ok selection := by
  obtain ⟨hname, hparent, -⟩ := settled_eq_ok h
  refine ⟨hparent, ?_⟩
  unfold settled at h
  rw [if_neg hname] at h
  obtain ⟨first, -, hrest⟩ := Act.ok_of_bind h
  obtain ⟨there, -, hrest⟩ := Act.ok_of_bind hrest
  obtain ⟨chosen, hchosen, hreturn⟩ := Act.ok_of_bind hrest
  cases hreturn
  exact hchosen

theorem build_telling {b : Built} (hframework : framework ∈ p.manifest.frameworks)
    (hoptions : ∀ o ∈ options, o ∈ p.manifest.options)
    (hfree : ∀ parent, p.firstParent homes q s.files = .ok parent →
      p.Free (Text.packageName q.name) s.files parent)
    (h : (p.build homes (q.telling framework options) s).1 = .ok b) :
    b.selection = Selection.of framework options ∧ ∃ parent,
      p.firstParent homes q s.files = .ok parent ∧ b.path = parent.child (Text.packageName q.name) := by
  obtain ⟨s₁, htold, -⟩ : ∃ s₁, p.prepare homes (q.telling framework options) s =
      (p.settled homes q framework options s.files, s₁) ∧ s.Alike s₁ :=
    prepare_alike (q := q.telling framework options) hfree (choose_given rfl rfl s) (.refl s)
  rw [build_eq, Act.bind_run, htold] at h
  cases hx : p.settled homes q framework options s.files with
  | error e =>
    rw [hx] at h
    cases h
  | ok x =>
    obtain ⟨parent, selection⟩ := x
    obtain ⟨hparent, hselect⟩ := select_of_settled hx
    rw [hx] at h
    obtain ⟨hpath, hselection⟩ := fill_made (Prod.ext h rfl)
    rw [select_eq_ok hframework hoptions] at hselect
    exact ⟨hselection.trans (Except.ok.inj hselect).symm, parent, hparent, hpath⟩

theorem build_asked (hp : ofType t settings = .ok p) (h : p.manifest.Typable)
    (hframework : framework ∈ p.manifest.frameworks)
    (hoptions : ∀ o ∈ options, o ∈ p.manifest.options) (hnone : q.framework = none)
    (hnone' : q.options = none) (halike : s.Alike s')
    (hanswers : s'.terminal.answers = [.line framework, .line (",".intercalate options)])
    (hfree : ∀ parent, p.firstParent homes q s.files = .ok parent →
      p.Free (Text.packageName q.name) s.files parent) :
    let told := p.build homes (q.telling framework options) s
    let asked := p.build homes q s'
    asked.1 = told.1 ∧ told.2.Alike asked.2 := by
  obtain ⟨s₁, htold, hs₁⟩ : ∃ s₁, p.prepare homes (q.telling framework options) s =
      (p.settled homes q framework options s.files, s₁) ∧ s.Alike s₁ :=
    prepare_alike (q := q.telling framework options) hfree (choose_given rfl rfl s) (.refl s)
  obtain ⟨s₂, hchoose, hs₂⟩ := choose_asked hp h hframework hoptions hnone hnone' hanswers
  obtain ⟨s₃, hasked, hs₃⟩ : ∃ s₃, p.prepare homes q s' =
      (p.settled homes q framework options s.files, s₃) ∧ s'.Alike s₃ := by
    rw [← halike.files] at hfree ⊢
    exact prepare_alike hfree hchoose hs₂
  simp only [build_eq, Act.bind_run, htold, hasked]
  have hready : s₁.Alike s₃ := hs₁.symm.trans (halike.trans hs₃)
  cases p.settled homes q framework options s.files with
  | error e => exact ⟨rfl, hready⟩
  | ok x => exact fill_steady p (Text.packageName q.name) x.1 x.2 q.bindings hready

end Project
end Scaffold
