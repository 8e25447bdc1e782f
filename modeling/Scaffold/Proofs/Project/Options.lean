import Scaffold.Proofs.Project.Asked
import Scaffold.Proofs.Template.Implied

set_option autoImplicit false

/-!
# Options that are told

A project that is told its options is made for the set of them. Their order and what is named again
go when the selection is made, and nothing that comes after, be it a template, is told of them.
-/
namespace Scaffold

def Request.withOptions (q : Request) (options : List String) : Request :=
  { q with options := some options }

namespace Project

variable {p : Project} {homes : Homes} {q : Request} {s s' : Session} {selection : Selection}
  {framework : String} {options options' : List String}

theorem select_congr (p : Project) (framework : String)
    (hoptions : ∀ o ∈ options, o ∈ p.manifest.options) (hsame : ∀ o, o ∈ options ↔ o ∈ options') :
    p.select framework options = p.select framework options' := by
  have hoptions' : ∀ o ∈ options', o ∈ p.manifest.options := fun o ho => hoptions o ((hsame o).2 ho)
  by_cases hframework : framework ∈ p.manifest.frameworks
  · rw [select_eq_ok hframework hoptions, select_eq_ok hframework hoptions',
      Selection.of_congr framework hsame]
  · -- an unknown framework is all that is told of
    simp [select, hframework]

theorem of_select (h : p.select framework options = .ok selection) :
    selection = Selection.of framework options := by
  unfold select at h
  dsimp only at h
  split at h
  · cases h
  · split at h
    · cases h
    · cases h
      rfl

theorem choose_congr (p : Project) (q : Request)
    (hoptions : ∀ o ∈ options, o ∈ p.manifest.options) (hsame : ∀ o, o ∈ options ↔ o ∈ options') :
    p.choose (q.withOptions options) = p.choose (q.withOptions options') := by
  unfold choose
  simp only [Request.withOptions, given, pure_bind]
  refine congrArg _ (funext fun framework => ?_)
  rw [select_congr p framework hoptions hsame]

theorem of_choose (h : p.choose (q.withOptions options) s = (.ok selection, s')) :
    ∃ framework, selection = Selection.of framework options := by
  unfold choose at h
  obtain ⟨framework, s₁, -, hrest⟩ := Act.bind_ok h
  obtain ⟨told, s₂, htold, hselect⟩ := Act.bind_ok hrest
  cases htold
  exact ⟨framework, of_select (Act.consult_ok hselect).1⟩

theorem build_withOptions_congr (p : Project) (homes : Homes) (q : Request)
    (hoptions : ∀ o ∈ options, o ∈ p.manifest.options) (hsame : ∀ o, o ∈ options ↔ o ∈ options') :
    p.build homes (q.withOptions options) = p.build homes (q.withOptions options') := by
  have hchoose := choose_congr p q hoptions hsame
  have hprepare : p.prepare homes (q.withOptions options) =
      p.prepare homes (q.withOptions options') := by
    unfold prepare
    rw [hchoose]
    rfl
  rw [build_eq, build_eq, hprepare]
  rfl

theorem selection_of_build {b : Built}
    (h : (p.build homes (q.withOptions options) s).1 = .ok b) :
    ∃ framework, b.selection = Selection.of framework options := by
  rcases hbuild : p.build homes (q.withOptions options) s with ⟨result, s'⟩
  rw [hbuild] at h
  obtain rfl : result = .ok b := h
  rw [build_eq] at hbuild
  obtain ⟨x, s₁, hprepare, hfill⟩ := Act.bind_ok hbuild
  obtain ⟨first, s₂, -, -, hchoose⟩ := prepare_ok hprepare
  rw [(fill_made hfill).2]
  exact of_choose hchoose

/-- What the templates of a new project find in their context is what it was told, in an order of
its own. -/
theorem context_tells (p : Project) (package : String) (parent : Path) (framework : String)
    (options : List String) (bindings : Template.Variables) :
    ∃ c, p.renderer.context
        ((p.bindings package parent (Selection.of framework options)).overlay bindings)
        (some (Selection.of framework options)) = .ok c ∧ Template.Tells c framework options :=
  ⟨_, rfl, Template.contextFor_tells _ _ _ framework options⟩

def styledProject : Project where
  type := ⟨⟨"web", "", ["vue"], ["pug", "sass", "tests"], none, [], [], [], "templates"⟩,
    ⟨.root, ["p"]⟩⟩
  settings := sampleProject.settings
  vocabulary := ⟨["vue"], ["pug", "sass", "tests"], [], "j2", [], []⟩

def styledSession : Session where
  files :=
    { entries := [(["p"], .directory), (["p", "templates"], .directory),
        (["p", "templates", "styles.txt.j2"], .file "\x7b\x7b options \x7d\x7d".toUTF8),
        (["w"], .directory)] }
  terminal := { width := 80 }

end Project
end Scaffold
