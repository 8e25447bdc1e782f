import Scaffold.Proofs.CommandLine.Report
import Scaffold.Proofs.Project.Asked

set_option autoImplicit false

/-!
# Flags and answers

What the command line leaves out is asked for, and the answers count as if they had been given on
the command line: a type, framework or option goes by its name, be it a number that is also the
place of another one.
-/
namespace Scaffold.CommandLine
open Prompt

variable {settings : Settings} {homes : Homes} {fs : Files} {types : List ProjectType}
  {t : ProjectType} {name path framework : String} {options : List String}

def Arguments.full (type name path framework : String) (options : List String) : Arguments where
  type := some type
  name := some name
  path := some path
  framework := some framework
  options := if options = [] then none else some options
  noOptions := options = []

theorem given_eq_some {s : String} (h : s ≠ "") : given (some s) = some s := by
  simp [given, h]

/-! ### What is made of a type -/

def start (settings : Settings) (type : String) : Act Project := do
  let project ← Act.consult fun fs => Project.load fs settings type
  Act.talk (Talk.tell .info ("Creating a new " ++ project.name ++ " project"))
  return project

theorem run_full {type : String} (htype : type ≠ "") (hname : name ≠ "") (hpath : path ≠ "")
    (framework : String) (options : List String) :
    run (.full type name path framework options) settings homes = (do
      let project ← start settings type
      project.build homes (Request.telling ⟨name, path, none, none, []⟩ framework options)) := by
  have hoptions : (if (Arguments.full type name path framework options).noOptions then some []
      else (Arguments.full type name path framework options).options) = some options := by
    unfold Arguments.full
    cases options <;> simp
  unfold run start
  rw [hoptions]
  simp only [Arguments.full, given_eq_some htype, given_eq_some hname, given_eq_some hpath, pure_bind,
    bind_assoc, Request.telling]

theorem run_bare : run {} settings homes = (do
    let types ← Act.consult fun fs => ProjectType.discover fs settings.projects
    let type ← Act.talk (select "Select the type of project to create:"
      (ProjectType.namesOf types) none)
    let project ← start settings type
    let name ← Act.talk (text "Name of the project:" "" packageName)
    let path ← Act.talk (text "Path where to create the project:" settings.running.text anything)
    project.build homes ⟨name, path, none, none, []⟩) := by
  simp [run, start, given]

theorem start_run (hdiscover : ProjectType.discover fs settings.projects = .ok types) (ht : t ∈ types)
    (hbracket : '[' ∉ t.name.toList) (width : Nat) (markup : Console.Markup) (answers : List Answer)
    (printed : String) :
    ∃ printed', start settings t.name ⟨fs, ⟨width, answers, printed, markup⟩⟩ =
      (Project.ofType t settings, ⟨fs, ⟨width, answers, printed', markup⟩⟩) := by
  unfold start
  simp only [Act.bind_run, Act.consult, Project.load_found hdiscover ht]
  cases hp : Project.ofType t settings with
  | error e => exact ⟨printed, rfl⟩
  | ok p =>
    obtain ⟨rfl, -⟩ := Project.ofType_eq_ok hp
    have htell : Talk.Comes (Talk.tell .info ("Creating a new " ++ p.name ++ " project")) [] () := by
      have hname : '[' ∉ p.name.toList := hbracket
      refine Talk.comes_tell ?_
      simpa using hname
    obtain ⟨printed', htold⟩ := htell.passes fs width markup answers printed
    exact ⟨printed', by simp only [htold]; rfl⟩

theorem comes_type (hnames : ∀ u ∈ types, '[' ∉ u.name.toList) (ht : t ∈ types)
    (htype : Typed t.name) :
    Talk.Comes (select "Select the type of project to create:" (ProjectType.namesOf types) none)
      [t.name] t.name := by
  refine comes_select (by decide) (fun n hn => ?_) (ProjectType.mem_namesOf.2 ⟨t, ht, rfl⟩) htype
  obtain ⟨u, hu, rfl⟩ := ProjectType.mem_namesOf.1 hn
  exact hnames u hu

def numberedType : ProjectType where
  manifest := ⟨"2", "", ["2", "1"], ["4", "3"], none, Vocabulary.defaultPassthrough,
    Vocabulary.defaultExtensions, [], "templates"⟩
  root := ⟨.root, ["p", "a"]⟩

def numberedFiles : Files where
  entries := [(["p"], .directory), (["p", "a"], .directory), (["p", "a", "project.yaml"],
      .file "name: '2'\nframeworks: ['2', '1']\noptions: ['4', '3']".toUTF8),
    (["p", "a", "templates"], .directory), (["p", "a", "templates", "n.1.txt"], .file "1".toUTF8),
    (["w"], .directory)]

theorem numbered_discover :
    ProjectType.discover numberedFiles bare.defaults.projects = .ok [numberedType] := by
  have hfound : (ProjectType.discover numberedFiles bare.defaults.projects).toOption =
      some [numberedType] := by
    decide +kernel
  generalize ProjectType.discover numberedFiles bare.defaults.projects = found at hfound
  cases found with
  | error e => cases hfound
  | ok types => exact congrArg Except.ok (Option.some.inj hfound)

end Scaffold.CommandLine
