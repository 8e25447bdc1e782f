import Scaffold.Project.Discovery
import Scaffold.Session

set_option autoImplicit false

/-!
# New projects

A new project is the template tree of its type, filled in for a selection, in a folder that is
named for the package. What is missing from the request is asked for. A folder that is there
already is replaced, if the settings or the user say so, and else the user names another parent.
-/
namespace Scaffold

/-- What a new project shall be; what is left out is asked for. -/
structure Request where
  name : String
  parent : String := ""
  framework : Option String := none
  options : Option (List String) := none
  bindings : Template.Variables := []

structure Built where
  path : Path
  selection : Selection
  report : Report
  deriving DecidableEq, Repr

namespace Project

def askFramework (p : Project) : Talk String :=
  Prompt.select "Select the framework for the project:" p.manifest.frameworks
    p.manifest.defaultFramework

def askOptions (p : Project) : Talk (List String) :=
  Prompt.multiselect "Select the options for the package:" p.manifest.options

def overwriteQuestion (target : Path) : String :=
  "Path \"" ++ target.text ++ "\" already exists. Overwrite?"

def parentCheck : Prompt.Check := Prompt.nonEmpty "Path cannot be empty."

/-- Finds a parent for the package where nothing is in the way, or may be replaced. Each round
takes an answer. -/
def findParent (p : Project) (homes : Homes) (package : String) : Nat → Path → Act Path
  | 0, parent => throw (.aborted (overwriteQuestion (parent.child package)))
  | rounds + 1, parent => do
    let target := parent.child package
    let taken ← Act.consult fun fs => (fs.exists? target).mapError Failure.fault
    if !taken || p.settings.force then return parent
    else if ← Act.talk (Prompt.confirm (overwriteQuestion target) false) then return parent
    else
      let answer ← Act.talk (Prompt.text "Enter a new path for the project:" "" parentCheck)
      let parent ← Act.consult fun fs => p.settings.resolve homes fs (.ofText answer)
      findParent p homes package rounds parent

def renderer (p : Project) : Template.Renderer :=
  ⟨[("description", .text p.manifest.description)], some p.vocabulary, some p.templates⟩

def fill (p : Project) (package : String) (parent : Path) (s : Selection)
    (bindings : Template.Variables) : Act Built := do
  let target := parent.child package
  Act.change (Files.recreate target)
  let bindings := (p.bindings package parent s).overlay bindings
  let walk : Walk :=
    { vocabulary := p.vocabulary, renderer := p.renderer, selection := s, bindings }
  return ⟨target, s, ← walk.materialize p.templates target⟩

def nameText (name : String) : String :=
  "Project name " ++ Text.quoted name ++ " is not a valid package name"

def build (p : Project) (homes : Homes) (q : Request) : Act Built := do
  let package := Text.packageName q.name
  if package = "" then throw (.invalid (nameText q.name))
  let parent ←
    if q.parent = "" then pure p.settings.running
    else Act.consult fun fs => p.settings.resolve homes fs (.ofText q.parent)
  let rounds := (← get).terminal.answers.length + 1
  let parent ← p.findParent homes package rounds parent
  let framework ←
    match q.framework with
    | some f => pure f
    | none => Act.talk p.askFramework
  let options ←
    match q.options with
    | some os => pure os
    | none => Act.talk p.askOptions
  let s ← Act.consult fun _ => p.select framework options
  p.fill package parent s q.bindings

end Project
end Scaffold
