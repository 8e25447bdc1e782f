import Scaffold.CommandLine.Usage
import Scaffold.Duration
import Scaffold.Project.Build

set_option autoImplicit false

/-!
# The command

The command lists the types of projects, or makes a new project, asking for what the command line
does not tell, and reports on it. A failure that the input or the files account for is reported in
a line; any other is not the command's to report.
-/
namespace Scaffold.CommandLine

def given (s? : Option String) : Option String := s?.filter (· ≠ "")

def run (a : Arguments) (settings : Settings) (homes : Homes) : Act Built := do
  let type ←
    match given a.type with
    | some t => pure t
    | none => do
      let types ← Act.consult fun fs => ProjectType.discover fs settings.projects
      Act.talk (Prompt.select "Select the type of project to create:" (ProjectType.namesOf types)
        none)
  let project ← Act.consult fun fs => Project.load fs settings type
  Act.talk (Talk.tell .info ("Creating a new " ++ project.name ++ " project"))
  let name ←
    match given a.name with
    | some n => pure n
    | none => Act.talk (Prompt.text "Name of the project:" "" Prompt.packageName)
  let parent ←
    match given a.path with
    | some p => pure p
    | none => Act.talk (Prompt.text "Path where to create the project:" settings.running.text
        Prompt.anything)
  let options := if a.noOptions then some [] else a.options
  project.build homes ⟨name, parent, a.framework, options, []⟩

def summaryRows (b : Built) (duration : String) : List (String × String) :=
  let options := ", ".intercalate b.selection.options
  [("Project", b.path.text), ("Framework", b.selection.framework),
    ("Options", if options = "" then "-" else options)] ++ b.report.summary ++
    [("Duration", duration)]

def failed : Ending := { exit := some 1 }

def list (settings : Settings) : Act Ending := do
  let types ← Act.consult fun fs => ProjectType.discover fs settings.projects
  if types.isEmpty then
    Act.talk (Talk.tell .error ("No project types found in " ++ settings.projects.text))
    return failed
  else
    let rows := types.map fun t => (t.name, t.manifest.description)
    Act.talk (Talk.put fun m width => Console.summary m width "Project types" rows)
    return {}

def report (f : Failure) : Act Ending := do
  match f with
  | .aborted _ | .interrupted => Act.talk (Talk.tell .error "\nCancelled")
  | f =>
    match f.report? with
    | some message => Act.talk (Talk.tell .error ("Error: " ++ message))
    | none => throw f
  return failed

def celebrate (b : Built) (elapsed : Number.Double) : Act Ending := do
  match Duration.textOfDouble elapsed with
  | .error message => throw (.invalid message)
  | .ok duration =>
    Act.talk (Talk.write "\n")
    Act.talk (Talk.put fun m width => Console.summary m width "Project created"
      (summaryRows b duration))
    Act.talk (Talk.tell .success ("Project created in " ++ b.path.text))
    return {}

/-- What the program is run in: its defaults, the homes of the accounts, and its variables. -/
structure Surroundings where
  defaults : Settings
  homes : Homes
  environment : List (String × String) := []

def overrides (a : Arguments) : List (Value × Value) :=
  (given a.projectsDirectory).toList.map (fun d => (.text "projects_dir", .text d)) ++
    if a.force then [(.text "force", .bool true)] else []

def Surroundings.settings (s : Surroundings) (a : Arguments) : Except Failure Settings :=
  (Settings.ofVariables s.defaults s.environment (overrides a)).mapError Failure.refused

def finish (outcome : Except Failure Built) (elapsed : Number.Double) : Act Ending :=
  match outcome with
  | .ok b => celebrate b elapsed
  | .error f => report f

/-- Runs the program on a command line; `elapsed` is the time that making a project takes. -/
def execute (s : Surroundings) (line : List String) (elapsed : Number.Double) : Act Ending := do
  match parse line with
  | .error stop => return stop.ending
  | .ok a =>
    let settings ← Act.consult fun _ => s.settings a
    if a.list then list settings
    else finish (← Act.outcome (run a settings s.homes)) elapsed

end Scaffold.CommandLine
