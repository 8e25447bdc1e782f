import Scaffold.CommandLine.Arguments

set_option autoImplicit false

/-!
# Usage

What the command line says about itself, and how a command line without arguments ends.
-/
namespace Scaffold.CommandLine

def program : String := "treeforge"

def versionText : String := program ++ " 0.1.0\n"

def usage : String :=
  "usage: treeforge [-h] [--framework FRAMEWORK] [--option OPTIONS]\n" ++
  "                 [--no-options] [--projects-dir PROJECTS_DIR] [--force]\n" ++
  "                 [--list] [--version]\n" ++
  "                 [type] [name] [path]\n"

def helpText : String :=
  usage ++
  "\nCreate a new project from a conditional template tree.\n" ++
  "\npositional arguments:\n" ++
  "  type                  Type of project\n" ++
  "  name                  Name of the project\n" ++
  "  path                  Path where to create the project\n" ++
  "\noptions:\n" ++
  "  -h, --help            show this help message and exit\n" ++
  "  --framework FRAMEWORK, -f FRAMEWORK\n" ++
  "                        Framework to use\n" ++
  "  --option OPTIONS, -o OPTIONS\n" ++
  "                        Enable an option (repeatable)\n" ++
  "  --no-options          Enable no option, skip the prompt\n" ++
  "  --projects-dir PROJECTS_DIR\n" ++
  "                        Directory holding project types\n" ++
  "  --force               Overwrite an existing project directory\n" ++
  "  --list                List available project types and exit\n" ++
  "  --version, -v         show program's version number and exit\n" ++
  "\nExamples:\n" ++
  "  treeforge electron my-app ./apps --framework vue\n" ++
  "  treeforge electron my-app . -f react -o pug -o tailwindcss\n" ++
  "  treeforge --list\n"

/-- How the program ends: with an exit code, if it does not end by itself, and what it wrote besides
what is on the console. -/
structure Ending where
  exit : Option Nat := none
  output : String := ""
  errors : String := ""
  deriving DecidableEq, Repr

def Stop.ending : Stop → Ending
  | .help => ⟨some 0, helpText, ""⟩
  | .version => ⟨some 0, versionText, ""⟩
  | .wrong message => ⟨some 2, "", usage ++ program ++ ": error: " ++ message ++ "\n"⟩

end Scaffold.CommandLine
