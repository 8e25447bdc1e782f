import Scaffold.Failure
import Scaffold.Files.Canonical
import Scaffold.Text.Naming
import Scaffold.Vocabulary

set_option autoImplicit false

/-!
# Settings

Where the types of projects are, where relative paths start, which marker names files to render,
and whether projects that are there may be replaced without asking. Settings come from a record or
from the variables of the process, in which what is given outright counts more.
-/
namespace Scaffold

structure Settings where
  projects : Path
  running : Path
  marker : String := Vocabulary.defaultMarker
  force : Bool := false
  deriving DecidableEq, Repr

/-- The homes that paths can start from: that of the user and those of accounts by name. -/
structure Homes where
  own : String
  accounts : List (String × String) := []

namespace Settings
open Validation

def modelName : String := "Settings"

def checkPath : Value → Checked Path
  | .text s => .ok (.ofText s)
  | v => refuse .notPath v

def falseWords : List String := ["0", "off", "f", "false", "n", "no"]

def trueWords : List String := ["1", "on", "t", "true", "y", "yes"]

/-- A truth value, or a text or number that stands for one. -/
def checkBool (v : Value) : Checked Bool :=
  match v with
  | .bool b => .ok b
  | .text s =>
    let word := String.ofList (s.toList.map Char.toLower)
    if falseWords.contains word then .ok false
    else if trueWords.contains word then .ok true
    else refuse .unreadableBool v
  | .int n =>
    if n = 0 then .ok false else if n = 1 then .ok true else refuse .unreadableBool v
  | .float x =>
    if x == 0.0 then .ok false
    else if x == 1.0 then .ok true
    else if x.floor == x && !x.isInf then refuse .unreadableBool v
    else refuse .notBool v
  | v => refuse .notBool v

def ofRecord (defaults : Settings) (entries : List (Value × Value)) : Except Refusal Settings :=
  match both (field entries "projects_dir" defaults.projects checkPath)
      (both (field entries "running_path" defaults.running checkPath)
        (both (field entries "render_marker" defaults.marker checkText)
          (field entries "force" defaults.force checkBool))) with
  | .ok (projects, running, marker, force) => .ok ⟨projects, running, marker, force⟩
  | .error issues => .error ⟨modelName, issues⟩

def isAffirmative (v : Value) : Template.Outcome Bool :=
  match v with
  | .text s => .ok (Text.isAffirmative s)
  | v => if v.isTrue then .error (.misuse .noMember) else .ok false

def variableFields : List (String × String × (String → Value)) := [
  ("TREEFORGE_PROJECTS_DIR", "projects_dir", .text),
  ("TREEFORGE_RENDER_MARKER", "render_marker", .text),
  ("TREEFORGE_FORCE", "force", fun s => .bool (Text.isAffirmative s)),
  ("INIT_CWD", "running_path", .text)]

def recordOf (environment : List (String × String)) : List (Value × Value) :=
  variableFields.filterMap fun (source, name, read) =>
    match environment.lookup source with
    | some s => if s = "" then none else some (.text name, read s)
    | none => none

/-- Settings from variables of the process, with the fields that are given outright over them. -/
def ofVariables (defaults : Settings) (environment : List (String × String))
    (overrides : List (Value × Value)) : Except Refusal Settings :=
  ofRecord defaults
    ((overrides.filter fun e => !(e.2 matches .null)).foldl
      (fun es e => Value.insert es e.1 e.2) (recordOf environment))

/-- A path whose first name is a tilde, alone or before the name of an account, with the home in
its place. -/
def expandHome (homes : Homes) (p : Path) : Option Path :=
  match p.anchor, p.names with
  | .relative, first :: rest =>
    match first.toList with
    | '~' :: account =>
      let home? :=
        if account.isEmpty then some homes.own
        else homes.accounts.lookup (String.ofList account)
      home?.bind fun home =>
        let bare := String.ofList (Text.dropEndWhile (· = '/') home.toList)
        if bare.toList.head? = some '~' then none
        else
          let h := Path.ofText (if bare = "" then "/" else bare)
          some ⟨h.anchor, h.names ++ rest⟩
    | _ => some p
  | _, _ => some p

/-- The absolute path that a path stands for: as it is if it is absolute, else without dots and
links, from where relative paths start. -/
def resolve (s : Settings) (homes : Homes) (fs : Files) (p : Path) : Except Failure Path :=
  match expandHome homes p with
  | none => .error .unresolvable
  | some q =>
    if q.isAbsolute then .ok q
    else
      match fs.canonical (s.running.join q) with
      | .ok r => .ok r
      | .error .loop => .error .unresolvable
      | .error .zeroCharacter => .error (.invalid Fault.zeroCharacter.message)

end Settings
end Scaffold
