import Scaffold.Manifest
import Scaffold.Settings
import Scaffold.Template.Variables
import Scaffold.Text.Utf8
import Scaffold.Yaml.Document

set_option autoImplicit false

/-!
# Projects in a directory

A type of project is a folder with a manifest in it; it goes by the name in the manifest, which
defaults to that of the folder. Of two types with one name the later folder counts, in the place of
the first.
-/
namespace Scaffold

def Manifest.ofFile (fs : Files) (p : Path) : Except Failure Manifest := do
  let bytes ← (fs.read p).mapError Failure.fault
  let text ← (Text.ofBytes bytes).mapError Failure.ofUndecodable
  let document ← (Yaml.valueOf text).mapError Failure.document
  (Manifest.ofDocument p.parent.name document).mapError fun f =>
    match f with
    | .notMapping => .invalid ("Project manifest must be a mapping: " ++ p.text)
    | .refused r => .refused r

structure ProjectType where
  manifest : Manifest
  root : Path
  deriving DecidableEq, Repr

namespace ProjectType

def manifestName : String := "project.yaml"

def name (t : ProjectType) : String := t.manifest.name

def ofFolder (fs : Files) (folder : Path) : Except Failure (Option ProjectType) := do
  let p := folder.child manifestName
  if ← (fs.isDirectory? folder).mapError Failure.fault then
    if ← (fs.isFile? p).mapError Failure.fault then
      return some ⟨← Manifest.ofFile fs p, folder⟩
  return none

def add (found : List ProjectType) (t : ProjectType) : List ProjectType :=
  if found.any (·.name = t.name) then found.map fun u => if u.name = t.name then t else u
  else found ++ [t]

def collect (fs : Files) : List Path → List ProjectType → Except Failure (List ProjectType)
  | [], found => .ok found
  | folder :: rest, found => do
    match ← ofFolder fs folder with
    | some t => collect fs rest (add found t)
    | none => collect fs rest found

def discover (fs : Files) (directory : Path) : Except Failure (List ProjectType) := do
  if ← (fs.isDirectory? directory).mapError Failure.fault then
    let names ← (fs.list directory).mapError Failure.fault
    collect fs (names.map directory.child) []
  else return []

def namesOf (types : List ProjectType) : List String := (types.map name).mergeSort (· ≤ ·)

end ProjectType

structure Project where
  type : ProjectType
  settings : Settings
  vocabulary : Vocabulary
  deriving DecidableEq, Repr

namespace Project

def manifest (p : Project) : Manifest := p.type.manifest

def name (p : Project) : String := p.type.name

def templates (p : Project) : Path := p.type.root.join (.ofText p.manifest.templates)

def ofType (t : ProjectType) (settings : Settings) : Except Failure Project := do
  let vocabulary ← (t.manifest.vocabulary settings.marker).mapError Failure.refused
  return ⟨t, settings, vocabulary⟩

def load (fs : Files) (settings : Settings) (name : String) : Except Failure Project := do
  let types ← ProjectType.discover fs settings.projects
  match types.find? (·.name = name) with
  | some t => ofType t settings
  | none => throw (.unknownProject name (ProjectType.namesOf types))

/-- A selection of what the project has; it must have the framework and all of the options. -/
def select (p : Project) (framework : String) (options : List String) : Except Failure Selection :=
  let m := p.manifest
  let unknown := options.filter fun o => !m.options.contains o
  if !m.frameworks.contains framework then
    .error (.invalid ("Unknown framework " ++ Text.quoted framework ++ " for " ++ p.name ++
      " (expected one of " ++ ", ".intercalate m.frameworks ++ ")"))
  else if !unknown.isEmpty then
    .error (.invalid ("Unknown option(s) " ++ ", ".intercalate unknown ++ " for " ++ p.name ++
      " (expected any of " ++ ", ".intercalate m.options ++ ")"))
  else .ok (Selection.of framework options)

def bindings (p : Project) (package : String) (parent : Path) (s : Selection) :
    Template.Variables := [
  ("type", .text p.name), ("name", .text package), ("package_name", .text package),
  ("path", .text parent.text), ("framework", .text s.framework),
  ("options", .list (s.options.map .text))]

end Project
end Scaffold
