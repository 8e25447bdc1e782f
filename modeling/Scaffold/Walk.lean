import Scaffold.EntryName
import Scaffold.Files.Change
import Scaffold.Template.Renderer

set_option autoImplicit false

/-!
# Walking a tree of templates

The walk goes through a directory depth first, siblings in the order of their names, and makes of
each entry whose name fits the selection one below a destination: a directory under its clean
name, a file to render as the text that its template gives, any other file byte for byte. The
first failure ends the walk; what was made before it stays.
-/
namespace Scaffold

structure Report where
  directories : List Path := []
  rendered : List Path := []
  copied : List Path := []
  skipped : List Path := []
  missing : List Path := []
  deriving DecidableEq, Repr

namespace Report

def written (r : Report) : List Path := r.rendered ++ r.copied

def summary (r : Report) : List (String × String) := [
  ("Directories", toString r.directories.length),
  ("Rendered files", toString r.rendered.length),
  ("Copied files", toString r.copied.length),
  ("Skipped entries", toString r.skipped.length)]

def addDirectory (r : Report) (p : Path) : Report := { r with directories := r.directories ++ [p] }

def addSkipped (r : Report) (p : Path) : Report := { r with skipped := r.skipped ++ [p] }

def addMissing (r : Report) (p : Path) : Report := { r with missing := r.missing ++ [p] }

def addFile (r : Report) (rendered : Bool) (p : Path) : Report :=
  if rendered then { r with rendered := r.rendered ++ [p] } else { r with copied := r.copied ++ [p] }

end Report

structure Walk where
  vocabulary : Vocabulary
  renderer : Template.Renderer
  selection : Selection
  bindings : Template.Variables := []
  /-- Two walks by one renderer need not share this: another one draws other numbers. -/
  engine : Template.Engine := .standard

def Failure.ofFault (action : String) (p : Path) (f : Fault) : Failure :=
  match f with
  | .zeroCharacter => .invalid f.message
  | f => .files (action ++ " (" ++ f.message ++ ")") p

namespace Walk

abbrev Step (α : Type) := Files → Except Failure α × Files

def reported {α : Type} (action : String) (p : Path) (c : Files.Change α) : Step α := fun fs =>
  let (r, fs) := c fs
  (r.mapError (Failure.ofFault action p), fs)

def makeDirectory (p : Path) : Step Unit :=
  reported "Cannot create directory" p (Files.ensureDirectory p)

def writeText (p : Path) (text : String) : Step Unit :=
  reported "Cannot write file" p (Files.write p text.toUTF8)

def copyFile (source target : Path) : Step Unit :=
  reported ("Cannot copy " ++ source.name) target (Files.copy source target)

def listEntries (fs : Files) (p : Path) : Except Failure (List (String × Bool)) :=
  let listed : Except Fault (List (String × Bool)) := do
    (← fs.list p).mapM fun n => do return (n, ← fs.isDirectory? (p.child n))
  listed.mapError (Failure.ofFault "Cannot list directory" p)

def targetOf (w : Walk) (dest : Path) (name : String) : Path :=
  dest.join (.ofText (FileName.destination w.vocabulary w.selection name))

def file (w : Walk) (source dest : Path) : Step Path := fun fs =>
  let target := w.targetOf dest source.name
  let done : Except Failure Unit × Files :=
    if FileName.isRendered w.vocabulary source.name then
      match w.renderer.renderFileBy w.engine fs source w.bindings (some w.selection) with
      | .error f => (.error f, fs)
      | .ok text => writeText target text fs
    else copyFile source target fs
  (done.1.map fun _ => target, done.2)

def entry (w : Walk) (descend : Path → Path → Report → Step Report) (source dest : Path)
    (e : String × Bool) (r : Report) : Step Report := fun fs =>
  let (name, isDirectory) := e
  let here := source.child name
  if isDirectory then
    if DirectoryName.isIncluded w.vocabulary w.selection name then
      let target := dest.join (.ofText (DirectoryName.clean w.vocabulary name))
      match makeDirectory target fs with
      | (.error f, fs) => (.error f, fs)
      | (.ok (), fs) => descend here target (r.addDirectory target) fs
    else (.ok (r.addSkipped here), fs)
  else if FileName.isIncluded w.vocabulary w.selection name then
    match w.file here dest fs with
    | (.error f, fs) => (.error f, fs)
    | (.ok target, fs) => (.ok (r.addFile (FileName.isRendered w.vocabulary name) target), fs)
  else (.ok (r.addSkipped here), fs)

/-- The entries one after the other, up to the first failure. -/
def entries {α : Type} (step : α → Report → Step Report) : List α → Report → Step Report
  | [], r, fs => (.ok r, fs)
  | e :: es, r, fs =>
    match step e r fs with
    | (.error f, fs) => (.error f, fs)
    | (.ok r, fs) => entries step es r fs

/-- Walks a directory nested less deep than a bound. A source that is not there leaves a note. -/
def directory (w : Walk) : Nat → Path → Path → Report → Step Report
  | 0, source, _, _, fs => (.error (.ofFault "Cannot list directory" source .nameTooLong), fs)
  | depth + 1, source, dest, r, fs =>
    match fs.exists? source with
    | .error f => (.error (.fault f), fs)
    | .ok false => (.ok (r.addMissing source), fs)
    | .ok true =>
      match makeDirectory dest fs with
      | (.error f, fs) => (.error f, fs)
      | (.ok (), fs) =>
        match listEntries fs source with
        | .error f => (.error f, fs)
        | .ok es => entries (w.entry (w.directory depth) source dest) es r fs

/-- Walks a tree from its top. No path has more names than it has characters. -/
def run (w : Walk) (source dest : Path) : Step Report :=
  w.directory Files.pathLimit source dest {}

def missingText (p : Path) : String := "Template directory does not exist: " ++ p.text

end Walk
end Scaffold
