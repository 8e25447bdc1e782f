import Scaffold.Bundled.Electron
import Scaffold.CommandLine.Command

set_option autoImplicit false

/-!
# The program

The outer layer: it reads the files that a run may look at, runs the command on them, and brings
what has changed to the disk. A run that asks for one more answer is run again with it, and what
it printed before is not printed twice.
-/
namespace Scaffold.Main

def bundled : Path := .ofText "/treeforge/projects"

def consoleWidth : Nat := 80

def withDirectory (fs : Files) (p : Path) : Files := (Files.ensureDirectory p fs).2

def withFile (fs : Files) (p : Path) (content : ByteArray) : Files :=
  (Files.write p content (withDirectory fs p.parent)).2

def bundledFiles (fs : Files) : Files :=
  Bundled.Electron.files.foldl
    (fun fs (name, text) => withFile fs ((bundled.child "electron").join (.ofText name)) text.toUTF8)
    fs

partial def readDirectory (p : Path) (fs : Files) : IO Files := do
  let mut fs := withDirectory fs p
  for e in ← (← IO.FS.realPath p.text).readDir do
    let here := p.child e.fileName
    match (← e.path.symlinkMetadata).type with
    | .dir => fs ← readDirectory here fs
    | .file => fs := withFile fs here (← IO.FS.readBinFile e.path)
    | _ => pure ()
  return fs

def kindAt (p : Path) : IO (Option IO.FS.FileType) := do
  try
    return some (← (← IO.FS.realPath p.text).metadata).type
  catch _ => return none

partial def readAbove (p : Path) (fs : Files) : IO Files := do
  match ← kindAt p with
  | some .dir => return withDirectory fs p
  | some _ => return withFile fs p (← IO.FS.readBinFile p.text)
  | none => if p.names.isEmpty then return fs else readAbove p.parent fs

def readPath (p : Path) (fs : Files) : IO Files := do
  match ← kindAt p with
  | some .dir => readDirectory p fs
  | _ => readAbove p fs

def candidates (a : CommandLine.Arguments) (s : Settings) (homes : Homes) (fs : Files)
    (answers : List String) : List Path :=
  let parents := s.running :: (a.path.toList ++ answers).filterMap fun p =>
    (s.resolve homes fs (.ofText p)).toOption
  let packages := (a.name.toList ++ answers).map Text.packageName |>.filter (· ≠ "")
  parents.flatMap fun p => packages.map p.child

def placeText (place : Place) : String := (⟨.root, place⟩ : Path).text

def commit (before after : Files) : IO Unit := do
  for (place, e) in before.entries.reverse do
    if (after.get? place).isNone then
      match e with
      | .directory => IO.FS.removeDir (placeText place)
      | _ => IO.FS.removeFile (placeText place)
  for (place, e) in after.entries do
    if before.get? place ≠ some e then
      match e with
      | .directory => IO.FS.createDirAll (placeText place)
      | .file content => IO.FS.writeBinFile (placeText place) content
      | .link _ => pure ()

def leave (r : Except Failure CommandLine.Ending) (s : Session) : IO UInt32 := do
  IO.print s.terminal.printed
  match r with
  | .ok e =>
    IO.print e.output
    IO.eprint e.errors
    return (e.exit.getD 0).toUInt32
  | .error _ =>
    IO.eprintln "treeforge: unexpected failure"
    return 1

partial def converse (a : CommandLine.Arguments) (settings : Settings) (homes : Homes)
    (files : Files) (started : Nat) (answers : List String) (shown : Nat) : IO UInt32 := do
  let mut before := files
  for p in candidates a settings homes files answers do
    before ← readPath p before
  let lines := answers.map Answer.line ++ [.interrupt]
  let (r, s) := CommandLine.run a settings homes ⟨before, { width := consoleWidth, answers := lines }⟩
  IO.print (String.ofList (s.terminal.printed.toList.drop shown))
  (← IO.getStdout).flush
  let again ←
    match r, s.terminal.answers with
    | .error .interrupted, [] => do
      let line ← (← IO.getStdin).getLine
      pure (some line)
    | _, _ => pure none
  match again with
  | some "" => conclude (.error (.aborted "")) s
  | some line => converse a settings homes files started (answers ++ [line]) s.terminal.printed.length
  | none =>
    commit before s.files
    conclude r s
where
  conclude (r : Except Failure Built) (s : Session) : IO UInt32 := do
    let elapsed := (← IO.monoMsNow) - started
    let seconds := Number.Double.ofFloat (Number.floatOfRatio false elapsed 1000)
    let (e, s) := CommandLine.finish r seconds
      { s with terminal := { s.terminal with printed := "" } }
    leave e s

def readVariables : IO (List (String × String)) := do
  let mut found := []
  for (name, _) in Settings.variableFields do
    if let some value ← IO.getEnv name then
      found := (name, value) :: found
  return found

def run (line : List String) : IO UInt32 := do
  let running := Path.ofText (← IO.currentDir).toString
  let homes : Homes := ⟨(← IO.getEnv "HOME").getD "/", []⟩
  let surroundings : CommandLine.Surroundings :=
    ⟨{ projects := bundled, running := running }, homes, ← readVariables⟩
  let start : Session := ⟨withDirectory (bundledFiles ⟨[], running.names⟩) running,
    { width := consoleWidth }⟩
  match CommandLine.parse line with
  | .error stop => leave (.ok stop.ending) start
  | .ok a =>
    match surroundings.settings a with
    | .error f => leave (.error f) start
    | .ok settings =>
      let projects := running.join settings.projects
      let files ← if projects = bundled then pure start.files else readPath projects start.files
      if a.list then
        let (r, s) := CommandLine.list settings { start with files := files }
        leave r s
      else converse a settings homes files (← IO.monoMsNow) [] 0

end Scaffold.Main

def main (line : List String) : IO UInt32 := Scaffold.Main.run line
