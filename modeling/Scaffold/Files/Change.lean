import Scaffold.Files.Basic
import Scaffold.Text.Quoted

set_option autoImplicit false

/-!
# Changes to a tree of files

Each change gives its outcome together with the tree as it is afterwards, also when it fails: what
was done before the failure stays done.
-/
namespace Scaffold.Files

abbrev Change (α : Type) := Files → Except Fault α × Files

def write (p : Path) (content : ByteArray) : Change Unit := fun fs =>
  match fs.locate true p with
  | .found _ .directory => (.error .isDirectory, fs)
  | .found place _ => (.ok (), fs.set place (.file content))
  | .free place => (.ok (), fs.set place (.file content))
  | .fault f => (.error f, fs)

def makeDirectory (p : Path) : Change Unit := fun fs =>
  match fs.locate false p with
  | .found _ _ => (.error .exists, fs)
  | .free place => (.ok (), fs.set place .directory)
  | .fault f => (.error f, fs)

/-- What an attempt to make a directory comes to if one that is there will do. -/
def settle (p : Path) (existOk : Bool) (f : Fault) (fs : Files) : Except Fault Unit :=
  if existOk && f ≠ .zeroCharacter then
    match fs.isDirectory? p with
    | .ok true => .ok ()
    | .ok false => .error f
    | .error g => .error g
  else .error f

def makeNames (anchor : Anchor) (existOk : Bool) (names : List String) : Change Unit := fun fs =>
  let p : Path := ⟨anchor, names⟩
  match makeDirectory p fs with
  | (.ok (), fs) => (.ok (), fs)
  | (.error .notFound, fs) =>
    if _h : names = [] then (.error .notFound, fs)
    else
      match makeNames anchor true names.dropLast fs with
      | (.error f, fs) => (.error f, fs)
      | (.ok (), fs) =>
        match makeDirectory p fs with
        | (.ok (), fs) => (.ok (), fs)
        | (.error .notFound, fs) => (.error .notFound, fs)
        | (.error f, fs) => (settle p existOk f fs, fs)
  | (.error f, fs) => (settle p existOk f fs, fs)
  termination_by names.length
  decreasing_by
    have := List.length_pos_iff.2 _h
    simp only [List.length_dropLast]
    omega

def ensureDirectory (p : Path) : Change Unit := makeNames p.anchor true p.names

def pathValue (p : Path) : String := "PosixPath(" ++ Text.quoted p.text ++ ")"

def copy (source target : Path) : Change Unit := fun fs =>
  let same :=
    match fs.stat source, fs.stat target with
    | .ok (a, _), .ok (b, _) => a == b
    | _, _ => false
  if same then (.error (.sameFile (pathValue source) (pathValue target)), fs)
  else
    match fs.read source with
    | .error f => (.error f, fs)
    | .ok content => write target content fs

/-- Takes away what is at a path, with all below it, and makes it an empty directory. A link is
taken away itself. The current directory and the one above it are emptied, but cannot be
replaced. -/
def recreate (p : Path) : Change Unit := fun fs =>
  let cleared : Except Fault Unit × Files :=
    match fs.statLink p with
    | .ok (place, .directory) =>
      let emptied := fs.eraseBelow place
      if p.names = [] then (.error .invalidArgument, emptied)
      else if p.names.getLast? = some ".." then (.error .notEmpty, emptied)
      else (.ok (), emptied.erase place)
    | .ok (place, _) => (.ok (), fs.erase place)
    | .error f => if f.isAbsence then (.ok (), fs) else (.error f, fs)
  match cleared with
  | (.error f, fs) => (.error f, fs)
  | (.ok (), fs) => makeNames p.anchor false p.names fs

end Scaffold.Files
