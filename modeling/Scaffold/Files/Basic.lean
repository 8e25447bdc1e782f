import Scaffold.Path

set_option autoImplicit false

/-!
# A tree of files

The tree is a finite map from places to entries, a place being the names that lead to it from the
root. The root is a directory of its own accord. A path is located from the current directory;
links on the way are followed, at most forty of them.
-/
namespace Scaffold

abbrev Place := List String

inductive Entry where
  | file (content : ByteArray)
  | directory
  | link (target : String)

instance : DecidableEq Entry
  | .file a, .file b =>
    @decidable_of_iff _ (a = b) ⟨congrArg Entry.file, Entry.file.inj⟩ (ByteArray.instDecidableEq a b)
  | .directory, .directory => isTrue rfl
  | .link a, .link b => decidable_of_iff (a = b) ⟨congrArg Entry.link, Entry.link.inj⟩
  | .file _, .directory => isFalse Entry.noConfusion
  | .file _, .link _ => isFalse Entry.noConfusion
  | .directory, .file _ => isFalse Entry.noConfusion
  | .directory, .link _ => isFalse Entry.noConfusion
  | .link _, .file _ => isFalse Entry.noConfusion
  | .link _, .directory => isFalse Entry.noConfusion

inductive Fault where
  | notFound
  | exists
  | notDirectory
  | isDirectory
  | tooManyLinks
  | nameTooLong
  | notEmpty
  | invalidArgument
  | sameFile (source target : String)
  | zeroCharacter
  deriving DecidableEq, Repr

namespace Fault

def message : Fault → String
  | notFound => "No such file or directory"
  | .exists => "File exists"
  | notDirectory => "Not a directory"
  | isDirectory => "Is a directory"
  | tooManyLinks => "Too many levels of symbolic links"
  | nameTooLong => "File name too long"
  | notEmpty => "Directory not empty"
  | invalidArgument => "Invalid argument"
  | sameFile source target => source ++ " and " ++ target ++ " are the same file"
  | zeroCharacter => "embedded null byte"

def isAbsence : Fault → Bool
  | notFound | notDirectory | tooManyLinks | zeroCharacter => true
  | _ => false

end Fault

/-- The entries below the root, and the directory that relative paths start from. -/
structure Files where
  entries : List (Place × Entry)
  current : Place := []

namespace Files

def get? (fs : Files) (place : Place) : Option Entry :=
  if place = [] then some .directory else fs.entries.lookup place

/-- Sets the entry at a place, which keeps its position if it has one. -/
def set (fs : Files) (place : Place) (e : Entry) : Files :=
  if fs.entries.any (·.1 = place) then
    { fs with entries := fs.entries.map fun x => if x.1 = place then (place, e) else x }
  else { fs with entries := fs.entries ++ [(place, e)] }

def erase (fs : Files) (place : Place) : Files :=
  { fs with entries := fs.entries.filter (·.1 ≠ place) }

def eraseBelow (fs : Files) (place : Place) : Files :=
  { fs with entries := fs.entries.filter fun x => !(place.isPrefixOf x.1 && x.1 ≠ place) }

def names (fs : Files) (place : Place) : List String :=
  (fs.entries.filterMap fun x =>
    if x.1 ≠ [] ∧ x.1.dropLast = place then x.1.getLast? else none).mergeSort (· ≤ ·)

theorem get?_root (fs : Files) : fs.get? [] = some .directory := rfl

inductive Located where
  | found (place : Place) (e : Entry)
  | free (place : Place)
  | fault (f : Fault)

/-- The longest name, in bytes. -/
def nameLimit : Nat := 255

/-- Goes on from a directory along names. A link is handed to `onLink` with the names that follow
it, unless it is the last name and `follow` is off. -/
def advance (fs : Files) (follow : Bool) (onLink : Place → String → List String → Located) :
    Place → List String → Located
  | at_, [] => .found at_ .directory
  | at_, n :: rest =>
    if n = ".." then advance fs follow onLink at_.dropLast rest
    else if nameLimit < n.utf8ByteSize then .fault .nameTooLong
    else
      let place := at_ ++ [n]
      match fs.get? place with
      | none => if rest = [] then .free place else .fault .notFound
      | some .directory => advance fs follow onLink place rest
      | some (.file content) =>
        if rest = [] then .found place (.file content) else .fault .notDirectory
      | some (.link target) =>
        if rest = [] && !follow then .found place (.link target) else onLink at_ target rest

def walkNames (fs : Files) (follow : Bool) : Nat → Place → List String → Located
  | 0 => advance fs follow fun _ _ _ => .fault .tooManyLinks
  | links + 1 =>
    advance fs follow fun at_ target rest =>
      let t := Path.ofText target
      if target = "" then .fault .notFound
      else walkNames fs follow links (if t.isAbsolute then [] else at_) (t.names ++ rest)

def linkLimit : Nat := 40

/-- The longest path, in bytes. -/
def pathLimit : Nat := 4095

def locate (fs : Files) (follow : Bool) (p : Path) : Located :=
  if p.text.toList.contains '\x00' then .fault .zeroCharacter
  else if pathLimit < p.text.utf8ByteSize then .fault .nameTooLong
  else walkNames fs follow linkLimit (if p.isAbsolute then [] else fs.current) p.names

def stat (fs : Files) (p : Path) : Except Fault (Place × Entry) :=
  match fs.locate true p with
  | .found place e => .ok (place, e)
  | .free _ => .error .notFound
  | .fault f => .error f

def statLink (fs : Files) (p : Path) : Except Fault (Place × Entry) :=
  match fs.locate false p with
  | .found place e => .ok (place, e)
  | .free _ => .error .notFound
  | .fault f => .error f

/-- A question about an entry, answered "no" where there is none. -/
def asks (q : Entry → Bool) : Except Fault (Place × Entry) → Except Fault Bool
  | .ok (_, e) => .ok (q e)
  | .error f => if f.isAbsence then .ok false else .error f

def exists? (fs : Files) (p : Path) : Except Fault Bool := asks (fun _ => true) (fs.stat p)

def isDirectory? (fs : Files) (p : Path) : Except Fault Bool :=
  asks (· matches .directory) (fs.stat p)

def isFile? (fs : Files) (p : Path) : Except Fault Bool := asks (· matches .file _) (fs.stat p)

def read (fs : Files) (p : Path) : Except Fault ByteArray :=
  match fs.stat p with
  | .ok (_, .file content) => .ok content
  | .ok (_, _) => .error .isDirectory
  | .error f => .error f

def list (fs : Files) (p : Path) : Except Fault (List String) :=
  match fs.stat p with
  | .ok (place, .directory) => .ok (fs.names place)
  | .ok (_, _) => .error .notDirectory
  | .error f => .error f

end Files
end Scaffold
