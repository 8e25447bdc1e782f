set_option autoImplicit false

/-!
# Paths

A path is a list of names below nothing, below the root, or below the root written with two
slashes. Its text is normal: empty and single-dot names are left out when a text is read, double
dots are kept, and the empty relative path is written as a dot.
-/
namespace Scaffold

inductive Anchor where
  | relative
  | root
  | doubleRoot
  deriving DecidableEq, Repr

structure Path where
  anchor : Anchor
  names : List String
  deriving DecidableEq, Repr

namespace Path

def namesOf (cs : List Char) : List String :=
  (cs.splitOn '/').filterMap fun n => if n = [] || n = ['.'] then none else some (String.ofList n)

def anchorOf (cs : List Char) : Anchor :=
  match (cs.takeWhile (· = '/')).length with
  | 0 => .relative
  | 2 => .doubleRoot
  | _ => .root

def ofText (s : String) : Path := ⟨anchorOf s.toList, namesOf s.toList⟩

def text (p : Path) : String :=
  let names := "/".intercalate p.names
  match p.anchor with
  | .relative => if p.names.isEmpty then "." else names
  | .root => "/" ++ names
  | .doubleRoot => "//" ++ names

instance : ToString Path := ⟨text⟩

def isAbsolute (p : Path) : Bool := p.anchor != .relative

def join (p q : Path) : Path :=
  if q.isAbsolute then q else ⟨p.anchor, p.names ++ q.names⟩

def child (p : Path) (name : String) : Path := ⟨p.anchor, p.names ++ [name]⟩

/-- The last name, empty for a path of none. -/
def name (p : Path) : String := p.names.getLast?.getD ""

def parent (p : Path) : Path := ⟨p.anchor, p.names.dropLast⟩

/-- A name of an entry: not empty, no slash in it, neither of the dot names. -/
def IsPlain (n : String) : Prop := n ≠ "" ∧ '/' ∉ n.toList ∧ n ≠ "." ∧ n ≠ ".."

instance (n : String) : Decidable (IsPlain n) := inferInstanceAs (Decidable (_ ∧ _ ∧ _ ∧ _))

theorem name_child (p : Path) (name : String) : (p.child name).name = name := by
  simp [child, Path.name]

/-- Names without dots: a double dot takes back the name before it, at the top none. -/
def normalNames (names : List String) : List String :=
  (names.foldl (fun up n => if n = ".." then up.tail else n :: up) []).reverse

end Path
end Scaffold
