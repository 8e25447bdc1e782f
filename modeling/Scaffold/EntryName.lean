import Scaffold.Condition

set_option autoImplicit false

/-!
# Names of entries

A file name is a stem, the segments between its dots, and an extension; leading dots belong to the
stem. The segments of a file and the last part of a directory's name carry conditions. The clean
name is the name without them and without the marker of files to render.
-/
namespace Scaffold

/-- A file name in its parts; `extension` is empty where no dot follows the leading ones. -/
structure NameParts where
  stem : String
  segments : List String
  extension : String
  rendered : Bool
  deriving DecidableEq, Repr

namespace NameParts

def ofName (v : Vocabulary) (name : String) : NameParts :=
  let cs := name.toList
  let dots := cs.takeWhile (· = '.')
  match (cs.dropWhile (· = '.')).splitOn '.' with
  | [] => ⟨name, [], "", false⟩
  | [_] => ⟨name, [], "", false⟩
  | first :: second :: others =>
    let rest := second :: others
    let extension := String.ofList (rest.getLast?.getD [])
    ⟨String.ofList (dots ++ first), rest.dropLast.map String.ofList, extension,
      extension == v.marker⟩

def nativeExtension (p : NameParts) : String :=
  if p.rendered then p.segments.getLast?.getD "" else p.extension

/-- Whether a token names the type of component files of the framework it names. -/
def namesComponents (v : Vocabulary) (token : String) : Bool :=
  v.isFramework token && v.componentExtension? token == some token

/-- The condition of each segment. In a file to render, the last one is the type of the file if it
names components. -/
def conditions (v : Vocabulary) (p : NameParts) : List Condition :=
  p.segments.zipIdx.map fun (segment, i) =>
    if p.rendered && i + 1 == p.segments.length && namesComponents v segment then .inert segment
    else .ofSegment v segment

/-- The segments that stay: no condition that decides, no marker. -/
def keptSegments (v : Vocabulary) (p : NameParts) : List String :=
  ((p.segments.zip (p.conditions v)).filter fun (segment, c) =>
    !c.isGating && segment != v.marker).map (·.1)

def clean (v : Vocabulary) (p : NameParts) : String :=
  ".".intercalate (p.stem :: p.keptSegments v ++
    if p.extension ≠ "" && !p.rendered then [p.extension] else [])

end NameParts

namespace FileName

def conditions (v : Vocabulary) (name : String) : List Condition := (NameParts.ofName v name).conditions v

def isRendered (v : Vocabulary) (name : String) : Bool := (NameParts.ofName v name).rendered

def clean (v : Vocabulary) (name : String) : String := (NameParts.ofName v name).clean v

def isIncluded (v : Vocabulary) (s : Selection) (name : String) : Bool :=
  Condition.allHold s (conditions v name)

/-- The name of the file that comes out: clean, then renamed for the framework. -/
def destination (v : Vocabulary) (s : Selection) (name : String) : String :=
  Renaming.apply v.renamings s.framework (clean v name)

end FileName

namespace DirectoryName

/-- What is before and after the last dot that is no leading one. -/
def splitLast? (name : String) : Option (String × String) :=
  let cs := name.toList
  if '.' ∈ cs.dropWhile (· = '.') then
    let after := (cs.reverse.takeWhile (· ≠ '.')).reverse
    some (String.ofList (cs.take (cs.length - after.length - 1)), String.ofList after)
  else none

/-- At most one condition: that of the part after the last dot. -/
def conditions (v : Vocabulary) (name : String) : List Condition :=
  match splitLast? name with
  | none => []
  | some (_, segment) => [.ofSegment v segment]

def clean (v : Vocabulary) (name : String) : String :=
  match splitLast? name with
  | none => name
  | some (before, segment) => if (Condition.ofSegment v segment).isGating then before else name

def isIncluded (v : Vocabulary) (s : Selection) (name : String) : Bool :=
  Condition.allHold s (conditions v name)

end DirectoryName
end Scaffold
