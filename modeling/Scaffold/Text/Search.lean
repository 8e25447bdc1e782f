set_option autoImplicit false

/-!
# Parts of texts

Finding, splitting at and replacing a part, always from the left and without overlaps.
-/
namespace Scaffold.Text

def breakOn (part : List Char) : List Char → Option (List Char × List Char)
  | [] => if part.isEmpty then some ([], []) else none
  | c :: r =>
    if part.isPrefixOf (c :: r) then some ([], (c :: r).drop part.length)
    else (breakOn part r).map fun (a, b) => (c :: a, b)

def contains (part cs : List Char) : Bool := (breakOn part cs).isSome

def position? (part cs : List Char) : Option Nat := (breakOn part cs).map (·.1.length)

def splitAt (part : List Char) : Nat → List Char → List (List Char)
  | 0, cs => [cs]
  | limit + 1, cs =>
    match breakOn part cs with
    | none => [cs]
    | some (a, b) => a :: splitAt part limit b

def splitAll (part cs : List Char) : List (List Char) := splitAt part cs.length cs

/-- At most `limit` occurrences of `part` replaced; an empty part stands before each character and
at the end. -/
def replace (part new : List Char) (limit : Nat) (cs : List Char) : List Char :=
  if part.isEmpty then
    let k := min limit (cs.length + 1)
    (cs.take k).flatMap (fun c => new ++ [c]) ++ (if cs.length < k then new else cs.drop k)
  else new.intercalate (splitAt part limit cs)

def occurrences (part cs : List Char) : Nat :=
  if part.isEmpty then cs.length + 1 else (splitAll part cs).length - 1

def wordsBy (p : Char → Bool) : List Char → List (List Char)
  | [] => []
  | c :: r =>
    if p c then wordsBy p r
    else
      match r with
      | [] => [[c]]
      | d :: _ =>
        if p d then [c] :: wordsBy p r
        else
          match wordsBy p r with
          | [] => [[c]]
          | w :: ws => (c :: w) :: ws

/-- Lines without their ends; a final line end closes the last line. -/
def lines (cs : List Char) : List (List Char) := cs.splitOn '\n'

end Scaffold.Text
