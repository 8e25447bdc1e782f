import Scaffold.Text.Blank
import Scaffold.Text.Case
import Scaffold.Text.Word

set_option autoImplicit false

/-!
# Names made from text

A package name is lower-case letters and digits of ASCII in runs joined by single hyphens; it is
empty where the text has none of them. The other functions put the words of a name together in
the usual spellings.
-/
namespace Scaffold.Text

def isLowerAscii (c : Char) : Bool := 'a' ≤ c && c ≤ 'z'

def isUpperAscii (c : Char) : Bool := 'A' ≤ c && c ≤ 'Z'

def isDigitAscii (c : Char) : Bool := '0' ≤ c && c ≤ '9'

def isPackageChar (c : Char) : Bool := isLowerAscii c || isDigitAscii c

/-- Runs of characters that pass the test are replaced by one `mark` each. -/
def squeeze (p : Char → Bool) (mark : Char) : List Char → List Char
  | [] => []
  | c :: r =>
    if p c then
      match r with
      | [] => [mark]
      | d :: _ => if p d then squeeze p mark r else mark :: squeeze p mark r
    else c :: squeeze p mark r

/-- The character itself if it is a lower-case letter, a digit or a hyphen, and else a hyphen. -/
def hyphened (c : Char) : Char := if isPackageChar c || c = '-' then c else '-'

def packageChars (cs : List Char) : List Char :=
  stripChars (· = '-') (squeeze (· = '-') '-' ((lower (strip cs)).map hyphened))

def packageName (s : String) : String := String.ofList (packageChars s.toList)

def slugChars (cs : List Char) : List Char :=
  stripChars (· = '-') (squeeze (fun c => !isPackageChar c) '-' (strip (lower cs)))

def slug (s : String) : String := String.ofList (slugChars s.toList)

/-- The pieces between the characters that pass the test. -/
def fieldsBy (p : Char → Bool) : List Char → List (List Char)
  | [] => [[]]
  | c :: r =>
    if p c then [] :: fieldsBy p r
    else
      match fieldsBy p r with
      | [] => [[c]]
      | w :: ws => (c :: w) :: ws

def isWordGap (c : Char) : Bool := c = '-' || c = '_' || isBlank c

def pascalChars (cs : List Char) : List Char :=
  ((fieldsBy isWordGap cs).map capitalize).flatten

def pascalCase (s : String) : String := String.ofList (pascalChars s.toList)

def camelChars (cs : List Char) : List Char :=
  match pascalChars cs with
  | [] => []
  | c :: r => lower [c] ++ r

def camelCase (s : String) : String := String.ofList (camelChars s.toList)

/-- Puts an underscore before each capital that lower-case letters follow, unless it starts the
text or a line, or the character before it was spent on an earlier word. -/
def partWords : List Char → List Char
  | a :: b :: r =>
    if a ≠ '\n' && isUpperAscii b && r.head?.any isLowerAscii then
      a :: '_' :: b :: (r.takeWhile isLowerAscii ++ partWords (r.dropWhile isLowerAscii))
    else a :: partWords (b :: r)
  | cs => cs
  termination_by cs => cs.length
  decreasing_by
    · have := (List.dropWhile_suffix (l := r) isLowerAscii).length_le
      simp only [List.length_cons]
      omega
    · simp

def partCapitals : List Char → List Char
  | a :: b :: r =>
    if isPackageChar a && isUpperAscii b then a :: '_' :: b :: partCapitals r
    else a :: partCapitals (b :: r)
  | cs => cs

def snakeChars (cs : List Char) : List Char :=
  lower (squeeze (fun c => c = '-' || isBlank c) '_' (partCapitals (partWords cs)))

def snakeCase (s : String) : String := String.ofList (snakeChars s.toList)

/-- The name under which templates ask for one framework. -/
def helperName (framework : String) : String :=
  "is_" ++ String.ofList (framework.toList.map fun c => if isWord c then c else '_')

def isAffirmative (s : String) : Bool :=
  ["1", "true", "yes", "on"].contains (lowered (stripped s))

end Scaffold.Text
