import Scaffold.Text.CaseTable

set_option autoImplicit false

/-!
# Letter case

Lower, upper and title case after the tables, with the one rule that depends on the letters
around: a capital sigma that ends a word becomes the final form.
-/
namespace Scaffold.Text

private def mapped (runs : List CaseRun) (sequences : List (Nat × List Nat)) (c : Char) :
    List Char :=
  match sequences.lookup c.toNat with
  | some s => s.map Char.ofNat
  | none =>
    match runs.findSome? fun r => r.image? c.toNat with
    | some n => [Char.ofNat n]
    | none => [c]

def lowerLetter (c : Char) : List Char := mapped lowerRuns lowerSequences c

def upperLetter (c : Char) : List Char := mapped upperRuns upperSequences c

def titleLetter (c : Char) : List Char :=
  match titleSequences.lookup c.toNat with
  | some s => s.map Char.ofNat
  | none => upperLetter c

/-- Whether a sigma between the letters `before` (nearest first) and `after` ends a word: a cased
letter stands before it and none after it, marks left aside. -/
def endsWord (before after : List Char) : Bool :=
  (before.dropWhile caseIgnorableRanges.has).head?.any casedRanges.has &&
    !(after.dropWhile caseIgnorableRanges.has).head?.any casedRanges.has

def lowerAfter (before : List Char) : List Char → List Char
  | [] => []
  | c :: r =>
    (if c = 'Σ' then [if endsWord before r then 'ς' else 'σ'] else lowerLetter c) ++
      lowerAfter (c :: before) r

def lower (cs : List Char) : List Char := lowerAfter [] cs

def upper (cs : List Char) : List Char := cs.flatMap upperLetter

/-- The first letter in title case and the others in lower case. -/
def capitalize : List Char → List Char
  | [] => []
  | c :: r => titleLetter c ++ lowerAfter [c] r

def lowered (s : String) : String := String.ofList (lower s.toList)

def uppered (s : String) : String := String.ofList (upper s.toList)

def capitalized (s : String) : String := String.ofList (capitalize s.toList)

end Scaffold.Text
