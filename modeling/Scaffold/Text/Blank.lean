import Scaffold.Text.Ranges

set_option autoImplicit false

/-!
# Blanks

A blank is any white space, line and paragraph separator of Unicode, or one of the four
information separators. Stripping removes blanks from the ends and nothing between them.
-/
namespace Scaffold.Text

def blankRanges : Ranges := [
    (9, 13), (28, 32), (133, 133), (160, 160), (5760, 5760), (8192, 8202), (8232, 8233),
    (8239, 8239), (8287, 8287), (12288, 12288)]

def isBlank (c : Char) : Bool := blankRanges.has c

def isBlankText (cs : List Char) : Bool := !cs.isEmpty && cs.all isBlank

def dropEndWhile (p : Char → Bool) (cs : List Char) : List Char :=
  (cs.reverse.dropWhile p).reverse

def stripChars (p : Char → Bool) (cs : List Char) : List Char :=
  dropEndWhile p (cs.dropWhile p)

def stripStart (cs : List Char) : List Char := cs.dropWhile isBlank

def stripEnd (cs : List Char) : List Char := dropEndWhile isBlank cs

def strip (cs : List Char) : List Char := stripChars isBlank cs

def stripped (s : String) : String := String.ofList (strip s.toList)

end Scaffold.Text
