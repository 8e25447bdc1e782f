import Scaffold.Text.Blank
import Scaffold.Text.Width

set_option autoImplicit false

/-!
# Lines

Text is broken between words into lines that fit a width. A word that is wider than a line is
folded at the last cell, or else cut short with a mark.
-/
namespace Scaffold.Console
open Text

def isDropped (c : Char) : Bool :=
  c.toNat = 7 || c.toNat = 8 || c.toNat = 11 || c.toNat = 12 || c.toNat = 13

def withoutControls (cs : List Char) : List Char := cs.filter fun c => !isDropped c

inductive Overflow where
  | fold
  | ellipsis
  deriving DecidableEq, Repr

def tabWidth : Nat := 8

def expandTabs : Nat → List Char → List Char
  | _, [] => []
  | column, '\t' :: r =>
    let n := tabWidth - column % tabWidth
    List.replicate n ' ' ++ expandTabs (column + n) r
  | column, c :: r => c :: expandTabs (column + cells c) r

def wordsIn : Nat → List Char → List (List Char)
  | 0, _ => []
  | fuel + 1, cs =>
    let before := cs.takeWhile isBlank
    let rest := cs.drop before.length
    let word := rest.takeWhile fun c => !isBlank c
    let after := (rest.drop word.length).takeWhile isBlank
    if word.isEmpty then []
    else (before ++ word ++ after) :: wordsIn fuel (rest.drop (word.length + after.length))

def fold (width : Nat) : List Char → List Char → Nat → List (List Char)
  | [], part, _ => [part]
  | c :: r, part, used =>
    if width < used + cells c then part :: fold width r [c] (cells c)
    else fold width r (part ++ [c]) (used + cells c)

/-- Lines of words. `line` is the line so far and `used` the cells that count for it. -/
def fill (width : Nat) (overflow : Overflow) :
    List (List Char) → List Char → Nat → List (List Char)
  | [], line, _ => [line]
  | w :: ws, line, used =>
    let size := cellCount (stripEnd w)
    if used + size ≤ width then fill width overflow ws (line ++ w) (used + cellCount w)
    else if width < size && overflow = .fold then
      let parts := fold width w [] 0
      let last := parts.getLast?.getD []
      let done := (if line.isEmpty then [] else [line]) ++ parts.dropLast
      done ++ fill width overflow ws last (cellCount last)
    else if used ≠ 0 && !line.isEmpty then line :: fill width overflow ws w (cellCount w)
    else fill width overflow ws (line ++ w) used

def trimEnd (width : Nat) (line : List Char) : List Char :=
  let blanks := (line.reverse.takeWhile isBlank).length
  line.take (line.length - min blanks (line.length - width))

/-- As many characters as fill so many cells, a blank for half a wide one. -/
def cut : Nat → List Char → List Char
  | 0, _ => []
  | n + 1, [] => List.replicate (n + 1) ' '
  | n + 1, c :: r =>
    if n + 1 < cells c then List.replicate (n + 1) ' ' else c :: cut (n + 1 - cells c) r

def truncate (width : Nat) (overflow : Overflow) (line : List Char) : List Char :=
  if cellCount line ≤ width then line
  else
    match overflow with
    | .fold => cut width line
    | .ellipsis => cut (width - 1) line ++ ['…']

def wrap (width : Nat) (overflow : Overflow) (wraps : Bool) (cs : List Char) : List (List Char) :=
  (cs.splitOn '\n').flatMap fun line =>
    let line := if line.contains '\t' then expandTabs 0 line else line
    let lines :=
      if wraps then
        match wordsIn (line.length + 1) line with
        | [] => [line]
        | w :: ws => fill width overflow (w :: ws) [] 0
      else [line]
    lines.map fun l => truncate width overflow (trimEnd width l)

def padRight (width : Nat) (line : List Char) : List Char :=
  line ++ List.replicate (width - cellCount line) ' '

def centred (width : Nat) (line : List Char) : List Char :=
  let line := stripEnd line
  padRight width (List.replicate ((width - cellCount line) / 2) ' ' ++ line)

def joinLines (lines : List (List Char)) : String :=
  "\n".intercalate (lines.map String.ofList)

end Scaffold.Console
