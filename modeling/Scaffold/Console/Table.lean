import Scaffold.Console.Lines

set_option autoImplicit false

/-!
# Tables

A table of labels and values under a head, with a title above it. The columns are as wide as their
widest lines; if that is too wide for the console, the values are wrapped, and only then the labels
cut. The words of the head stand at the bottom of their row, other cells at the top.
-/
namespace Scaffold.Console

def cellPadding : Nat := 2

def borderWidth : Nat := 3

def widest (cs : List Char) : Nat :=
  ((cs.splitOn '\n').map Text.cellCount).foldl max 0

def wantedWidth (limit : Nat) (cs : List Char) : Nat :=
  if limit < 1 then 0
  else if limit < cellPadding + 1 then limit
  else min limit (min (widest cs) (limit - cellPadding) + cellPadding)

def columnWidth (limit : Nat) (column : List (List Char)) : Nat :=
  (column.map (wantedWidth limit)).foldl max 0

def reduceEvenly (excess left right : Nat) : Nat × Nat :=
  if right = 0 then (left - min left excess, 0)
  else
    -- half of the excess, an odd one to the even neighbour
    let half := excess / 2
    let share := if excess % 2 = 0 then half else if half % 2 = 0 then half else half + 1
    let first := min left share
    (left - first, right - min right (excess - first))

def columnWidths (limit : Nat) (labels values : List (List Char)) : Nat × Nat :=
  let left := max 1 (columnWidth limit labels)
  let right := max 1 (columnWidth limit values)
  if left + right ≤ limit then (left, right)
  else
    let right := right - min right (left + right - limit)
    let (left, right) :=
      if left + right ≤ limit then (left, right)
      else reduceEvenly (left + right - limit) left right
    (columnWidth left labels, columnWidth right values)

def cellLines (width : Nat) (wraps : Bool) (cs : List Char) : List (List Char) :=
  if width < cellPadding + 1 then []
  else
    let inner := width - cellPadding
    (wrap inner .ellipsis wraps cs).map fun l => ' ' :: padRight inner l ++ [' ']

structure Rule where
  left : Char
  middle : Char
  right : Char
  along : Char

def Rule.line (r : Rule) (left right : Nat) : List Char :=
  r.left :: List.replicate left r.along ++ r.middle :: List.replicate right r.along ++ [r.right]

def topRule : Rule := ⟨'┏', '┳', '┓', '━'⟩
def headRule : Rule := ⟨'┡', '╇', '┩', '━'⟩
def bottomRule : Rule := ⟨'└', '┴', '┘', '─'⟩

/-- Where the shorter of two cells stands in a row. -/
inductive Standing where
  | top
  | bottom
  deriving DecidableEq, Repr

def Standing.fill (s : Standing) (height : Nat) (lines : List (List Char)) : List (List Char) :=
  match s with
  | top => lines
  | bottom => List.replicate (height - lines.length) [] ++ lines

def rowLines (sign : Char) (s : Standing) (left right : Nat) (row : List Char × List Char) :
    List (List Char) :=
  let labels := cellLines left false row.1
  let values := cellLines right true row.2
  let height := max labels.length values.length
  let labels := s.fill height labels
  let values := s.fill height values
  (List.range (max 1 height)).map fun i =>
    sign :: padRight left (labels.getD i []) ++ sign :: padRight right (values.getD i []) ++ [sign]

def tableLines (width : Nat) (title : Option (List Char)) (head : List Char × List Char)
    (rows : List (List Char × List Char)) : List (List Char) :=
  let all := head :: rows
  let (left, right) := columnWidths (width - borderWidth) (all.map (·.1)) (all.map (·.2))
  let total := left + right + borderWidth
  let titleLines := title.toList.flatMap fun t => (wrap total .fold true t).map (centred total)
  let body := [topRule.line left right] ++ rowLines '┃' .bottom left right head ++
    [headRule.line left right] ++ rows.flatMap (rowLines '│' .top left right) ++
    [bottomRule.line left right]
  (titleLines ++ body).map (truncate width .fold)

end Scaffold.Console
