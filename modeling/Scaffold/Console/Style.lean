import Scaffold.Console.Markup
import Scaffold.Number.Limit
import Scaffold.Text.Blank
import Scaffold.Text.Case
import Scaffold.Text.Digit
import Scaffold.Text.Search

set_option autoImplicit false

/-!
# Names of styles

A style is named by words: attributes, a colour, a background after "on", a link. Two names mean
one style if they list the same; of a name that cannot be read only case and the blanks around it
do not count.
-/
namespace Scaffold.Console

def attributes : List String := [
  "bold", "dim", "italic", "underline", "blink", "blink2", "reverse", "conceal", "strike",
  "underline2", "frame", "encircle", "overline"]

def shortNames : List (String × String) := [
  ("d", "dim"), ("b", "bold"), ("i", "italic"), ("u", "underline"), ("r", "reverse"),
  ("c", "conceal"), ("s", "strike"), ("uu", "underline2"), ("o", "overline")]

def attribute? (word : String) : Option String :=
  if attributes.contains word then some word else shortNames.lookup word

def colourNames : List String := [
  "default", "black", "red", "green", "yellow", "blue", "magenta", "cyan", "white",
  "bright_black", "bright_red", "bright_green", "bright_yellow", "bright_blue",
  "bright_magenta", "bright_cyan", "bright_white", "navy_blue", "dark_blue", "blue3", "blue1",
  "dark_green", "deep_sky_blue4", "dodger_blue3", "dodger_blue2", "green4", "spring_green4",
  "turquoise4", "deep_sky_blue3", "dodger_blue1", "green3", "spring_green3", "dark_cyan",
  "light_sea_green", "deep_sky_blue2", "deep_sky_blue1", "spring_green2", "cyan3",
  "dark_turquoise", "turquoise2", "green1", "spring_green1", "medium_spring_green", "cyan2",
  "cyan1", "dark_red", "deep_pink4", "purple4", "purple3", "blue_violet", "orange4",
  "medium_purple4", "slate_blue3", "royal_blue1", "chartreuse4", "dark_sea_green4",
  "pale_turquoise4", "steel_blue", "steel_blue3", "cornflower_blue", "chartreuse3", "cadet_blue",
  "sky_blue3", "steel_blue1", "pale_green3", "sea_green3", "aquamarine3", "medium_turquoise",
  "chartreuse2", "sea_green2", "sea_green1", "aquamarine1", "dark_slate_gray2", "dark_magenta",
  "dark_violet", "purple", "light_pink4", "plum4", "medium_purple3", "slate_blue1", "yellow4",
  "wheat4", "light_slate_grey", "light_slate_gray", "medium_purple", "light_slate_blue",
  "dark_olive_green3", "dark_sea_green", "light_sky_blue3", "sky_blue2", "dark_sea_green3",
  "dark_slate_gray3", "sky_blue1", "chartreuse1", "light_green", "pale_green1",
  "dark_slate_gray1", "red3", "medium_violet_red", "magenta3", "dark_orange3", "indian_red",
  "hot_pink3", "medium_orchid3", "medium_orchid", "medium_purple2", "dark_goldenrod",
  "light_salmon3", "rosy_brown", "medium_purple1", "gold3", "dark_khaki", "navajo_white3",
  "light_steel_blue3", "light_steel_blue", "yellow3", "dark_sea_green2", "light_cyan3",
  "light_sky_blue1", "green_yellow", "dark_olive_green2", "dark_sea_green1", "pale_turquoise1",
  "deep_pink3", "magenta2", "hot_pink2", "orchid", "medium_orchid1", "orange3", "light_pink3",
  "pink3", "plum3", "violet", "light_goldenrod3", "tan", "misty_rose3", "thistle3", "plum2",
  "khaki3", "light_goldenrod2", "light_yellow3", "light_steel_blue1", "yellow2",
  "dark_olive_green1", "honeydew2", "light_cyan1", "red1", "deep_pink2", "deep_pink1", "magenta1",
  "orange_red1", "indian_red1", "hot_pink", "dark_orange", "salmon1", "light_coral",
  "pale_violet_red1", "orchid2", "orchid1", "orange1", "sandy_brown", "light_salmon1",
  "light_pink1", "pink1", "plum1", "gold1", "light_goldenrod1", "khaki1", "wheat1", "cornsilk1",
  "navajo_white1", "misty_rose1", "thistle1", "yellow1"]

def greys : List Nat := [
  0, 3, 7, 11, 15, 19, 23, 27, 30, 35, 37, 39, 42, 46, 50, 53, 54, 58, 62, 63, 66, 69, 70, 74, 78,
  82, 84, 85, 89, 93, 100]

private def isLowHex (c : Char) : Bool := c.isDigit || ('a' ≤ c && c ≤ 'f')

def colourLimit : Nat := 255

private def isPaletteNumber (cs : List Char) : Bool :=
  !cs.isEmpty && cs.length ≤ 3 && cs.all Char.isDigit &&
    ((String.ofList cs).toNat?.any (· ≤ colourLimit))

/-- A channel is a numeral in the digits of any script, and one that is left out is none. -/
private def channel (cs : List Char) : Except Unreadable Nat :=
  if Number.digitLimit < cs.length then .error (.value (Number.tooLongToRead cs.length))
  else
    match Text.numeralValue? cs with
    | some n => .ok n
    | none => .error (.value (Number.notNumeral 10 cs))

private def isMixture (cs : List Char) : Except Unreadable Bool :=
  if !cs.isEmpty && cs.all fun c => c = ',' || Text.isDecimal c then
    let parts := cs.splitOn ','
    if parts.length = 3 then (parts.mapM channel).map (·.all (· ≤ colourLimit)) else .ok false
  else .ok false

private def isGrey (word : String) : Bool :=
  greys.any fun n => word = "grey" ++ toString n || word = "gray" ++ toString n

private def inside? (opening : String) (cs : List Char) : Option (List Char) :=
  if opening.toList.isPrefixOf cs && cs.getLast? = some ')' then
    some (cs.drop opening.length).dropLast
  else none

def isColour (word : String) : Except Unreadable Bool :=
  let cs := word.toList
  let isHexadecimal :=
    match cs with
    | '#' :: r => r.length = 6 && r.all isLowHex
    | _ => false
  if colourNames.contains word || isGrey word || isHexadecimal ||
      (inside? "color(" cs).any isPaletteNumber then .ok true
  else
    match inside? "rgb(" cs with
    | some r => isMixture r
    | none => .ok false

structure Style where
  switched : List (String × Bool) := []
  colour : Option String := none
  background : Option String := none
  link : Option String := none

namespace Style

private def switch (s : Style) (name : String) (on : Bool) : Style :=
  { s with switched := (s.switched.filter (·.1 ≠ name)) ++ [(name, on)] }

/-- Reads the words of a style, in any case but for what follows "not" and "link". -/
def ofWords : List String → Style → Except Unreadable (Option Style)
  | [], s => .ok (some s)
  | w :: ws, s =>
    let word := Text.lowered w
    if word = "on" then
      match ws with
      | c :: rest => do
        if ← isColour (Text.lowered c) then
          ofWords rest { s with background := some (Text.lowered c) }
        else return none
      | [] => .ok none
    else if word = "not" then
      match ws with
      | a :: rest =>
        match attribute? a with
        | some name => ofWords rest (s.switch name false)
        | none => .ok none
      | [] => .ok none
    else if word = "link" then
      match ws with
      | l :: rest => ofWords rest { s with link := some l }
      | [] => .ok none
    else
      match attribute? word with
      | some name => ofWords ws (s.switch name true)
      | none => do
        if ← isColour word then ofWords ws { s with colour := some word } else return none

def name (s : Style) : String :=
  let words :=
    (attributes.filterMap fun a =>
      (s.switched.lookup a).map fun on => if on then a else "not " ++ a) ++
    s.colour.toList ++ (s.background.toList.map ("on " ++ ·)) ++ (s.link.toList.map ("link " ++ ·))
  if words.isEmpty then "none" else " ".intercalate words

end Style

def wordsOf (cs : List Char) : List String :=
  (Text.wordsBy Text.isBlank cs).map String.ofList

def normalName (cs : List Char) : Except Unreadable String :=
  let words := wordsOf cs
  if words.isEmpty || words = ["none"] then .ok "none"
  else do
    match ← Style.ofWords words {} with
    | some s => return s.name
    | none => return Text.lowered (String.ofList (Text.strip cs))

end Scaffold.Console
