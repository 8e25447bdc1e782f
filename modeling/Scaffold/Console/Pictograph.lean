import Scaffold.Console.PictographTable
import Scaffold.Text.Blank
import Scaffold.Text.Case

set_option autoImplicit false

/-!
# Codes of pictographs

A name between two colons stands for a pictograph. The name may end in a wish for a plain or a
coloured form. A code that names nothing stays as it is, and its last colon begins no other one.
-/
namespace Scaffold.Console

structure Pictograph where
  sign : List Char
  names : List (List Char)
  deriving DecidableEq, Repr

namespace Pictograph

def ofWord (word : List Char) : Option Pictograph :=
  match word.splitOn ':' with
  | sign :: names => some ⟨sign, names⟩
  | [] => none

def ofLines (lines : List String) : List Pictograph :=
  lines.flatMap fun l => (l.toList.splitOn ' ').filterMap ofWord

end Pictograph

/-- The tones of skin, each with the character that gives it to the one before. -/
def skinTones : List (String × Char) := [
  ("light", '🏻'), ("medium-light", '🏼'), ("medium", '🏽'), ("medium-dark", '🏾'), ("dark", '🏿')]

def plainForm : Char := '\ufe0e'

def colouredForm : Char := '\ufe0f'

def toned (tone : Char) : List Char → List Char
  | [] => []
  | c :: r => c :: tone :: r.dropWhile (· = colouredForm)

def tonedSign? (name : List Char) : Option (List Char) :=
  skinTones.findSome? fun (word, tone) =>
    let ending := ("_" ++ word ++ "_skin_tone").toList
    if ending.isSuffixOf name then
      let base := name.take (name.length - ending.length)
      ((Pictograph.ofLines people).find? fun p => p.names.head? = some base).map
        fun p => toned tone p.sign
    else none

def regionalLetter (c : Char) : Char := Char.ofNat (c.toNat - 'a'.toNat + 0x1f1e6)

def flagOf (letters : List Char) : List Char := letters.map regionalLetter

def partFlag (letters : String) : List Char :=
  '🏴' :: letters.toList.map (fun c => Char.ofNat (c.toNat + 0xe0000)) ++ [Char.ofNat 0xe007f]

def parts : List (String × List Char) := [
  ("england", partFlag "gbeng"), ("scotland", partFlag "gbsct"), ("wales", partFlag "gbwls")]

def flag? (name : List Char) : Option (List Char) :=
  let country :=
    if "flag_for_".toList.isPrefixOf name then name.drop "flag_for_".length else name
  let found? :=
    ((Pictograph.ofLines countries).find? (·.names.contains country)).or
      ((Pictograph.ofLines countriesApart).find? (·.names.contains name))
  (found?.map fun p => flagOf p.sign).or (parts.lookup (String.ofList name))

def sign? (name : List Char) : Option (List Char) :=
  (((Pictograph.ofLines pictographs ++ Pictograph.ofLines people).find?
    (·.names.contains name)).map (·.sign)).or ((tonedSign? name).or (flag? name))

def splitForm (body : List Char) : List Char × List Char :=
  if "-emoji".toList.isSuffixOf body then (body.take (body.length - 6), [colouredForm])
  else if "-text".toList.isSuffixOf body then (body.take (body.length - 5), [plainForm])
  else (body, [])

def meaning? (body : List Char) : Option (List Char) :=
  let (name, form) := splitForm body
  (sign? (Text.lower name)).map (· ++ form)

def code? : List Char → Option (List Char × List Char)
  | ':' :: r =>
    let body := r.takeWhile fun c => c ≠ ':' && !Text.isBlank c
    match r.drop body.length with
    | ':' :: rest => some (body, rest)
    | _ => none
  | _ => none

def withPictographs : Nat → List Char → List Char
  | 0, cs => cs
  | fuel + 1, cs =>
    match code? cs with
    | some (body, rest) =>
      (meaning? body).getD (':' :: body ++ [':']) ++ withPictographs fuel rest
    | none =>
      match cs with
      | c :: r => c :: withPictographs fuel r
      | [] => []

def pictured (cs : List Char) : List Char := withPictographs cs.length cs

end Scaffold.Console
