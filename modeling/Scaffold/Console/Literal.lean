import Scaffold.Number.Limit
import Scaffold.Text.Blank
import Scaffold.Text.Word

set_option autoImplicit false

/-!
# Literals

What a tag may hand to the handler of a click: numbers, texts between quotes, constants, and tuples,
sets and dictionaries of these. Only whether a text is made of literals is asked, not of which.
-/
namespace Scaffold.Console.Literal

/-! ### Numbers -/

private def areGrouped (p : Char → Bool) (cs : List Char) : Bool :=
  (cs.splitOn '_').all fun group => !group.isEmpty && group.all p

private def isHex (c : Char) : Bool :=
  c.isDigit || ('a' ≤ c && c ≤ 'f') || ('A' ≤ c && c ≤ 'F')

private def isBased : List Char → Bool
  | '0' :: base :: r =>
    let digits := if r.head? = some '_' then r.tail else r
    if base = 'x' || base = 'X' then areGrouped isHex digits
    else if base = 'o' || base = 'O' then areGrouped (fun c => '0' ≤ c && c ≤ '7') digits
    else if base = 'b' || base = 'B' then areGrouped (fun c => c = '0' || c = '1') digits
    else false
  | _ => false

private def areDigits (cs : List Char) : Bool := areGrouped Char.isDigit cs

private def isWhole (cs : List Char) : Bool :=
  areDigits cs && (cs.head? ≠ some '0' || cs.all fun c => c = '0' || c = '_') &&
    (cs.filter Char.isDigit).length ≤ Number.digitLimit

private def isPointed (cs : List Char) : Bool :=
  match cs.splitOn '.' with
  | [whole] => areDigits whole
  | [whole, part] =>
    (whole.isEmpty || areDigits whole) && (part.isEmpty || areDigits part) &&
      !(whole.isEmpty && part.isEmpty)
  | _ => false

private def isExponentMark (c : Char) : Bool := c = 'e' || c = 'E'

private def isScaled (cs : List Char) : Bool :=
  let significand := cs.takeWhile fun c => !isExponentMark c
  let exponent := (cs.drop (significand.length + 1)).dropWhile fun c => c = '+' || c = '-'
  isPointed significand && areDigits exponent

private def isFractional (cs : List Char) : Bool :=
  if cs.any isExponentMark then isScaled cs else cs.contains '.' && isPointed cs

private inductive Kind where
  | real
  | imaginary
  deriving DecidableEq

private def kind? (cs : List Char) : Option Kind :=
  if isBased cs then some .real
  else
    match cs.getLast? with
    | some 'j' | some 'J' =>
      let size := cs.dropLast
      if areDigits size || isFractional size then some .imaginary else none
    | _ => if isWhole cs || isFractional cs then some .real else none

/-- The characters of a number from the start of a text; a sign may follow the mark of an exponent. -/
private def numeral : Nat → List Char → List Char
  | 0, _ => []
  | fuel + 1, cs =>
    let word := cs.takeWhile fun c => c.isAlphanum || c = '_' || c = '.'
    let isHexadecimal := word.take 2 = ['0', 'x'] || word.take 2 = ['0', 'X']
    match cs.drop word.length with
    | sign :: r =>
      if (sign = '+' || sign = '-') && word.getLast?.any isExponentMark && !isHexadecimal then
        word ++ sign :: numeral fuel r
      else word
    | [] => word

private def afterNumeral? (cs : List Char) : Option (Kind × List Char) :=
  let word := numeral cs.length cs
  (kind? word).map (·, cs.drop word.length)

def afterNumber? (cs : List Char) : Option (List Char) :=
  let unsigned :=
    match cs with
    | '+' :: r | '-' :: r => Text.stripStart r
    | r => r
  match afterNumeral? unsigned with
  | some (.real, rest) =>
    match Text.stripStart rest with
    | '+' :: r | '-' :: r =>
      match afterNumeral? (Text.stripStart r) with
      | some (.imaginary, rest) => some rest
      | _ => none
    | _ => some rest
  | found? => found?.map (·.2)

/-! ### Texts -/

private def codeLength (c : Char) : Nat :=
  if c = 'x' then 2 else if c = 'u' then 4 else if c = 'U' then 8 else 0

private def afterQuoted? (quote : Char) (raw : Bool) : Nat → List Char → Option (List Char)
  | 0, _ => none
  | fuel + 1, cs =>
    match cs with
    | '\\' :: c :: r =>
      let digits := r.take (codeLength c)
      if raw || (c ≠ 'N' && digits.length = codeLength c && digits.all isHex) then
        afterQuoted? quote raw fuel r
      else none
    | c :: r => if c = quote then some r else if c = '\n' then none else afterQuoted? quote raw fuel r
    | [] => none

private def isQuote (c : Char) : Bool := c = '\'' || c = '"'

private def afterText? (cs : List Char) : Option (List Char) :=
  match cs with
  | c :: r =>
    if isQuote c then afterQuoted? c false cs.length r
    else
      match r with
      | quote :: r =>
        if isQuote quote && (c = 'r' || c = 'R') then afterQuoted? quote true cs.length r
        else if isQuote quote && (c = 'u' || c = 'U' || c = 'b' || c = 'B') then
          afterQuoted? quote false cs.length r
        else none
      | [] => none
  | [] => none

private def afterTexts? : Nat → List Char → Option (List Char)
  | 0, _ => none
  | fuel + 1, cs =>
    (afterText? cs).bind fun rest =>
      match afterTexts? fuel (Text.stripStart rest) with
      | some rest => some rest
      | none => some rest

/-! ### All literals -/

private def constants : List String := ["True", "False", "None", "..."]

private def afterConstant? (cs : List Char) : Option (List Char) :=
  constants.findSome? fun word =>
    let rest := cs.drop word.length
    if word.toList.isPrefixOf cs && !rest.head?.any Text.isWord then some rest else none

/-- The empty set has no sign of its own. -/
private def afterEmptySet? (cs : List Char) : Option (List Char) :=
  if "set".toList.isPrefixOf cs then
    match Text.stripStart (cs.drop 3) with
    | '(' :: r =>
      match Text.stripStart r with
      | ')' :: rest => some rest
      | _ => none
    | _ => none
  else none

private inductive Holding where
  | tuple
  | set
  | dictionary
  deriving DecidableEq

private def Holding.closing : Holding → Char
  | tuple => ')'
  | set | dictionary => '\x7d'

mutual
/-- What follows the literal at the start of a text, and whether it can be a key. -/
private def after? : Nat → List Char → Option (Bool × List Char)
  | 0, _ => none
  | fuel + 1, cs =>
    match Text.stripStart cs with
    | '(' :: r => afterItems? fuel .tuple true r
    | '\x7b' :: r =>
      ((afterItems? fuel .dictionary true r).or (afterItems? fuel .set true r)).map fun found =>
        (false, found.2)
    | cs =>
      ((afterEmptySet? cs).map (false, ·)).or
        (((afterConstant? cs).or ((afterTexts? cs.length cs).or (afterNumber? cs))).map (true, ·))

private def afterItems? : Nat → Holding → Bool → List Char → Option (Bool × List Char)
  | 0, _, _, _ => none
  | fuel + 1, h, isKey, cs =>
    match Text.stripStart cs with
    | [] => none
    | c :: r =>
      if c = h.closing then some (isKey, r)
      else
        match afterItem? fuel h (c :: r) with
        | none => none
        | some (first, rest) =>
          match Text.stripStart rest with
          | ',' :: r => afterItems? fuel h (isKey && first) r
          | d :: r => if d = h.closing then some (isKey && first, r) else none
          | [] => none

private def afterItem? : Nat → Holding → List Char → Option (Bool × List Char)
  | 0, _, _ => none
  | fuel + 1, h, cs =>
    match h, after? fuel cs with
    | _, none => none
    | .tuple, found? => found?
    | .set, some (isKey, rest) => if isKey then some (true, rest) else none
    | .dictionary, some (isKey, rest) =>
      match isKey, Text.stripStart rest with
      | true, ':' :: r => (after? fuel r).map fun found => (true, found.2)
      | _, _ => none
end

private def stepsFor (cs : List Char) : Nat := 4 * (cs.length + 1)

/-- Whether a text is a literal, or a tuple without its parentheses. -/
def isExpression (cs : List Char) : Bool :=
  let isWhole := fun (found? : Option (Bool × List Char)) =>
    found?.any fun found => Text.isBlankText (' ' :: found.2)
  isWhole (after? (stepsFor cs) cs) ||
    isWhole (afterItems? (stepsFor cs) .tuple true (cs ++ [')']))

end Scaffold.Console.Literal
