import Scaffold.Template.Operation
import Scaffold.Text.Case

set_option autoImplicit false

/-!
# Members, items and parts of values

A member is looked up among what belongs to the kind of the value and then among its keys; an item
the other way round. A look-up without result gives a strict absence, which tells what was looked
up in vain.
-/
namespace Scaffold.Template

def textMethods : List String := [
  "capitalize", "casefold", "center", "count", "encode", "endswith", "expandtabs", "find",
  "format", "format_map", "index", "isalnum", "isalpha", "isascii", "isdecimal", "isdigit",
  "isidentifier", "islower", "isnumeric", "isprintable", "isspace", "istitle", "isupper", "join",
  "ljust", "lower", "lstrip", "maketrans", "partition", "removeprefix", "removesuffix", "replace",
  "rfind", "rindex", "rjust", "rpartition", "rsplit", "rstrip", "split", "splitlines",
  "startswith", "strip", "swapcase", "title", "translate", "upper", "zfill"]

def listMethods : List String := [
  "append", "clear", "copy", "count", "extend", "index", "insert", "pop", "remove", "reverse",
  "sort"]

def tupleMethods : List String := ["count", "index"]

def dictMethods : List String := [
  "clear", "copy", "fromkeys", "get", "items", "keys", "pop", "popitem", "setdefault", "update",
  "values"]

def wholeMethods : List String := [
  "as_integer_ratio", "bit_count", "bit_length", "conjugate", "from_bytes", "to_bytes"]

def doubleMethods : List String := [
  "as_integer_ratio", "conjugate", "fromhex", "hex", "is_integer"]

def loopMethods : List String := ["cycle"]

def methodsOf : Value → List String
  | .text _ => textMethods
  | .list _ => listMethods
  | .tuple _ => tupleMethods
  | .dict _ => dictMethods
  | .bool _ | .int _ => wholeMethods
  | .float _ => doubleMethods
  | .range .. => tupleMethods
  | .loop .. => loopMethods
  | _ => []

def neighbour (v? : Option Value) (which : String) : Value :=
  v?.getD (.absent true (.reason ("there is no " ++ which ++ " item")))

def loopMember? (items : List Value) (index depth : Nat) : String → Option Value
  | "index" => some (.int (index + 1))
  | "index0" => some (.int index)
  | "first" => some (.bool (index = 0))
  | "last" => some (.bool (index + 1 = items.length))
  | "length" => some (.int items.length)
  | "revindex" => some (.int (items.length - index))
  | "revindex0" => some (.int (items.length - index - 1))
  | "depth" => some (.int depth)
  | "depth0" => some (.int (depth - 1))
  | "previtem" =>
    some (neighbour (if index = 0 then none else items[index - 1]?) "previous")
  | "nextitem" => some (neighbour items[index + 1]? "next")
  | _ => none

def ownMember? (v : Value) (n : String) : Option Value :=
  if (methodsOf v).contains n then some (.method v n)
  else
    match v, n with
    | .loop items index depth, n => loopMember? items index depth n
    | .range start _ _, "start" => some (.int start)
    | .range _ stop _, "stop" => some (.int stop)
    | .range _ _ step, "step" => some (.int step)
    | .float x, "real" => some (.float x)
    | .float _, "imag" => some (.float 0.0)
    | v, n =>
      match wholeOf? v with
      | some i =>
        if n = "real" || n = "numerator" then some (.int i)
        else if n = "imag" then some (.int 0)
        else if n = "denominator" then some (.int 1)
        else none
      | none => none

/-- The position of an item that a whole number names; a negative one counts from the end. -/
def position? (length : Nat) (i : Int) : Option Nat :=
  if 0 ≤ i then if i < length then some i.toNat else none
  else if 0 ≤ i + length then some (i + length).toNat
  else none

def sequenceItem? (v : Value) (i : Int) : Option Value :=
  match v with
  | .text _ | .list _ | .tuple _ | .range .. =>
    match v.items? with
    | some items => (position? items.length i).bind (items[·]?)
    | none => none
  | _ => none

def keyedItem? (v key : Value) : Option Value :=
  match v with
  | .dict entries => if key.isKey then Value.lookup? entries key else none
  | v => (wholeOf? key).bind (sequenceItem? v)

def member (v : Value) (n : String) : Outcome Value :=
  match v with
  | .absent _ cause => useOf cause
  | v =>
    match ownMember? v n with
    | some m => .ok m
    | none =>
      match keyedItem? v (.text n) with
      | some m => .ok m
      | none => .ok (.absent true (.attribute v.holderName n))

def item (v key : Value) : Outcome Value :=
  match v, key with
  | .absent _ cause, _ => useOf cause
  | .dict _, .absent true cause => useOf cause
  | v, key =>
    match keyedItem? v key with
    | some m => .ok m
    | none =>
      match key with
      | .text n =>
        match ownMember? v n with
        | some m => .ok m
        | none => .ok (.absent true (.attribute v.holderName n))
      | key => .ok (.absent true (.element v.holderName key.written))

/-! ### Slices -/

def bound? : Value → Outcome (Option Int)
  | .null => .ok none
  | v =>
    match wholeOf? v with
    | some n => .ok (some n)
    | none => misused .wrongType

/-- A bound moved into a sequence: from the end if negative, then between two limits. -/
def clamp (length low high b : Int) : Int :=
  let b := if b < 0 then b + length else b
  if b < low then low else if high < b then high else b

def slicePositions (length : Nat) (start? stop? : Option Int) (step : Int) : List Nat :=
  let n : Int := length
  let (low, high) := if 0 < step then ((0 : Int), n) else (-1, n - 1)
  let start :=
    match start? with
    | some b => clamp n low high b
    | none => if 0 < step then low else high
  let stop :=
    match stop? with
    | some b => clamp n low high b
    | none => if 0 < step then high else low
  (List.range (Value.rangeLength start stop step)).map fun (i : Nat) => (start + step * i).toNat

def slice (v start stop step : Value) : Outcome Value := do
  match v with
  | .absent _ cause => useOf cause
  | .text _ | .list _ | .tuple _ | .range .. =>
    let start? ← bound? start
    let stop? ← bound? stop
    let step? ← bound? step
    let step := step?.getD 1
    if step = 0 then misused (.badValue "slice step cannot be zero")
    let items ← itemsOf v
    let picked := (slicePositions items.length start? stop? step).filterMap (items[·]?)
    match v with
    | .text _ => return .text (String.join (picked.map Value.shown))
    | .tuple _ => return .tuple picked
    | .range a b c =>
      let at_ := fun (k : Int) => a + c * k
      let length := (Value.rangeLength a b c : Int)
      let (low, high) := if 0 < step then ((0 : Int), length) else (-1, length - 1)
      let first := (start?.map (clamp length low high)).getD (if 0 < step then low else high)
      let last := (stop?.map (clamp length low high)).getD (if 0 < step then high else low)
      return .range (at_ first) (at_ last) (c * step)
    | _ => return .list picked
  | _ => misused .wrongType

/-! ### Methods -/

structure Arguments where
  placed : List Value := []
  named : List (String × Value) := []

namespace Arguments

/-- Whether every name stands for a parameter that is left, and none comes twice. -/
private def namesFit (names : List String) (given : List (String × Value)) : Bool :=
  given.all (fun e => names.contains e.1) && (given.map (·.1)).Nodup

/-- The values of parameters, each with its default if it has one; `none` if values are missing or
left over. -/
def bind? (parameters : List (String × Option Value)) (a : Arguments) : Option (List Value) :=
  let rest := parameters.drop a.placed.length
  if a.placed.length ≤ parameters.length && namesFit (rest.map (·.1)) a.named then
    (rest.mapM fun (n, default?) => (a.named.lookup n).or default?).map (a.placed ++ ·)
  else none

def bind (parameters : List (String × Option Value)) (a : Arguments) : Outcome (List Value) :=
  match a.bind? parameters with
  | some vs => .ok vs
  | none => misused .wrongType

def onlyPlaced (least most : Nat) (a : Arguments) : Outcome (List Value) :=
  if a.named.isEmpty && least ≤ a.placed.length && a.placed.length ≤ most then .ok a.placed
  else misused .wrongType

end Arguments

def charsOf : Value → Outcome (List Char)
  | .text s => .ok s.toList
  | _ => misused .wrongType

private def textValue (cs : List Char) : Value := .text (String.ofList cs)

private def textList (parts : List (List Char)) : Value := .list (parts.map textValue)

/-- Letters that follow a cased letter are lower-case, other letters in title case. -/
def titleWords (inWord : Bool) (before : List Char) : List Char → List Char
  | [] => []
  | c :: r =>
    let cased := Text.casedRanges.has c
    let letter :=
      if inWord then (Text.lowerAfter before [c]) else Text.titleLetter c
    letter ++ titleWords cased (c :: before) r

def lineParts (cs : List Char) : List (List Char) :=
  let parts := Text.lines (Text.unifyLineEnds cs)
  if parts.getLast? = some [] then parts.dropLast else parts

def cutBy (cut : (Char → Bool) → List Char → List Char) (cs : List Char) (a : Arguments) :
    Outcome Value := do
  match ← a.onlyPlaced 0 1 with
  | [.text set] => return textValue (cut (set.toList.contains ·) cs)
  | [] | [.null] => return textValue (cut Text.isBlank cs)
  | _ => misused .wrongType

def firstWords : Nat → List Char → List (List Char)
  | limit, cs =>
    match Text.stripStart cs with
    | [] => []
    | c :: r =>
      match limit with
      | 0 => [Text.stripEnd (c :: r)]
      | limit + 1 =>
        let word := (c :: r).takeWhile (fun d => !Text.isBlank d)
        word :: firstWords limit ((c :: r).drop word.length)

def splitText (cs : List Char) (a : Arguments) : Outcome Value := do
  match ← a.bind [("sep", some .null), ("maxsplit", some (.int (-1)))] with
  | [sep, most] =>
    let limit ←
      match wholeOf? most with
      | some n => pure (if n < 0 then cs.length + 1 else n.toNat)
      | none => misused .wrongType
    match sep with
    | .null => return textList (firstWords limit cs)
    | .text "" => misused (.badValue "empty separator")
    | .text s => return textList (Text.splitAt s.toList limit cs)
    | _ => misused .wrongType
  | _ => misused .wrongType

def joinTexts (separator : String) (items : List Value) : Outcome Value := do
  let texts ← items.mapM fun v =>
    match v with
    | .text s => pure s
    | _ => misused .wrongType
  return .text (separator.intercalate texts)

def hasEnd (fits : List Char → List Char → Bool) (cs : List Char) (a : Arguments) :
    Outcome Value := do
  match ← a.onlyPlaced 1 1 with
  | [.text s] => return .bool (fits s.toList cs)
  | [.tuple ts] => return .bool ((← ts.mapM charsOf).any (fits · cs))
  | _ => misused .wrongType

def textMethod (cs : List Char) (n : String) (a : Arguments) : Outcome Value := do
  let plain := fun (v : Value) => do
    let _ ← a.onlyPlaced 0 0
    return v
  match n with
  | "upper" => plain (textValue (Text.upper cs))
  | "lower" => plain (textValue (Text.lower cs))
  | "title" => plain (textValue (titleWords false [] cs))
  | "capitalize" => plain (textValue (Text.capitalize cs))
  | "isdigit" => plain (.bool (!cs.isEmpty && cs.all Text.isDigit))
  | "isspace" => plain (.bool (Text.isBlankText cs))
  | "splitlines" => plain (textList (lineParts cs))
  | "strip" => cutBy Text.stripChars cs a
  | "lstrip" => cutBy List.dropWhile cs a
  | "rstrip" => cutBy Text.dropEndWhile cs a
  | "split" => splitText cs a
  | "join" =>
    match ← a.onlyPlaced 1 1 with
    | [v] => joinTexts (String.ofList cs) (← itemsOf v)
    | _ => misused .wrongType
  | "replace" =>
    match ← a.onlyPlaced 2 3 with
    | .text old :: .text new :: rest =>
      let limit ←
        match rest with
        | [] => pure (cs.length + 1)
        | v :: _ =>
          match wholeOf? v with
          | some n => pure (if n < 0 then cs.length + 1 else n.toNat)
          | none => misused .wrongType
      return textValue (Text.replace old.toList new.toList limit cs)
    | _ => misused .wrongType
  | "startswith" => hasEnd List.isPrefixOf cs a
  | "endswith" => hasEnd List.isSuffixOf cs a
  | "count" => do
    match ← (← a.onlyPlaced 1 1).mapM charsOf with
    | [part] => return .int (Text.occurrences part cs)
    | _ => misused .wrongType
  | "find" => do
    match ← (← a.onlyPlaced 1 1).mapM charsOf with
    | [part] => return .int (((Text.position? part cs).map Int.ofNat).getD (-1))
    | _ => misused .wrongType
  | "index" => do
    match ← (← a.onlyPlaced 1 1).mapM charsOf with
    | [part] =>
      match Text.position? part cs with
      | some i => return .int i
      | none => misused (.badValue "substring not found")
    | _ => misused .wrongType
  | _ => misused .beyond

def positionOf? (v : Value) : List Value → Outcome (Option Nat)
  | [] => .ok none
  | w :: ws => do
    if ← equal w v then return some 0 else return (← positionOf? v ws).map (· + 1)

def countOf (v : Value) (items : List Value) : Outcome Nat := do
  return (← items.filterM (equal · v)).length

def sequenceMethod (items : List Value) (absentText : Value → String) (n : String)
    (a : Arguments) : Outcome Value := do
  match n with
  | "index" =>
    match ← a.onlyPlaced 1 1 with
    | [v] =>
      match ← positionOf? v items with
      | some i => return .int i
      | none => misused (.badValue (absentText v))
    | _ => misused .wrongType
  | "count" =>
    match ← a.onlyPlaced 1 1 with
    | [v] => return .int (← countOf v items)
    | _ => misused .wrongType
  | "copy" =>
    let _ ← a.onlyPlaced 0 0
    return .list items
  | _ => misused .beyond

def dictMethod (entries : List (Value × Value)) (n : String) (a : Arguments) : Outcome Value := do
  match n with
  | "items" =>
    let _ ← a.onlyPlaced 0 0
    return .view "dict_items" true (entries.map fun (k, v) => .tuple [k, v])
  | "keys" =>
    let _ ← a.onlyPlaced 0 0
    return .view "dict_keys" true (entries.map (·.1))
  | "values" =>
    let _ ← a.onlyPlaced 0 0
    return .view "dict_values" true (entries.map (·.2))
  | "copy" =>
    let _ ← a.onlyPlaced 0 0
    return .dict entries
  | "get" =>
    match ← a.onlyPlaced 1 2 with
    | .absent true cause :: _ => useOf cause
    | key :: rest =>
      if key.isKey then
        return (Value.lookup? entries key).getD (rest.head?.getD .null)
      else misused .wrongType
    | [] => misused .wrongType
  | _ => misused .beyond

/-- Calls a method of a value. Methods that change their value, and some others, are not computed
here. -/
def callMethod (v : Value) (n : String) (a : Arguments) : Outcome Value :=
  match v with
  | .text s => textMethod s.toList n a
  | .list items => sequenceMethod items (fun w => w.written ++ " is not in list") n a
  | .tuple items => sequenceMethod items (fun _ => "tuple.index(x): x not in tuple") n a
  | .range s t u =>
    sequenceMethod (Value.rangeItems s t u) (fun w => w.written ++ " is not in range") n a
  | .dict entries => dictMethod entries n a
  | .loop _ index _ =>
    if a.named.isEmpty then
      match a.placed[index % a.placed.length]? with
      | some w => .ok w
      | none => misused .wrongType
    else misused .wrongType
  | _ => misused .beyond

def makeRange (a : Arguments) : Outcome Value := do
  let ns ← (← a.onlyPlaced 1 3).mapM fun v =>
    match wholeOf? v with
    | some n => pure n
    | none => misused .wrongType
  match ns with
  | [stop] => return .range 0 stop 1
  | [start, stop] => return .range start stop 1
  | [start, stop, step] =>
    if step = 0 then misused (.badValue "range() arg 3 must not be zero")
    else return .range start stop step
  | _ => misused .wrongType

end Scaffold.Template
