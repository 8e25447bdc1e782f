import Scaffold.Template.Member
import Scaffold.Text.Naming

set_option autoImplicit false

/-!
# Filters and tests

A filter makes a value from a value and arguments; a test asks a question about a value. Filters
on texts take the text that any other value is printed as, save for those that spell names.
-/
namespace Scaffold.Template

inductive Filter where
  | capitalize
  | default
  | first
  | join
  | last
  | length
  | list
  | lower
  | max
  | min
  | replace
  | reverse
  | sort
  | string
  | sum
  | title
  | trim
  | upper
  | slugify
  | pascalCase
  | snakeCase
  | camelCase
  | packageName
  deriving DecidableEq, Repr

namespace Filter

def ofName? : String → Option Filter
  | "capitalize" => some .capitalize
  | "default" | "d" => some .default
  | "first" => some .first
  | "join" => some .join
  | "last" => some .last
  | "length" | "count" => some .length
  | "list" => some .list
  | "lower" => some .lower
  | "max" => some .max
  | "min" => some .min
  | "replace" => some .replace
  | "reverse" => some .reverse
  | "sort" => some .sort
  | "string" => some .string
  | "sum" => some .sum
  | "title" => some .title
  | "trim" => some .trim
  | "upper" => some .upper
  | "slugify" => some .slugify
  | "pascal_case" => some .pascalCase
  | "snake_case" => some .snakeCase
  | "camel_case" => some .camelCase
  | "package_name" => some .packageName
  | _ => none

/-- Filters that are not computed here; one of them draws random numbers. -/
def others : List String := [
  "abs", "attr", "batch", "center", "dictsort", "e", "escape", "filesizeformat", "float",
  "forceescape", "format", "groupby", "indent", "int", "items", "map", "pprint", "random", "reject",
  "rejectattr", "round", "safe", "select", "selectattr", "slice", "striptags", "tojson", "truncate",
  "unique", "urlencode", "urlize", "wordcount", "wordwrap", "xmlattr"]

def isKnown (n : String) : Bool := (ofName? n).isSome || others.contains n

private def optional (n : String) (v : Value) : String × Option Value := (n, some v)

/-- The parameters of a filter with their defaults, first the value. -/
def parameters : Filter → List (String × Option Value)
  | .capitalize | .lower | .string | .title | .upper => [("s", none)]
  | .default => [("value", none), optional "default_value" (.text ""), optional "boolean" (.bool false)]
  | .first | .last => [("seq", none)]
  | .join => [("value", none), optional "d" (.text ""), optional "attribute" .null]
  | .length => [("", none)]
  | .list | .reverse | .slugify | .pascalCase | .snakeCase | .camelCase => [("value", none)]
  | .max | .min =>
    [("value", none), optional "case_sensitive" (.bool false), optional "attribute" .null]
  | .replace => [("s", none), ("old", none), ("new", none), optional "count" .null]
  | .sort =>
    [("value", none), optional "reverse" (.bool false), optional "case_sensitive" (.bool false),
      optional "attribute" .null]
  | .sum => [("iterable", none), optional "attribute" .null, optional "start" (.int 0)]
  | .trim => [("value", none), optional "chars" .null]
  | .packageName => [("name", none)]

end Filter

/-! ### Keys of items -/

def pathSteps : Value → List Value
  | .null => []
  | .text s =>
    (s.toList.splitOn '.').map fun part =>
      match if part.all Text.isDigit then Text.numeralValue? part else none with
      | some n => .int n
      | none => .text (String.ofList part)
  | v => [v]

def follow : Value → List Value → Outcome Value
  | v, [] => .ok v
  | v, step :: steps => do follow (← item v step) steps

def foldCase : Value → Value
  | .text s => .text (Text.lowered s)
  | v => v

def keyOf (caseSensitive : Bool) (path : Value) (v : Value) : Outcome Value := do
  let key ← follow v (pathSteps path)
  return if caseSensitive then key else foldCase key

def keysLess : List Value → List Value → Outcome Bool
  | [], bs => .ok !bs.isEmpty
  | _ :: _, [] => .ok false
  | a :: as, b :: bs => do if ← equal a b then keysLess as bs else less a b

/-- Puts an item behind all that do not come after it. -/
def insertSorted (after : List Value → List Value → Outcome Bool) (x : List Value × Value) :
    List (List Value × Value) → Outcome (List (List Value × Value))
  | [] => .ok [x]
  | y :: ys => do
    if ← after y.1 x.1 then return x :: y :: ys
    else return y :: (← insertSorted after x ys)

/-- The items in the order of their keys; items of equal keys keep their order. -/
def sortItems (descending caseSensitive : Bool) (paths : List Value) (items : List Value) :
    Outcome (List Value) := do
  let keyed ← items.mapM fun v => do
    return (← paths.mapM fun p => keyOf caseSensitive p v, v)
  let after := fun (a b : List Value) => if descending then keysLess a b else keysLess b a
  let sorted ← keyed.foldlM (fun done x => insertSorted after x done) []
  return sorted.map (·.2)

def sortPaths : Value → List Value
  | .text s => (s.toList.splitOn ',').map fun p => .text (String.ofList p)
  | v => [v]

/-- The first item whose key no other beats. -/
def bestItem (beats : Value → Value → Outcome Bool) (caseSensitive : Bool) (path : Value) :
    List Value → Outcome Value
  | [] => .ok (.absent true (.reason "No aggregated item, sequence was empty."))
  | v :: vs => do
    let first ← keyOf caseSensitive path v
    let (_, best) ← vs.foldlM (fun (k, b) w => do
      let key ← keyOf caseSensitive path w
      return if ← beats key k then (key, w) else (k, b)) (first, v)
    return best

/-! ### Application -/

def reversedItems (v : Value) : Outcome (List Value) :=
  match v with
  | .absent false cause => useOf cause
  | .loop .. => misused .wrongType
  | v => do return (← itemsOf v).reverse

private def isWordGapBefore (c : Char) : Bool :=
  c = '-' || c = '(' || c = '\x7b' || c = '[' || c = '<' || Text.isBlank c

def titleCase (cs : List Char) : List Char :=
  (cs.splitBy fun a b => isWordGapBefore a == isWordGapBefore b).flatMap fun w =>
    match w with
    | [] => []
    | c :: r => Text.upper [c] ++ Text.lower r

def spelt (f : String → String) (v : Value) : Outcome Value :=
  match v with
  | .text s => .ok (.text (f s))
  | _ => misused .wrongType

def isAbsent : Value → Bool
  | .absent .. => true
  | _ => false

def lengthOf (v : Value) : Outcome Nat :=
  match v with
  | .absent true cause => useOf cause
  | .absent false _ => .ok 0
  | v =>
    match v.size? with
    | some n => .ok n
    | none => misused .wrongType

/-- How many replacements are wanted; all if no number or a negative one is given. -/
def limitOf (cs : List Char) : Value → Outcome Nat
  | .null => .ok (cs.length + 1)
  | v =>
    match wholeOf? v with
    | some n => .ok (if n < 0 then cs.length + 1 else n.toNat)
    | none => misused .wrongType

def Filter.applyTo (f : Filter) (vs : List Value) : Outcome Value := do
  match f, vs with
  | .capitalize, [v] => return .text (Text.capitalized (← textOf v))
  | .lower, [v] => return .text (Text.lowered (← textOf v))
  | .upper, [v] => return .text (Text.uppered (← textOf v))
  | .title, [v] => return .text (String.ofList (titleCase (← textOf v).toList))
  | .string, [v] => return .text (← textOf v)
  | .default, [v, other, boolean] =>
    if isAbsent v then return other
    else if ← truth boolean then return if ← truth v then v else other
    else return v
  | .first, [v] =>
    return (← itemsOf v).head?.getD
      (.absent true (.reason "No first item, sequence was empty."))
  | .last, [v] =>
    return (← reversedItems v).head?.getD
      (.absent true (.reason "No last item, sequence was empty."))
  | .length, [v] => return .int (← lengthOf v)
  | .list, [v] => return .list (← itemsOf v)
  | .join, [v, d, path] =>
    let items ← match path with
      | .null => itemsOf v
      | path => do (← itemsOf v).mapM (keyOf true path)
    return .text ((← textOf d).intercalate (← items.mapM textOf))
  | .sort, [v, descending, caseSensitive, path] =>
    let items ← itemsOf v
    return .list
      (← sortItems (← truth descending) (← truth caseSensitive) (sortPaths path) items)
  | .sum, [v, path, start] =>
    match start with
    | .text _ => misused .wrongType
    | start =>
      let items ← (← itemsOf v).mapM (keyOf true path)
      items.foldlM (arithmetic .add) start
  | .max, [v, caseSensitive, path] =>
    bestItem (fun a b => less b a) (← truth caseSensitive) path (← itemsOf v)
  | .min, [v, caseSensitive, path] =>
    bestItem less (← truth caseSensitive) path (← itemsOf v)
  | .reverse, [v] =>
    match v with
    | .text s => return .text (String.ofList s.toList.reverse)
    | .absent .. => return .view "reversed" false (← reversedItems v)
    | v =>
      match v.items? with
      | some items => return .view "reversed" false items.reverse
      | none => .error (.failed "argument must be iterable")
  | .trim, [v, chars] =>
    let cs := (← textOf v).toList
    match chars with
    | .null => return .text (String.ofList (Text.strip cs))
    | .text set => return .text (String.ofList (Text.stripChars (set.toList.contains ·) cs))
    | _ => misused .wrongType
  | .replace, [v, old, new, count] =>
    let cs := (← textOf v).toList
    let part := (← textOf old).toList
    let other := (← textOf new).toList
    return .text (String.ofList (Text.replace part other (← limitOf cs count) cs))
  | .slugify, [v] =>
    match v with
    | .text s => return .text (Text.slug s)
    | .absent _ cause => useOf cause
    | _ => misused .noMember
  | .pascalCase, [v] => spelt Text.pascalCase v
  | .snakeCase, [v] => spelt Text.snakeCase v
  | .camelCase, [v] => spelt Text.camelCase v
  | .packageName, [v] =>
    match v with
    | .text s => return .text (Text.packageName s)
    | v => if ← truth v then misused .noMember else return .text ""
  | _, _ => misused .wrongType

def Filter.apply (f : Filter) (v : Value) (a : Arguments) : Outcome Value := do
  f.applyTo (← Arguments.bind f.parameters { a with placed := v :: a.placed })

inductive Test where
  | boolean
  | callable
  | defined
  | even
  | float
  | integer
  | iterable
  | mapping
  | none
  | number
  | odd
  | sequence
  | string
  | true
  | false
  | undefined
  deriving DecidableEq, Repr

namespace Test

def ofName? : String → Option Test
  | "boolean" => some .boolean
  | "callable" => some .callable
  | "defined" => some .defined
  | "even" => some .even
  | "float" => some .float
  | "integer" => some .integer
  | "iterable" => some .iterable
  | "mapping" => some .mapping
  | "none" => some .none
  | "number" => some .number
  | "odd" => some .odd
  | "sequence" => some .sequence
  | "string" => some .string
  | "true" => some .true
  | "false" => some .false
  | "undefined" => some .undefined
  | _ => Option.none

/-- Tests that are not computed here. -/
def others : List String := [
  "divisibleby", "eq", "equalto", "escaped", "filter", "ge", "greaterthan", "gt", "in", "le",
  "lessthan", "lower", "lt", "ne", "sameas", "test", "upper"]

def isKnown (n : String) : Bool := (ofName? n).isSome || others.contains n

def leaves (v : Value) (rest : Int) : Outcome Bool := do
  return (← arithmetic .mod v (.int 2)).same (.int rest)

def holds (t : Test) (v : Value) : Outcome Bool :=
  match t with
  | .boolean => .ok (v matches .bool _)
  | .callable => .ok v.isCallable
  | .defined => .ok !isAbsent v
  | .undefined => .ok (isAbsent v)
  | .even => leaves v 0
  | .odd => leaves v 1
  | .float => .ok (v matches .float _)
  | .integer => .ok (v matches .int _)
  | .iterable =>
    match v with
    | .absent Bool.true cause => useOf cause
    | v => .ok (v.items?.isSome || v matches .loop ..)
  | .mapping => .ok (v matches .dict _)
  | .none => .ok (v matches .null)
  | .number => .ok v.numeral?.isSome
  | .sequence => .ok v.size?.isSome
  | .string => .ok (v matches .text _)
  | .true => .ok (v matches .bool Bool.true)
  | .false => .ok (v matches .bool Bool.false)

def apply (t : Test) (v : Value) (a : Arguments) : Outcome Bool := do
  let _ ← a.onlyPlaced 0 0
  t.holds v

end Test
end Scaffold.Template
