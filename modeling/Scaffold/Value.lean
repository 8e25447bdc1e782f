import Scaffold.Number.Shortest
import Scaffold.Text.Quoted

set_option autoImplicit false

/-!
# Values

The values that manifests and settings hold and that templates compute with. A value that a
document can hold but nothing here computes with (a date, say) keeps its kind and written form.
Among the values of templates are the predicates on a selection, methods bound to their receiver,
the state of a loop, and the absent value that a look-up without result leaves behind.
-/
namespace Scaffold

inductive Predicate where
  | hasOption (active : List String)
  | hasAnyOption (active : List String)
  | hasAllOptions (active : List String)
  | isFramework (selected : String)
  /-- Whether one fixed framework is selected; asked without arguments. -/
  | isSelected (selected framework : String)
  deriving DecidableEq, Repr

inductive Absence where
  | name (n : String)
  | attribute (holder name : String)
  | element (holder key : String)
  | reason (message : String)
  deriving DecidableEq, Repr

def Absence.message : Absence → String
  | .name n => Text.quoted n ++ " is undefined"
  | .attribute holder n => Text.quoted holder ++ " has no attribute " ++ Text.quoted n
  | .element holder key => holder ++ " has no element " ++ key
  | .reason m => m

inductive Value where
  | null
  | bool (b : Bool)
  | int (n : Int)
  | float (x : Float)
  | text (s : String)
  | list (items : List Value)
  | tuple (items : List Value)
  | dict (entries : List (Value × Value))
  | foreign (kind written : String)
  | range (start stop step : Int)
  /-- Items in order that are counted only if `sized`. -/
  | view (kind : String) (sized : Bool) (items : List Value)
  | predicate (p : Predicate)
  | method (receiver : Value) (name : String)
  | rangeMaker
  /-- What can be called, but not here. -/
  | further (kind written : String)
  | loop (items : List Value) (index depth : Nat)
  /-- The definition of a block that stands `level` steps above the one in use. -/
  | outerBlock (block : String) (level : Nat)
  /-- A strict absence may only be asked for; a lenient one also prints, as nothing. -/
  | absent (strict : Bool) (cause : Absence)

instance : Inhabited Value := ⟨.null⟩

namespace Value

def typeName : Value → String
  | null => "NoneType"
  | bool _ => "bool"
  | int _ => "int"
  | float _ => "float"
  | text _ => "str"
  | list _ => "list"
  | tuple _ => "tuple"
  | dict _ => "dict"
  | foreign kind _ => kind
  | range .. => "range"
  | view kind _ _ => kind
  | predicate (.isFramework _) => "method"
  | predicate (.isSelected ..) => "functools.partial"
  | predicate _ => "function"
  | method .. => "builtin_function_or_method"
  | rangeMaker => "type"
  | further kind _ => kind
  | loop .. => "jinja2.runtime.LoopContext"
  | outerBlock .. => "jinja2.runtime.BlockReference"
  | absent .. => "jinja2.runtime.Undefined"

def holderName : Value → String
  | null => "None"
  | v => v.typeName ++ " object"

def isCallable : Value → Bool
  | predicate _ | method .. | rangeMaker | further .. | outerBlock .. => true
  | _ => false

private def bracketed (opening closing : String) (items : List String) : String :=
  opening ++ ", ".intercalate items ++ closing

private def intText (n : Int) : String := toString n

mutual
/-- The written form of a value, from which its kind can be told. -/
def written : Value → String
  | null => "None"
  | bool b => if b then "True" else "False"
  | int n => intText n
  | float x => Number.floatText x
  | text s => Text.quoted s
  | list items => bracketed "[" "]" (writtenAll items)
  | tuple [] => "()"
  | tuple [v] => "(" ++ v.written ++ ",)"
  | tuple items => bracketed "(" ")" (writtenAll items)
  | dict entries => bracketed "\x7b" "\x7d" (writtenEntries entries)
  | foreign _ w => w
  | range start stop step =>
    bracketed "range(" ")"
      ([intText start, intText stop] ++ if step = 1 then [] else [intText step])
  | view kind _ items => bracketed (kind ++ "([") "])" (writtenAll items)
  | rangeMaker => "<class 'range'>"
  | further _ w => w
  | absent .. => "Undefined"
  | predicate _ => "<predicate>"
  | method .. => "<method>"
  | loop items index _ => "<LoopContext " ++ toString (index + 1) ++ "/" ++ toString items.length ++ ">"
  | outerBlock .. => "<block>"

def writtenAll : List Value → List String
  | [] => []
  | v :: vs => v.written :: writtenAll vs

def writtenEntries : List (Value × Value) → List String
  | [] => []
  | (k, v) :: es => (k.written ++ ": " ++ v.written) :: writtenEntries es
end

def shown : Value → String
  | text s => s
  | absent _ _ => ""
  | v => v.written

inductive Numeral where
  | whole (n : Int)
  | double (d : Number.Double)

def numeral? : Value → Option Numeral
  | bool b => some (.whole (if b then 1 else 0))
  | int n => some (.whole n)
  | float x => some (.double (.ofFloat x))
  | _ => none

private def compareBinary (n : Int) (b : Number.Binary) : Ordering :=
  let (num, den) := b.ratio
  compare (n * den) (if b.negative then -(num : Int) else num)

private def compareBinaries (a b : Number.Binary) : Ordering :=
  let (num, den) := a.ratio
  let (num', den') := b.ratio
  let signed := fun (neg : Bool) (k : Nat) => if neg then -(k : Int) else k
  compare (signed a.negative (num * den')) (signed b.negative (num' * den))

/-- The order of two numbers; not-a-number stands in none. -/
def Numeral.compare? : Numeral → Numeral → Option Ordering
  | .whole a, .whole b => some (compare a b)
  | .double .notANumber, _ => none
  | _, .double .notANumber => none
  | .whole _, .double (.infinite neg) => some (if neg then .gt else .lt)
  | .double (.infinite neg), .whole _ => some (if neg then .lt else .gt)
  | .double (.infinite a), .double (.infinite b) =>
    some (if a = b then .eq else if a then .lt else .gt)
  | .double (.infinite neg), .double (.finite _) => some (if neg then .lt else .gt)
  | .double (.finite _), .double (.infinite neg) => some (if neg then .gt else .lt)
  | .whole a, .double (.finite b) => some (compareBinary a b)
  | .double (.finite a), .whole b => some (compareBinary b a).swap
  | .double (.finite a), .double (.finite b) => some (compareBinaries a b)

def rangeLength (start stop step : Int) : Nat :=
  if 0 < step then ((stop - start + step - 1).fdiv step).toNat
  else if step < 0 then ((start - stop - step - 1).fdiv (-step)).toNat
  else 0

def rangeItems (start stop step : Int) : List Value :=
  (List.range (rangeLength start stop step)).map fun (i : Nat) => int (start + step * i)

mutual
/-- Whether two values are equal: numbers by value whatever their kind, dictionaries whatever the
order of their keys. -/
def same : Value → Value → Bool
  | null, null => true
  | text a, text b => a == b
  | list as, list bs => sameAll as bs
  | tuple as, tuple bs => sameAll as bs
  | dict as, dict bs => as.length == bs.length && sameEntries as bs
  | foreign k a, foreign l b => k == l && a == b
  | range a b c, range d e f =>
    rangeLength a b c == rangeLength d e f &&
      (rangeLength a b c == 0 || (a == d && (rangeLength a b c == 1 || c == f)))
  | predicate a, predicate b => a == b
  | absent _ _, absent _ _ => true
  | a, b =>
    match a.numeral?, b.numeral? with
    | some x, some y => x.compare? y == some .eq
    | _, _ => false

def sameAll : List Value → List Value → Bool
  | [], [] => true
  | a :: as, b :: bs => same a b && sameAll as bs
  | _, _ => false

def sameEntries : List (Value × Value) → List (Value × Value) → Bool
  | [], _ => true
  | (k, v) :: es, bs => (bs.any fun e => same k e.1 && same v e.2) && sameEntries es bs
end

def lookup? (entries : List (Value × Value)) (key : Value) : Option Value :=
  (entries.find? fun e => same key e.1).map (·.2)

/-- Sets a key, which keeps its place if it has one. -/
def insert (entries : List (Value × Value)) (key value : Value) : List (Value × Value) :=
  if entries.any fun e => same key e.1 then
    entries.map fun e => if same key e.1 then (e.1, value) else e
  else entries ++ [(key, value)]

def isKey : Value → Bool
  | list _ | dict _ => false
  | tuple items => keys items
  | _ => true
where
  keys : List Value → Bool
    | [] => true
    | v :: vs => v.isKey && keys vs

/-- Whether a value counts as true; an absent one does not. -/
def isTrue : Value → Bool
  | null => false
  | bool b => b
  | int n => n != 0
  | float x => x != 0.0
  | text s => s != ""
  | list items => !items.isEmpty
  | tuple items => !items.isEmpty
  | dict entries => !entries.isEmpty
  | range a b c => rangeLength a b c != 0
  | view _ sized items => !sized || !items.isEmpty
  | absent .. => false
  | _ => true

def size? : Value → Option Nat
  | text s => some s.length
  | list items => some items.length
  | tuple items => some items.length
  | dict entries => some entries.length
  | range a b c => some (rangeLength a b c)
  | view _ true items => some items.length
  | loop items _ _ => some items.length
  | _ => none

def items? : Value → Option (List Value)
  | text s => some (s.toList.map fun c => text (String.ofList [c]))
  | list items => some items
  | tuple items => some items
  | dict entries => some (entries.map (·.1))
  | range a b c => some (rangeItems a b c)
  | view _ _ items => some items
  | absent false _ => some []
  | _ => none

mutual
/-- Whether the first value stands before the second, if the two have an order. -/
def before? : Value → Value → Option Bool
  | text a, text b => some (a < b)
  | list as, list bs => beforeAll? as bs
  | tuple as, tuple bs => beforeAll? as bs
  | a, b =>
    match a.numeral?, b.numeral? with
    | some x, some y => some (x.compare? y == some .lt)
    | _, _ => none

/-- The first two items that differ decide, else the lengths. -/
def beforeAll? : List Value → List Value → Option Bool
  | [], bs => some (!bs.isEmpty)
  | _ :: _, [] => some false
  | a :: as, b :: bs => if same a b then beforeAll? as bs else before? a b
end

end Value
end Scaffold
