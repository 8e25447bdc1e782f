import Scaffold.Value

set_option autoImplicit false

/-!
# Checking values against what is expected

A check goes through a whole value and reports every fault with its place, in the order of the
fields. The short message of a refusal lists places and causes; the long one also shows the values
at fault and where the kinds of faults are explained.
-/
namespace Scaffold.Validation

inductive Cause where
  | missing
  | notText
  | notTuple
  | notList
  | notSet
  | notDict
  | notRecord (model : String)
  | notBool
  | unreadableBool
  | notPath
  | rule (message : String)
  deriving DecidableEq, Repr

def Cause.message : Cause → String
  | .missing => "Field required"
  | .notText => "Input should be a valid string"
  | .notTuple => "Input should be a valid tuple"
  | .notList => "Input should be a valid list"
  | .notSet => "Input should be a valid frozenset"
  | .notDict => "Input should be a valid dictionary"
  | .notRecord model => "Input should be a valid dictionary or instance of " ++ model
  | .notBool => "Input should be a valid boolean"
  | .unreadableBool => "Input should be a valid boolean, unable to interpret input"
  | .notPath => "Input is not a valid path for <class 'pathlib.Path'>"
  | .rule message => "Value error, " ++ message

def Cause.code : Cause → String
  | .missing => "missing"
  | .notText => "string_type"
  | .notTuple => "tuple_type"
  | .notList => "list_type"
  | .notSet => "frozen_set_type"
  | .notDict => "dict_type"
  | .notRecord _ => "model_type"
  | .notBool => "bool_type"
  | .unreadableBool => "bool_parsing"
  | .notPath => "path_type"
  | .rule _ => "value_error"

/-- A fault: the names and positions that lead to it, its cause and the value found there. -/
structure Issue where
  place : List String
  cause : Cause
  found : Value

def Issue.message (i : Issue) : String := ".".intercalate i.place ++ ": " ++ i.cause.message

def Issue.below (step : String) (i : Issue) : Issue := { i with place := step :: i.place }

structure Refusal where
  model : String
  issues : List Issue

def Refusal.message (r : Refusal) : String := "; ".intercalate (r.issues.map Issue.message)

def takeBytes : Nat → List Char → List Char
  | _, [] => []
  | limit, c :: r => if c.utf8Size ≤ limit then c :: takeBytes (limit - c.utf8Size) r else []

def shortened (s : String) : String :=
  if s.utf8ByteSize ≤ 50 then s
  else
    String.ofList (takeBytes 25 s.toList) ++ "..." ++
      String.ofList (takeBytes 24 s.toList.reverse).reverse

def kindOf (v : Value) : String :=
  String.ofList ((v.typeName.toList.splitOn '.').getLast?.getD [])

def Cause.page (c : Cause) : String :=
  "/".intercalate ["https:", "", "errors.pydantic.dev", "2.14", "v", c.code]

def Issue.report (i : Issue) : String :=
  (if i.place.isEmpty then "" else ".".intercalate i.place ++ "\n") ++ "  " ++ i.cause.message ++
    " [type=" ++ i.cause.code ++ ", input_value=" ++ shortened i.found.written ++
    ", input_type=" ++ kindOf i.found ++ "]\n    For further information visit " ++ i.cause.page

def Refusal.report (r : Refusal) : String :=
  toString r.issues.length ++ " validation error" ++ (if r.issues.length = 1 then "" else "s") ++
    " for " ++ r.model ++ "\n" ++ "\n".intercalate (r.issues.map Issue.report)

/-- A value of the expected kind, or all the faults. -/
abbrev Checked (α : Type) := Except (List Issue) α

def Checked.issues {α : Type} : Checked α → List Issue
  | .ok _ => []
  | .error is => is

def refuse {α : Type} (cause : Cause) (found : Value) : Checked α := .error [⟨[], cause, found⟩]

def below {α : Type} (step : String) : Checked α → Checked α
  | .ok a => .ok a
  | .error is => .error (is.map (Issue.below step))

def both {α β : Type} : Checked α → Checked β → Checked (α × β)
  | .ok a, .ok b => .ok (a, b)
  | a, b => .error (a.issues ++ b.issues)

def all {α : Type} : List (Checked α) → Checked (List α)
  | [] => .ok []
  | c :: cs =>
    match both c (all cs) with
    | .ok (a, as) => .ok (a :: as)
    | .error is => .error is

def checkText : Value → Checked String
  | .text s => .ok s
  | v => refuse .notText v

def checkItems {α : Type} (check : Value → Checked α) (items : List Value) : Checked (List α) :=
  all (items.zipIdx.map fun (v, i) => below (toString i) (check v))

def checkSequence {α : Type} (cause : Cause) (check : Value → Checked α) :
    Value → Checked (List α)
  | .list items | .tuple items => checkItems check items
  | v => refuse cause v

def keyStep : Value → String
  | .text s => s
  | .bool b => if b then "1" else "0"
  | v => v.written

/-- A dictionary of texts, the later of two equal keys. -/
def checkTextDict : Value → Checked (List (String × String))
  | .dict entries =>
    (all (entries.map fun (k, v) =>
      both (below (keyStep k) (below "[key]" (checkText k))) (below (keyStep k) (checkText v))))
  | v => refuse .notDict v

/-- The value of a field, its default where the record has none. -/
def field {α : Type} (entries : List (Value × Value)) (name : String) (default : α)
    (check : Value → Checked α) : Checked α :=
  match Value.lookup? entries (.text name) with
  | none => .ok default
  | some v => below name (check v)

def required {α : Type} (record : Value) (entries : List (Value × Value)) (name : String)
    (check : Value → Checked α) : Checked α :=
  match Value.lookup? entries (.text name) with
  | none => .error [⟨[name], .missing, record⟩]
  | some v => below name (check v)

/-- A checked value that must also keep a rule, or the message of the rule it breaks. -/
def ruled {α : Type} (rule : α → Option String) (v : Value) (c : Checked α) : Checked α :=
  match c with
  | .error is => .error is
  | .ok a =>
    match rule a with
    | none => .ok a
    | some message => refuse (.rule message) v

end Scaffold.Validation
