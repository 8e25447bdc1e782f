import Scaffold.Yaml.Node

set_option autoImplicit false

/-!
# Values of documents

Each tag of the common schema makes a value of its node, and another tag none. In a mapping the
last value of a key counts. A merge key brings in the entries of other mappings, which those of
the mapping itself override; of several mappings the first counts most.
-/
namespace Scaffold.Yaml

abbrev Result (α : Type) := Except Fault α

private def kindOf? (tag : String) : Option String := (tag.dropPrefix? schemaPrefix).map toString

def scalarValue (tag text : String) : Result Value :=
  match kindOf? tag with
  | some "null" => .ok .null
  | some "bool" => readBool text
  | some "int" => readInt text
  | some "float" => readFloat text
  | some "timestamp" => readTime text
  | some "str" => .ok (.text text)
  | _ => .error .malformed

def mappingOf (entries : List (Value × Value)) : Result (List (Value × Value)) :=
  if entries.all fun e => e.1.isKey then
    .ok (entries.foldl (fun es e => Value.insert es e.1 e.2) [])
  else .error .malformed

private def onePair? : Value → Option Value
  | .dict [(k, v)] => some (.tuple [k, v])
  | _ => none

/-- The pairs of a sequence whose items are mappings of one entry each. -/
def pairsOf (items : List Value) : Result Value :=
  match items.mapM onePair? with
  | some pairs => .ok (.list pairs)
  | none => .error .malformed

private def setOf (members : List Value) : Value :=
  .foreign "set"
    (if members.isEmpty then "set()"
    else "\x7b" ++ ", ".intercalate (members.map Value.written) ++ "\x7d")

/-- Whether a node is the key of a scalar that stands for its mapping. -/
def isDefaultKey : Node → Bool
  | .scalar tag _ => tag = Form.default.tag
  | _ => false

def isMergeKey : Node → Bool
  | .scalar tag _ => tag = Form.merge.tag
  | _ => false

mutual
def Node.value : Node → Result Value
  | .scalar tag text => scalarValue tag text
  | .sequence tag items => do
    let vs ← valuesOf items
    match kindOf? tag with
    | some "seq" => return .list vs
    | some "omap" | some "pairs" => pairsOf vs
    | _ => throw .malformed
  | .mapping tag entries => do
    match kindOf? tag with
    | some "map" =>
      let (merged, own) ← entriesOf entries
      return .dict (← mappingOf (merged ++ own))
    | some "set" =>
      let (merged, own) ← entriesOf entries
      return setOf ((← mappingOf (merged ++ own)).map (·.1))
    | some kind => defaultOf kind entries
    | none => throw .malformed

def valuesOf : List Node → Result (List Value)
  | [] => .ok []
  | n :: ns => do return (← n.value) :: (← valuesOf ns)

def entriesOf : List (Node × Node) → Result (List (Value × Value) × List (Value × Value))
  | [] => .ok ([], [])
  | (k, v) :: es => do
    if isMergeKey k then
      let found ← mergedOf v
      let (merged, own) ← entriesOf es
      return (found ++ merged, own)
    else
      let key ← if isDefaultKey k then pure (.text "=") else k.value
      let value ← v.value
      let (merged, own) ← entriesOf es
      return (merged, (key, value) :: own)

def mergedOf : Node → Result (List (Value × Value))
  | .mapping _ entries => do
    let (merged, own) ← entriesOf entries
    return merged ++ own
  | .sequence _ items => mergedOfAll items
  | .scalar .. => .error .malformed

def mergedOfAll : List Node → Result (List (Value × Value))
  | [] => .ok []
  | n :: ns => do
    match n with
    | .mapping _ entries =>
      let (merged, own) ← entriesOf entries
      return (← mergedOfAll ns) ++ merged ++ own
    | _ => throw .malformed

def defaultOf (kind : String) : List (Node × Node) → Result Value
  | [] => .error .malformed
  | (k, v) :: es =>
    if isDefaultKey k then
      match v with
      | .scalar _ text => scalarValue (schemaPrefix ++ kind) text
      | .mapping _ inner => defaultOf kind inner
      | .sequence .. => .error .malformed
    else defaultOf kind es
end

def valueOf (text : String) : Result Value :=
  match Node.ofText text with
  | none => .error .malformed
  | some none => .ok .null
  | some (some node) => node.value

end Scaffold.Yaml
