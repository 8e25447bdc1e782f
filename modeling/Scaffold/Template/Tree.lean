import Scaffold.Value

set_option autoImplicit false

/-!
# Trees of templates

Expressions with their values to be, and the statements that templates are made of.
-/
namespace Scaffold.Template

inductive Arithmetic where
  | add
  | sub
  | mul
  | div
  | floorDiv
  | mod
  | pow
  deriving DecidableEq, Repr

inductive Comparison where
  | eq
  | ne
  | gt
  | ge
  | lt
  | le
  | isIn
  | notIn
  deriving DecidableEq, Repr

/-- How an argument is passed: by place, by name, or as all the items of one value. -/
inductive Passing where
  | place
  | name (n : String)
  | spread
  | spreadNames
  deriving DecidableEq, Repr

inductive Expr where
  | literal (v : Value)
  | name (n : String)
  | tuple (items : List Expr)
  | list (items : List Expr)
  | dict (entries : List (Expr × Expr))
  | member (e : Expr) (name : String)
  | item (e key : Expr)
  /-- The part of a sequence between two bounds; an absent bound is the null value. -/
  | slice (e start stop step : Expr)
  | strayRange
  | call (e : Expr) (args : List (Passing × Expr))
  | filter (line : Nat) (e : Expr) (name : String) (args : List (Passing × Expr))
  | test (line : Nat) (e : Expr) (name : String) (args : List (Passing × Expr))
  | arithmetic (op : Arithmetic) (a b : Expr)
  | minus (e : Expr)
  | plus (e : Expr)
  | not (e : Expr)
  | both (a b : Expr)
  | either (a b : Expr)
  | concat (items : List Expr)
  | compare (first : Expr) (others : List (Comparison × Expr))
  | choice (e test other : Expr)
  | guarded (line : Nat) (e test : Expr)

namespace Expr

def kind : Expr → String
  | literal _ => "const"
  | name _ => "name"
  | tuple _ => "tuple"
  | list _ => "list"
  | dict _ => "dict"
  | member .. => "getattr"
  | item .. | slice .. => "getitem"
  | strayRange => "slice"
  | call .. => "call"
  | filter .. => "filter"
  | test .. => "test"
  | arithmetic .add .. => "add"
  | arithmetic .sub .. => "sub"
  | arithmetic .mul .. => "mul"
  | arithmetic .div .. => "div"
  | arithmetic .floorDiv .. => "floordiv"
  | arithmetic .mod .. => "mod"
  | arithmetic .pow .. => "pow"
  | minus _ => "neg"
  | plus _ => "pos"
  | not _ => "not"
  | both .. => "and"
  | either .. => "or"
  | concat _ => "concat"
  | compare .. => "compare"
  | choice .. | guarded .. => "condexpr"

mutual
def names : Expr → List String
  | literal _ | strayRange => []
  | name n => [n]
  | tuple items | list items | concat items => namesOfAll items
  | dict entries => namesOfEntries entries
  | member e _ | minus e | plus e | not e => e.names
  | item a b | arithmetic _ a b | both a b | either a b | guarded _ a b => a.names ++ b.names
  | slice e a b c => e.names ++ a.names ++ b.names ++ c.names
  | call e args => e.names ++ namesOfArgs args
  | filter _ e _ args | test _ e _ args => e.names ++ namesOfArgs args
  | compare e others => e.names ++ namesOfOperands others
  | choice a b c => a.names ++ b.names ++ c.names

def namesOfAll : List Expr → List String
  | [] => []
  | e :: es => e.names ++ namesOfAll es

def namesOfEntries : List (Expr × Expr) → List String
  | [] => []
  | (k, v) :: es => k.names ++ v.names ++ namesOfEntries es

def namesOfArgs : List (Passing × Expr) → List String
  | [] => []
  | (_, e) :: es => e.names ++ namesOfArgs es

def namesOfOperands : List (Comparison × Expr) → List String
  | [] => []
  | (_, e) :: es => e.names ++ namesOfOperands es
end

end Expr

inductive Target where
  | name (line : Nat) (n : String)
  | tuple (targets : List Target)
  /-- An attribute of a value; none can be assigned. -/
  | member (holder : String)

namespace Target

mutual
def assigned : Target → List (Nat × String)
  | name line n => [(line, n)]
  | tuple targets => assignedByAll targets
  | member _ => []

def assignedByAll : List Target → List (Nat × String)
  | [] => []
  | t :: ts => t.assigned ++ assignedByAll ts
end

mutual
def holders : Target → List String
  | name .. => []
  | tuple targets => holdersOfAll targets
  | member h => [h]

def holdersOfAll : List Target → List String
  | [] => []
  | t :: ts => t.holders ++ holdersOfAll ts
end

end Target

structure FilterCall where
  line : Nat
  name : String
  args : List (Passing × Expr)

inductive Node where
  | text (s : String)
  | print (e : Expr)
  /-- The body of the first branch whose test holds, else the last. -/
  | branch (branches : List (Expr × List Node)) (otherwise : List Node)
  | loop (target : Target) (items : Expr) (test : Option Expr) (body otherwise : List Node)
  | assign (target : Target) (e : Expr)
  | capture (target : Target) (filters : List FilterCall) (body : List Node)
  | block (line : Nat) (name : String) (isScoped mandatory : Bool) (body : List Node)
  | extend (line : Nat) (e : Expr)
  | embed (e : Expr) (ignoreMissing withContext : Bool)

namespace Node

mutual
def blocks : Node → List (Nat × String × List Node)
  | block line name _ _ body => (line, name, body) :: blocksOfAll body
  | branch branches otherwise => blocksOfBranches branches ++ blocksOfAll otherwise
  | loop _ _ _ body otherwise => blocksOfAll body ++ blocksOfAll otherwise
  | capture _ _ body => blocksOfAll body
  | text _ | print _ | assign .. | extend .. | embed .. => []

def blocksOfAll : List Node → List (Nat × String × List Node)
  | [] => []
  | n :: ns => n.blocks ++ blocksOfAll ns

def blocksOfBranches : List (Expr × List Node) → List (Nat × String × List Node)
  | [] => []
  | (_, body) :: bs => blocksOfAll body ++ blocksOfBranches bs
end

mutual
/-- Whether a template may be laid over another: it says so outside all blocks or in one. -/
def hasExtend : Node → Bool
  | extend .. => true
  | block _ _ _ _ body | capture _ _ body => hasExtendAny body
  | branch branches otherwise => hasExtendBranches branches || hasExtendAny otherwise
  | loop _ _ _ body otherwise => hasExtendAny body || hasExtendAny otherwise
  | text _ | print _ | assign .. | embed .. => false

def hasExtendAny : List Node → Bool
  | [] => false
  | n :: ns => n.hasExtend || hasExtendAny ns

def hasExtendBranches : List (Expr × List Node) → Bool
  | [] => false
  | (_, body) :: bs => hasExtendAny body || hasExtendBranches bs
end

mutual
/-- The names that a node looks up, in its parts as well but in no block. -/
def names : Node → List String
  | text _ | block .. => []
  | print e | extend _ e | embed e _ _ => e.names
  | branch branches otherwise => namesOfBranches branches ++ namesOfAll otherwise
  | loop target items test body otherwise =>
    target.holders ++ items.names ++ (test.map Expr.names).getD [] ++ namesOfAll body ++
      namesOfAll otherwise
  | assign target e => target.holders ++ e.names
  | capture target filters body =>
    target.holders ++ filters.flatMap (fun f => Expr.namesOfArgs f.args) ++ namesOfAll body

def namesOfAll : List Node → List String
  | [] => []
  | n :: ns => n.names ++ namesOfAll ns

def namesOfBranches : List (Expr × List Node) → List String
  | [] => []
  | (e, body) :: bs => e.names ++ namesOfAll body ++ namesOfBranches bs
end

mutual
def assigned : Node → List (Nat × String)
  | text _ | print _ | extend .. | embed .. => []
  | block _ _ _ _ body => assignedByAll body
  | branch branches otherwise => assignedByBranches branches ++ assignedByAll otherwise
  | loop target _ _ body otherwise =>
    target.assigned ++ assignedByAll body ++ assignedByAll otherwise
  | assign target _ => target.assigned
  | capture target _ body => target.assigned ++ assignedByAll body

def assignedByAll : List Node → List (Nat × String)
  | [] => []
  | n :: ns => n.assigned ++ assignedByAll ns

def assignedByBranches : List (Expr × List Node) → List (Nat × String)
  | [] => []
  | (_, body) :: bs => assignedByAll body ++ assignedByBranches bs
end

end Node
end Scaffold.Template
