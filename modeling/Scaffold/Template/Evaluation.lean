import Scaffold.Template.Filter

set_option autoImplicit false

/-!
# Values of expressions

Expressions are evaluated in an environment that knows the values of names and can run the blocks
that the block in use replaces. Operands are evaluated from the left, and only those that are
needed; the first failure ends the evaluation.
-/
namespace Scaffold.Template

structure Environment where
  template : Option String
  lookUp : String → Value
  outerBlock : String → Nat → Value
  runBlock : String → Nat → Outcome String

namespace Predicate

/-- Whether an option is active; only what can be a key may be asked for. -/
def active (options : List String) (v : Value) : Outcome Bool :=
  match v with
  | .absent true cause => useOf cause
  | .text o => .ok (options.contains o)
  | v => if v.isKey then .ok false else misused .wrongType

def anyActive (options : List String) : List Value → Outcome Bool
  | [] => .ok false
  | v :: vs => do if ← active options v then return true else anyActive options vs

def allActive (options : List String) : List Value → Outcome Bool
  | [] => .ok true
  | v :: vs => do if ← active options v then allActive options vs else return false

def answer (p : Predicate) (a : Arguments) : Outcome Bool := do
  match p with
  | .hasOption options =>
    match ← a.bind [("option", none)] with
    | [v] => active options v
    | _ => misused .wrongType
  | .hasAnyOption options => if a.named.isEmpty then anyActive options a.placed else misused .wrongType
  | .hasAllOptions options => if a.named.isEmpty then allActive options a.placed else misused .wrongType
  | .isFramework selected =>
    match ← a.bind [("framework", none)] with
    | [v] => equal (.text selected) v
    | _ => misused .wrongType
  | .isSelected selected framework =>
    let _ ← a.onlyPlaced 0 0
    return selected == framework

end Predicate

def Environment.call (env : Environment) (v : Value) (a : Arguments) : Outcome Value :=
  match v with
  | .absent _ cause => useOf cause
  | .predicate p => (Predicate.answer p a).map .bool
  | .method receiver n => callMethod receiver n a
  | .rangeMaker => makeRange a
  | .further .. => misused .beyond
  | .outerBlock name level => do
    let _ ← a.onlyPlaced 0 0
    return .text (← env.runBlock name level)
  | _ => misused .wrongType

/-- A member of a value; a block knows the one above it. -/
def Environment.member (env : Environment) (v : Value) (n : String) : Outcome Value :=
  match v with
  | .outerBlock name level =>
    if n = "super" then .ok (env.outerBlock name (level + 1)) else Template.member v n
  | v => Template.member v n

def Arguments.pass (a : Arguments) (passing : Passing) (v : Value) : Outcome Arguments :=
  match passing with
  | .place => .ok { a with placed := a.placed ++ [v] }
  | .name n => .ok { a with named := a.named ++ [(n, v)] }
  | .spread => do return { a with placed := a.placed ++ (← itemsOf v) }
  | .spreadNames =>
    match v with
    | .dict entries => do
      let named ← entries.mapM fun (k, w) =>
        match k with
        | .text n => pure (n, w)
        | _ => misused .wrongType
      return { a with named := a.named ++ named }
    | .absent _ cause => useOf cause
    | _ => misused .wrongType

def notFound (kind name : String) : Fault :=
  .failed ("No " ++ kind ++ " named " ++ Text.quoted name ++ " found.")

def applyFilter (name : String) (v : Value) (a : Arguments) : Outcome Value :=
  match Filter.ofName? name with
  | some f => f.apply v a
  | none => if Filter.isKnown name then misused .beyond else .error (notFound "filter" name)

def applyTest (name : String) (v : Value) (a : Arguments) : Outcome Value :=
  match Test.ofName? name with
  | some t => (t.apply v a).map .bool
  | none => if Test.isKnown name then misused .beyond else .error (notFound "test" name)

/-- What a condition without alternative leaves when it does not hold. -/
def withoutAlternative (template : Option String) (line : Nat) : Value :=
  let place :=
    match template with
    | some n => if n = "" then "" else " in " ++ Text.quoted n
    | none => ""
  .absent false (.reason ("the inline if-expression on line " ++ toString line ++ place ++
    " evaluated to false and no else section was defined."))

mutual
def eval (env : Environment) : Expr → Outcome Value
  | .literal v => .ok v
  | .name n => .ok (env.lookUp n)
  | .tuple items => do return .tuple (← evalAll env items)
  | .list items => do return .list (← evalAll env items)
  | .dict entries => do return .dict (← evalEntries env [] entries)
  | .member e n => do env.member (← eval env e) n
  | .item e key => do
    let v ← eval env e
    item v (← eval env key)
  | .slice e start stop step => do
    let v ← eval env e
    let a ← eval env start
    let b ← eval env stop
    slice v a b (← eval env step)
  | .strayRange => misused .strayRange
  | .call e args => do
    let v ← eval env e
    env.call v (← evalArgs env {} args)
  | .filter _ e name args => do
    let v ← eval env e
    applyFilter name v (← evalArgs env {} args)
  | .test _ e name args => do
    let v ← eval env e
    applyTest name v (← evalArgs env {} args)
  | .arithmetic op a b => do
    let v ← eval env a
    arithmetic op v (← eval env b)
  | .minus e => do negative (← eval env e)
  | .plus e => do positive (← eval env e)
  | .not e => do return .bool !(← truth (← eval env e))
  | .both a b => do
    let v ← eval env a
    if ← truth v then eval env b else return v
  | .either a b => do
    let v ← eval env a
    if ← truth v then return v else eval env b
  | .concat items => do
    let texts ← (← evalAll env items).mapM textOf
    return .text (String.join texts)
  | .compare first others => do evalChain env (← eval env first) others
  | .choice e test other => do
    if ← truth (← eval env test) then eval env e else eval env other
  | .guarded line e test => do
    if ← truth (← eval env test) then eval env e
    else return withoutAlternative env.template line

def evalAll (env : Environment) : List Expr → Outcome (List Value)
  | [] => .ok []
  | e :: es => do
    let v ← eval env e
    return v :: (← evalAll env es)

/-- The entries of a dictionary; an equal key later on changes the value alone. -/
def evalEntries (env : Environment) (done : List (Value × Value)) :
    List (Expr × Expr) → Outcome (List (Value × Value))
  | [] => .ok done
  | (k, v) :: es => do
    let key ← eval env k
    let value ← eval env v
    match key with
    | .absent true cause => useOf cause
    | key =>
      if key.isKey then evalEntries env (Value.insert done key value) es
      else misused .wrongType

def evalArgs (env : Environment) (done : Arguments) :
    List (Passing × Expr) → Outcome Arguments
  | [] => .ok done
  | (p, e) :: es => do
    let v ← eval env e
    evalArgs env (← done.pass p v) es

/-- Comparisons in a row, up to the first that does not hold. -/
def evalChain (env : Environment) (left : Value) :
    List (Comparison × Expr) → Outcome Value
  | [] => .ok (.bool true)
  | (op, e) :: es => do
    let right ← eval env e
    if ← compare op left right then evalChain env right es else return .bool false
end

end Scaffold.Template
