import Scaffold.Template.Filter
import Scaffold.Template.Tree

set_option autoImplicit false

/-!
# What is checked before a template runs

No two blocks share a name; the filters and tests exist, save where a condition decides whether
they are reached; no loop assigns to its own state; and what lays a template over another stands
outside of loops and blocks. After a template is laid over another in any case, its own text and
print tags outside of blocks are without effect and are not checked.

The first fault in the order of the text counts, that of the blocks after that of the rest.
-/
namespace Scaffold.Template.Check

structure Place where
  /-- Outside of loops and blocks. -/
  outer : Bool
  /-- Outer and in no branch. -/
  certain : Bool
  /-- Whether its filters may be missing, as a condition decides if they are reached. -/
  soft : Bool
  /-- Whether its output is dropped once the template is laid over another. -/
  dropped : Bool

def Place.branch (p : Place) : Place := { p with certain := false, soft := true }

def Place.inner (p : Place) : Place := { p with outer := false, certain := false, soft := false }

def unknown (kind name : String) (line : Nat) : Except SyntaxFault Unit :=
  .error ⟨"No " ++ kind ++ " named " ++ Text.quoted name ++ ".", line⟩

def checkFilter (soft : Bool) (name : String) (line : Nat) : Except SyntaxFault Unit :=
  if soft || Filter.isKnown name then .ok () else unknown "filter" name line

def checkTest (soft : Bool) (name : String) (line : Nat) : Except SyntaxFault Unit :=
  if soft || Test.isKnown name then .ok () else unknown "test" name line

mutual
def expr (soft : Bool) : Expr → Except SyntaxFault Unit
  | .literal _ | .name _ | .strayRange => .ok ()
  | .tuple items | .list items | .concat items => exprs soft items
  | .dict entries => dictEntries soft entries
  | .member e _ | .minus e | .plus e | .not e => expr soft e
  | .item a b | .arithmetic _ a b | .both a b | .either a b => do
    expr soft a
    expr soft b
  | .slice e a b c => do
    expr soft e
    expr soft a
    expr soft b
    expr soft c
  | .call e args => do
    expr soft e
    arguments soft args
  | .filter line e name args => do
    checkFilter soft name line
    expr soft e
    arguments soft args
  | .test line e name args => do
    checkTest soft name line
    expr soft e
    arguments soft args
  | .compare e others => do
    expr soft e
    operands soft others
  | .choice e test other => do
    expr true e
    expr true test
    expr true other
  | .guarded _ e test => do
    expr true e
    expr true test

def exprs (soft : Bool) : List Expr → Except SyntaxFault Unit
  | [] => .ok ()
  | e :: es => do
    expr soft e
    exprs soft es

def dictEntries (soft : Bool) : List (Expr × Expr) → Except SyntaxFault Unit
  | [] => .ok ()
  | (k, v) :: es => do
    expr soft k
    expr soft v
    dictEntries soft es

def arguments (soft : Bool) : List (Passing × Expr) → Except SyntaxFault Unit
  | [] => .ok ()
  | (_, e) :: es => do
    expr soft e
    arguments soft es

def operands (soft : Bool) : List (Comparison × Expr) → Except SyntaxFault Unit
  | [] => .ok ()
  | (_, e) :: es => do
    expr soft e
    operands soft es
end

def captureFilters : List FilterCall → Except SyntaxFault Unit
  | [] => .ok ()
  | f :: fs => do
    captureFilters fs
    checkFilter false f.name f.line
    arguments false f.args

/-- A loop assigns to its state nowhere. -/
def loopState (assigned : List (Nat × String)) : Except SyntaxFault Unit :=
  match assigned.find? (·.2 == "loop") with
  | some (line, _) =>
    .error ⟨"Can't assign to special loop variable in for-loop target", line⟩
  | none => .ok ()

mutual
def nodes (p : Place) (laid : Bool) : List Node → Except SyntaxFault Bool
  | [] => .ok laid
  | .extend line e :: ns =>
    if !p.outer then .error ⟨"cannot use extend from a non top-level scope", line⟩
    else if laid then .ok laid
    else do
      expr p.soft e
      nodes p p.certain ns
  | n :: ns => do nodes p (← node p laid n) ns

def node (p : Place) (laid : Bool) : Node → Except SyntaxFault Bool
  | .text _ | .block .. | .extend .. => .ok laid
  | .print e => do
    if !(p.dropped && laid) then expr p.soft e
    return laid
  | .branch bs otherwise => do
    let laid ← branches p.branch laid bs
    nodes p.branch laid otherwise
  | .loop target items test body otherwise => do
    match test with
    | some e => expr false e
    | none => pure ()
    loopState (target.assigned ++ Node.assignedByAll body ++ Node.assignedByAll otherwise)
    expr p.soft items
    let laid ← nodes p.inner laid body
    nodes p.inner laid otherwise
  | .assign _ e => do
    expr p.soft e
    return laid
  | .capture _ filters body => do
    let laid ← nodes { p.inner with dropped := false } laid body
    captureFilters filters
    return laid
  | .embed e _ _ => do
    expr p.soft e
    return laid

def branches (p : Place) (laid : Bool) : List (Expr × List Node) → Except SyntaxFault Bool
  | [] => .ok laid
  | (test, body) :: bs => do
    expr p.soft test
    let laid ← nodes p laid body
    branches p laid bs
end

def blockBodies (laid : Bool) : List (Nat × String × List Node) → Except SyntaxFault Unit
  | [] => .ok ()
  | (_, _, body) :: bs => do
    let laid ← nodes ⟨false, false, false, false⟩ laid body
    blockBodies laid bs

def blockNames (seen : List String) : List (Nat × String × List Node) → Except SyntaxFault Unit
  | [] => .ok ()
  | (line, name, _) :: bs =>
    if seen.contains name then .error ⟨"block " ++ Text.quoted name ++ " defined twice", line⟩
    else blockNames (name :: seen) bs

def template (ns : List Node) : Except SyntaxFault Unit := do
  let blocks := Node.blocksOfAll ns
  blockNames [] blocks
  let laid ← nodes ⟨true, true, false, Node.hasExtendAny ns⟩ false ns
  blockBodies laid blocks

end Scaffold.Template.Check
