import Scaffold.Template.Expression

set_option autoImplicit false

/-!
# Reading statements

A template is a list of nodes up to the end of the text; the parts of a statement are lists of
nodes up to one of the tags that may end them. While a part is read it is known which statements
are open and by which tags each can go on, for the messages about a tag that fits nowhere.
-/
namespace Scaffold.Template.Statement
open Reader

/-- The statements that are open and the tags looked for, innermost first. -/
structure Surroundings where
  tags : List String := []
  ends : List (List String) := []

namespace Surroundings

def enter (s : Surroundings) (tag : String) : Surroundings := { s with tags := tag :: s.tags }

def await (s : Surroundings) (ends : List String) : Surroundings := { s with ends := ends :: s.ends }

def message (s : Surroundings) (tag : Option String) : String :=
  let opening :=
    match tag with
    | none => "Unexpected end of template."
    | some t => "Encountered unknown tag " ++ Text.quoted t ++ "."
  let wanted :=
    match s.ends.head? with
    | none => []
    | some ends =>
      let looking := " or ".intercalate (ends.map Text.quoted)
      if tag.any fun t => s.ends.any (·.contains t) then
        ["You probably made a nesting mistake. Jinja is expecting this tag, but currently looking for "
          ++ looking ++ "."]
      else ["Jinja was looking for the following tags: " ++ looking ++ "."]
  let innermost :=
    match s.tags.head? with
    | none => []
    | some t => ["The innermost block that needs to be closed is " ++ Text.quoted t ++ "."]
  " ".intercalate (opening :: wanted ++ innermost)

end Surroundings

/-- Reads the nodes of a part up to one of the tags that end it. -/
abbrev PartReader := Surroundings → List String → Reader (List Node)

/-! ### Targets of assignments -/

/-- What can be assigned to of an expression read as a target, or its kind. -/
def targetOf (line : Nat) : Expr → Except String Target
  | .name n => .ok (.name line n)
  | .tuple items =>
    match all items with
    | some ts => .ok (.tuple ts)
    | none => .error "tuple"
  | e => .error e.kind
where
  all : List Expr → Option (List Target)
    | [] => some []
    | e :: es =>
      match targetOf line e, all es with
      | .ok t, some ts => some (t :: ts)
      | _, _ => none

/-- One part of a target; the attribute of a name only where `withMembers`. -/
def targetItem (withMembers : Bool) : Reader (Except String Target) := do
  let t ← token
  let e ← Expression.primary (Expression.readWithin (← bound))
  match e with
  | .name n =>
    if withMembers && (← lexeme).isOperator "." then
      match t.lexeme with
      | .name _ =>
        let _ ← advance
        let _ ← expectName
        return .ok (.member n)
      | _ => return targetOf t.line e
    else return targetOf t.line e
  | _ => return targetOf t.line e

def collect : List (Except String Target) → Except String (List Target)
  | [] => .ok []
  | .ok t :: ts => (collect ts).map (t :: ·)
  | .error _ :: _ => .error "tuple"

def readTarget (withMembers : Bool) (ends : Lexeme → Bool) : Reader Target := do
  let line ← line
  let (ts, isTuple) ←
    Expression.items (targetItem withMembers) (fun l => Expression.endsTuple l || ends l)
      (← bound) true
  let target ←
    match ts, isTuple with
    | [t], false => pure t
    | [], false => Expression.notAnExpression
    | ts, _ => pure ((collect ts).map .tuple)
  match target with
  | .ok t => return t
  | .error kind => failAt line ("can't assign to " ++ Text.quoted kind)

/-! ### Statements -/

/-- A part after the tag that opens it: the end of that tag, then nodes up to a tag that ends it,
on whose name the cursor stops. -/
def readPart (part : PartReader) (s : Surroundings) (ends : List String) : Reader (List Node) := do
  let _ ← skipIf (·.isOperator ":")
  expectStatementEnd
  let nodes ← part s ends
  match ← lexeme with
  | .finish => fail ((s.await ends).message none)
  | _ => return nodes

def readLastPart (part : PartReader) (s : Surroundings) (ends : List String) :
    Reader (List Node) := do
  let nodes ← readPart part s ends
  let _ ← advance
  return nodes

def branches (part : PartReader) (s : Surroundings) :
    Nat → Reader (List (Expr × List Node) × List Node)
  | 0 => Expression.tooLong
  | fuel + 1 => do
    let test ← Expression.readTuple false fun _ => false
    let body ← readPart part s ["elif", "else", "endif"]
    let t ← advance
    if t.lexeme.isName "elif" then
      let (others, otherwise) ← branches part s fuel
      return ((test, body) :: others, otherwise)
    else if t.lexeme.isName "else" then
      let otherwise ← readLastPart part s ["endif"]
      return ([(test, body)], otherwise)
    else return ([(test, body)], [])

def readBranch (part : PartReader) (s : Surroundings) : Reader Node := do
  let _ ← advance
  let (bs, otherwise) ← branches part s (← bound)
  return .branch bs otherwise

def readLoop (part : PartReader) (s : Surroundings) : Reader Node := do
  let _ ← advance
  let target ← readTarget false (·.isName "in")
  expectKeyword "in"
  let items ← Expression.readTuple false (·.isName "recursive")
  let test ←
    if ← skipName "if" then
      let e ← Expression.read true
      pure (some e)
    else pure none
  let _ ← skipName "recursive"
  let body ← readPart part s ["endfor", "else"]
  let t ← advance
  if t.lexeme.isName "endfor" then return .loop target items test body []
  else
    let otherwise ← readLastPart part s ["endfor"]
    return .loop target items test body otherwise

def captureFilters : Nat → Reader (List FilterCall)
  | 0 => Expression.tooLong
  | fuel + 1 => do
    if ← skipIf (·.isOperator "|") then
      let f ← Expression.filterCall (Expression.readWithin (← bound))
      return f :: (← captureFilters fuel)
    else return []

def readAssignment (part : PartReader) (s : Surroundings) : Reader Node := do
  let _ ← advance
  let target ← readTarget true fun _ => false
  if ← skipIf (·.isOperator "=") then
    return .assign target (← Expression.readTuple true fun _ => false)
  else
    let filters ← captureFilters (← bound)
    let body ← readLastPart part s ["endset"]
    return .capture target filters body

def isBlankNode : Node → Bool
  | .text t => Text.isBlankText t.toList
  | _ => false

def readBlock (part : PartReader) (s : Surroundings) : Reader Node := do
  let line := (← advance).line
  let n ← expectName
  let isScoped ← skipName "scoped"
  let mandatory ← skipName "required"
  if (← lexeme).isOperator "-" then
    fail ("Block names in Jinja have to be valid Python identifiers and may not contain hyphens," ++
      " use an underscore instead.")
  let body ← readLastPart part s ["endblock"]
  if mandatory && !body.all isBlankNode then
    fail "Required blocks can only contain comments or whitespace"
  let _ ← skipName n
  return .block line n isScoped mandatory body

def readExtend : Reader Node := do
  let line := (← advance).line
  return .extend line (← Expression.read true)

def readEmbedding : Reader Node := do
  let _ ← advance
  let e ← Expression.read true
  let ignoreMissing ←
    if (← lexeme).isName "ignore" then
      if (← ahead).isName "missing" then
        let _ ← advance
        let _ ← advance
        pure true
      else pure false
    else pure false
  let l ← lexeme
  let withContext ←
    if l.isName "with" || l.isName "without" then
      if (← ahead).isName "context" then
        let _ ← advance
        let _ ← advance
        pure (l.isName "with")
      else pure true
    else pure true
  return .embed e ignoreMissing withContext

def readStatement (part : PartReader) (s : Surroundings) : Reader Node := do
  let t ← token
  match t.lexeme with
  | .name n =>
    let inner := s.enter n
    match n with
    | "if" => readBranch part inner
    | "for" => readLoop part inner
    | "set" => readAssignment part inner
    | "block" => readBlock part inner
    | "extends" => readExtend
    | "include" => readEmbedding
    | _ => failAt t.line (s.message (some n))
  | _ => failAt t.line "tag name expected"

def readNodes : Nat → Surroundings → List String → Reader (List Node)
  | 0, _, _ => Expression.tooLong
  | fuel + 1, s, ends => do
    let t ← token
    match t.lexeme with
    | .data text =>
      let _ ← advance
      return .text text :: (← readNodes fuel s ends)
    | .printBegin =>
      let _ ← advance
      let e ← Expression.readTuple true fun _ => false
      expectPrintEnd
      return .print e :: (← readNodes fuel s ends)
    | .statementBegin =>
      let _ ← advance
      let l ← lexeme
      if ends.any l.isName then return []
      else
        let n ← readStatement (fun s ends => readNodes fuel (s.await ends) ends) s
        expectStatementEnd
        return n :: (← readNodes fuel s ends)
    | _ => return []

def readTemplate (s : Scan) : Except SyntaxFault (List Node) := do
  let c ← Cursor.ofScan s
  let (nodes, _) ← readNodes (c.rest.length + 3) {} [] c
  return nodes

end Scaffold.Template.Statement
