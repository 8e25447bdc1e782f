import Scaffold.Template.Cursor
import Scaffold.Template.Tree

set_option autoImplicit false

/-!
# Reading expressions

The forms, from the loosest to the tightest: conditional, `or`, `and`, `not`, comparisons, sums,
joined texts, products, powers, signs, and the primary forms with what follows them. Each is read
with the reader of the expressions nested in it, given whether these may be conditional; the depth
of nesting is bounded by the number of tokens.
-/
namespace Scaffold.Template.Expression
open Reader

abbrev Nested := Bool → Reader Expr

def unexpected {α : Type} (t : Token) : Reader α :=
  failAt t.line ("unexpected " ++ Text.quoted t.lexeme.description)

def tooLong {α : Type} : Reader α := fail "expression too long"

def chain (operand : Reader Expr) (op : Lexeme → Option (Expr → Expr → Expr)) :
    Nat → Expr → Reader Expr
  | 0, _ => tooLong
  | fuel + 1, left => do
    match op (← lexeme) with
    | none => return left
    | some join =>
      let _ ← advance
      chain operand op fuel (join left (← operand))

def leftChain (operand : Reader Expr) (op : Lexeme → Option (Expr → Expr → Expr)) :
    Reader Expr := do
  let first ← operand
  chain operand op (← bound) first

/-- Items between commas up to an end or to an item that no comma follows, and whether there was
a comma. -/
def items {α : Type} (item : Reader α) (ends : Lexeme → Bool) :
    Nat → Bool → Reader (List α × Bool)
  | 0, _ => tooLong
  | fuel + 1, isFirst => do
    if !isFirst then expectOperator ","
    if ends (← lexeme) then return ([], false)
    let a ← item
    if (← lexeme).isOperator "," then
      let (as, _) ← items item ends fuel false
      return (a :: as, true)
    else return ([a], false)

/-- What ends a tuple without parentheses. -/
def endsTuple : Lexeme → Bool
  | .printEnd | .statementEnd => true
  | l => l.isOperator ")"

def notAnExpression {α : Type} : Reader α := do
  fail ("Expected an expression, got " ++ Text.quoted (← lexeme).description)

def tupleOf (item : Reader Expr) (ends : Lexeme → Bool) (inParentheses : Bool) : Reader Expr := do
  let (es, isTuple) ← items item ends (← bound) true
  match es, isTuple with
  | [e], false => return e
  | [], false => if inParentheses then return .tuple [] else notAnExpression
  | es, _ => return .tuple es

def listItems {α : Type} (item : Reader α) (close : String) : Nat → Bool → Reader (List α)
  | 0, _ => tooLong
  | fuel + 1, isFirst => do
    if (← lexeme).isOperator close then return []
    if !isFirst then
      expectOperator ","
      if (← lexeme).isOperator close then return []
    let a ← item
    return a :: (← listItems item close fuel false)

def dictEntry (nested : Nested) : Reader (Expr × Expr) := do
  let key ← nested true
  expectOperator ":"
  return (key, ← nested true)

/-- Texts that follow each other are one. -/
def moreText : Nat → String → Reader String
  | 0, s => return s
  | fuel + 1, s => do
    match ← lexeme with
    | .text t =>
      let _ ← advance
      moreText fuel (s ++ t)
    | _ => return s

def nameOrConstant (n : String) : Expr :=
  if n = "true" || n = "True" then .literal (.bool true)
  else if n = "false" || n = "False" then .literal (.bool false)
  else if n = "none" || n = "None" then .literal .null
  else .name n

def primary (nested : Nested) : Reader Expr := do
  let t ← token
  match t.lexeme with
  | .name n =>
    let _ ← advance
    return nameOrConstant n
  | .text s =>
    let _ ← advance
    return .literal (.text (← moreText (← bound) s))
  | .int n =>
    let _ ← advance
    return .literal (.int n)
  | .float x =>
    let _ ← advance
    return .literal (.float x)
  | .operator "(" =>
    let _ ← advance
    let e ← tupleOf (nested true) endsTuple true
    expectOperator ")"
    return e
  | .operator "[" =>
    let _ ← advance
    let es ← listItems (nested true) "]" (← bound) true
    expectOperator "]"
    return .list es
  | .operator "\x7b" =>
    let _ ← advance
    let es ← listItems (dictEntry nested) "\x7d" (← bound) true
    expectOperator "\x7d"
    return .dict es
  | _ => unexpected t

structure Passed where
  named : Bool := false
  spread : Bool := false
  spreadNames : Bool := false

def argumentsFrom (nested : Nested) (line : Nat) :
    Nat → Passed → Bool → Reader (List (Passing × Expr))
  | 0, _, _ => tooLong
  | fuel + 1, p, isFirst => do
    if (← lexeme).isOperator ")" then return []
    if !isFirst then
      expectOperator ","
      if (← lexeme).isOperator ")" then return []
    let ensure := fun (b : Bool) =>
      if b then pure () else failAt line "invalid syntax for function call expression"
    let l ← lexeme
    if l.isOperator "*" then
      ensure (!p.spread && !p.spreadNames)
      let _ ← advance
      let e ← nested true
      return (.spread, e) :: (← argumentsFrom nested line fuel { p with spread := true } false)
    else if l.isOperator "**" then
      ensure !p.spreadNames
      let _ ← advance
      let e ← nested true
      return (.spreadNames, e) ::
        (← argumentsFrom nested line fuel { p with spreadNames := true } false)
    else
      let named? ← match l with
        | .name n =>
          if (← ahead).isOperator "=" then pure (some n) else pure none
        | _ => pure none
      match named? with
      | some n =>
        ensure !p.spreadNames
        let _ ← advance
        let _ ← advance
        let e ← nested true
        return (.name n, e) :: (← argumentsFrom nested line fuel { p with named := true } false)
      | none =>
        ensure (!p.spread && !p.spreadNames && !p.named)
        let e ← nested true
        return (.place, e) :: (← argumentsFrom nested line fuel p false)

def callArguments (nested : Nested) : Reader (List (Passing × Expr)) := do
  let line ← line
  expectOperator "("
  let args ← argumentsFrom nested line (← bound) {} true
  expectOperator ")"
  return args

inductive Key where
  | key (e : Expr)
  | range (start stop step : Expr)

/-- A bound of a slice, null where the next mark follows at once. -/
def sliceBound (nested : Nested) (ends : List String) : Reader Expr := do
  let l ← lexeme
  if ends.any l.isOperator then return .literal .null else nested true

def subscriptKey (nested : Nested) : Reader Key := do
  let start? ←
    if (← lexeme).isOperator ":" then pure none
    else
      let e ← nested true
      if (← lexeme).isOperator ":" then pure (some (e, true))
      else pure (some (e, false))
  match start? with
  | some (e, false) => return .key e
  | _ =>
    let _ ← advance
    let start := (start?.map (·.1)).getD (.literal .null)
    let stop ← sliceBound nested [":", "]", ","]
    let step ←
      if ← skipIf (·.isOperator ":") then sliceBound nested ["]", ","]
      else pure (.literal .null)
    return .range start stop step

def Key.alone (k : Key) : Expr :=
  match k with
  | .key e => e
  | .range .. => .strayRange

def lookUp (e : Expr) : List Key → Expr
  | [.key k] => .item e k
  | [.range a b c] => .slice e a b c
  | ks => .item e (.tuple (ks.map Key.alone))

def keysFrom (nested : Nested) : Nat → Bool → Reader (List Key)
  | 0, _ => tooLong
  | fuel + 1, isFirst => do
    if (← lexeme).isOperator "]" then return []
    if !isFirst then expectOperator ","
    let k ← subscriptKey nested
    return k :: (← keysFrom nested fuel false)

def dotted (e : Expr) : Reader Expr := do
  let t ← advance
  match t.lexeme with
  | .name n => return .member e n
  | .int n => return .item e (.literal (.int n))
  | _ => failAt t.line "expected name or number"

def postfixed (nested : Nested) : Nat → Expr → Reader Expr
  | 0, _ => tooLong
  | fuel + 1, e => do
    let l ← lexeme
    if l.isOperator "." then
      let _ ← advance
      postfixed nested fuel (← dotted e)
    else if l.isOperator "[" then
      let _ ← advance
      let ks ← keysFrom nested (← bound) true
      expectOperator "]"
      postfixed nested fuel (lookUp e ks)
    else if l.isOperator "(" then
      postfixed nested fuel (.call e (← callArguments nested))
    else return e

def dottedName : Nat → String → Reader String
  | 0, n => return n
  | fuel + 1, n => do
    if ← skipIf (·.isOperator ".") then
      let m ← expectName
      dottedName fuel (n ++ "." ++ m)
    else return n

def filterCall (nested : Nested) : Reader FilterCall := do
  let line ← line
  let n ← dottedName (← bound) (← expectName)
  let args ← if (← lexeme).isOperator "(" then callArguments nested else pure []
  return ⟨line, n, args⟩

def beginsTestArgument : Lexeme → Bool
  | .name n => n != "else" && n != "or" && n != "and"
  | .text _ | .int _ | .float _ => true
  | l => l.isOperator "[" || l.isOperator "\x7b"

def testOf (nested : Nested) (e : Expr) : Reader Expr := do
  let line := (← advance).line
  let negated ← skipName "not"
  let n ← dottedName (← bound) (← expectName)
  let l ← lexeme
  let args ←
    if l.isOperator "(" then callArguments nested
    else if beginsTestArgument l then
      if l.isName "is" then fail "You cannot chain multiple tests with is"
      let a ← primary nested
      pure [(.place, ← postfixed nested (← bound) a)]
    else pure []
  let test := Expr.test line e n args
  return if negated then .not test else test

def filtered (nested : Nested) : Nat → Expr → Reader Expr
  | 0, _ => tooLong
  | fuel + 1, e => do
    let l ← lexeme
    if l.isOperator "|" then
      let _ ← advance
      let f ← filterCall nested
      filtered nested fuel (.filter f.line e f.name f.args)
    else if l.isName "is" then filtered nested fuel (← testOf nested e)
    else if l.isOperator "(" then filtered nested fuel (.call e (← callArguments nested))
    else return e

/-- Signs bind tighter than filters. -/
def signed (nested : Nested) : Nat → Bool → Reader Expr
  | 0, _ => tooLong
  | fuel + 1, withFilters => do
    let l ← lexeme
    let e ←
      if l.isOperator "-" then
        let _ ← advance
        pure (.minus (← signed nested fuel false))
      else if l.isOperator "+" then
        let _ ← advance
        pure (.plus (← signed nested fuel false))
      else primary nested
    let e ← postfixed nested (← bound) e
    if withFilters then filtered nested (← bound) e else return e

def operatorOf (signs : List (String × Arithmetic)) (l : Lexeme) : Option (Expr → Expr → Expr) :=
  match l with
  | .operator s => (signs.lookup s).map .arithmetic
  | _ => none

def power (nested : Nested) : Reader Expr := do
  leftChain (do signed nested (← bound) true) (operatorOf [("**", .pow)])

def product (nested : Nested) : Reader Expr :=
  leftChain (power nested)
    (operatorOf [("*", .mul), ("/", .div), ("//", .floorDiv), ("%", .mod)])

def joinedFrom (operand : Reader Expr) : Nat → Reader (List Expr)
  | 0 => tooLong
  | fuel + 1 => do
    if ← skipIf (·.isOperator "~") then
      let e ← operand
      return e :: (← joinedFrom operand fuel)
    else return []

def joined (nested : Nested) : Reader Expr := do
  let first ← product nested
  match ← joinedFrom (product nested) (← bound) with
  | [] => return first
  | others => return .concat (first :: others)

def sum (nested : Nested) : Reader Expr :=
  leftChain (joined nested) (operatorOf [("+", .add), ("-", .sub)])

def comparisonSign? : Lexeme → Option Comparison
  | .operator "==" => some .eq
  | .operator "!=" => some .ne
  | .operator ">" => some .gt
  | .operator ">=" => some .ge
  | .operator "<" => some .lt
  | .operator "<=" => some .le
  | .name "in" => some .isIn
  | _ => none

def comparedFrom (operand : Reader Expr) : Nat → Reader (List (Comparison × Expr))
  | 0 => tooLong
  | fuel + 1 => do
    let l ← lexeme
    let op? ←
      match comparisonSign? l with
      | some op => pure (some op)
      | none =>
        if l.isName "not" then
          if (← ahead).isName "in" then
            let _ ← advance
            pure (some .notIn)
          else pure none
        else pure none
    match op? with
    | none => return []
    | some op =>
      let _ ← advance
      let e ← operand
      return (op, e) :: (← comparedFrom operand fuel)

def compared (nested : Nested) : Reader Expr := do
  let first ← sum nested
  match ← comparedFrom (sum nested) (← bound) with
  | [] => return first
  | others => return .compare first others

def negated (nested : Nested) : Nat → Reader Expr
  | 0 => tooLong
  | fuel + 1 => do
    if ← skipName "not" then return .not (← negated nested fuel) else compared nested

def wordOf (word : String) (join : Expr → Expr → Expr) (l : Lexeme) :
    Option (Expr → Expr → Expr) :=
  if l.isName word then some join else none

def conjunction (nested : Nested) : Reader Expr :=
  leftChain (do negated nested (← bound)) (wordOf "and" .both)

def disjunction (nested : Nested) : Reader Expr :=
  leftChain (conjunction nested) (wordOf "or" .either)

/-- Conditions after an expression; the alternative reaches as far as it can. -/
def conditionFrom (nested : Nested) : Nat → Nat → Expr → Reader Expr
  | 0, _, _ => tooLong
  | fuel + 1, line, e => do
    if ← skipName "if" then
      let test ← disjunction nested
      let choice ←
        if ← skipName "else" then pure (Expr.choice e test (← nested true))
        else pure (Expr.guarded line e test)
      conditionFrom nested fuel (← Reader.line) choice
    else return e

def conditional (nested : Nested) : Reader Expr := do
  let line ← Reader.line
  let e ← disjunction nested
  conditionFrom nested (← bound) line e

def readWithin : Nat → Nested
  | 0, _ => tooLong
  | depth + 1, true => conditional (readWithin depth)
  | depth + 1, false => disjunction (readWithin depth)

def read (withCondition : Bool) : Reader Expr := do
  readWithin (← bound) withCondition

def readTuple (withCondition : Bool) (ends : Lexeme → Bool) : Reader Expr :=
  tupleOf (read withCondition) (fun l => endsTuple l || ends l) false

end Scaffold.Template.Expression
