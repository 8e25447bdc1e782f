import Scaffold.Template.Token

set_option autoImplicit false

/-!
# Reading along tokens

A cursor stands on a token and knows the ones that follow. Stepping onto what is no token fails
with the fault found there, so a fault counts only where reading gets to it.
-/
namespace Scaffold.Template

structure Cursor where
  current : Token
  rest : List Token
  fault? : Option SyntaxFault

namespace Cursor

def next (c : Cursor) : Except SyntaxFault Cursor :=
  match c.rest, c.fault? with
  | t :: ts, _ => .ok { c with current := t, rest := ts }
  | [], some f => .error f
  | [], none => .ok { c with current := ⟨c.current.line, .finish⟩ }

def ofScan (s : Scan) : Except SyntaxFault Cursor := next ⟨⟨1, .finish⟩, s.tokens, s.fault?⟩

end Cursor

abbrev Reader (α : Type) := StateT Cursor (Except SyntaxFault) α

namespace Reader

def token : Reader Token := fun c => .ok (c.current, c)

def lexeme : Reader Lexeme := fun c => .ok (c.current.lexeme, c)

def line : Reader Nat := fun c => .ok (c.current.line, c)

def bound : Reader Nat := fun c => .ok (c.rest.length + 2, c)

def failAt {α : Type} (line : Nat) (message : String) : Reader α := fun _ => .error ⟨message, line⟩

def fail {α : Type} (message : String) : Reader α := fun c => .error ⟨message, c.current.line⟩

def advance : Reader Token := fun c => c.next.map fun d => (c.current, d)

def ahead : Reader Lexeme := fun c => c.next.map fun d => (d.current.lexeme, c)

def skipIf (wanted : Lexeme → Bool) : Reader Bool := do
  if wanted (← lexeme) then
    let _ ← advance
    return true
  else return false

def skipName (n : String) : Reader Bool := skipIf (·.isName n)

def expect (description : String) (wanted : Lexeme → Bool) : Reader Token := do
  let t ← token
  if wanted t.lexeme then advance
  else
    match t.lexeme with
    | .finish => fail ("unexpected end of template, expected " ++ Text.quoted description ++ ".")
    | l =>
      fail ("expected token " ++ Text.quoted description ++ ", got " ++
        Text.quoted l.description)

def expectOperator (sign : String) : Reader Unit := do
  let _ ← expect sign (·.isOperator sign)

def expectKeyword (n : String) : Reader Unit := do
  let _ ← expect n (·.isName n)

def expectName : Reader String := do
  let t ← expect "name" (· matches .name _)
  match t.lexeme with
  | .name n => return n
  | _ => return ""

def expectPrintEnd : Reader Unit := do
  let _ ← expect Lexeme.printEnd.description (· matches .printEnd)

def expectStatementEnd : Reader Unit := do
  let _ ← expect Lexeme.statementEnd.description (· matches .statementEnd)

end Reader
end Scaffold.Template
