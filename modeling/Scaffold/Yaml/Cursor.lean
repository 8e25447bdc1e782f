import Scaffold.Text.Ranges

set_option autoImplicit false

/-!
# Places in a document

A place in the text of a document, with its line and column. Reading beyond the end gives the zero
character, which no document holds.
-/
namespace Scaffold.Yaml

def documentRanges : Text.Ranges := [
  (9, 10), (13, 13), (32, 126), (133, 133), (160, 0xD7FF), (0xE000, 0xFFFD), (0x10000, 0x10FFFF)]

def isBreak (c : Char) : Bool :=
  c = '\r' || c = '\n' || c.toNat = 0x85 || c.toNat = 0x2028 || c.toNat = 0x2029

def endsLine (c : Char) : Bool := c = '\x00' || isBreak c

def endsWord (c : Char) : Bool := c = ' ' || c = '\t' || endsLine c

structure Cursor where
  rest : List Char
  index : Nat := 0
  line : Nat := 0
  column : Nat := 0

namespace Cursor

def peek (p : Cursor) (k : Nat) : Char := (p.rest[k]?).getD '\x00'

def head (p : Cursor) : Char := p.peek 0

def isEnd (p : Cursor) : Bool := p.rest.isEmpty

def step (p : Cursor) : Cursor :=
  match p.rest with
  | [] => p
  | c :: r =>
    if isBreak c && !(c = '\r' && r.head? = some '\n') then ⟨r, p.index + 1, p.line + 1, 0⟩
    else if c.toNat = 0xFEFF then ⟨r, p.index + 1, p.line, p.column⟩
    else ⟨r, p.index + 1, p.line, p.column + 1⟩

def forward : Nat → Cursor → Cursor
  | 0, p => p
  | n + 1, p => forward n p.step

/-- The characters up to one that passes a test, and the place there. -/
def spanTo (p : Cursor) (stop : Char → Bool) : List Char × Cursor :=
  let cs := p.rest.takeWhile fun c => !stop c
  (cs, p.forward cs.length)

def skip (p : Cursor) (through : Char → Bool) : Cursor := (p.spanTo fun c => !through c).2

def lineBreak (p : Cursor) : List Char × Cursor :=
  let c := p.head
  if c = '\r' && p.peek 1 = '\n' then (['\n'], p.forward 2)
  else if c.toNat = 0x2028 || c.toNat = 0x2029 then ([c], p.step)
  else if isBreak c then (['\n'], p.step)
  else ([], p)

def atDocumentMark (p : Cursor) : Bool :=
  let marks := p.rest.take 3
  (marks = ['-', '-', '-'] || marks = ['.', '.', '.']) && endsWord (p.peek 3)

end Cursor
end Scaffold.Yaml
