import Scaffold.Template.Token
import Scaffold.Text.Utf8
import Scaffold.Value

set_option autoImplicit false

/-!
# Why filling in a template fails

A template can be malformed, say of itself that it cannot go on, ask for a template that is not
there, or use an absent value. Beside these stand the misuses of values, which are not the
template's own kind of failure.
-/
namespace Scaffold.Template

inductive Misuse where
  | wrongType
  | noMember
  | badValue (message : String)
  | divisionByZero
  | overflow
  | tooDeep
  | strayRange
  | undecodable (e : Text.DecodeError)
  /-- Something that templates can do, but that is not computed here. -/
  | beyond
  deriving DecidableEq, Repr

inductive Fault where
  | malformed (template : Option String) (f : SyntaxFault)
  | failed (message : String)
  | missing (message : String)
  | absent (message : String)
  | misuse (m : Misuse)
  deriving DecidableEq, Repr

abbrev Outcome (α : Type) := Except Fault α

def misused {α : Type} (m : Misuse) : Outcome α := .error (.misuse m)

def useOf {α : Type} (cause : Absence) : Outcome α := .error (.absent cause.message)

end Scaffold.Template
