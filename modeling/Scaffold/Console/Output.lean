import Scaffold.Console.Markup
import Scaffold.Console.Pictograph
import Scaffold.Console.Table

set_option autoImplicit false

/-!
# Output

What the program prints on a console of a fixed width. A message whose markup cannot be read is
not printed at all.
-/
namespace Scaffold.Console

def line (m : Markup) (width : Nat) (message : String) : Except Unreadable String :=
  (m.read message).map fun cs => joinLines (wrap width .fold true cs) ++ "\n"

/-- A question, in which brackets are no markup; the answer goes on its last line. -/
def question (width : Nat) (text : String) : String :=
  joinLines (wrap width .fold true (withoutControls (pictured text.toList)))

inductive Tone where
  | success
  | error
  | warning
  | info
  deriving DecidableEq, Repr

def Tone.style : Tone → String
  | success => "bold green"
  | error => "bold red"
  | warning => "bold yellow"
  | info => "cyan"

theorem Tone.style_mem (t : Tone) : t.style ∈ styles := by
  cases t <;> simp [style, styles]

def Tone.line (t : Tone) (m : Markup) (width : Nat) (message : String) : Except Unreadable String :=
  Console.line m width (styled t.style message)

def summary (m : Markup) (width : Nat) (title : String) (rows : List (String × String)) :
    Except Unreadable String := do
  let title ← if title = "" then pure none else (m.read title).map some
  let rows ← rows.mapM fun (label, value) => do return (← m.read label, ← m.read value)
  let lines := tableLines width title ("Item".toList, "Value".toList) rows
  return joinLines lines ++ "\n\n"

end Scaffold.Console
