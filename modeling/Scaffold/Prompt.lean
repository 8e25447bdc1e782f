import Scaffold.Console.Output
import Scaffold.Console.Tag
import Scaffold.Failure
import Scaffold.Number.Limit
import Scaffold.Text.Digit
import Scaffold.Text.Naming

set_option autoImplicit false

/-!
# Prompts

Questions on a terminal. Each is asked until an answer will do or the answers run out; an answer
that will not do is complained of. Answers are read a line at a time, and what comes after the one
that will do stays unread.
-/
namespace Scaffold

inductive Answer where
  | line (text : String)
  | interrupt
  deriving DecidableEq, Repr

structure Terminal where
  width : Nat
  answers : List Answer := []
  printed : String := ""
  markup : Console.Markup := .tags

abbrev Talk (α : Type) := ExceptT Failure (StateM Terminal) α

def Failure.ofUnreadable : Console.Unreadable → Failure
  | .tags => .badMarkup
  | .value message => .invalid message

namespace Talk

def write (text : String) : Talk Unit :=
  modify fun (t : Terminal) => { t with printed := t.printed ++ text }

def put (show? : Console.Markup → Nat → Except Console.Unreadable String) : Talk Unit := do
  let t ← get
  match show? t.markup t.width with
  | .ok text => write text
  | .error e => throw (.ofUnreadable e)

def say (message : String) : Talk Unit := put fun m width => Console.line m width message

def tell (tone : Console.Tone) (message : String) : Talk Unit :=
  put fun m width => tone.line m width message

end Talk

namespace Prompt

inductive Verdict (α : Type) where
  | accept (a : α)
  | reject (complaint : String)
  | fail (f : Failure)

/-- Asks until an answer will do; gives the outcome, the answers left, and what was printed. -/
def askAll {α : Type} (m : Console.Markup) (width : Nat) (question : String)
    (judge : String → Verdict α) : List Answer → String → Except Failure α × List Answer × String
  | answers, printed =>
    let printed := printed ++ Console.question width question
    match answers with
    | [] => (.error (.aborted question), [], printed)
    | .interrupt :: rest => (.error .interrupted, rest, printed)
    | .line text :: rest =>
      match judge (Text.stripped text) with
      | .accept a => (.ok a, rest, printed)
      | .fail f => (.error f, rest, printed)
      | .reject complaint =>
        match Console.line m width (Console.styled "yellow" complaint) with
        | .error e => (.error (.ofUnreadable e), rest, printed)
        | .ok text => askAll m width question judge rest (printed ++ text)

def ask {α : Type} (question : String) (judge : String → Verdict α) : Talk α := fun t =>
  let (r, answers, printed) := askAll t.markup t.width question judge t.answers t.printed
  (r, { t with answers := answers, printed := printed })

/-! ### Choices -/

/-- The number that an answer of digits writes; other answers write none. -/
def number? (answer : String) : Except Failure (Option Nat) :=
  let cs := answer.toList
  if cs.isEmpty || !cs.all Text.isDigit then .ok none
  else if Number.digitLimit < cs.length && cs.all Text.isDecimal then
    .error (.invalid (Number.tooLongToRead cs.length))
  else
    match Text.numeralValue? cs with
    | some n => .ok (some n)
    | none => .error (.invalid (Number.notNumeral 10 cs))

def choice? (choices : List String) (answer : String) : Except Failure (Option String) :=
  if choices.contains answer then .ok (some answer)
  else
    (number? answer).map fun n? =>
      n?.bind fun n => if n = 0 then none else choices[n - 1]?

def present (message : String) (choices : List String) (mark : String → String) : Talk Unit := do
  Talk.say ("\n" ++ Console.styled "cyan" message)
  for (choice, i) in choices.zipIdx 1 do
    Talk.say ("  " ++ toString i ++ ". " ++ choice ++ mark choice)

def selectVerdict (choices : List String) (default : Option String) (answer : String) :
    Verdict String :=
  match answer, default with
  | "", some d => .accept d
  | _, _ =>
    match choice? choices answer with
    | .error f => .fail f
    | .ok (some c) => .accept c
    | .ok none => .reject ("Please enter a number between 1 and " ++ toString choices.length)

/-- Asks for one of the choices, by name or number; a blank answer takes the default. -/
def select (message : String) (choices : List String) (default : Option String) : Talk String := do
  if choices.isEmpty then throw (.invalid ("No choices available for: " ++ message))
  present message choices fun c => if some c = default then " (default)" else ""
  ask ("Select (1-" ++ toString choices.length ++ "): ") (selectVerdict choices default)

def itemsOf (answer : String) : List String :=
  ((answer.toList.splitOn ',').map fun cs => String.ofList (Text.strip cs)).filter (· ≠ "")

/-- The choices that items name, and the items that name none. -/
def pick (choices : List String) : List String → Except Failure (List String × List String)
  | [] => .ok ([], [])
  | item :: rest => do
    let found ← choice? choices item
    let (picked, unknown) ← pick choices rest
    return match found with
      | some c => (c :: picked, unknown)
      | none => (picked, item :: unknown)

def multiselectVerdict (choices : List String) (answer : String) : Verdict (List String) :=
  match pick choices (itemsOf answer) with
  | .error f => .fail f
  | .ok (picked, []) => .accept (choices.filter picked.contains)
  | .ok (_, unknown) => .reject ("Unknown choice(s): " ++ ", ".intercalate unknown)

/-- Asks for any of the choices, which are given in their own order. -/
def multiselect (message : String) (choices : List String) : Talk (List String) := do
  if choices.isEmpty then return []
  present message choices fun _ => ""
  ask "Select (comma-separated numbers, empty for none): " (multiselectVerdict choices)

/-! ### Other questions -/

def confirmVerdict (default : Bool) (answer : String) : Verdict Bool :=
  let word := Text.lowered answer
  if word = "" then .accept default
  else if word = "y" || word = "yes" then .accept true
  else if word = "n" || word = "no" then .accept false
  else .reject "Please answer y or n"

/-- Asks yes or no; a blank answer takes the default. -/
def confirm (message : String) (default : Bool) : Talk Bool :=
  ask (message ++ (if default then " [Y/n] " else " [y/N] ")) (confirmVerdict default)

abbrev Check := String → Option String

def anything : Check := fun _ => none

def nonEmpty (complaint : String) : Check := fun s =>
  if Text.stripped s = "" then some complaint else none

def packageName : Check := fun s =>
  if Text.packageName s = "" then some "Project name must be a valid package name." else none

def textVerdict (default : String) (check : Check) (answer : String) : Verdict String :=
  let value := if answer = "" then default else answer
  match check value with
  | none => .accept value
  | some complaint => .reject complaint

/-- Asks for a text; a blank answer takes the default. -/
def text (message default : String) (check : Check) : Talk String :=
  ask (message ++ (if default = "" then "" else " [" ++ default ++ "]") ++ " ")
    (textVerdict default check)

end Prompt
end Scaffold
