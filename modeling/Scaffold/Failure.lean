import Scaffold.Files.Basic
import Scaffold.Template.Fault
import Scaffold.Validation
import Scaffold.Selection
import Scaffold.Yaml.Scalar

set_option autoImplicit false

/-!
# Failures

Why an operation of the program ends without a result. The first four are the program's own; the
others come from what it works on: values, files and documents.
-/
namespace Scaffold

inductive Failure where
  /-- A template could not be filled in; where the fault is one of its text, with the line. -/
  | render (message : String) (template : Option String) (line : Option Int)
  | files (message : String) (path : Path)
  | unknownProject (name : String) (available : List String)
  | aborted (question : String)
  | interrupted
  | refused (r : Validation.Refusal)
  | invalid (message : String)
  | misuse (m : Template.Misuse)
  | fault (f : Fault)
  /-- A path leads in a circle, or to the home of nobody. -/
  | unresolvable
  | document (f : Yaml.Fault)
  | badMarkup

namespace Failure

def renderText (message : String) (template : Option String) (line : Option Int) : String :=
  let place :=
    match template with
    | some t =>
      if t = "" then ""
      else
        " in " ++ t ++
          match line with
          | some n => if n = 0 then "" else " (line " ++ toString n ++ ")"
          | none => ""
    | none => ""
  "Template rendering failed" ++ place ++ ": " ++ message

def unknownProjectText (name : String) (available : List String) : String :=
  "No project found for type \"" ++ name ++ "\" (available: " ++
    (if available.isEmpty then "none" else ", ".intercalate available) ++ ")"

def report? : Failure → Option String
  | .render message template line => some (renderText message template line)
  | .files message p => some (message ++ ": " ++ p.text)
  | .unknownProject name available => some (unknownProjectText name available)
  | .refused r => some r.report
  | .invalid message => some message
  | .misuse (.badValue message) => some message
  | .misuse (.undecodable e) => some e.message
  | .fault .zeroCharacter => some Fault.zeroCharacter.message
  | .document (.badValue message) => some message
  | _ => none

def ofUnusable : Selection.Unusable → Failure
  | .notIterable | .notHashable => .misuse .wrongType
  | .refused r => .refused r

def ofUndecodable (e : Text.DecodeError) : Failure := .misuse (.undecodable e)

end Failure
end Scaffold
