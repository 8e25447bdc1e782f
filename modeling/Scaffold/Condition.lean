import Scaffold.Vocabulary

set_option autoImplicit false

/-!
# Conditions

A segment of an entry's name is read as a condition on the selection. Reading is total: what is no
condition is inert and always holds.
-/
namespace Scaffold

inductive Condition where
  /-- A literal part of a name. -/
  | inert (token : String)
  /-- Neither the framework nor an active option. -/
  | negated (token : String)
  /-- Each the framework or an active option. -/
  | conjunction (tokens : List String)
  | frameworkOption (framework option : String)
  | framework (token : String)
  | option (token : String)
  deriving DecidableEq, Repr

namespace Condition

def text : Condition → String
  | inert t => t
  | negated t => "!" ++ t
  | conjunction ts => "+".intercalate ts
  | frameworkOption f o => f ++ "-" ++ o
  | framework t => t
  | option t => t

def isGating : Condition → Bool
  | inert _ => false
  | _ => true

def holds (s : Selection) : Condition → Bool
  | inert _ => true
  | negated t => !s.has t
  | conjunction ts => ts.all s.has
  | frameworkOption f o => s.framework == f && s.hasOption o
  | framework t => s.framework == t
  | option t => s.hasOption t

def dashSplits : List Char → List (List Char × List Char)
  | [] => []
  | c :: r =>
    let later := (dashSplits r).map fun (a, b) => (c :: a, b)
    if c = '-' then ([], r) :: later else later

/-- The framework before and the option after the first dash that stands between such a pair. -/
def pair? (v : Vocabulary) (segment : List Char) : Option (String × String) :=
  ((dashSplits segment).map fun (a, b) => (String.ofList a, String.ofList b)).find? fun (f, o) =>
    v.isFramework f && v.isOption o

/-- A segment read by the first rule that fits: a token that never decides, a negation, a
conjunction, a pair, a framework, an option, and else a literal. -/
def ofSegment (v : Vocabulary) (segment : String) : Condition :=
  let cs := segment.toList
  if v.isPassthrough segment then inert segment
  else if cs.head? = some '!' then negated (String.ofList cs.tail)
  else if '+' ∈ cs then conjunction ((cs.splitOn '+').map String.ofList)
  else
    match pair? v cs with
    | some (f, o) => frameworkOption f o
    | none =>
      if v.isFramework segment then framework segment
      else if v.isOption segment then option segment
      else inert segment

def allHold (s : Selection) (cs : List Condition) : Bool := cs.all (holds s)

inductive Clause where
  | condition (c : Condition)
  | other (written : String)
  deriving DecidableEq, Repr

def Clause.holds (s : Selection) : Clause → Except String Bool
  | .condition c => .ok (c.holds s)
  | .other written => .error ("Unknown condition: " ++ written)

def Clause.allHold (s : Selection) : List Clause → Except String Bool
  | [] => .ok true
  | c :: cs => do if ← c.holds s then allHold s cs else return false

end Condition
end Scaffold
