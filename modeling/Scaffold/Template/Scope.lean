import Scaffold.Template.Tree

set_option autoImplicit false

/-!
# Where names get their values

A template, a block, the body of a loop and a captured part each have a frame of names. Which
names a frame has, and what they hold at its beginning, is read off its nodes: a name that is
looked up first holds what the context has; one that is assigned first holds what the frames
around have, or nothing. After branches that do not all assign a name, it is as if it had been
looked up.
-/
namespace Scaffold.Template

inductive Origin where
  | context
  | outer
  | unset
  | given
  deriving DecidableEq, Repr

structure Slot where
  name : String
  origin : Origin
  assigned : Bool
  deriving DecidableEq, Repr

abbrev Slots := List Slot

namespace Slots

def has (t : Slots) (n : String) : Bool := t.any (·.name == n)

def assigns (t : Slots) (n : String) : Bool := t.any fun s => s.name == n && s.assigned

/-- A name that is looked up; `known` are the names of the frames around. -/
def look (known : List String) (t : Slots) (n : String) : Slots :=
  if t.has n || known.contains n then t else t ++ [⟨n, .context, false⟩]

def lookAll (known : List String) (t : Slots) (names : List String) : Slots :=
  names.foldl (look known) t

def assign (known : List String) (t : Slots) (n : String) : Slots :=
  if t.has n then t.map fun s => if s.name == n then { s with assigned := true } else s
  else t ++ [⟨n, if known.contains n then .outer else .unset, true⟩]

def give (t : Slots) (n : String) : Slots :=
  if t.has n then t.map fun s => if s.name == n then ⟨n, .given, true⟩ else s
  else t ++ [⟨n, .given, true⟩]

def setTarget (known : List String) (t : Slots) (target : Target) : Slots :=
  (target.assigned.map (·.2)).foldl (assign known) (lookAll known t target.holders)

/-- A table with the slots of a later one; the later origin counts. -/
def overlay (t u : Slots) : Slots :=
  u.foldl (fun t s =>
    if t.has s.name then
      t.map fun r =>
        if r.name == s.name then ⟨r.name, s.origin, r.assigned || s.assigned⟩ else r
    else t ++ [s]) t

/-- The table after branches that started from `t`. -/
def merge (known : List String) (t : Slots) (branches : List Slots) : Slots :=
  let all := branches.foldl overlay t
  all.map fun s =>
    if s.assigned && !t.assigns s.name && !branches.all (·.assigns s.name) then
      { s with origin := if known.contains s.name then .outer else .context }
    else s

mutual
/-- The table after a node; loops, captured parts and blocks have frames of their own. -/
def afterNode (known : List String) (t : Slots) : Node → Slots
  | .text _ | .block .. => t
  | .print e | .extend _ e | .embed e _ _ => lookAll known t e.names
  | .branch branches otherwise =>
    match branches with
    | [] => afterNodes known t otherwise
    | (test, body) :: others =>
      let t := lookAll known t test.names
      merge known t
        [afterNodes known t body, afterBranches known t others, afterNodes known t otherwise]
  | .loop _ items _ _ _ => lookAll known t items.names
  | .assign target e => setTarget known (lookAll known t e.names) target
  | .capture target _ _ => setTarget known t target

def afterNodes (known : List String) (t : Slots) : List Node → Slots
  | [] => t
  | n :: ns => afterNodes known (afterNode known t n) ns

/-- The table after further branches, each of which may be left out. -/
def afterBranches (known : List String) (t : Slots) : List (Expr × List Node) → Slots
  | [] => t
  | (test, body) :: bs =>
    let t := lookAll known t test.names
    afterBranches known (merge known t [afterNodes known t body, t, t]) bs
end

def ofNodes (known : List String) (ns : List Node) : Slots := afterNodes known [] ns

def ofBlock (ns : List Node) : Slots :=
  let start := if (Node.namesOfAll ns).contains "super" then give [] "super" else []
  afterNodes [] start ns

def giveTarget (t : Slots) (target : Target) : Slots :=
  (target.assigned.map (·.2)).foldl give t

def ofLoopBody (known : List String) (target : Target) (body : List Node) : Slots :=
  let start := if (Node.namesOfAll body).contains "loop" then give [] "loop" else []
  afterNodes known (giveTarget start target) body

def ofLoopTest (known : List String) (target : Target) (test : Expr) : Slots :=
  lookAll known (giveTarget [] target) test.names

end Slots
end Scaffold.Template
