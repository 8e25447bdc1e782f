import Scaffold.Template.Check
import Scaffold.Template.Evaluation
import Scaffold.Template.Scope
import Scaffold.Template.Statement
import Scaffold.Template.Variables

set_option autoImplicit false

/-!
# Running templates

A run goes through the nodes of a template and writes its output. It keeps the frames of names,
the context, the definitions of the blocks (the one in use first), and the template that this one
is laid over, which runs after it. Templates that embed or overlay each other nest to a limit.
-/
namespace Scaffold.Template

/-- A template that was read and checked; the blocks are defined by the name they have. -/
structure Document where
  name : Option String
  nodes : List Node

namespace Document

def ofText (name : Option String) (text : String) : Outcome Document :=
  let read : Except SyntaxFault (List Node) := do
    let nodes ← Statement.readTemplate (scan (Text.unifyLineEnds text.toList))
    Check.template nodes
    return nodes
  match read with
  | .ok nodes => .ok ⟨name, nodes⟩
  | .error f => .error (.malformed name f)

end Document

abbrev Loader := String → Outcome String

structure Definition where
  template : Option String
  body : List Node

/-- The definitions of blocks by name, for each the one in use first. -/
abbrev Definitions := List (String × List Definition)

def definitionsOf (d : Document) : Definitions :=
  (Node.blocksOfAll d.nodes).map fun (_, n, body) => (n, [⟨d.name, body⟩])

def layOver (upper under : Definitions) : Definitions :=
  under.foldl (fun ds (n, more) =>
    if ds.any (·.1 == n) then ds.map fun d => if d.1 == n then (n, d.2 ++ more) else d
    else ds ++ [(n, more)]) upper

/-- A name with its value, if it has one; `assigned` if the frame gives it. -/
structure Binding where
  name : String
  assigned : Bool
  value : Option Value

abbrev Frame := List Binding

structure Run where
  template : Option String
  frames : List Frame := []
  /-- What the template itself assigned outside of loops and blocks. -/
  vars : Variables := []
  base : Variables
  blocks : Definitions
  parent : Option Document := none
  output : String := ""

def globals : Variables := [
  ("range", .rangeMaker),
  ("dict", .further "type" "<class 'dict'>"),
  ("lipsum", .further "function" "<function generate_lorem_ipsum>"),
  ("cycler", .further "type" "<class 'jinja2.utils.Cycler'>"),
  ("joiner", .further "type" "<class 'jinja2.utils.Joiner'>"),
  ("namespace", .further "type" "<class 'jinja2.utils.Namespace'>")]

namespace Run

def contextValue? (r : Run) (n : String) : Option Value := (r.vars.lookup n).or (r.base.lookup n)

/-- What the innermost frame that knows a name holds under it. -/
def framed? (frames : List Frame) (n : String) : Option (Option Value) :=
  frames.findSome? fun f => (f.find? (·.name == n)).map (·.value)

def known (r : Run) : List String := r.frames.flatMap (·.map (·.name))

def lookUp (r : Run) (n : String) : Value :=
  match framed? r.frames n with
  | some (some v) => v
  | some none => .absent true (.name n)
  | none => (r.contextValue? n).getD (.absent true (.name n))

/-- A frame at its beginning; `given` are the values of the names that get one. -/
def newFrame (r : Run) (slots : Slots) (given : Variables) : Frame :=
  slots.map fun s =>
    ⟨s.name, s.assigned,
      match s.origin with
      | .context => r.contextValue? s.name
      | .outer => (framed? r.frames s.name).join
      | .unset => none
      | .given => given.lookup s.name⟩

def setName (r : Run) (n : String) (v : Value) : Run :=
  match r.frames with
  | [] => r
  | f :: fs =>
    { r with frames := f.map (fun b => if b.name == n then { b with value := some v } else b) :: fs }

def locals (r : Run) : Variables :=
  let names := r.frames.flatMap fun f => (f.filter (·.assigned)).map (·.name)
  names.eraseDups.filterMap fun n => (framed? r.frames n).join.map (n, ·)

def visible (r : Run) : Variables :=
  (Variables.overlay r.base r.vars).overlay r.locals

def write (r : Run) (s : String) : Run := { r with output := r.output ++ s }

def outerBlock (r : Run) (name : String) (level : Nat) : Value :=
  if level < ((r.blocks.lookup name).getD []).length then .outerBlock name level
  else
    .absent true (.reason ("there is no parent block called " ++ Text.quoted name ++ "."))

end Run

/-! ### Assignment -/

def countMessage (expected got : Nat) : String :=
  if got < expected then
    "not enough values to unpack (expected " ++ toString expected ++ ", got " ++ toString got ++ ")"
  else "too many values to unpack (expected " ++ toString expected ++ ")"

mutual
def unpack : Target → Value → Outcome (Variables)
  | .name _ n, v => .ok [(n, v)]
  | .member _, _ => .ok []
  | .tuple targets, v => do
    let items ← itemsOf v
    if items.length = targets.length then unpackAll targets items
    else misused (.badValue (countMessage targets.length items.length))

def unpackAll : List Target → List Value → Outcome (Variables)
  | t :: ts, v :: vs => do
    let first ← unpack t v
    return first ++ (← unpackAll ts vs)
  | _, _ => .ok []
end

/-! ### Loading -/

def load (loader : Option Loader) (name : Value) : Outcome Document :=
  match name with
  | .absent _ cause => if loader.isSome then useOf cause else misused .wrongType
  | name =>
    match loader with
    | none => misused .wrongType
    | some find =>
      match name with
      | .text n => do Document.ofText (some n) (← find n)
      | v => if v.isKey then misused .noMember else misused .wrongType

def loadFirst (loader : Option Loader) (names : List Value) : List Value → Outcome Document
  | [] =>
    let shown := names.map fun v =>
      match v with
      | .absent _ cause => cause.message
      | v => v.shown
    .error (.missing ("none of the templates given were found: " ++ ", ".intercalate shown))
  | n :: ns =>
    match load loader n with
    | .error (.missing _) | .error (.absent _) => loadFirst loader names ns
    | outcome => outcome

def loadAny (loader : Option Loader) (v : Value) : Outcome Document :=
  match v with
  | .text _ => load loader v
  | .absent _ cause => useOf cause
  | v =>
    if v.isTrue then do
      let names ← itemsOf v
      loadFirst loader names names
    else .error (.missing "Tried to select from an empty list of templates.")

/-! ### Nodes -/

structure Nested where
  loader : Option Loader
  /-- Runs a definition of a block in the context of a run, without its frames. -/
  block : Run → String → Nat → Outcome String
  document : Document → Run → Outcome Run

namespace Run

def environment (r : Run) (nested : Nested) : Environment :=
  ⟨r.template, r.lookUp, r.outerBlock, nested.block r⟩

/-- Sets the names of a target, in the context too where nodes are outer. -/
def setTarget (r : Run) (isOuter : Bool) (values : Variables) : Run :=
  values.foldl (fun r (n, v) =>
    let r := r.setName n v
    if isOuter then { r with vars := r.vars.set n v } else r) r

/-- The items of a loop that pass its test, and the failure that a later one ended in. -/
def passing (r : Run) (nested : Nested) (target : Target) (test : Option Expr) :
    List Value → List Value × Option Fault
  | [] => ([], none)
  | v :: vs =>
    let passed : Outcome Bool :=
      match test with
      | none => .ok true
      | some e => do
        let given ← unpack target v
        let frame := r.newFrame (Slots.ofLoopTest r.known target e) given
        truth (← eval ({ r with frames := frame :: r.frames }.environment nested) e)
    match passed with
    | .error f => ([], some f)
    | .ok keep =>
      let (rest, f?) := passing r nested target test vs
      (if keep then v :: rest else rest, f?)

def passFrame (r : Run) (slots : Slots) (target : Target) (items : List Value) (index : Nat)
    (v : Value) : Outcome Frame := do
  let given ← unpack target v
  return r.newFrame slots (("loop", .loop items index 1) :: given)

end Run

/-- Where nodes stand: outside of loops and blocks, and whether their output is dropped once the
template is laid over another. -/
structure Standing where
  isOuter : Bool
  dropped : Bool

def Standing.inner (s : Standing) : Standing := { s with isOuter := false }

def framed (run : Run → Outcome Run) (frame : Frame) (r : Run) : Outcome Run := do
  let s ← run { r with frames := frame :: r.frames }
  return { s with frames := r.frames }

def passes (body : Nat → Value → Run → Outcome Run) : Nat → List Value → Run → Outcome Run
  | _, [], r => .ok r
  | i, v :: vs, r => do passes body (i + 1) vs (← body i v r)

def isDropped (s : Standing) (r : Run) : Bool := s.dropped && r.parent.isSome

mutual
def runNodes (nested : Nested) (s : Standing) : List Node → Run → Outcome Run
  | [], r => .ok r
  | n :: ns, r => do runNodes nested s ns (← runNode nested s n r)

def runNode (nested : Nested) (s : Standing) : Node → Run → Outcome Run
  | .text t, r => .ok (if isDropped s r then r else r.write t)
  | .print e, r =>
    if isDropped s r then .ok r
    else do return r.write (← textOf (← eval (r.environment nested) e))
  | .branch branches otherwise, r => do
    match ← runBranches nested s branches r with
    | some r => return r
    | none => runNodes nested s otherwise r
  | .loop target items test body otherwise, r => do
    let all ← itemsOf (← eval (r.environment nested) items)
    let (kept, fault?) := r.passing nested target test all
    let slots := Slots.ofLoopBody r.known target body
    let r ← passes (fun i v r => do
      framed (runNodes nested s.inner body) (← r.passFrame slots target kept i v) r) 0 kept r
    match fault? with
    | some f => .error f
    | none =>
      if kept.isEmpty then
        framed (runNodes nested s.inner otherwise)
          (r.newFrame (Slots.ofNodes r.known otherwise) []) r
      else return r
  | .assign target e, r =>
    if target.holders.isEmpty then do
      let v ← eval (r.environment nested) e
      return r.setTarget s.isOuter (← unpack target v)
    else .error (.failed "cannot assign attribute on non-namespace object")
  | .capture target filters body, r => do
    let frame := r.newFrame (Slots.ofNodes r.known body) []
    let inner ←
      runNodes nested ⟨false, false⟩ body { r with frames := frame :: r.frames, output := "" }
    let env := inner.environment nested
    let v ← filters.foldlM (fun v f => do applyFilter f.name v (← evalArgs env {} f.args))
      (.text inner.output)
    return r.setTarget s.isOuter (← unpack target v)
  | .block _ name isScoped mandatory _, r =>
    if s.isOuter && r.parent.isSome then .ok r
    else if mandatory && ((r.blocks.lookup name).getD []).length ≤ 1 then
      .error (.failed ("Required block " ++ Text.quoted name ++ " not found"))
    else do
      let context := if isScoped then { r with base := r.visible, vars := [] } else r
      return r.write (← nested.block context name 0)
  | .extend _ e, r =>
    if r.parent.isSome then .error (.failed "extended multiple times")
    else do
      let d ← load nested.loader (← eval (r.environment nested) e)
      return { r with parent := some d, blocks := layOver r.blocks (definitionsOf d) }
  | .embed e ignoreMissing withContext, r => do
    match loadAny nested.loader (← eval (r.environment nested) e) with
    | .error (.missing m) => if ignoreMissing then return r else .error (.missing m)
    | .error f => .error f
    | .ok d =>
      let base := if withContext then r.visible else globals
      let inner ← nested.document d { template := d.name, base, blocks := definitionsOf d }
      return r.write inner.output

def runBranches (nested : Nested) (s : Standing) :
    List (Expr × List Node) → Run → Outcome (Option Run)
  | [], _ => .ok none
  | (test, body) :: bs, r => do
    if ← truth (← eval (r.environment nested) test) then
      return some (← runNodes nested s body r)
    else runBranches nested s bs r
end

def nestingLimit : Nat := 900

def nestedWithin (loader : Option Loader) : Nat → Nested
  | 0 => ⟨loader, fun _ _ _ => misused .tooDeep, fun _ _ => misused .tooDeep⟩
  | depth + 1 =>
    { loader
      block := fun r name level =>
        match ((r.blocks.lookup name).getD [])[level]? with
        | none => .ok ""
        | some d => do
          let start : Run := { r with template := d.template, frames := [], output := "" }
          let given := [("super", r.outerBlock name (level + 1))]
          let frame := start.newFrame (Slots.ofBlock d.body) given
          let r ← runNodes (nestedWithin loader depth) ⟨false, false⟩ d.body
            { start with frames := [frame] }
          return r.output
      document := fun d r => do
        let start : Run := { r with template := d.name, frames := [], parent := none }
        let frame := start.newFrame (Slots.ofNodes [] d.nodes) []
        let r ← runNodes (nestedWithin loader depth) ⟨true, Node.hasExtendAny d.nodes⟩ d.nodes
          { start with frames := [frame] }
        match r.parent with
        | none => return r
        | some parent => (nestedWithin loader depth).document parent r }

def Document.fill (loader : Option Loader) (context : Variables) (d : Document) :
    Outcome String := do
  let base := Variables.overlay globals context
  let r ← (nestedWithin loader nestingLimit).document d
    { template := d.name, base, blocks := definitionsOf d }
  return r.output

end Scaffold.Template
