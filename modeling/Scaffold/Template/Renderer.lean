import Scaffold.Failure
import Scaffold.Template.Context
import Scaffold.Template.Run

set_option autoImplicit false

/-!
# Renderers

A renderer fills in templates with a base of values and a vocabulary. With a directory of
templates it finds those that a template embeds or is laid over; without one, no template has
access to another.
-/
namespace Scaffold.Template

/-- What comes out of templates in the course of one walk. A template may draw random numbers and
change values that it is handed, so that its text and its context alone do not tell what comes out
of it. But a walk fills in each path once: the draws and changes of a walk are taken as fixed, by
the paths that the templates are named for. -/
structure Engine where
  fill : (name : Option String) → Option Loader → (text : String) → Variables → Outcome String

/-- What comes out of templates that neither draw nor change anything. -/
def Engine.standard : Engine where
  fill _ loader text context := do (← Document.ofText none text).fill loader context

structure Renderer where
  base : Variables := []
  vocabulary : Option Vocabulary := none
  directory : Option Path := none

def templateNames? (name : String) : Option (List String) :=
  let parts := (name.toList.splitOn '/').map String.ofList
  if parts.contains ".." then none
  else some (parts.filter fun p => p ≠ "" && p ≠ ".")

def loaderOf (fs : Files) (directory : Path) : Loader := fun name =>
  match templateNames? name with
  | none => .error (.missing name)
  | some names =>
    let p : Path := ⟨directory.anchor, directory.names ++ names⟩
    match fs.isFile? p, fs.read p with
    | .ok true, .ok bytes =>
      match Text.ofBytes bytes with
      | .ok text => .ok text
      | .error e => misused (.undecodable e)
    | _, _ =>
      .error (.missing (Text.quoted name ++ " not found in search path: " ++
        Text.quoted directory.text))

namespace Renderer

def loader (r : Renderer) (fs : Files) : Option Loader := r.directory.map (loaderOf fs)

def context (r : Renderer) (bindings : Variables) (selection : Option Selection) :
    Except Failure Variables :=
  (Template.context r.base r.vocabulary bindings selection).mapError Failure.ofUnusable

def report (name : Option String) (f : Fault) : Failure :=
  match f with
  | .malformed inner f =>
    .render f.message (match name with
      | some "" | none => inner
      | some n => some n) (some f.line)
  | .failed m | .missing m | .absent m => .render m name none
  | .misuse m => .misuse m

/-- Fills in the text of a template; `name` is what it is called in messages. -/
def renderBy (e : Engine) (r : Renderer) (fs : Files) (text : String) (bindings : Variables)
    (selection : Option Selection) (name : Option String) : Except Failure String := do
  let context ← r.context bindings selection
  (e.fill name (r.loader fs) text context).mapError (report name)

def render (r : Renderer) (fs : Files) (text : String) (bindings : Variables)
    (selection : Option Selection) (name : Option String) : Except Failure String :=
  r.renderBy .standard fs text bindings selection name

def renderTemplate (r : Renderer) (fs : Files) (template : String) (bindings : Variables)
    (selection : Option Selection) : Except Failure String := do
  match r.loader fs with
  | none => .error (.render "renderer has no template directory" (some template) none)
  | some loader =>
    let context ← r.context bindings selection
    let filled := do (← load (some loader) (.text template)).fill (some loader) context
    filled.mapError fun f =>
      match f with
      | .malformed _ f => .render f.message (some template) (some f.line)
      | f => report (some template) f

def renderFileBy (e : Engine) (r : Renderer) (fs : Files) (p : Path) (bindings : Variables)
    (selection : Option Selection) : Except Failure String :=
  match fs.read p with
  | .error .zeroCharacter => .error (.invalid Scaffold.Fault.zeroCharacter.message)
  | .error f => .error (.files ("Cannot read template (" ++ f.message ++ ")") p)
  | .ok bytes =>
    match Text.ofBytes bytes with
    | .error e => .error (Failure.ofUndecodable e)
    | .ok text => r.renderBy e fs text bindings selection (some p.text)

def renderFile (r : Renderer) (fs : Files) (p : Path) (bindings : Variables)
    (selection : Option Selection) : Except Failure String :=
  r.renderFileBy .standard fs p bindings selection

end Renderer
end Scaffold.Template
