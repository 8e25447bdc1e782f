import Scaffold.Selection
import Scaffold.Template.Variables
import Scaffold.Text.Naming
import Scaffold.Vocabulary

set_option autoImplicit false

/-!
# The context of a template

The names that a template finds: those of the renderer, over them those of the call, and over both
the selection with the questions that can be asked about it. Without a selection of its own, a call
takes the framework and the options from the values under these names.
-/
namespace Scaffold.Template

def questions (s : Selection) (frameworks : List String) : Variables :=
  Variables.overlay
    [("has_option", .predicate (.hasOption s.options)),
      ("has_any_option", .predicate (.hasAnyOption s.options)),
      ("has_all_options", .predicate (.hasAllOptions s.options)),
      ("is_framework", .predicate (.isFramework s.framework))]
    (frameworks.map fun f => (Text.helperName f, .predicate (.isSelected s.framework f)))

/-- A value, or another one in place of what counts as false. -/
def orElse (v? : Option Value) (other : Value) : Value :=
  match v? with
  | some v => if v.isTrue then v else other
  | none => other

/-- The frameworks that have a question of their own: those of a vocabulary and the selected one. -/
def askedFrameworks (vocabulary : Option Vocabulary) (s : Selection) : List String :=
  let fs := (vocabulary.map (·.frameworks)).getD []
  if s.framework ≠ "" && !fs.contains s.framework then fs ++ [s.framework] else fs

def contextFor (base : Variables) (vocabulary : Option Vocabulary) (bindings : Variables)
    (s : Selection) : Variables :=
  let merged := Variables.overlay base bindings
  let selected := (merged.set "framework" (.text s.framework)).set "options"
    (.list (s.options.map .text))
  Variables.overlay selected (questions s (askedFrameworks vocabulary s))

def impliedSelection (base bindings : Variables) : Except Selection.Unusable Selection :=
  let merged := Variables.overlay base bindings
  Selection.ofValues (orElse (merged.lookup "framework") (.text ""))
    (orElse (merged.lookup "options") (.tuple []))

def context (base : Variables) (vocabulary : Option Vocabulary) (bindings : Variables)
    (selection : Option Selection) : Except Selection.Unusable Variables :=
  match selection with
  | some s => .ok (contextFor base vocabulary bindings s)
  | none => (impliedSelection base bindings).map (contextFor base vocabulary bindings)

end Scaffold.Template
