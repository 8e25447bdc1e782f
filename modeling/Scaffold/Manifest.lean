import Scaffold.Vocabulary

set_option autoImplicit false

/-!
# Manifests

A manifest describes one type of project: its frameworks and options, and the rules for the names
of its template tree.
-/
namespace Scaffold

structure Manifest where
  name : String
  description : String
  frameworks : List String
  options : List String
  defaultFramework : Option String
  passthrough : List String
  componentExtensions : List (String × String)
  renamings : List Renaming
  templates : String
  deriving DecidableEq, Repr

namespace Manifest
open Validation

def modelName : String := "ProjectManifest"

/-- What is wrong between the fields: a default that is no framework of the project, or else the
first renaming for a framework that the project does not have. -/
def fault? (m : Manifest) : Option String :=
  match m.defaultFramework.filter fun f => f ≠ "" ∧ f ∉ m.frameworks with
  | some f =>
    some ("default_framework " ++ Text.quoted f ++ " is not one of " ++
      Text.quotedList m.frameworks)
  | none =>
    (m.renamings.find? fun r => !m.frameworks.contains r.framework).map fun r =>
      "Rewrite " ++ r.source ++ " -> " ++ r.target ++ " targets unknown framework " ++
        Text.quoted r.framework

private def checkOptionalText : Value → Checked (Option String)
  | .null => .ok none
  | v => (checkText v).map some

private def readTexts : Value → Checked (List String) := checkSequence .notList checkText

def ofRecord (entries : List (Value × Value)) : Except Refusal Manifest :=
  let record := Value.dict entries
  let checked :=
    both (required record entries "name" checkText)
      (both (field entries "description" "" checkText)
        (both (field entries "frameworks" [] readTexts)
          (both (field entries "options" [] readTexts)
            (both (field entries "default_framework" none checkOptionalText)
              (both (field entries "passthrough_tokens" Vocabulary.defaultPassthrough readTexts)
                (both (field entries "component_extensions" Vocabulary.defaultExtensions
                    checkTextDict)
                  (both (field entries "rewrites" [] (checkSequence .notList Renaming.check))
                    (field entries "templates" "templates" checkText))))))))
  match checked with
  | .error issues => .error ⟨modelName, issues⟩
  | .ok (name, description, frameworks, options, default, passthrough, extensions, renamings,
      templates) =>
    let m : Manifest :=
      ⟨name, description, frameworks, options, default, passthrough, extensions, renamings,
        templates⟩
    match m.fault? with
    | some message => .error ⟨modelName, [⟨[], .rule message, record⟩]⟩
    | none => .ok m

/-- The vocabulary of the template tree; extensions of other frameworks than those of the project
are left out. -/
def vocabulary (m : Manifest) (marker : String) : Except Refusal Vocabulary :=
  Vocabulary.ofDraft
    { frameworks := m.frameworks
      options := m.options
      passthrough := m.passthrough
      marker := marker
      componentExtensions := m.componentExtensions.filter fun e => m.frameworks.contains e.1
      renamings := m.renamings }

inductive DocumentFault where
  | notMapping
  | refused (r : Refusal)

def ofDocument (folder : String) (document : Value) : Except DocumentFault Manifest :=
  let entries? :=
    if document.isTrue then
      match document with
      | .dict entries => some entries
      | _ => none
    else some []
  match entries? with
  | none => .error .notMapping
  | some entries =>
    let named :=
      if (Value.lookup? entries (.text "name")).isSome then entries
      else entries ++ [(.text "name", .text folder)]
    (ofRecord named).mapError .refused

end Manifest
end Scaffold
