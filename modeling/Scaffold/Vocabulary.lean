import Scaffold.Validation
import Scaffold.Selection
import Scaffold.Text.Blank

set_option autoImplicit false

/-!
# Vocabularies

The tokens that names of entries may carry: frameworks and options, which decide on inclusion,
and tokens that never do, among them the marker of files to render. A vocabulary also holds the
file extension that a framework gives its components, and the files that it renames.
-/
namespace Scaffold

structure Renaming where
  framework : String
  source : String
  target : String
  deriving DecidableEq, Repr

structure Vocabulary where
  frameworks : List String
  options : List String
  passthrough : List String
  marker : String
  componentExtensions : List (String × String)
  renamings : List Renaming
  deriving DecidableEq, Repr

open Validation

namespace Renaming

def modelName : String := "ExtensionRewrite"

def value (r : Renaming) : Value :=
  .foreign modelName
    (modelName ++ "(framework=" ++ Text.quoted r.framework ++ ", source=" ++ Text.quoted r.source ++
      ", target=" ++ Text.quoted r.target ++ ")")

def check : Value → Checked Renaming
  | .dict entries =>
    let record := Value.dict entries
    match both (required record entries "framework" checkText)
        (both (required record entries "source" checkText)
          (required record entries "target" checkText)) with
    | .ok (framework, source, target) => .ok ⟨framework, source, target⟩
    | .error issues => .error issues
  | v => refuse (.notRecord modelName) v

def ofRecord (entries : List (Value × Value)) : Except Refusal Renaming :=
  match check (.dict entries) with
  | .ok r => .ok r
  | .error issues => .error ⟨modelName, issues⟩

/-- The target of the first rule for this framework and name, else the name. -/
def apply (rules : List Renaming) (framework name : String) : String :=
  match rules.find? fun r => r.framework == framework && r.source == name with
  | some r => r.target
  | none => name

end Renaming

namespace Vocabulary

def defaultPassthrough : List String :=
  ["js", "ts", "css", "html", "config", "spec", "test", "min"]

def defaultMarker : String := "j2"

def defaultExtensions : List (String × String) := [("vue", "vue"), ("svelte", "svelte")]

/-- A token has characters, and none of them is a dot, an exclamation mark, a plus sign or a
blank, save for one line feed that may end it. -/
def isToken (s : String) : Bool :=
  let cs := s.toList
  let body := if cs.getLast? = some '\n' then cs.dropLast else cs
  !body.isEmpty && body.all fun c => c != '.' && c != '!' && c != '+' && !Text.isBlank c

def tokenFault? (kind : String) (tokens : List String) : Option String :=
  match tokens.find? fun t => !isToken t with
  | some t => some ("Invalid " ++ kind ++ " token: " ++ Text.quoted t)
  | none =>
    if tokens.Nodup then none
    else some ("Duplicate " ++ kind ++ " tokens in " ++ Text.quotedList tokens)

def bareMarker (s : String) : String := String.ofList (s.toList.dropWhile (· = '.'))

def markerFault? (s : String) : Option String :=
  if isToken (bareMarker s) then none
  else some ("Invalid render marker: " ++ Text.quoted (bareMarker s))

def shadowed (v : Vocabulary) : List String :=
  membersOf ((v.passthrough ++ [v.marker]).filter fun t =>
    v.frameworks.contains t || v.options.contains t)

def overlap (v : Vocabulary) : List String :=
  membersOf (v.frameworks.filter v.options.contains)

def fault? (v : Vocabulary) : Option String :=
  if v.shadowed ≠ [] then
    some ("Tokens " ++ Text.quotedList v.shadowed ++ " are both conditions and passthrough tokens")
  else if v.overlap ≠ [] then
    some ("Tokens " ++ Text.quotedList v.overlap ++ " are both frameworks and options")
  else none

structure Draft where
  frameworks : List String := []
  options : List String := []
  passthrough : List String := defaultPassthrough
  marker : String := defaultMarker
  componentExtensions : List (String × String) := defaultExtensions
  renamings : List Renaming := []

def Draft.vocabulary (d : Draft) : Vocabulary :=
  ⟨d.frameworks, d.options, d.passthrough, bareMarker d.marker, d.componentExtensions, d.renamings⟩

private def texts (xs : List String) : Value := .tuple (xs.map .text)

def Draft.record (d : Draft) : List (Value × Value) :=
  [(.text "frameworks", texts d.frameworks), (.text "options", texts d.options),
    (.text "passthrough_tokens", texts d.passthrough), (.text "render_marker", .text d.marker),
    (.text "component_extensions",
      .dict (d.componentExtensions.map fun (k, e) => (.text k, .text e))),
    (.text "rewrites", .tuple (d.renamings.map Renaming.value))]

def modelName : String := "Vocabulary"

/-- Accepts the fields that were read, each with the faults found in it, from a record. -/
def accept (record : Value)
    (fields : Checked (List String × List String × List String × String ×
      List (String × String) × List Renaming)) : Except Refusal Vocabulary :=
  match fields with
  | .error issues => .error ⟨modelName, issues⟩
  | .ok (frameworks, options, passthrough, marker, extensions, renamings) =>
    let v := Draft.vocabulary ⟨frameworks, options, passthrough, marker, extensions, renamings⟩
    match v.fault? with
    | some message => .error ⟨modelName, [⟨[], .rule message, record⟩]⟩
    | none => .ok v

private def kept {α : Type} (name : String) (rule : α → Option String) (v : Value) (a : α) :
    Checked α :=
  below name (ruled rule v (.ok a))

/-- Accepts a draft whose fields have the right kinds. -/
def ofDraft (d : Draft) : Except Refusal Vocabulary :=
  accept (.dict d.record)
    (both (kept "frameworks" (tokenFault? "framework") (texts d.frameworks) d.frameworks)
      (both (kept "options" (tokenFault? "option") (texts d.options) d.options)
        (both (.ok d.passthrough)
          (both (kept "render_marker" markerFault? (.text d.marker) d.marker)
            (both (.ok d.componentExtensions) (.ok d.renamings))))))

def ofRecord (entries : List (Value × Value)) : Except Refusal Vocabulary :=
  let d : Draft := {}
  let tokens := fun (kind : String) (v : Value) =>
    ruled (tokenFault? kind) v (checkSequence .notTuple checkText v)
  accept (.dict entries)
    (both (field entries "frameworks" d.frameworks (tokens "framework"))
      (both (field entries "options" d.options (tokens "option"))
        (both (field entries "passthrough_tokens" d.passthrough
            (checkSequence .notTuple checkText))
          (both (field entries "render_marker" d.marker fun v =>
              ruled markerFault? v (checkText v))
            (both (field entries "component_extensions" d.componentExtensions checkTextDict)
              (field entries "rewrites" d.renamings (checkSequence .notTuple Renaming.check)))))))

def isFramework (v : Vocabulary) (token : String) : Bool := v.frameworks.contains token

def isOption (v : Vocabulary) (token : String) : Bool := v.options.contains token

def isPassthrough (v : Vocabulary) (token : String) : Bool :=
  v.passthrough.contains token || token == v.marker

def componentExtension? (v : Vocabulary) (framework : String) : Option String :=
  v.componentExtensions.lookup framework

/-- The frameworks that share their name with the extension of their components. -/
def collisions (v : Vocabulary) : List String :=
  v.frameworks.filter fun f => v.componentExtension? f == some f

end Vocabulary
end Scaffold
