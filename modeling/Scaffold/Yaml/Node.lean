import Scaffold.Yaml.Scalar
import Scaffold.Yaml.Token

set_option autoImplicit false

/-!
# Nodes

The tree that the tokens of a document spell: scalars, sequences and mappings, each with the tag
that says what it stands for. An alias stands for the node that its anchor named before.
-/
namespace Scaffold.Yaml

/-- What begins the full name of a tag of the common schema. -/
def schemaPrefix : String := "tag:yaml.org,2002:"

def Form.tag (f : Form) : String :=
  schemaPrefix ++
    match f with
    | .null => "null"
    | .bool => "bool"
    | .int => "int"
    | .float => "float"
    | .time => "timestamp"
    | .merge => "merge"
    | .default => "value"
    | .text => "str"

inductive Node where
  | scalar (tag text : String)
  | sequence (tag : String) (items : List Node)
  | mapping (tag : String) (entries : List (Node × Node))

def Node.empty : Node := .scalar Form.null.tag ""

structure Builder where
  tokens : List Token
  anchors : List (String × Node) := []
  handles : List (String × String) := []

namespace Builder

abbrev Read (α : Type) := StateT Builder Option α

def reject {α : Type} : Read α := StateT.lift none

def peek : Read (Option Token) := do return (← get).tokens.head?

def advance : Read Unit := modify fun (b : Builder) => { b with tokens := b.tokens.tail }

def take (t : Token) : Read Bool := do
  if (← peek) = some t then
    advance
    return true
  else return false

def expect (t : Token) : Read Unit := do
  unless ← take t do reject

def nextIsAny (ts : List Token) : Read Bool := do
  match ← peek with
  | some t => return ts.contains t
  | none => return false

def fullTag (handle : Option String) (suffix : String) : Read String := do
  match handle with
  | none => return suffix
  | some h =>
    match (← get).handles.lookup h with
    | some start => return start ++ suffix
    | none => reject

def anchor? : Read (Option String) := do
  match ← peek with
  | some (.anchor n) =>
    advance
    if ((← get).anchors.lookup n).isSome then reject
    return some n
  | _ => return none

def tag? : Read (Option String) := do
  match ← peek with
  | some (.tag handle suffix) =>
    advance
    return some (← fullTag handle suffix)
  | _ => return none

/-- The anchor and tag before a node, in either order. -/
def properties : Read (Option String × Option String) := do
  match ← anchor? with
  | some n => return (some n, ← tag?)
  | none =>
    match ← tag? with
    | some t => return (← anchor?, some t)
    | none => return (none, none)

/-- The tag of a collection, which no tag or a lone mark leaves as it is. -/
def collectionTag (kind : String) (tag : Option String) : String :=
  match tag with
  | none | some "!" => schemaPrefix ++ kind
  | some t => t

/-- The tag of a scalar; one that is plain, or has a lone mark for tag, shows it by its form. -/
def scalarTag (tag : Option String) (s : ScalarText) : String :=
  match tag with
  | some "!" => (Form.ofText s.text).tag
  | some t => t
  | none => if s.plain then (Form.ofText s.text).tag else Form.text.tag

def name (n : Option String) (node : Node) : Read Node := do
  match n with
  | none => return node
  | some n =>
    modify fun (b : Builder) => { b with anchors := (n, node) :: b.anchors }
    return node

mutual
/-- A node; `block` allows one in blocks, `indentless` a sequence that is not further in than the
mapping around it. -/
def node (block indentless : Bool) : Nat → Read Node
  | 0 => reject
  | fuel + 1 => do
    match ← peek with
    | some (.alias_ n) =>
      advance
      match (← get).anchors.lookup n with
      | some node => return node
      | none => reject
    | _ =>
      let (anchor, tag) ← properties
      let sequence := fun (items : List Node) => Node.sequence (collectionTag "seq" tag) items
      let mapping := fun (es : List (Node × Node)) => Node.mapping (collectionTag "map" tag) es
      match ← peek with
      | some .blockEntry =>
        if indentless then name anchor (sequence (← indentlessItems fuel))
        else name anchor (← emptyWith anchor tag)
      | some (.scalar s) =>
        advance
        name anchor (.scalar (scalarTag tag s) s.text)
      | some .flowSequenceStart =>
        advance
        name anchor (sequence (← flowItems true fuel))
      | some .flowMappingStart =>
        advance
        name anchor (mapping (← flowEntries true fuel))
      | some .sequenceStart =>
        if block then
          advance
          name anchor (sequence (← blockItems fuel))
        else name anchor (← emptyWith anchor tag)
      | some .mappingStart =>
        if block then
          advance
          name anchor (mapping (← blockEntries fuel))
        else name anchor (← emptyWith anchor tag)
      | _ => name anchor (← emptyWith anchor tag)
where
  emptyWith (anchor tag : Option String) : Read Node := do
    if anchor.isNone && tag.isNone then reject
    return .scalar (scalarTag tag ⟨"", tag.isNone⟩) ""

def nodeUnless (block indentless : Bool) (stops : List Token) : Nat → Read Node
  | 0 => reject
  | fuel + 1 => do
    if ← nextIsAny stops then return .empty else node block indentless fuel

def blockItems : Nat → Read (List Node)
  | 0 => reject
  | fuel + 1 => do
    if ← take .blockEntry then
      let item ← nodeUnless true false [.blockEntry, .blockEnd] fuel
      return item :: (← blockItems fuel)
    else
      expect .blockEnd
      return []

def indentlessItems : Nat → Read (List Node)
  | 0 => reject
  | fuel + 1 => do
    if ← take .blockEntry then
      let item ← nodeUnless true false [.blockEntry, .key, .value, .blockEnd] fuel
      return item :: (← indentlessItems fuel)
    else return []

def valueUnless (block : Bool) (stops : List Token) : Nat → Read Node
  | 0 => reject
  | fuel + 1 => do
    if ← take .value then nodeUnless block block stops fuel else return .empty

def blockEntries : Nat → Read (List (Node × Node))
  | 0 => reject
  | fuel + 1 => do
    let stops : List Token := [.key, .value, .blockEnd]
    if ← take .key then
      let key ← nodeUnless true true stops fuel
      let value ← valueUnless true stops fuel
      return (key, value) :: (← blockEntries fuel)
    else
      expect .blockEnd
      return []

def flowItems (first : Bool) : Nat → Read (List Node)
  | 0 => reject
  | fuel + 1 => do
    if ← take .flowSequenceEnd then return []
    unless first do expect .flowEntry
    let stops : List Token := [.flowEntry, .flowSequenceEnd]
    if ← take .key then
      let key ← nodeUnless false false (.value :: stops) fuel
      let value ← valueUnless false stops fuel
      return .mapping (schemaPrefix ++ "map") [(key, value)] :: (← flowItems false fuel)
    else if ← take .flowSequenceEnd then return []
    else
      let item ← node false false fuel
      return item :: (← flowItems false fuel)

def flowEntries (first : Bool) : Nat → Read (List (Node × Node))
  | 0 => reject
  | fuel + 1 => do
    if ← take .flowMappingEnd then return []
    unless first do expect .flowEntry
    let stops : List Token := [.flowEntry, .flowMappingEnd]
    if ← take .key then
      let key ← nodeUnless false false (.value :: stops) fuel
      let value ← valueUnless false stops fuel
      return (key, value) :: (← flowEntries false fuel)
    else if ← take .flowMappingEnd then return []
    else
      let key ← node false false fuel
      return (key, .empty) :: (← flowEntries false fuel)
end

/-! ### Documents -/

def defaultHandles : List (String × String) := [("!", "!"), ("!!", schemaPrefix)]

/-- The directives before a document; the version may be given once, and a handle too. -/
def directives (versioned : Bool) : Nat → Read Unit
  | 0 => return
  | fuel + 1 => do
    match ← peek with
    | some (.version major) =>
      if versioned || major ≠ 1 then reject
      advance
      directives true fuel
    | some (.handle n uri) =>
      if ((← get).handles.lookup n).isSome then reject
      advance
      modify fun (b : Builder) => { b with handles := (n, uri) :: b.handles }
      directives versioned fuel
    | some .directive =>
      advance
      directives versioned fuel
    | _ => return

def isDirective : Token → Bool
  | .version _ | .handle .. | .directive => true
  | _ => false

def skipDocumentEnds : Nat → Read Unit
  | 0 => return
  | fuel + 1 => do if ← take .documentEnd then skipDocumentEnds fuel

/-- The only document of a stream, if there is one at all. -/
def document : Read (Option Node) := do
  let size := (← get).tokens.length
  let bound := 3 * size + 3
  match ← peek with
  | none => return none
  | some t =>
    let root ←
      if isDirective t || t = .documentStart then do
        directives false (size + 1)
        modify fun (b : Builder) => { b with handles := b.handles ++ defaultHandles }
        expect .documentStart
        match ← peek with
        | none | some .documentStart | some .documentEnd => pure Node.empty
        | some t => if isDirective t then pure Node.empty else node true false bound
      else do
        modify fun (b : Builder) => { b with handles := defaultHandles }
        node true false bound
    skipDocumentEnds (size + 1)
    if (← get).tokens.isEmpty then return some root else reject

end Builder

/-- The node of a document that is not empty; no node if the text is none. -/
def Node.ofText (text : String) : Option (Option Node) := do
  let tokens ← scan text
  (Builder.document.run { tokens := tokens }).map (·.1)

end Scaffold.Yaml
