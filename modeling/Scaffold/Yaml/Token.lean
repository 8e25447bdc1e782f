import Scaffold.Yaml.Cursor

set_option autoImplicit false

/-!
# Tokens of documents

A document is written in blocks, whose nesting shows in columns, and in flow collections between
brackets. A key need not be marked: when the colon comes, the key mark is put in front of what was
read last, if that can be a key. The level of blocks and the places of possible keys are kept
while tokens are read.
-/
namespace Scaffold.Yaml

structure ScalarText where
  text : String
  plain : Bool
  deriving DecidableEq, Repr

inductive Token where
  | version (major : Nat)
  | handle (name uri : String)
  /-- A directive that says nothing here. -/
  | directive
  | documentStart
  | documentEnd
  | sequenceStart
  | mappingStart
  | blockEnd
  | flowSequenceStart
  | flowSequenceEnd
  | flowMappingStart
  | flowMappingEnd
  | flowEntry
  | blockEntry
  | key
  | value
  | alias_ (name : String)
  | anchor (name : String)
  | tag (handle : Option String) (suffix : String)
  | scalar (s : ScalarText)
  deriving DecidableEq, Repr

structure PossibleKey where
  level : Nat
  token : Nat
  required : Bool
  index : Nat
  line : Nat
  column : Nat

structure Scanner where
  place : Cursor
  flow : Nat := 0
  indent : Int := -1
  indents : List Int := []
  allowKey : Bool := true
  keys : List PossibleKey := []
  tokens : Array Token := #[]

/-- What is no document gives nothing. -/
abbrev Scanned (α : Type) := Option α

namespace Scanner

def add (s : Scanner) (t : Token) : Scanner := { s with tokens := s.tokens.push t }

def moveTo (s : Scanner) (p : Cursor) : Scanner := { s with place := p }

def insertAt (s : Scanner) (i : Nat) (ts : List Token) : Scanner :=
  let all := s.tokens.toList
  { s with tokens := (all.take i ++ ts ++ all.drop i).toArray }

/-- Gives up the possible key of this level, which must not be needed. -/
def removeKey (s : Scanner) : Scanned Scanner :=
  if s.keys.any fun k => k.level = s.flow && k.required then none
  else some { s with keys := s.keys.filter (·.level ≠ s.flow) }

def saveKey (s : Scanner) : Scanned Scanner :=
  let p := s.place
  let required := s.flow = 0 && s.indent = p.column
  if s.allowKey then
    s.removeKey.map fun (s : Scanner) =>
      { s with keys := s.keys ++ [⟨s.flow, s.tokens.size, required, p.index, p.line, p.column⟩] }
  else some s

/-- A key is on one line and not too long. -/
def isStale (s : Scanner) (k : PossibleKey) : Bool :=
  k.line ≠ s.place.line || 1024 < s.place.index - k.index

def dropStale (s : Scanner) : Scanned Scanner :=
  if s.keys.any fun k => s.isStale k && k.required then none
  else some { s with keys := s.keys.filter fun k => !s.isStale k }

/-- Ends the blocks that are further in than a column. -/
def unwindFrom (column : Int) : List Int → Scanner → Scanner
  | [], s => s
  | outer :: rest, s =>
    if column < s.indent then
      unwindFrom column rest { s.add .blockEnd with indent := outer, indents := rest }
    else s

def unwind (s : Scanner) (column : Int) : Scanner :=
  if s.flow = 0 then unwindFrom column s.indents s else s

/-- Whether a column is further in than the block; if so, it is the column of a new one. -/
def deepen (s : Scanner) (column : Nat) : Bool × Scanner :=
  if s.indent < column then
    (true, { s with indent := column, indents := s.indent :: s.indents })
  else (false, s)

def skipGap : Nat → Scanner → Scanner
  | 0, s => s
  | fuel + 1, s =>
    let p := s.place.skip (· = ' ')
    let p := if p.head = '#' then p.skip fun c => !endsLine c else p
    match p.lineBreak with
    | ([], _) => s.moveTo p
    | (_, q) =>
      skipGap fuel { s.moveTo q with allowKey := if s.flow = 0 then true else s.allowKey }

/-! ### Marks -/

def flowOpen (s : Scanner) (t : Token) : Scanned Scanner :=
  s.saveKey.map fun (s : Scanner) =>
    { s.add t with flow := s.flow + 1, allowKey := true, place := s.place.step }

def flowClose (s : Scanner) (t : Token) : Scanned Scanner :=
  s.removeKey.bind fun (s : Scanner) =>
    if s.flow = 0 then none
    else some { s.add t with flow := s.flow - 1, allowKey := false, place := s.place.step }

def mark (s : Scanner) (allowKey : Bool) (t : Token) : Scanned Scanner :=
  s.removeKey.map fun (s : Scanner) =>
    { s.add t with allowKey := allowKey, place := s.place.step }

def flowEntry (s : Scanner) : Scanned Scanner := s.mark true .flowEntry

/-- Begins a block at a mark, if the mark is further in; only where a key may begin. -/
def openBlock (s : Scanner) (t : Token) : Scanned Scanner :=
  if s.flow = 0 then
    if s.allowKey then
      let (isNew, s) := s.deepen s.place.column
      some (if isNew then s.add t else s)
    else none
  else some s

def blockEntry (s : Scanner) : Scanned Scanner :=
  (s.openBlock .sequenceStart).bind fun (s : Scanner) => s.mark true .blockEntry

def keyMark (s : Scanner) : Scanned Scanner :=
  (s.openBlock .mappingStart).bind fun (s : Scanner) => s.mark (s.flow = 0) .key

def valueMark (s : Scanner) : Scanned Scanner :=
  match s.keys.find? (·.level = s.flow) with
  | some k =>
    let s := { s with keys := s.keys.filter (·.level ≠ s.flow) }
    let (isNew, s) := if s.flow = 0 then s.deepen k.column else (false, s)
    (s.insertAt k.token (if isNew then [.mappingStart, .key] else [.key])).mark false .value
  | none => (s.openBlock .mappingStart).bind fun (s : Scanner) => s.mark (s.flow = 0) .value

/-! ### Names, tags and directives -/

def isWordChar (c : Char) : Bool := c.isAlphanum || c = '-' || c = '_'

def endsAnchor (c : Char) : Bool :=
  endsWord c || "?:,]\x7d%@`".toList.contains c

def anchorName (p : Cursor) : Scanned (String × Cursor) :=
  let (n, q) := p.step.spanTo fun c => !isWordChar c
  if n.isEmpty || !endsAnchor q.head then none else some (String.ofList n, q)

def isUriChar (c : Char) : Bool :=
  c.isAlphanum || "-;/?:@&=+$,_.!~*'()[]%".toList.contains c

/-- A part of a tag; coded bytes are left as they are written. -/
def uri (p : Cursor) : Scanned (String × Cursor) :=
  let (u, q) := p.spanTo fun c => !isUriChar c
  if u.isEmpty then none else some (String.ofList u, q)

def tagHandle (p : Cursor) : Scanned (String × Cursor) :=
  if p.head = '!' then
    let (word, q) := p.step.spanTo fun c => !isWordChar c
    if q.head = '!' then some ("!" ++ String.ofList word ++ "!", q.step)
    else if word.isEmpty && p.peek 1 = ' ' then some ("!", p.step)
    else none
  else none

def tag (p : Cursor) : Scanned (Token × Cursor) := do
  let c := p.peek 1
  let (t, q) ←
    if c = '<' then do
      let (u, q) ← uri (p.forward 2)
      if q.head = '>' then some (Token.tag none u, q.step) else none
    else if endsWord c then some (Token.tag none "!", p.step)
    else
      let ahead := p.step.rest.takeWhile fun c => c ≠ ' ' && !endsLine c
      if ahead.contains '!' then do
        let (h, q) ← tagHandle p
        let (u, q) ← uri q
        some (.tag (some h) u, q)
      else do
        let (u, q) ← uri p.step
        some (.tag (some "!") u, q)
  if q.head = ' ' || endsLine q.head then some (t, q) else none

def emptyRest (p : Cursor) : Scanned Cursor :=
  let p := p.skip (· = ' ')
  let p := if p.head = '#' then p.skip fun c => !endsLine c else p
  if endsLine p.head then some p.lineBreak.2 else none

private def number? (cs : List Char) : Option Nat :=
  if cs.isEmpty then none else (String.ofList cs).toNat?

private def wordEnds (c : Char) : Bool := c = ' ' || endsLine c

def directive (p : Cursor) : Scanned (Token × Cursor) := do
  let (name, q) := p.step.spanTo fun c => !isWordChar c
  if name.isEmpty || !wordEnds q.head then none
  let (t, q) ←
    if name = ['Y', 'A', 'M', 'L'] then do
      let (major, q) := (q.skip (· = ' ')).spanTo fun c => !c.isDigit
      let major ← number? major
      if q.head ≠ '.' then none
      let (minor, q) := q.step.spanTo fun c => !c.isDigit
      let _ ← number? minor
      if wordEnds q.head then some (Token.version major, q) else none
    else if name = ['T', 'A', 'G'] then do
      let (h, q) ← tagHandle (q.skip (· = ' '))
      if q.head ≠ ' ' then none
      let (u, q) ← uri (q.skip (· = ' '))
      if wordEnds q.head then some (Token.handle h u, q) else none
    else some (Token.directive, q.skip fun c => !endsLine c)
  return (t, ← emptyRest q)

/-! ### Scalars -/

def breaksWithin (stop : Cursor → Bool) (blank : Char → Bool) :
    Nat → Cursor → Scanned (List Char × Cursor)
  | 0, p => some ([], p)
  | fuel + 1, p =>
    if stop p then none
    else
      let p := p.skip blank
      match p.lineBreak with
      | ([], _) => some ([], p)
      | (b, q) => (breaksWithin stop blank fuel q).map fun (bs, q) => (b ++ bs, q)

/-- What a line end between two parts of a text comes to: a blank, or the empty lines. -/
def folded (lineBreak breaks : List Char) : List Char :=
  if lineBreak ≠ ['\n'] then lineBreak ++ breaks else if breaks.isEmpty then [' '] else breaks

private def escapeOf? : Char → Option Nat
  | '0' => some 0
  | 'a' => some 7
  | 'b' => some 8
  | 't' | '\t' => some 9
  | 'n' => some 10
  | 'v' => some 11
  | 'f' => some 12
  | 'r' => some 13
  | 'e' => some 0x1B
  | ' ' => some 32
  | '"' => some 34
  | '\\' => some 92
  | '/' => some 47
  | 'N' => some 0x85
  | '_' => some 0xA0
  | 'L' => some 0x2028
  | 'P' => some 0x2029
  | _ => none

private def codeDigits? : Char → Option Nat
  | 'x' => some 2
  | 'u' => some 4
  | 'U' => some 8
  | _ => none

private def hexDigit? (c : Char) : Option Nat :=
  if c.isDigit then some (c.toNat - 48)
  else if 'a' ≤ c && c ≤ 'f' then some (c.toNat - 87)
  else if 'A' ≤ c && c ≤ 'F' then some (c.toNat - 55)
  else none

private def hexValue? (cs : List Char) : Option Nat :=
  cs.foldl (fun n? c => n?.bind fun n => (hexDigit? c).map (n * 16 + ·)) (some 0)

private def isGap (c : Char) : Bool := c = ' ' || c = '\t'

def quotedText (double : Bool) : Nat → Cursor → Scanned (List Char × Cursor)
  | 0, _ => none
  | fuel + 1, p =>
    let quote := if double then '"' else '\''
    let put := fun (cs : List Char) (q : Cursor) =>
      (quotedText double fuel q).map fun (ds, r) => (cs ++ ds, r)
    let c := p.head
    if c = '\x00' then none
    else if c = quote then
      if !double && p.peek 1 = quote then put [quote] (p.forward 2) else some ([], p.step)
    else if isGap c || isBreak c then
      let (gap, q) := p.spanTo fun c => !isGap c
      match q.lineBreak with
      | ([], _) => if q.isEnd then none else put gap q
      | (b, q) =>
        match breaksWithin Cursor.atDocumentMark isGap fuel q with
        | none => none
        | some (bs, q) => put (folded b bs) q
    else if double && c = '\\' then
      let d := p.peek 1
      match escapeOf? d with
      | some n => put [Char.ofNat n] (p.forward 2)
      | none =>
        match codeDigits? d with
        | some width =>
          let ds := (p.forward 2).rest.take width
          if ds.length < width then none
          else
            match hexValue? ds with
            | some n => put [Char.ofNat n] (p.forward (2 + width))
            | none => none
        | none =>
          match p.step.lineBreak with
          | ([], _) => none
          | (_, q) =>
            match breaksWithin Cursor.atDocumentMark isGap fuel q with
            | none => none
            | some (bs, q) => put bs q
    else put [c] p.step

def endsPlain (flow : Bool) (c next : Char) : Bool :=
  endsWord c ||
    (c = ':' && (endsWord next || (flow && ",[]\x7b\x7d".toList.contains next))) ||
    (flow && ",?[]\x7b\x7d".toList.contains c)

def plainPart (flow : Bool) : List Char → List Char
  | [] => []
  | c :: r =>
    if endsPlain flow c (r.head?.getD '\x00') then [] else c :: plainPart flow r

/-- What is between two parts of a plain text, whether a line ended there, and the place after it;
nothing if the text ends here. -/
def plainGap (fuel : Nat) (p : Cursor) : List Char × Bool × Cursor :=
  let (gap, q) := p.spanTo (· ≠ ' ')
  match q.lineBreak with
  | ([], _) => (gap, false, q)
  | (b, q) =>
    match breaksWithin Cursor.atDocumentMark (· = ' ') fuel q with
    | none => ([], true, q.skip fun c => c = ' ' || isBreak c)
    | some (bs, q) => (folded b bs, true, q)

def plainText (flow : Bool) (indent : Int) : Nat → Cursor → List Char × Bool × Cursor
  | 0, p => ([], false, p)
  | fuel + 1, p =>
    let part := if p.head = '#' then [] else plainPart flow p.rest
    if part.isEmpty then ([], false, p)
    else
      let (gap, broke, q) := plainGap fuel (p.forward part.length)
      if gap.isEmpty || q.head = '#' || (!flow && (q.column : Int) < indent) then (part, broke, q)
      else
        let (more, broke', r) := plainText flow indent fuel q
        if more.isEmpty then (part, broke, q) else (part ++ gap ++ more, broke', r)

inductive Chomp where
  | strip
  | clip
  | keep
  deriving DecidableEq, Repr

private def chompOf? : Char → Option Chomp
  | '+' => some .keep
  | '-' => some .strip
  | _ => none

/-- The marks after the sign of a block: how its end counts, and how far it is indented. -/
def blockMarks (p : Cursor) : Scanned (Chomp × Option Nat × Cursor) :=
  let digit := fun (q : Cursor) =>
    if q.head.isDigit then some (q.head.toNat - 48) else none
  let ended := fun (c : Chomp) (n? : Option Nat) (q : Cursor) =>
    if n? = some 0 || !(q.head = ' ' || endsLine q.head) then none else some (c, n?, q)
  match chompOf? p.head with
  | some c =>
    match digit p.step with
    | some n => ended c (some n) (p.forward 2)
    | none => ended c none p.step
  | none =>
    match digit p with
    | some n =>
      match chompOf? (p.peek 1) with
      | some c => ended c (some n) (p.forward 2)
      | none => ended .clip (some n) p.step
    | none => ended .clip none p

def blockIndent : Nat → Nat → Cursor → List Char × Nat × Cursor
  | 0, widest, p => ([], widest, p)
  | fuel + 1, widest, p =>
    if p.head = ' ' then
      let q := p.step
      blockIndent fuel (max widest q.column) q
    else
      match p.lineBreak with
      | ([], _) => ([], widest, p)
      | (b, q) =>
        let (bs, w, r) := blockIndent fuel widest q
        (b ++ bs, w, r)

def toColumn (indent : Nat) : Nat → Cursor → Cursor
  | 0, p => p
  | fuel + 1, p => if p.column < indent && p.head = ' ' then toColumn indent fuel p.step else p

def blockBreaks (indent : Nat) : Nat → Cursor → List Char × Cursor
  | 0, p => ([], p)
  | fuel + 1, p =>
    let p := toColumn indent indent p
    match p.lineBreak with
    | ([], _) => ([], p)
    | (b, q) =>
      let (bs, r) := blockBreaks indent fuel q
      (b ++ bs, r)

def blockLines (fold : Bool) (indent : Nat) :
    Nat → List Char → Cursor → List Char × List Char × List Char × Cursor
  | 0, breaks, p => ([], [], breaks, p)
  | fuel + 1, breaks, p =>
    if p.column = indent && !p.isEnd then
      let starts := !isGap p.head
      let (line, q) := p.spanTo endsLine
      let (lineBreak, q) := q.lineBreak
      let (breaks', q) := blockBreaks indent fuel q
      if q.column = indent && !q.isEnd then
        let joint :=
          if fold && lineBreak = ['\n'] && starts && !isGap q.head then
            if breaks'.isEmpty then [' '] else []
          else lineBreak
        let (more, last, after, r) := blockLines fold indent fuel breaks' q
        (breaks ++ line ++ joint ++ more, last, after, r)
      else (breaks ++ line, lineBreak, breaks', q)
    else ([], [], breaks, p)

def blockText (fold : Bool) (indent : Int) (fuel : Nat) (p : Cursor) :
    Scanned (List Char × Cursor) := do
  let (chomp, indent?, q) ← blockMarks p.step
  let q ← emptyRest q
  let least := (max 1 (indent + 1)).toNat
  let (breaks, column, q) :=
    match indent? with
    | none =>
      let (bs, widest, q) := blockIndent fuel 0 q
      (bs, max least widest, q)
    | some n =>
      let column := least + n - 1
      let (bs, q) := blockBreaks column fuel q
      (bs, column, q)
  let (text, last, after, q) := blockLines fold column fuel breaks q
  let ending :=
    match chomp with
    | .strip => []
    | .clip => last
    | .keep => last ++ after
  return (text ++ ending, q)

/-! ### All tokens -/

def endStream (s : Scanner) : Scanned Scanner := (s.unwind (-1)).removeKey

def documentMark (s : Scanner) (t : Token) : Scanned Scanner :=
  (s.unwind (-1)).removeKey.map fun (s : Scanner) =>
    { s.add t with allowKey := false, place := s.place.forward 3 }

private def put (s : Scanner) (t : Token) (p : Cursor) : Scanner :=
  { s.add t with allowKey := false, place := p }

def quotedScalar (s : Scanner) (double : Bool) : Scanned Scanner := do
  let s ← s.saveKey
  let (cs, p) ← quotedText double (s.place.rest.length + 1) s.place.step
  return s.put (.scalar ⟨String.ofList cs, false⟩) p

def plainScalar (s : Scanner) : Scanned Scanner := do
  let s ← s.saveKey
  let (cs, broke, p) := plainText (s.flow ≠ 0) (s.indent + 1) (s.place.rest.length + 1) s.place
  return { s.put (.scalar ⟨String.ofList cs, true⟩) p with allowKey := broke }

def blockScalar (s : Scanner) (fold : Bool) : Scanned Scanner := do
  let s ← { s with allowKey := true }.removeKey
  let (cs, p) ← blockText fold s.indent (s.place.rest.length + 1) s.place
  return (s.add (.scalar ⟨String.ofList cs, false⟩)).moveTo p

def beginsPlain (s : Scanner) : Bool :=
  let c := s.place.head
  let next := s.place.peek 1
  !(endsWord c || "-?:,[]\x7b\x7d#&*!|>'\"%@`".toList.contains c) ||
    (!endsWord next && (c = '-' || (s.flow = 0 && (c = '?' || c = ':'))))

def next (s : Scanner) : Scanned Scanner := do
  let p := s.place
  let c := p.head
  let apart := endsWord (p.peek 1)
  let inFlow := s.flow ≠ 0
  if c = '%' && p.column = 0 then
    let s ← (s.unwind (-1)).removeKey
    let (t, q) ← directive s.place
    return s.put t q
  else if p.column = 0 && p.atDocumentMark then
    s.documentMark (if c = '-' then .documentStart else .documentEnd)
  else if c = '[' then s.flowOpen .flowSequenceStart
  else if c = '{' then s.flowOpen .flowMappingStart
  else if c = ']' then s.flowClose .flowSequenceEnd
  else if c = '}' then s.flowClose .flowMappingEnd
  else if c = ',' then s.flowEntry
  else if c = '-' && apart then s.blockEntry
  else if c = '?' && (inFlow || apart) then s.keyMark
  else if c = ':' && (inFlow || apart) then s.valueMark
  else if c = '*' then
    let s ← s.saveKey
    let (n, q) ← anchorName s.place
    return s.put (.alias_ n) q
  else if c = '&' then
    let s ← s.saveKey
    let (n, q) ← anchorName s.place
    return s.put (.anchor n) q
  else if c = '!' then
    let s ← s.saveKey
    let (t, q) ← tag s.place
    return s.put t q
  else if c = '|' && !inFlow then s.blockScalar false
  else if c = '>' && !inFlow then s.blockScalar true
  else if c = '\'' then s.quotedScalar false
  else if c = '"' then s.quotedScalar true
  else if s.beginsPlain then s.plainScalar
  else none

/-- Tokens up to the end; each step reads a character at least. -/
def readAll : Nat → Scanner → Scanned Scanner
  | 0, _ => none
  | fuel + 1, s => do
    let s ← (skipGap (s.place.rest.length + 1) s).dropStale
    let s := s.unwind s.place.column
    if s.place.isEnd then s.endStream else readAll fuel (← s.next)

end Scanner

def scan (text : String) : Scanned (List Token) :=
  let cs := text.toList
  if cs.all documentRanges.has then
    let start := if cs.head?.any (·.toNat = 0xFEFF) then cs.tail else cs
    (Scanner.readAll (cs.length + 2) { place := { rest := start } }).map (·.tokens.toList)
  else none

end Scaffold.Yaml
