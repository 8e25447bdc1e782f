import Scaffold.Number.Binary
import Scaffold.Text.Blank
import Scaffold.Text.Digit
import Scaffold.Text.Quoted
import Scaffold.Text.Word

set_option autoImplicit false

/-!
# Tokens of templates

A template is text with tags: `print` tags between double braces, statements between braces with a
percent sign, comments, and raw sections in which nothing is a tag. A minus sign at the inner edge
of a tag takes away the blanks next to the tag. Without a sign, the blanks of a line before a
statement or comment are taken away, and so is the line end right after it; a plus sign keeps them.

Reading stops at the first thing that is no token; the tokens before it stand.
-/
namespace Scaffold.Template

structure SyntaxFault where
  message : String
  line : Nat
  deriving DecidableEq, Repr

inductive Lexeme where
  | data (text : String)
  | printBegin
  | printEnd
  | statementBegin
  | statementEnd
  | name (n : String)
  | text (s : String)
  | int (n : Nat)
  | float (x : Float)
  | operator (sign : String)
  | finish

def Lexeme.description : Lexeme → String
  | .data _ => "template data / text"
  | .printBegin => "begin of print statement"
  | .printEnd => "end of print statement"
  | .statementBegin => "begin of statement block"
  | .statementEnd => "end of statement block"
  | .name n => n
  | .text _ => "string"
  | .int _ => "integer"
  | .float _ => "float"
  | .operator sign => sign
  | .finish => "end of template"

def Lexeme.isName (l : Lexeme) (n : String) : Bool :=
  match l with
  | .name m => m == n
  | _ => false

def Lexeme.isOperator (l : Lexeme) (sign : String) : Bool :=
  match l with
  | .operator s => s == sign
  | _ => false

structure Token where
  line : Nat
  lexeme : Lexeme

/-- The tokens of a template, up to what is no token if there is such a thing. -/
structure Scan where
  tokens : List Token
  fault? : Option SyntaxFault

namespace Scan

def done : Scan := ⟨[], none⟩

def cons (t : Token) (s : Scan) : Scan := ⟨t :: s.tokens, s.fault?⟩

def stop (message : String) (line : Nat) : Scan := ⟨[], some ⟨message, line⟩⟩

/-- Text between tags, which makes a token unless it is empty. -/
def consData (text : List Char) (line : Nat) (s : Scan) : Scan :=
  if text.isEmpty then s else s.cons ⟨line, .data (String.ofList text)⟩

end Scan

inductive Sign where
  | none
  | minus
  | plus
  deriving DecidableEq, Repr

def Sign.take : List Char → Sign × List Char
  | '-' :: r => (.minus, r)
  | '+' :: r => (.plus, r)
  | r => (.none, r)

inductive Opening where
  | print
  | statement
  | comment
  | raw
  deriving DecidableEq, Repr

def afterWord? (word cs : List Char) : Option (List Char) :=
  let r := Text.stripStart cs
  if word.isPrefixOf r then some (Text.stripStart (r.drop word.length)) else none

def statementEnd? : List Char → Option (List Char)
  | '+' :: '%' :: '}' :: r => some r
  | '-' :: '%' :: '}' :: r => some (Text.stripStart r)
  | '%' :: '}' :: '\n' :: r => some r
  | '%' :: '}' :: r => some r
  | _ => none

def printEnd? : List Char → Option (List Char)
  | '-' :: '}' :: '}' :: r => some (Text.stripStart r)
  | '}' :: '}' :: r => some r
  | _ => none

def commentEnd? : List Char → Option (List Char)
  | '+' :: '#' :: '}' :: r => some r
  | '-' :: '#' :: '}' :: r => some (Text.stripStart r)
  | '#' :: '}' :: '\n' :: r => some r
  | '#' :: '}' :: r => some r
  | _ => none

def rawBegin? (cs : List Char) : Option (List Char) :=
  match afterWord? ['r', 'a', 'w'] cs with
  | some ('-' :: '%' :: '}' :: r) => some (Text.stripStart r)
  | some ('%' :: '}' :: r) => some r
  | _ => none

def opening? : List Char → Option (Opening × Sign × List Char)
  | '{' :: '{' :: r => some (.print, Sign.take r)
  | '{' :: '#' :: r => some (.comment, Sign.take r)
  | '{' :: '%' :: r =>
    let (sign, r) := Sign.take r
    match rawBegin? r with
    | some r => some (.raw, sign, r)
    | none => some (.statement, sign, r)
  | _ => none

def rawEnd? : List Char → Option (Sign × List Char)
  | '{' :: '%' :: r =>
    let (sign, r) := Sign.take r
    (afterWord? ['e', 'n', 'd', 'r', 'a', 'w'] r).bind fun r => (statementEnd? r).map (sign, ·)
  | _ => none

/-- What is before the first place where something is found, and what is found there. -/
def breakAt {α : Type} (find : List Char → Option α) : List Char → List Char × Option α
  | [] => ([], none)
  | c :: r =>
    match find (c :: r) with
    | some a => ([], some a)
    | none =>
      let (before, found) := breakAt find r
      (c :: before, found)

/-- A text without the blanks after its last line end; blanks that stand alone must start a line. -/
def dropIndent (starting : Bool) (text : List Char) : List Char :=
  let head := Text.dropEndWhile (· ≠ '\n') text
  let last := text.drop head.length
  if (starting || !head.isEmpty) && Text.isBlankText last then head else text

/-- What a tag leaves of the text before it. -/
def trimBefore (kind : Opening) (sign : Sign) (starting : Bool) (text : List Char) : List Char :=
  match sign with
  | .minus => Text.stripEnd text
  | .plus => text
  | .none => if kind = .print then text else dropIndent starting text

def before (cs rest : List Char) : List Char := cs.take (cs.length - rest.length)

def lineEnds (cs : List Char) : Nat := cs.count '\n'

/-! ### Literals -/

def digitTail (isDigit : Char → Bool) : List Char → List Char × List Char
  | [] => ([], [])
  | '_' :: d :: r =>
    if isDigit d then
      let (ds, rest) := digitTail isDigit r
      (d :: ds, rest)
    else ([], '_' :: d :: r)
  | c :: r =>
    if isDigit c then
      let (ds, rest) := digitTail isDigit r
      (c :: ds, rest)
    else ([], c :: r)

/-- Digits that single underscores may part, and the rest. -/
def digitRun (isDigit : Char → Bool) : List Char → List Char × List Char
  | [] => ([], [])
  | c :: r =>
    if isDigit c then
      let (ds, rest) := digitTail isDigit r
      (c :: ds, rest)
    else ([], c :: r)

def digitsValue (base : Nat) (ds : List Char) : Nat :=
  ds.foldl (fun n c =>
    let d :=
      match Text.decimalValue? c with
      | some d => d
      | none => (c.toNat - 'a'.toNat) % 32 + 10
    n * base + d) 0

def exponent? : List Char → Option (Int × List Char)
  | c :: r =>
    if c = 'e' || c = 'E' then
      let (sign, r) := Sign.take r
      match digitRun Text.isDecimal r with
      | ([], _) => none
      | (ds, rest) =>
        let n : Int := digitsValue 10 ds
        some (if sign = .minus then -n else n, rest)
    else none
  | [] => none

def float? (cs : List Char) : Option (Float × List Char) :=
  match digitRun Text.isDecimal cs with
  | ([], _) => none
  | (whole, r) =>
    let (fraction, r) :=
      match r with
      | '.' :: s =>
        match digitRun Text.isDecimal s with
        | ([], _) => ([], r)
        | (ds, rest) => (ds, rest)
      | _ => ([], r)
    let mantissa := digitsValue 10 (whole ++ fraction)
    match exponent? r, fraction with
    | some (e, rest), _ => some (Number.floatOfDecimal mantissa (e - fraction.length), rest)
    | none, [] => none
    | none, _ => some (Number.floatOfDecimal mantissa (-fraction.length), r)

private def isHexDigit (c : Char) : Bool :=
  Text.isDecimal c || ('a' ≤ c && c ≤ 'f') || ('A' ≤ c && c ≤ 'F')

def basedDigits (isDigit : Char → Bool) (cs : List Char) : List Char × List Char :=
  match cs with
  | '_' :: r =>
    match digitRun isDigit r with
    | ([], _) => ([], cs)
    | found => found
  | _ => digitRun isDigit cs

/-- A whole number in base two, eight, sixteen or ten; of numbers that start with a zero only the
zeros. -/
def int? (cs : List Char) : Option (Nat × List Char) :=
  let based : Option (Nat × List Char) :=
    match cs with
    | '0' :: c :: r =>
      let read := fun (base : Nat) (isDigit : Char → Bool) =>
        match basedDigits isDigit r with
        | ([], _) => none
        | (ds, rest) => some (digitsValue base ds, rest)
      if c = 'b' || c = 'B' then read 2 fun d => d = '0' || d = '1'
      else if c = 'o' || c = 'O' then read 8 fun d => '0' ≤ d && d ≤ '7'
      else if c = 'x' || c = 'X' then read 16 isHexDigit
      else none
    | _ => none
  match based with
  | some found => some found
  | none =>
    match cs with
    | '0' :: _ => some (0, (digitRun (· = '0') cs).2)
    | c :: _ =>
      if '1' ≤ c && c ≤ '9' then
        let (ds, rest) := digitRun Text.isDecimal cs
        some (digitsValue 10 ds, rest)
      else none
    | [] => none

/-- The text up to a closing quote, escapes as they are written. -/
def quotedBody? (quote : Char) : List Char → Option (List Char × List Char)
  | [] => none
  | '\\' :: c :: r => (quotedBody? quote r).map fun (b, rest) => ('\\' :: c :: b, rest)
  | c :: r =>
    if c = quote then some ([], r)
    else if c = '\\' then none
    else (quotedBody? quote r).map fun (b, rest) => (c :: b, rest)

private def escapedLetter? : Char → Option Char
  | '\\' => some '\\'
  | '\'' => some '\''
  | '"' => some '"'
  | 'a' => some '\x07'
  | 'b' => some '\x08'
  | 'f' => some '\x0c'
  | 'n' => some '\n'
  | 'r' => some '\r'
  | 't' => some '\t'
  | 'v' => some '\x0b'
  | _ => none

private def isOctalDigit (c : Char) : Bool := '0' ≤ c && c ≤ '7'

private def isPlainHexDigit (c : Char) : Bool :=
  ('0' ≤ c && c ≤ '9') || ('a' ≤ c && c ≤ 'f') || ('A' ≤ c && c ≤ 'F')

private def codeWidth? : Char → Option Nat
  | 'x' => some 2
  | 'u' => some 4
  | 'U' => some 8
  | _ => none

def unescape : Nat → List Char → Except String (List Char)
  | 0, _ => .ok []
  | _ + 1, [] => .ok []
  | fuel + 1, '\\' :: c :: r =>
    if c = '\n' then unescape fuel r
    else
      match escapedLetter? c with
      | some d => (unescape fuel r).map (d :: ·)
      | none =>
        if isOctalDigit c then
          let ds := (c :: r.take 2).takeWhile isOctalDigit
          (unescape fuel ((c :: r).drop ds.length)).map (Char.ofNat (digitsValue 8 ds) :: ·)
        else
          match codeWidth? c with
          | some width =>
            let ds := (r.take width).takeWhile isPlainHexDigit
            if ds.length < width then
              .error ("truncated \\" ++ String.ofList (c :: List.replicate width 'X') ++ " escape")
            else if 0x110000 ≤ digitsValue 16 ds then .error "illegal Unicode character"
            else (unescape fuel (r.drop width)).map (Char.ofNat (digitsValue 16 ds) :: ·)
          | none =>
            if c = 'N' then .error "unknown Unicode character name"
            else (unescape fuel r).map ('\\' :: c :: ·)
  | fuel + 1, c :: r => (unescape fuel r).map (c :: ·)

/-- The text that a literal stands for. Characters beyond ASCII count as written by their codes. -/
def literalText (body : List Char) : Except String String :=
  let plain := body.flatMap fun c => if c.toNat < 128 then [c] else Text.hexCode c.toNat
  (unescape (plain.length + 1) plain).map String.ofList

def operators : List (List Char) := [
  ['/', '/'], ['*', '*'], ['=', '='], ['!', '='], ['>', '='], ['<', '='],
  ['+'], ['-'], ['/'], ['*'], ['%'], ['~'], ['['], [']'], ['('], [')'], ['{'], ['}'], ['>'], ['<'],
  ['='], ['.'], [':'], ['|'], [','], [';']]

def closer? : Char → Option Char
  | '{' => some '}'
  | '(' => some ')'
  | '[' => some ']'
  | _ => none

/-! ### Tokens -/

inductive Mode where
  | text
  | comment
  | raw
  /-- In a tag; the brackets that are open, by what closes them, innermost first. -/
  | tag (print : Bool) (closers : List Char)

def tagLexeme (closers : List Char) (previous : Option Char) (position line : Nat)
    (cs : List Char) : Except SyntaxFault (Lexeme × List Char × List Char) :=
  match (if previous = some '.' then none else float? cs) with
  | some (x, rest) => .ok (.float x, rest, closers)
  | none =>
    match int? cs with
    | some (n, rest) => .ok (.int n, rest, closers)
    | none =>
      match cs.span Text.isNameChar with
      | (c :: n, rest) =>
        if Text.isIdentifier (c :: n) then .ok (.name (String.ofList (c :: n)), rest, closers)
        else .error ⟨"Invalid character in identifier", line⟩
      | ([], _) =>
        let literal? :=
          match cs with
          | c :: r => if c = '"' || c = '\'' then quotedBody? c r else none
          | [] => none
        match literal? with
        | some (body, rest) =>
          match literalText body with
          | .ok s => .ok (.text s, rest, closers)
          | .error message => .error ⟨message, line⟩
        | none =>
          match operators.find? fun o => o.isPrefixOf cs with
          | none =>
            .error ⟨"unexpected char " ++ Text.quoted (String.ofList (cs.take 1)) ++ " at " ++
              toString position, line⟩
          | some o =>
            let sign := String.ofList o
            let rest := cs.drop o.length
            match o with
            | [c] =>
              match closer? c with
              | some d => .ok (.operator sign, rest, d :: closers)
              | none =>
                if c = '}' || c = ')' || c = ']' then
                  match closers with
                  | [] => .error ⟨"unexpected '" ++ sign ++ "'", line⟩
                  | d :: ds =>
                    if d = c then .ok (.operator sign, rest, ds)
                    else
                      .error ⟨"unexpected '" ++ sign ++ "', expected '" ++ String.ofList [d] ++ "'",
                        line⟩
                else .ok (.operator sign, rest, closers)
            | _ => .ok (.operator sign, rest, closers)

/-- Reads on in a mode; `total` is the length of the whole template, `previous` the character read
last, and the text starts a line if that is a line end. Every step reads a character, so that
`fuel` characters can be read. -/
def scanFrom (total : Nat) : Nat → Mode → Option Char → Nat → List Char → Scan
  | 0, _, _, _, _ => .done
  | _, _, _, _, [] => .done
  | fuel + 1, mode, previous, line, cs =>
    let starting := previous = some '\n'
    let goOn := fun (mode : Mode) (rest : List Char) =>
      let passed := before cs rest
      scanFrom total fuel mode passed.getLast? (line + lineEnds passed) rest
    match mode with
    | .text =>
      match breakAt opening? cs with
      | (text, none) => Scan.done.consData text line
      | (text, some (kind, sign, rest)) =>
        let data := trimBefore kind sign starting text
        let here := line + lineEnds text
        let following :=
          match kind with
          | .print => (goOn (.tag true []) rest).cons ⟨here, .printBegin⟩
          | .statement => (goOn (.tag false []) rest).cons ⟨here, .statementBegin⟩
          | .comment => goOn .comment rest
          | .raw => goOn .raw rest
        following.consData data line
    | .comment =>
      match (breakAt commentEnd? cs).2 with
      | none => .stop "Missing end of comment tag" line
      | some rest => goOn .text rest
    | .raw =>
      match breakAt rawEnd? cs with
      | (_, none) => .stop "Missing end of raw directive" line
      | (text, some (sign, rest)) =>
        (goOn .text rest).consData (trimBefore .raw sign starting text) line
    | .tag print closers =>
      let ended :=
        if closers.isEmpty then if print then printEnd? cs else statementEnd? cs else none
      match ended with
      | some rest =>
        (goOn .text rest).cons ⟨line, if print then .printEnd else .statementEnd⟩
      | none =>
        if cs.head?.any Text.isBlank then goOn mode (Text.stripStart cs)
        else
          match tagLexeme closers previous (total - cs.length) line cs with
          | .error f => ⟨[], some f⟩
          | .ok (lexeme, rest, closers) => (goOn (.tag print closers) rest).cons ⟨line, lexeme⟩

def scan (cs : List Char) : Scan :=
  scanFrom cs.length (cs.length + 1) .text (some '\n') 1 cs

end Scaffold.Template
