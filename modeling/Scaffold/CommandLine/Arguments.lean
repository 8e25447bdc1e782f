import Scaffold.Text.Digit
import Scaffold.Text.Quoted
import Scaffold.Text.Search

set_option autoImplicit false

/-!
# Arguments

Words of a command line are options and plain arguments. A long option may be cut short as long as
only one begins so. Plain arguments fill the places that are free as soon as the first of them is
met: a later one, after an option, finds no place any more. After a double dash all words are plain.
-/
namespace Scaffold.CommandLine

structure Arguments where
  type : Option String := none
  name : Option String := none
  path : Option String := none
  framework : Option String := none
  options : Option (List String) := none
  noOptions : Bool := false
  projectsDirectory : Option String := none
  force : Bool := false
  list : Bool := false
  deriving DecidableEq, Repr

inductive Flag where
  | help
  | framework
  | option
  | noOptions
  | projectsDirectory
  | force
  | list
  | version
  deriving DecidableEq, Repr

def spellings : List (String × Flag) := [
  ("-h", .help), ("--help", .help), ("--framework", .framework), ("-f", .framework),
  ("--option", .option), ("-o", .option), ("--no-options", .noOptions),
  ("--projects-dir", .projectsDirectory), ("--force", .force), ("--list", .list),
  ("--version", .version), ("-v", .version)]

namespace Flag

def takesValue : Flag → Bool
  | framework | option | projectsDirectory => true
  | _ => false

def title (f : Flag) : String := "/".intercalate ((spellings.filter (·.2 = f)).map (·.1))

end Flag

/-- Why a command line gives no arguments: it asks for something else, or it is wrong. -/
inductive Stop where
  | help
  | version
  | wrong (message : String)
  deriving DecidableEq, Repr

abbrev Parsed (α : Type) := Except Stop α

def wrongUse {α : Type} (f : Flag) (message : String) : Parsed α :=
  .error (.wrong ("argument " ++ f.title ++ ": " ++ message))

/-- What is joined to an option: after an equals sign, or directly. -/
structure Joined where
  afterEquals : Bool
  text : String
  deriving DecidableEq, Repr

/-- What a word is: an option by the spelling that it was found under, with what is joined to it; an
option that does not exist; or a plain argument. -/
inductive Role where
  | plain
  | separator
  | option (f : Flag) (spelling : String) (joined : Option Joined)
  | unknown
  deriving DecidableEq, Repr

def Role.isOption : Role → Bool
  | .option .. | .unknown => true
  | _ => false

structure Word where
  text : String
  role : Role
  deriving DecidableEq, Repr

/-! ### Roles of words -/

private def beforeEquals (cs : List Char) : List Char := cs.takeWhile (· ≠ '=')

private def joined? (cs : List Char) : Option Joined :=
  match cs.dropWhile (· ≠ '=') with
  | _ :: v => some ⟨true, String.ofList v⟩
  | [] => none

/-- The options that a word may be short for. -/
def candidates (cs : List Char) : List Role :=
  let isLong := cs.take 2 = ['-', '-']
  spellings.filterMap fun (spelling, f) =>
    let s := spelling.toList
    if isLong then
      if (beforeEquals cs).isPrefixOf s then some (.option f spelling (joined? cs)) else none
    else if s = cs.take 2 then some (.option f spelling (some ⟨false, String.ofList (cs.drop 2)⟩))
    else if cs.isPrefixOf s then some (.option f spelling none)
    else none

/-- A number below zero is no option. -/
def isNegativeNumber : List Char → Bool
  | '-' :: r =>
    let whole := r.takeWhile Text.isDecimal
    match r.drop whole.length with
    | [] => !whole.isEmpty
    | '.' :: fraction => !fraction.isEmpty && fraction.all Text.isDecimal
    | _ => false
  | _ => false

private def ambiguous (word : String) (roles : List Role) : Stop :=
  let names := roles.map fun
    | .option _ spelling _ => spelling
    | _ => ""
  .wrong ("ambiguous option: " ++ word ++ " could match " ++ ", ".intercalate names)

def roleOf (word : String) : Parsed Role :=
  let cs := word.toList
  let name := String.ofList (beforeEquals cs)
  if cs.head? ≠ some '-' then .ok .plain
  else
    match spellings.lookup word with
    | some f => .ok (.option f word none)
    | none =>
      if cs.length = 1 then .ok .plain
      else
        match (if cs.contains '=' then spellings.lookup name else none) with
        | some f => .ok (.option f name (joined? cs))
        | none =>
          match candidates cs with
          | [r] => .ok r
          | [] =>
            .ok (if isNegativeNumber cs || cs.contains ' ' then .plain else .unknown)
          | rs => .error (ambiguous word rs)

def wordsOf : List String → Parsed (List Word)
  | [] => .ok []
  | w :: ws =>
    if w = "--" then .ok (⟨w, .separator⟩ :: ws.map fun v => ⟨v, .plain⟩)
    else do
      let r ← roleOf w
      return ⟨w, r⟩ :: (← wordsOf ws)

/-! ### Options -/

def Flag.apply (f : Flag) (value : String) (a : Arguments) : Parsed Arguments :=
  match f with
  | .help => .error .help
  | .version => .error .version
  | .framework => .ok { a with framework := some value }
  | .option => .ok { a with options := some (a.options.getD [] ++ [value]) }
  | .noOptions => .ok { a with noOptions := true }
  | .projectsDirectory => .ok { a with projectsDirectory := some value }
  | .force => .ok { a with force := true }
  | .list => .ok { a with list := true }

private def ignored {α : Type} (f : Flag) (joined : Joined) : Parsed α :=
  wrongUse f ("ignored explicit argument " ++ Text.quoted joined.text)

/-- Options of one letter that are written together: the last of them, with what is joined to it;
those before it, which have no value; and letters that are no options. -/
structure Cluster where
  before : List Flag
  last : Option (Flag × Option String)
  unknown : Option String

private def joinedRest : List Char → Option Joined
  | [] => none
  | '=' :: r => some ⟨true, String.ofList r⟩
  | r => some ⟨false, String.ofList r⟩

/-- Takes apart an option and what is joined to it. An option without a value may be followed by the
letters of others. -/
def together (f : Flag) (isLong : Bool) (joined : Joined) : Nat → Parsed Cluster
  | 0 => ignored f joined
  | fuel + 1 =>
    if f.takesValue then .ok ⟨[], some (f, some joined.text), none⟩
    else
      match joined.text.toList with
      | [] => ignored f joined
      | c :: r =>
        if isLong || joined.afterEquals || c = '-' then ignored f joined
        else
          match spellings.lookup (String.ofList ['-', c]) with
          | none => .ok ⟨[f], none, some ("-" ++ joined.text)⟩
          | some g =>
            match joinedRest r with
            | none => .ok ⟨[f], some (g, none), none⟩
            | some j => (together g false j fuel).map fun k => { k with before := f :: k.before }

def applyAll : List Flag → Arguments → Parsed Arguments
  | [], a => .ok a
  | f :: fs, a => do applyAll fs (← f.apply "" a)

def valueOf (f : Flag) (joined : Option String) (rest : List Word) :
    Parsed (String × List Word) :=
  match joined, f.takesValue, rest with
  | some v, _, rest => .ok (v, rest)
  | none, false, rest => .ok ("", rest)
  | none, true, ⟨v, .plain⟩ :: rest => .ok (v, rest)
  | none, true, _ => wrongUse f "expected one argument"

def takeOption (f : Flag) (spelling : String) (joined : Option Joined) (rest : List Word)
    (a : Arguments) : Parsed (Arguments × List Word × List String) := do
  let cluster ←
    match joined with
    | none => .ok ⟨[], some (f, none), none⟩
    | some j => together f (spelling.startsWith "--") j (j.text.length + 1)
  match cluster.last with
  | none => return (← applyAll cluster.before a, rest, cluster.unknown.toList)
  | some (last, value) =>
    let (value, rest) ← valueOf last value rest
    let a ← applyAll cluster.before a
    return (← last.apply value a, rest, cluster.unknown.toList)

/-! ### Places -/

inductive Slot where
  | type
  | name
  | path
  deriving DecidableEq, Repr

def allSlots : List Slot := [.type, .name, .path]

def Slot.fill (s : Slot) (value : Option String) (a : Arguments) : Arguments :=
  match s with
  | .type => { a with type := value }
  | .name => { a with name := value }
  | .path => { a with path := value }

def takePlain (ws : List Word) : List String × List Word :=
  let isSeparator := fun (w : Word) => w.role = .separator
  let before := ws.takeWhile isSeparator
  let rest := ws.drop before.length
  match rest with
  | ⟨v, .plain⟩ :: rest =>
    let after := rest.takeWhile isSeparator
    (before.map (·.text) ++ [v] ++ after.map (·.text), rest.drop after.length)
  | _ => (before.map (·.text), rest)

def fillSlots : List Slot → List Word → Arguments → Arguments × List Word
  | [], ws, a => (a, ws)
  | s :: ss, ws, a =>
    let (taken, rest) := takePlain ws
    fillSlots ss rest (s.fill (taken.erase "--").head? a)

/-! ### Command lines -/

def takeWords : Nat → List Slot → List Word → Arguments → Parsed (Arguments × List String)
  | 0, _, ws, a => .ok (a, ws.map (·.text))
  | fuel + 1, slots, ws, a =>
    if ws.any (·.role.isOption) then
      match ws with
      | [] => .ok (a, [])
      | w :: rest =>
        match w.role with
        | .option f spelling joined => do
          let (a, rest, unknown) ← takeOption f spelling joined rest a
          let (a, extra) ← takeWords fuel slots rest a
          return (a, unknown ++ extra)
        | .unknown => do
          let (a, extra) ← takeWords fuel slots rest a
          return (a, w.text :: extra)
        | _ =>
          if slots.isEmpty then do
            let (a, extra) ← takeWords fuel slots rest a
            return (a, w.text :: extra)
          else
            let (a, rest) := fillSlots slots ws a
            takeWords fuel [] rest a
    else
      let (a, rest) := fillSlots slots ws a
      .ok (a, rest.map (·.text))

def parse (line : List String) : Parsed Arguments := do
  let ws ← wordsOf line
  let (a, extra) ← takeWords (2 * ws.length + 2) allSlots ws {}
  if extra.isEmpty then return a
  else throw (.wrong ("unrecognized arguments: " ++ " ".intercalate extra))

end Scaffold.CommandLine
