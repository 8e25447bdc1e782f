import Scaffold.Number.Binary
import Scaffold.Number.Limit
import Scaffold.Text.Blank
import Scaffold.Text.Digit
import Scaffold.Value

set_option autoImplicit false

/-!
# Scalars

A scalar that is written plainly says by its form what it is: nothing, a truth value, a number, a
time, or else a text. A scalar with a tag is read as the tag says, whatever its form.
-/
namespace Scaffold.Yaml

inductive Fault where
  /-- It is not written as documents are, or uses a tag in vain. -/
  | malformed
  | badValue (message : String)
  | noTruthWord
  | noDigits
  | noTime
  deriving DecidableEq, Repr

inductive Form where
  | null
  | bool
  | int
  | float
  | time
  | merge
  | default
  | text
  deriving DecidableEq, Repr

/-! ### Forms -/

def truthWords : List String := ["yes", "true", "on"]

def falsehoodWords : List String := ["no", "false", "off"]

def capitalized : List Char → List Char
  | [] => []
  | c :: r => c.toUpper :: r

def isSpelling (word : String) (cs : List Char) : Bool :=
  let w := word.toList
  cs = w || cs = capitalized w || cs = w.map Char.toUpper

def dropSign : List Char → List Char
  | '+' :: r | '-' :: r => r
  | cs => cs

private def isSpaced (digit : Char → Bool) (cs : List Char) : Bool :=
  cs.all fun c => c = '_' || digit c

/-- A digit and then digits or low lines. -/
def isNumeral : List Char → Bool
  | c :: r => c.isDigit && isSpaced Char.isDigit r
  | [] => false

def isSixtieth : List Char → Bool
  | [c] => c.isDigit
  | [c, d] => '0' ≤ c && c ≤ '5' && d.isDigit
  | _ => false

def isHexadecimal (c : Char) : Bool :=
  c.isDigit || ('a' ≤ c && c ≤ 'f') || ('A' ≤ c && c ≤ 'F')

def isWhole (cs : List Char) : Bool :=
  match dropSign cs with
  | ['0'] => true
  | '0' :: 'b' :: r => !r.isEmpty && isSpaced (fun c => c = '0' || c = '1') r
  | '0' :: 'x' :: r => !r.isEmpty && isSpaced isHexadecimal r
  | '0' :: r => !r.isEmpty && isSpaced (fun c => '0' ≤ c && c ≤ '7') r
  | body =>
    match body.splitOn ':' with
    | first :: rest => isNumeral first && rest.all isSixtieth
    | [] => false

def isExponent : List Char → Bool
  | [] => true
  | e :: sign :: ds =>
    (e = 'e' || e = 'E') && (sign = '+' || sign = '-') && !ds.isEmpty && ds.all Char.isDigit
  | _ => false

private def isFractionChar (c : Char) : Bool := c.isDigit || c = '_'

private def isInfinity (cs : List Char) : Bool :=
  [".inf", ".Inf", ".INF"].contains (String.ofList cs)

def isReal (cs : List Char) : Bool :=
  let body := dropSign cs
  let whole := body.takeWhile (· ≠ '.')
  match body.dropWhile (· ≠ '.') with
  | [] => false
  | _ :: fraction =>
    let ended := isExponent (fraction.dropWhile isFractionChar)
    match whole.splitOn ':' with
    | [[]] =>
      isInfinity body || [".nan", ".NaN", ".NAN"].contains (String.ofList cs) ||
        (cs.head? = some '.' && fraction.head?.any Char.isDigit && ended)
    | [n] => isNumeral n && ended
    | first :: rest =>
      isNumeral first && rest.all isSixtieth && fraction.all isFractionChar
    | [] => false

/-! ### Times -/

/-- A date or a time of day on it; the zone is a distance in minutes. -/
structure Time where
  year : Nat
  month : Nat
  day : Nat
  clock : Option (Nat × Nat × Nat) := none
  fraction : List Char := []
  zone : Option Int := none

/-- Between so many digits, the number they write, and the rest. -/
def digits? (least most : Nat) (cs : List Char) : Option (Nat × List Char) :=
  let ds := (cs.take most).takeWhile Char.isDigit
  if ds.length < least then none
  else (Text.numeralValue? ds).map fun n => (n, cs.drop ds.length)

def sign? (c : Char) : List Char → Option (List Char)
  | d :: r => if c = d then some r else none
  | [] => none

private def isGapChar (c : Char) : Bool := c = ' ' || c = '\t'

/-- What a zone says, and whether there is one; nothing may follow it. -/
def zone? (cs : List Char) : Option (Option Int) :=
  match cs.dropWhile isGapChar with
  | [] => if cs.isEmpty then some none else none
  | ['Z'] => some (some 0)
  | c :: r =>
    if c = '+' || c = '-' then do
      let (hours, r) ← digits? 1 2 r
      let minutes ←
        match r with
        | [] => some 0
        | _ => do
          let (n, r) ← digits? 2 2 (← sign? ':' r)
          if r.isEmpty then some n else none
      let n : Int := hours * 60 + minutes
      return some (if c = '-' then -n else n)
    else none

def clock? (t : Time) (cs : List Char) : Option Time := do
  let r ←
    match cs with
    | 'T' :: r | 't' :: r => some r
    | c :: r => if isGapChar c then some (r.dropWhile isGapChar) else none
    | [] => none
  let (hour, r) ← digits? 1 2 r
  let (minute, r) ← digits? 2 2 (← sign? ':' r)
  let (second, r) ← digits? 2 2 (← sign? ':' r)
  let (fraction, r) :=
    match r with
    | '.' :: r => (r.takeWhile Char.isDigit, r.dropWhile Char.isDigit)
    | r => ([], r)
  return { t with clock := some (hour, minute, second), fraction := fraction, zone := ← zone? r }

def time? (cs : List Char) : Option (Time × Bool) := do
  let (year, r) ← digits? 4 4 cs
  let r ← sign? '-' r
  let (month, s) ← digits? 1 2 r
  let s ← sign? '-' s
  let (day, rest) ← digits? 1 2 s
  let t : Time := { year := year, month := month, day := day }
  let t ← if rest.isEmpty then some t else clock? t rest
  return (t, cs.length - rest.length = 10)

/-- Whether the form is that of a time; a date alone has two digits for month and day. -/
def isTime (cs : List Char) : Bool :=
  match time? cs with
  | some (t, full) => t.clock.isSome || full
  | none => false

def isLeapYear (y : Nat) : Bool := y % 4 = 0 && (y % 100 ≠ 0 || y % 400 = 0)

def daysIn (year month : Nat) : Nat :=
  if month = 2 then if isLeapYear year then 29 else 28
  else if [4, 6, 9, 11].contains month then 30
  else 31

def Time.fault? (t : Time) : Option String :=
  let (hour, minute, second) := t.clock.getD (0, 0, 0)
  if t.zone.any (1440 ≤ ·.natAbs) then
    some ("offset must be a timedelta strictly between -timedelta(hours=24) and " ++
      "timedelta(hours=24)")
  else if t.year = 0 then some "year 0 is out of range"
  else if t.month = 0 || 12 < t.month then some "month must be in 1..12"
  else if t.day = 0 || daysIn t.year t.month < t.day then some "day is out of range for month"
  else if 23 < hour then some "hour must be in 0..23"
  else if 59 < minute then some "minute must be in 0..59"
  else if 59 < second then some "second must be in 0..59"
  else none

private def zoneText (minutes : Int) : String :=
  if minutes = 0 then "datetime.timezone.utc"
  else
    let days := minutes.fdiv 1440
    let seconds := minutes.fmod 1440 * 60
    let parts := (if days = 0 then [] else ["days=" ++ toString days]) ++
      (if seconds = 0 then [] else ["seconds=" ++ toString seconds])
    "datetime.timezone(datetime.timedelta(" ++ ", ".intercalate parts ++ "))"

def Time.value (t : Time) : Value :=
  let numbers := fun (ns : List Nat) => ns.map toString
  let date := numbers [t.year, t.month, t.day]
  match t.clock with
  | none => .foreign "datetime.date" ("datetime.date(" ++ ", ".intercalate date ++ ")")
  | some (hour, minute, second) =>
    let micro := (Text.numeralValue? ((t.fraction ++ List.replicate 6 '0').take 6)).getD 0
    let finer :=
      if micro ≠ 0 then [second, micro] else if second ≠ 0 then [second] else []
    let zone := (t.zone.map fun z => "tzinfo=" ++ zoneText z).toList
    .foreign "datetime.datetime"
      ("datetime.datetime(" ++ ", ".intercalate (date ++ numbers ([hour, minute] ++ finer) ++ zone)
        ++ ")")

def Form.ofText (s : String) : Form :=
  let cs := s.toList
  if (truthWords ++ falsehoodWords).any fun w => isSpelling w cs then .bool
  else if isReal cs then .float
  else if isWhole cs then .int
  else if s = "<<" then .merge
  else if s = "" || s = "~" || isSpelling "null" cs then .null
  else if isTime cs then .time
  else if s = "=" then .default
  else .text

/-! ### Values -/

def readBool (s : String) : Except Fault Value :=
  let w := s.toLower
  if truthWords.contains w then .ok (.bool true)
  else if falsehoodWords.contains w then .ok (.bool false)
  else .error .noTruthWord

private def valueOfDigit (c : Char) : Nat :=
  match Text.decimalValue? c with
  | some n => n
  | none =>
    if 'a' ≤ c && c ≤ 'z' then c.toNat - 87 else if 'A' ≤ c && c ≤ 'Z' then c.toNat - 55 else 99

private def isBaseLetter (base : Nat) (c : Char) : Bool :=
  (base = 2 && (c = 'b' || c = 'B')) || (base = 8 && (c = 'o' || c = 'O')) ||
    (base = 16 && (c = 'x' || c = 'X'))

/-- A whole number in a base, with a sign and between blanks if so written. -/
def readWhole (base : Nat) (cs : List Char) : Except Fault Int :=
  let stripped := Text.strip cs
  let body := dropSign stripped
  let ds :=
    match body with
    | '0' :: c :: r => if isBaseLetter base c then r else body
    | _ => body
  if ds.isEmpty || ds.any fun c => base ≤ valueOfDigit c then
    .error (.badValue (Number.notNumeral base cs))
  else if base = 10 && Number.digitLimit < ds.length then
    .error (.badValue (Number.tooLongToRead ds.length))
  else
    let n : Int := ds.foldl (fun acc c => acc * base + valueOfDigit c) (0 : Nat)
    .ok (if stripped.head? = some '-' then -n else n)

private def withoutSpacing (s : String) : List Char := s.toList.filter (· ≠ '_')

def readInt (s : String) : Except Fault Value := do
  let cs := withoutSpacing s
  let body := dropSign cs
  if body.isEmpty then throw .noDigits
  let n ←
    match body with
    | ['0'] => pure 0
    | '0' :: 'b' :: r => readWhole 2 r
    | '0' :: 'x' :: r => readWhole 16 r
    | '0' :: _ => readWhole 8 body
    | _ =>
      let parts ← (body.splitOn ':').mapM (readWhole 10)
      pure (parts.foldl (fun acc n => acc * 60 + n) 0)
  return .int (if cs.head? = some '-' then -n else n)

def decimal? (cs : List Char) : Option Float :=
  let whole := cs.takeWhile Text.isDecimal
  let rest := cs.dropWhile Text.isDecimal
  let (fraction, rest) :=
    match rest with
    | '.' :: r => (r.takeWhile Text.isDecimal, r.dropWhile Text.isDecimal)
    | _ => ([], rest)
  let number := fun (e : Int) =>
    (Text.numeralValue? (whole ++ fraction)).map fun n =>
      Number.floatOfDecimal n (e - fraction.length)
  match rest with
  | [] => number 0
  | e :: r =>
    if e = 'e' || e = 'E' then
      (Text.numeralValue? (dropSign r)).bind fun n =>
        number (if r.head? = some '-' then -(n : Int) else n)
    else none

def readReal (cs : List Char) : Except Fault Float :=
  let stripped := Text.strip cs
  let body := dropSign stripped
  let found? :=
    if body = "inf".toList || body = "infinity".toList then some (1.0 / 0.0)
    else if body = "nan".toList then some (0.0 / 0.0)
    else decimal? body
  match found? with
  | some x => .ok (if stripped.head? = some '-' then -x else x)
  | none =>
    .error (.badValue ("could not convert string to float: " ++ Text.quoted (String.ofList cs)))

def readFloat (s : String) : Except Fault Value := do
  let cs := (withoutSpacing s).map Char.toLower
  let body := dropSign cs
  if body.isEmpty then throw .noDigits
  let x ←
    if body = ".inf".toList then pure (1.0 / 0.0)
    else if body = ".nan".toList then pure (0.0 / 0.0)
    else if body.contains ':' then do
      let parts ← (body.splitOn ':').mapM readReal
      let step := fun (x : Float) (acc : Float × Float) => (acc.1 + x * acc.2, acc.2 * 60.0)
      pure (parts.foldr step (0.0, 1.0)).1
    else readReal body
  return .float (if cs.head? = some '-' then -x else x)

def readTime (s : String) : Except Fault Value :=
  match time? s.toList with
  | none => .error .noTime
  | some (t, _) =>
    match t.fault? with
    | some message => .error (.badValue message)
    | none => .ok t.value

end Scaffold.Yaml
