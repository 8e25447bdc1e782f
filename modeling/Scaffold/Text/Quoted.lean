import Scaffold.Text.Printable

set_option autoImplicit false

/-!
# Quoted text

The written form of a text in messages and in lists: between single quotes, or between double
quotes where the text holds a single quote and no double one. The quote in use and the backslash
are escaped, line ends and tabs have a letter, and any other unprintable character is written by
its code in two, four or eight hexadecimal digits.
-/
namespace Scaffold.Text

def digitsOf (base width n : Nat) : List Char :=
  let ds := Nat.toDigits base n
  List.replicate (width - ds.length) '0' ++ ds

def hexCode (n : Nat) : List Char :=
  if n < 0x100 then ['\\', 'x'] ++ digitsOf 16 2 n
  else if n < 0x10000 then ['\\', 'u'] ++ digitsOf 16 4 n
  else ['\\', 'U'] ++ digitsOf 16 8 n

def quotedChar (quote c : Char) : List Char :=
  if c = quote || c = '\\' then ['\\', c]
  else if c = '\n' then ['\\', 'n']
  else if c = '\r' then ['\\', 'r']
  else if c = '\t' then ['\\', 't']
  else if isPrintable c then [c]
  else hexCode c.toNat

def quoteFor (cs : List Char) : Char :=
  if cs.contains '\'' && !cs.contains '"' then '"' else '\''

def quoteChars (cs : List Char) : List Char :=
  let q := quoteFor cs
  q :: (cs.flatMap (quotedChar q) ++ [q])

def quoted (s : String) : String := String.ofList (quoteChars s.toList)

def quotedList (xs : List String) : String :=
  "[" ++ ", ".intercalate (xs.map quoted) ++ "]"

end Scaffold.Text
