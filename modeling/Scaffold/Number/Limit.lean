import Scaffold.Text.Quoted

set_option autoImplicit false

/-!
# Numerals that cannot be read

Whole numbers are read and written in at most so many decimal digits. A text that is no numeral is
quoted in the message, up to a length.
-/
namespace Scaffold.Number

def digitLimit : Nat := 4300

def exceedsLimit (n : Int) : Bool := Nat.pow 10 digitLimit ≤ n.natAbs

private def limitText : String :=
  "Exceeds the limit (" ++ toString digitLimit ++ " digits) for integer string conversion"

private def remedy : String := "; use sys.set_int_max_str_digits() to increase the limit"

def tooLongToWrite : String := limitText ++ remedy

def tooLongToRead (digits : Nat) : String :=
  limitText ++ ": value has " ++ toString digits ++ " digits" ++ remedy

def notNumeral (base : Nat) (cs : List Char) : String :=
  "invalid literal for int() with base " ++ toString base ++ ": " ++
    String.ofList ((Text.quoted (String.ofList cs)).toList.take 200)

end Scaffold.Number
