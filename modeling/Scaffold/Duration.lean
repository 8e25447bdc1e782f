import Scaffold.Number.Binary
import Scaffold.Number.Limit

set_option autoImplicit false

/-!
# Durations

A duration of less than a minute is written in seconds with one decimal, a longer one in minutes
and whole seconds. What is negative counts as nothing. Minutes of more digits than can be written
have no text.
-/
namespace Scaffold.Duration
open Number

def minutesText (minutes seconds : Nat) : String :=
  toString minutes ++ "m " ++ toString seconds ++ "s"

/-- Seconds to the nearest tenth, of two the even one. -/
def tenthsText (num den : Nat) : String :=
  let t := roundDiv (10 * num) den
  toString (t / 10) ++ "." ++ toString (t % 10) ++ "s"

def textOfNat (n : Nat) : Except String String :=
  if n < 60 then .ok (tenthsText n 1)
  else if exceedsLimit (n / 60 : Nat) then .error tooLongToWrite
  else .ok (minutesText (n / 60) (n % 60))

def textOfInt : Int → Except String String
  | .ofNat n => textOfNat n
  | .negSucc _ => .ok (tenthsText 0 1)

/-- The number of minutes as a quotient of two numbers of double precision: sixty times the count
is rounded, divided with rounding, and taken to the whole number nearby. -/
def roundedMinutes (q : Nat) : Nat :=
  let (m, e) := nearestBinary (60 * q) 1
  let (num, den) := scaled m e
  let (m, e) := nearestBinary num (den * 60)
  let (num, den) := scaled m e
  if den < 2 * (num % den) then num / den + 1 else num / den

def textOfRatio (num den : Nat) : String :=
  if num < 60 * den then tenthsText num den
  else minutesText (roundedMinutes (num / den / 60)) (num / den % 60)

/-- What has no text: no number, and more than all numbers. -/
def notFinite : String := "cannot convert float NaN to integer"

def textOfDouble : Double → Except String String
  | .notANumber => .error notFinite
  | .infinite negative => if negative then .ok (tenthsText 0 1) else .error notFinite
  | .finite b =>
    let (num, den) := b.ratio
    .ok (if b.negative then tenthsText 0 1 else textOfRatio num den)

end Scaffold.Duration
