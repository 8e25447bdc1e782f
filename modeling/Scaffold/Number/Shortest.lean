import Scaffold.Number.Binary

set_option autoImplicit false

/-!
# The shortest decimal that reads back

Of the decimals that round to a given number of double precision, one with the fewest digits is
written, and of those the nearest. Every number in the open interval half a place around the
number rounds to it, and the two ends do so if the mantissa is even.
-/
namespace Scaffold.Number

/-- The digits `0.d₁d₂…` times ten to the power `point`. -/
structure Decimal where
  digits : List Nat
  point : Int
  deriving DecidableEq, Repr

private def digitCount (n : Nat) : Nat := (Nat.toDigits 10 n).length

def magnitude (num den : Nat) : Int :=
  if den ≤ num then digitCount (num / den)
  else 1 - digitCount ((den + num - 1) / num - 1)

def compareScaled (c : Nat) (k : Int) (num den : Nat) : Ordering :=
  if 0 ≤ k then compare (c * Nat.pow 10 k.toNat * den) num
  else compare (c * den) (num * Nat.pow 10 (-k).toNat)

structure Interval where
  low : Nat
  value : Nat
  high : Nat
  den : Nat
  closed : Bool

def Interval.holds (i : Interval) (c : Nat) (k : Int) : Bool :=
  match compareScaled c k i.low i.den, compareScaled c k i.high i.den with
  | .gt, .lt => true
  | .eq, _ => i.closed
  | _, .eq => i.closed
  | _, _ => false

def Interval.around (b : Binary) : Interval :=
  let down := if b.mantissa = Nat.pow 2 52 && b.exponent > -1074 then 1 else 2
  let (unit, den) := scaled 1 (b.exponent - 2)
  ⟨(4 * b.mantissa - down) * unit, 4 * b.mantissa * unit, (4 * b.mantissa + 2) * unit, den,
    b.mantissa % 2 = 0⟩

def Interval.point? (i : Interval) (p : Int) (n : Nat) : Option (Nat × Int) :=
  let k := p - n
  let a := if 0 ≤ k then i.value / (i.den * Nat.pow 10 k.toNat) else i.value * Nat.pow 10 (-k).toNat / i.den
  match i.holds a k, i.holds (a + 1) k with
  | false, false => none
  | true, false => some (a, k)
  | false, true => some (a + 1, k)
  | true, true =>
    match compareScaled (2 * a + 1) k (2 * i.value) i.den with
    | .gt => some (a, k)
    | .lt => some (a + 1, k)
    | .eq => some (if a % 2 = 0 then a else a + 1, k)

def shortest (b : Binary) : Decimal :=
  let i := Interval.around b
  let p := magnitude i.value i.den
  match (List.range 17).findSome? fun n => i.point? p (n + 1) with
  | some (c, k) =>
    let ds := (Nat.toDigits 10 c).map fun d => d.toNat - 48
    let kept := (ds.reverse.dropWhile (· = 0)).reverse
    ⟨kept, ds.length + k⟩
  | none => ⟨[], 0⟩

structure Layout where
  least : Int
  most : Int
  exponentDigits : Nat

def valueLayout : Layout := ⟨-4, 16, 2⟩

private def digitText (ds : List Nat) : String := String.ofList (ds.map fun d => Char.ofNat (48 + d))

private def zeroText (n : Nat) : String := String.ofList (List.replicate n '0')

def Layout.text (l : Layout) (d : Decimal) : String :=
  let e := d.point - 1
  let n : Int := d.digits.length
  if l.least ≤ e && e < l.most then
    if d.point ≤ 0 then "0." ++ zeroText (-d.point).toNat ++ digitText d.digits
    else if n ≤ d.point then digitText d.digits ++ zeroText (d.point - n).toNat ++ ".0"
    else
      digitText (d.digits.take d.point.toNat) ++ "." ++ digitText (d.digits.drop d.point.toNat)
  else
    let exponent := toString e.natAbs
    digitText (d.digits.take 1) ++ (if n = 1 then "" else "." ++ digitText (d.digits.drop 1)) ++
      "e" ++ (if e < 0 then "-" else "+") ++ zeroText (l.exponentDigits - exponent.length) ++
      exponent

def Double.text : Double → String
  | .notANumber => "nan"
  | .infinite negative => if negative then "-inf" else "inf"
  | .finite b =>
    (if b.negative then "-" else "") ++
      (if b.mantissa = 0 then "0.0" else valueLayout.text (shortest b))

def floatText (x : Float) : String := (Double.ofFloat x).text

end Scaffold.Number
