set_option autoImplicit false

/-!
# Rounding of quotients

Quotients of natural numbers rounded to the nearest whole number, a half going to the even
neighbour, and to the nearest number with a binary fraction of fifty-three digits.
-/
namespace Scaffold.Number

/-- `num / den` to the nearest whole number, halves to the even one. -/
def roundDiv (num den : Nat) : Nat :=
  let q := num / den
  let r := num % den
  if 2 * r < den then q
  else if den < 2 * r then q + 1
  else if q % 2 = 0 then q else q + 1

/-- `n * 2 ^ e` for a whole exponent, as a numerator and a denominator. -/
def scaled (n : Nat) (e : Int) : Nat × Nat :=
  if 0 ≤ e then (n * Nat.pow 2 e.toNat, 1) else (n, Nat.pow 2 (-e).toNat)

/-- The mantissa and binary exponent of the number of fifty-three binary digits next to
`num / den`, of two the one with the even mantissa. -/
def nearestBinary (num den : Nat) : Nat × Int :=
  if num = 0 then (0, 0)
  else
    let guess : Int := (52 : Int) + den.log2 - num.log2
    let at_ := fun (k : Int) => if 0 ≤ k then (num * Nat.pow 2 k.toNat, den) else (num, den * Nat.pow 2 (-k).toNat)
    let (a, b) := at_ guess
    let k := if Nat.pow 2 53 ≤ a / b then guess - 1 else if a / b < Nat.pow 2 52 then guess + 1 else guess
    let (a, b) := at_ k
    (roundDiv a b, -k)

end Scaffold.Number
