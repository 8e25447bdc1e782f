import Scaffold.Number.Rounding

set_option autoImplicit false

/-!
# Floating-point numbers as exact fractions

A finite number of double precision is a whole mantissa times a power of two.
-/
namespace Scaffold.Number

structure Binary where
  negative : Bool
  mantissa : Nat
  exponent : Int
  deriving DecidableEq, Repr

inductive Double where
  | finite (b : Binary)
  | infinite (negative : Bool)
  | notANumber
  deriving DecidableEq, Repr

def Double.ofBits (w : UInt64) : Double :=
  let n := w.toNat
  let negative := n / Nat.pow 2 63 = 1
  let e : Nat := n / Nat.pow 2 52 % Nat.pow 2 11
  let f : Nat := n % Nat.pow 2 52
  if e = 2047 then if f = 0 then .infinite negative else .notANumber
  else if e = 0 then .finite ⟨negative, f, -1074⟩
  else .finite ⟨negative, f + Nat.pow 2 52, (e : Int) - 1075⟩

def Double.ofFloat (x : Float) : Double := .ofBits x.toBits

def Binary.ratio (b : Binary) : Nat × Nat := scaled b.mantissa b.exponent

def floatOfRatio (negative : Bool) (num den : Nat) : Float :=
  let (m, e) := nearestBinary num den
  let x :=
    if m = 0 then 0.0
    else if e + m.log2 < -1022 then
      -- below the normal range the last place is fixed
      let (a, b) := (num * Nat.pow 2 1074, den)
      Float.ofBits (UInt64.ofNat (roundDiv a b))
    else if e + m.log2 > 1023 then 1.0 / 0.0
    else
      let (m, e) := if m = Nat.pow 2 53 then (Nat.pow 2 52, e + 1) else (m, e)
      Float.ofBits (UInt64.ofNat (((e + 1075).toNat) * Nat.pow 2 52 + (m - Nat.pow 2 52)))
  if negative then -x else x

def floatOfInt (n : Int) : Float := floatOfRatio (n < 0) n.natAbs 1

def floatOfDecimal (digits : Nat) (exponent : Int) : Float :=
  if digits = 0 then 0.0
  else if exponent > 400 then 1.0 / 0.0
  else if exponent < -2000 then 0.0
  else if 0 ≤ exponent then floatOfRatio false (digits * Nat.pow 10 exponent.toNat) 1
  else floatOfRatio false digits (Nat.pow 10 (-exponent).toNat)

end Scaffold.Number
