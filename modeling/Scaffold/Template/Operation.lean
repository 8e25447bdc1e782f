import Scaffold.Number.Limit
import Scaffold.Template.Fault
import Scaffold.Template.Tree
import Scaffold.Text.Search

set_option autoImplicit false

/-!
# Operations on values

Arithmetic is exact on whole numbers and of double precision otherwise; division and remainder go
to the floor. Texts, lists and tuples can be added and repeated. An absent value can be neither
computed with nor compared; a lenient one can be printed, counted and tested.
-/
namespace Scaffold.Template
open Number

def wholeOf? : Value → Option Int
  | .bool b => some (if b then 1 else 0)
  | .int n => some n
  | _ => none

def truth : Value → Outcome Bool
  | .absent true cause => useOf cause
  | v => .ok v.isTrue

def itemsOf (v : Value) : Outcome (List Value) :=
  match v with
  | .absent true cause => useOf cause
  | .loop items index _ => .ok (items.drop (index + 1))
  | v =>
    match v.items? with
    | some items => .ok items
    | none => misused .wrongType

mutual
def hasLongNumber : Value → Bool
  | .int n => exceedsLimit n
  | .list items | .tuple items | .view _ _ items => anyLongNumber items
  | .dict entries => anyLongEntry entries
  | _ => false

def anyLongNumber : List Value → Bool
  | [] => false
  | v :: vs => hasLongNumber v || anyLongNumber vs

def anyLongEntry : List (Value × Value) → Bool
  | [] => false
  | (k, v) :: es => hasLongNumber k || hasLongNumber v || anyLongEntry es
end

def textOf (v : Value) : Outcome String :=
  match v with
  | .absent true cause => useOf cause
  | v => if hasLongNumber v then misused (.badValue tooLongToWrite) else .ok v.shown

/-! ### Arithmetic -/

/-- A fault if one of two operands is absent, else that they do not go together. -/
def unfit {α : Type} (a b : Value) : Outcome α :=
  match a, b with
  | .absent _ cause, _ => useOf cause
  | _, .absent _ cause => useOf cause
  | _, _ => misused .wrongType

def toDouble (n : Int) : Outcome Float :=
  let x := floatOfInt n
  if x.isInf then misused .overflow else .ok x

inductive Operands where
  | whole (a b : Int)
  | doubles (a b : Float)

def operands? (a b : Value) : Option (Outcome Operands) :=
  match wholeOf? a, wholeOf? b, a, b with
  | some m, some n, _, _ => some (.ok (.whole m n))
  | some m, none, _, .float y => some ((toDouble m).map (.doubles · y))
  | none, some n, .float x, _ => some ((toDouble n).map (.doubles x ·))
  | none, none, .float x, .float y => some (.ok (.doubles x y))
  | _, _, _, _ => none

/-- The exact remainder of two numbers towards zero, with the sign of the first. -/
def remainder (x y : Float) : Float :=
  match Double.ofFloat x, Double.ofFloat y with
  | .finite a, .finite b =>
    let e := min a.exponent b.exponent
    let m := a.mantissa * Nat.pow 2 (a.exponent - e).toNat
    let n := b.mantissa * Nat.pow 2 (b.exponent - e).toNat
    let (num, den) := scaled (m % n) e
    floatOfRatio a.negative num den
  | .finite _, .infinite _ => x
  | _, _ => 0.0 / 0.0

private def isNegative (x : Float) : Bool := x.toBits ≥ 0x8000000000000000

private def withSign (x y : Float) : Float := if isNegative y then -x.abs else x.abs

/-- The quotient to the floor and the remainder with the sign of the divisor. -/
def floorDivide (x y : Float) : Float × Float :=
  let r := remainder x y
  let quotient := (x - r) / y
  let (quotient, r) :=
    if r != 0.0 then
      if (y < 0.0) != (r < 0.0) then (quotient - 1.0, r + y) else (quotient, r)
    else (quotient, withSign 0.0 y)
  let whole :=
    if quotient != 0.0 then
      let f := quotient.floor
      if quotient - f > 0.5 then f + 1.0 else f
    else withSign 0.0 (x / y)
  (whole, r)

def doublePower (x y : Float) : Outcome Value :=
  if x == 0.0 && y < 0.0 then misused .divisionByZero
  else if x < 0.0 && y.floor != y && !y.isInf then misused .wrongType
  else
    let p := x.pow y
    if p.isInf && !x.isInf && !y.isInf then misused .overflow else .ok (.float p)

def wholeArithmetic (op : Arithmetic) (m n : Int) : Outcome Value :=
  match op with
  | .add => .ok (.int (m + n))
  | .sub => .ok (.int (m - n))
  | .mul => .ok (.int (m * n))
  | .div =>
    if n = 0 then misused .divisionByZero
    else
      let x := floatOfRatio ((m < 0) != (n < 0)) m.natAbs n.natAbs
      if x.isInf then misused .overflow else .ok (.float x)
  | .floorDiv => if n = 0 then misused .divisionByZero else .ok (.int (m.fdiv n))
  | .mod => if n = 0 then misused .divisionByZero else .ok (.int (m.fmod n))
  | .pow =>
    if 0 ≤ n then .ok (.int (m.pow n.toNat))
    else do doublePower (← toDouble m) (← toDouble n)

def doubleArithmetic (op : Arithmetic) (x y : Float) : Outcome Value :=
  match op with
  | .add => .ok (.float (x + y))
  | .sub => .ok (.float (x - y))
  | .mul => .ok (.float (x * y))
  | .div => if y == 0.0 then misused .divisionByZero else .ok (.float (x / y))
  | .floorDiv => if y == 0.0 then misused .divisionByZero else .ok (.float (floorDivide x y).1)
  | .mod => if y == 0.0 then misused .divisionByZero else .ok (.float (floorDivide x y).2)
  | .pow => doublePower x y

def repeated? (v : Value) (n : Int) : Option Value :=
  match v with
  | .text s => some (.text (String.join (List.replicate n.toNat s)))
  | .list items => some (.list (List.replicate n.toNat items).flatten)
  | .tuple items => some (.tuple (List.replicate n.toNat items).flatten)
  | _ => none

def sequenceArithmetic? (op : Arithmetic) (a b : Value) : Option Value :=
  match op, a, b with
  | .add, .text s, .text t => some (.text (s ++ t))
  | .add, .list s, .list t => some (.list (s ++ t))
  | .add, .tuple s, .tuple t => some (.tuple (s ++ t))
  | .mul, a, b =>
    match wholeOf? a, wholeOf? b with
    | none, some n => repeated? a n
    | some n, none => repeated? b n
    | _, _ => none
  | _, _, _ => none

def arithmetic (op : Arithmetic) (a b : Value) : Outcome Value :=
  match operands? a b with
  | some operands => do
    match ← operands with
    | .whole m n => wholeArithmetic op m n
    | .doubles x y => doubleArithmetic op x y
  | none =>
    match sequenceArithmetic? op a b with
    | some v => .ok v
    | none => unfit a b

def negative (v : Value) : Outcome Value :=
  match wholeOf? v, v with
  | some n, _ => .ok (.int (-n))
  | none, .float x => .ok (.float (-x))
  | none, v => unfit v v

def positive (v : Value) : Outcome Value :=
  match wholeOf? v, v with
  | some n, _ => .ok (.int n)
  | none, .float x => .ok (.float x)
  | none, v => unfit v v

/-! ### Comparison -/

/-- Whether two values are equal; a strict absence cannot be compared. -/
def equal (a b : Value) : Outcome Bool :=
  match a, b with
  | .absent true cause, _ => useOf cause
  | _, .absent true cause => useOf cause
  | a, b => .ok (a.same b)

def less (a b : Value) : Outcome Bool :=
  match a.before? b with
  | some r => .ok r
  | none => unfit a b

def anyEqual (v : Value) : List Value → Outcome Bool
  | [] => .ok false
  | w :: ws => do if ← equal w v then return true else anyEqual v ws

def contains (whole part : Value) : Outcome Bool :=
  match whole, part with
  | .absent true cause, _ => useOf cause
  | .text s, .text t => .ok (Text.contains t.toList s.toList)
  | .text _, _ => misused .wrongType
  | .dict _, .absent true cause => useOf cause
  | .dict entries, key =>
    if key.isKey then .ok (Value.lookup? entries key).isSome else misused .wrongType
  | whole, part => do anyEqual part (← itemsOf whole)

def compare (op : Comparison) (a b : Value) : Outcome Bool :=
  match op with
  | .eq => equal a b
  | .ne => do return !(← equal a b)
  | .lt => less a b
  | .gt => less b a
  | .le => do return (← less a b) || a.same b
  | .ge => do return (← less b a) || a.same b
  | .isIn => contains b a
  | .notIn => do return !(← contains b a)

end Scaffold.Template
