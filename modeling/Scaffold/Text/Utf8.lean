set_option autoImplicit false

/-!
# Texts of files

Bytes are read as UTF-8; the first sequence that is none is reported with its place and with what
is wrong about it. Line ends of all three kinds are read as one.
-/
namespace Scaffold.Text

inductive DecodeCause where
  | badStart
  | badContinuation
  | truncated
  deriving DecidableEq, Repr

/-- The bytes from `start` on, `size` of them, that are no character; `byte` is the first. -/
structure DecodeError where
  start : Nat
  size : Nat
  byte : UInt8
  cause : DecodeCause
  deriving DecidableEq, Repr

def DecodeCause.text : DecodeCause → String
  | .badStart => "invalid start byte"
  | .badContinuation => "invalid continuation byte"
  | .truncated => "unexpected end of data"

def DecodeError.message (e : DecodeError) : String :=
  let place :=
    if e.size = 1 then
      let hex := Nat.toDigits 16 e.byte.toNat
      "byte 0x" ++ String.ofList (List.replicate (2 - hex.length) '0' ++ hex) ++
        " in position " ++ toString e.start
    else
      "bytes in position " ++ toString e.start ++ "-" ++ toString (e.start + e.size - 1)
  "'utf-8' codec can't decode " ++ place ++ ": " ++ e.cause.text

private def isTail (b : UInt8) : Bool := 0x80 ≤ b && b < 0xC0

private def bits (b : UInt8) (mask : Nat) : Nat := b.toNat % mask

private def secondOk (a b : UInt8) : Bool :=
  isTail b && !(a = 0xE0 && b < 0xA0) && !(a = 0xED && 0xA0 ≤ b) && !(a = 0xF0 && b < 0x90) &&
    !(a = 0xF4 && 0x90 ≤ b)

/-- One character and the number of its bytes, or how many bytes are wrong and why. -/
def decodeStep : List UInt8 → Except (Nat × DecodeCause) (Char × Nat)
  | [] => .error (0, .truncated)
  | a :: r =>
    if a < 0x80 then .ok (Char.ofNat a.toNat, 1)
    else if a < 0xC2 then .error (1, .badStart)
    else if a < 0xE0 then
      match r with
      | [] => .error (1, .truncated)
      | b :: _ =>
        if isTail b then .ok (Char.ofNat (bits a 32 * 64 + bits b 64), 2)
        else .error (1, .badContinuation)
    else if a < 0xF0 then
      match r with
      | [] => .error (1, .truncated)
      | b :: r =>
        if !secondOk a b then .error (1, .badContinuation)
        else
          match r with
          | [] => .error (2, .truncated)
          | c :: _ =>
            if isTail c then
              .ok (Char.ofNat ((bits a 16 * 64 + bits b 64) * 64 + bits c 64), 3)
            else .error (2, .badContinuation)
    else if a < 0xF5 then
      match r with
      | [] => .error (1, .truncated)
      | b :: r =>
        if !secondOk a b then .error (1, .badContinuation)
        else
          match r with
          | [] => .error (2, .truncated)
          | c :: r =>
            if !isTail c then .error (2, .badContinuation)
            else
              match r with
              | [] => .error (3, .truncated)
              | d :: _ =>
                if isTail d then
                  .ok (Char.ofNat (((bits a 8 * 64 + bits b 64) * 64 + bits c 64) * 64
                    + bits d 64), 4)
                else .error (3, .badContinuation)
    else .error (1, .badStart)

/-- Reads bytes from position `at` on; `skip` bytes belong to the character read last. -/
def decodeFrom (pos skip : Nat) (acc : List Char) :
    List UInt8 → Except DecodeError (List Char)
  | [] => .ok acc.reverse
  | b :: r =>
    match skip with
    | k + 1 => decodeFrom (pos + 1) k acc r
    | 0 =>
      match decodeStep (b :: r) with
      | .ok (c, n) => decodeFrom (pos + 1) (n - 1) (c :: acc) r
      | .error (n, cause) => .error ⟨pos, n, b, cause⟩

def decode (bytes : ByteArray) : Except DecodeError String :=
  (decodeFrom 0 0 [] bytes.toList).map String.ofList

/-- Carriage returns, alone or before a line feed, become line feeds. -/
def unifyLineEnds : List Char → List Char
  | [] => []
  | '\r' :: '\n' :: r => '\n' :: unifyLineEnds r
  | c :: r => (if c = '\r' then '\n' else c) :: unifyLineEnds r

def ofBytes (bytes : ByteArray) : Except DecodeError String :=
  (decode bytes).map fun s => String.ofList (unifyLineEnds s.toList)

end Scaffold.Text
