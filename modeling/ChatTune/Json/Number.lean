import ChatTune.Json.Text

/-!
# Numbers of JSON

A number is written with digits, perhaps a fraction and an exponent.  `readLiteral` takes its
parts; `Literal.value` gives its value.  Whole numbers of 64 bits are exact.  All others are
computed in floating arithmetic: the leading digits as a whole number of 64 bits, moved by one
multiplication or division by a power of ten, or by several where the power is too large.
Their last bit therefore depends on this order of work.

Main statement: every floating value that is read is finite (`finite?_eq_some`).
-/

set_option autoImplicit false

namespace ChatTune.Json

/-- The value of a number. -/
inductive Number where
  | natural (value : Nat)
  | negative (value : Int)
  | floating (value : Float)

/-- The parts of a number as it is written. -/
structure Literal where
  negative : Bool
  whole : List UInt8
  fraction : List UInt8
  /-- Whether the exponent is negative, and its digits. -/
  exponent : Option (Bool × List UInt8)

/-! ## The grammar -/

/-- A sign in front of an exponent, and the rest. -/
def readSign (bytes : List UInt8) : Bool × List UInt8 :=
  match bytes with
  | byte :: rest =>
    if byte = Byte.minus then (true, rest)
    else if byte = Byte.plus then (false, rest)
    else (false, bytes)
  | [] => (false, [])

/-- One or more digits, and the rest; or the place where a digit is missing. -/
def readDigits (bytes : List UInt8) : Except (List UInt8) (List UInt8 × List UInt8) :=
  match bytes.takeWhile Byte.isDigit with
  | [] => .error bytes
  | digits => .ok (digits, bytes.dropWhile Byte.isDigit)

/-- A fraction, if there is one. -/
def readFraction (bytes : List UInt8) : Except (List UInt8) (List UInt8 × List UInt8) :=
  match bytes with
  | byte :: rest => if byte = Byte.point then readDigits rest else .ok ([], bytes)
  | [] => .ok ([], [])

/-- An exponent, if there is one. -/
def readExponent (bytes : List UInt8) :
    Except (List UInt8) (Option (Bool × List UInt8) × List UInt8) :=
  match bytes with
  | byte :: rest =>
    if byte = Byte.of 'e' ∨ byte = Byte.of 'E' then do
      let (negative, rest) := readSign rest
      let (digits, rest) ← readDigits rest
      return (some (negative, digits), rest)
    else .ok (none, bytes)
  | [] => .ok (none, [])

/-- **The parts of a number,** and what follows it; or the place where the grammar is broken.
A whole part of several digits does not begin with a zero. -/
def readLiteral (bytes : List UInt8) : Except (List UInt8) (Literal × List UInt8) := do
  let (negative, rest) := match bytes with
    | byte :: rest => if byte = Byte.minus then (true, rest) else (false, bytes)
    | [] => (false, [])
  let (whole, rest) ← readDigits rest
  if whole.length ≠ 1 ∧ whole.head? = some Byte.zero then .error whole
  let (fraction, rest) ← readFraction rest
  let (exponent, rest) ← readExponent rest
  return (⟨negative, whole, fraction, exponent⟩, rest)

/-! ## The value -/

/-- The value of a digit. -/
def digitValue (byte : UInt8) : Nat := byte.toNat - '0'.toNat

/-- Digits taken into a number of limited size, from the left: the number, and the digits that
came when it was full. -/
def gather (limit : Nat) (number : Nat) : List UInt8 → Nat × List UInt8
  | [] => (number, [])
  | byte :: rest =>
    let next := 10 * number + digitValue byte
    if next ≤ limit then gather limit next rest else (number, byte :: rest)

/-- The largest significand. -/
def largestSignificand : Nat := UInt64.size - 1

/-- The largest exponent that is computed with. -/
def largestExponent : Nat := Int32.maxValue.toInt.toNat

/-- A number that has a value: neither infinite nor undefined. -/
def finite? (number : Float) : Option Float := if number.isFinite then some number else none

/-- **What is read is finite.** -/
theorem finite?_eq_some {number value : Float} (found : finite? number = some value) :
    value.isFinite = true := by
  unfold finite? at found
  split at found
  · next finite => exact Option.some.inj found ▸ finite
  · exact absurd found (by simp)

/-- A power of ten. -/
def powerOfTen (exponent : Nat) : Float := Float.ofScientific 1 false exponent

/-- The largest exponent with a power of ten. -/
def largestPower : Nat := 308

/-- A number times a power of ten.  A power that is too small is divided out step by step; a
few steps leave nothing of any number. -/
def scale : Nat → Float → Int → Except Fault Float
  | 0, _, _ => .error .numberOutOfRange
  | steps + 1, number, exponent =>
    if exponent.natAbs ≤ largestPower then
      let scaled :=
        if 0 ≤ exponent then number * powerOfTen exponent.natAbs
        else number / powerOfTen exponent.natAbs
      match finite? scaled with
      | some value => .ok value
      | none => .error .numberOutOfRange
    else if number == 0 then .ok 0
    else if 0 ≤ exponent then .error .numberOutOfRange
    else scale steps (number / powerOfTen largestPower) (exponent + largestPower)

/-- A floating number of a sign, a significand and an exponent. -/
def floating (negative : Bool) (significand : Nat) (exponent : Int) : Except Fault Number := do
  let number ← scale 8 (Float.ofNat significand) exponent
  return .floating (if negative then -number else number)

/-- A whole number.  Below the range of 64 bits, and for the negative zero, it is floating. -/
def wholeNumber (negative : Bool) (significand : Nat) : Except Fault Number :=
  if !negative then .ok (.natural significand)
  else if significand = 0 ∨ UInt64.size / 2 < significand then floating true significand 0
  else .ok (.negative (-significand))

/-- **The value of a number.** -/
def Literal.value (literal : Literal) : Except Fault Number :=
  let (significand, dropped) := gather largestSignificand 0 literal.whole
  if dropped.isEmpty && literal.fraction.isEmpty && literal.exponent.isNone then
    wholeNumber literal.negative significand
  else
    let (significand, ignored) := gather largestSignificand significand literal.fraction
    let exponent : Int :=
      (dropped.length : Int) - (literal.fraction.length - ignored.length : Nat)
    match literal.exponent with
    | none => floating literal.negative significand exponent
    | some (negative, digits) =>
      let (written, excess) := gather largestExponent 0 digits
      if excess.isEmpty then
        floating literal.negative significand
          (if negative then exponent - written else exponent + written)
      else if significand ≠ 0 ∧ !negative then .error .numberOutOfRange
      else floating literal.negative 0 0

end ChatTune.Json
