import ChatTune.Decimal.Shortest

/-!
# Layouts of decimal numbers

A number of fewest digits can be laid out in several ways: with the point among the digits or
with an exponent, with or without a `.0` on whole numbers, and with various words for what is
not finite.  A `Layout` records these decisions; the modules that write numbers each hold one.
-/

set_option autoImplicit false

namespace ChatTune.Decimal

/-- How a number of fewest digits is written. -/
structure Layout where
  /-- The decimal exponents that are written without an exponent; `none` for all of them. -/
  positional : Option (Int × Int)
  /-- Whether a whole number written without exponent ends in `.0`. -/
  pointZero : Bool
  /-- What stands before an exponent that is not negative. -/
  exponentPlus : String
  tie : Tie
  notANumber : String
  infinite : String
  negativeInfinite : String

/-- The digits of a natural number. -/
def naturalDigits (number : Nat) : List Char := Nat.toDigits 10 number

/-- The digits with the point where the exponent puts it, without an exponent. -/
def placed (pointZero : Bool) (digits : List Char) (exponent : Int) : List Char :=
  match exponent with
  | .ofNat zeros =>
    digits ++ List.replicate zeros '0' ++ if pointZero then ['.', '0'] else []
  | .negSucc before =>
    let decimals := before + 1
    if decimals < digits.length then
      digits.take (digits.length - decimals) ++ '.' :: digits.drop (digits.length - decimals)
    else '0' :: '.' :: List.replicate (decimals - digits.length) '0' ++ digits

/-- The digits with the point after the first one, and the exponent that puts it right. -/
def scientific (plus : String) (digits : List Char) (exponent : Int) : List Char :=
  let lead := exponent + (digits.length - 1 : Nat)
  let fraction := match digits.tail with
    | [] => []
    | rest => '.' :: rest
  digits.take 1 ++ fraction ++ 'e' :: (if 0 ≤ lead then plus.toList else ['-']) ++
    naturalDigits lead.natAbs

namespace Layout

/-- A decimal number without sign. -/
def digits (layout : Layout) (number : Digits) : List Char :=
  let written := naturalDigits number.coefficient
  let lead := number.exponent + (written.length - 1 : Nat)
  match layout.positional with
  | some (least, most) =>
    if number.coefficient = 0 ∨ (least ≤ lead ∧ lead ≤ most) then
      placed layout.pointZero written number.exponent
    else scientific layout.exponentPlus written number.exponent
  | none => placed layout.pointZero written number.exponent

/-- The text of an exact value. -/
def value (layout : Layout) : Value → String
  | .notANumber => layout.notANumber
  | .infinite negative => if negative then layout.negativeInfinite else layout.infinite
  | .finite negative magnitude =>
    let text := layout.digits (magnitude.shortest layout.tie)
    String.ofList (if negative then '-' :: text else text)

/-- The text of a number of 64 bits. -/
def double (layout : Layout) (number : Float) : String := layout.value (ofDouble number)

/-- The text of a number of 32 bits. -/
def single (layout : Layout) (number : Float32) : String := layout.value (ofSingle number)

end Layout

end ChatTune.Decimal
