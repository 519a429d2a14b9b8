import ChatTune.Decimal.Binary

/-!
# A fixed number of decimals

The exact value of a number, rounded once to the wanted number of decimals.  A value that
lies half way between two decimals goes to the one whose last digit is even.  The sign stays
even where all digits are zero.
-/

set_option autoImplicit false

namespace ChatTune.Decimal

/-- The natural number nearest to a quotient; of two equally near ones the even one. -/
def roundDiv (numerator denominator : Nat) : Nat :=
  let quotient := numerator / denominator
  let remainder := numerator % denominator
  match compare (2 * remainder) denominator with
  | .lt => quotient
  | .gt => quotient + 1
  | .eq => quotient + quotient % 2

/-- A magnitude in units of the last decimal, rounded. -/
def Magnitude.inDecimals (magnitude : Magnitude) (places : Nat) : Nat :=
  roundDiv ((magnitude.mantissa * Nat.pow 10 places) <<< magnitude.exponent.toNat)
    (1 <<< (-magnitude.exponent).toNat)

/-- The digits of a whole number of units of the last decimal, with the point. -/
def withPoint (places units : Nat) : List Char :=
  let digits := Nat.toDigits 10 units
  let padded := List.replicate (places + 1 - digits.length) '0' ++ digits
  padded.take (padded.length - places) ++ '.' :: padded.drop (padded.length - places)

/-- The text of an exact value with a fixed number of decimals. -/
def Value.fixed (places : Nat) : Value → String
  | .notANumber => "NaN"
  | .infinite negative => if negative then "-inf" else "inf"
  | .finite negative magnitude =>
    let text := withPoint places (magnitude.inDecimals places)
    String.ofList (if negative then '-' :: text else text)

/-- The text of a number of 64 bits with a fixed number of decimals. -/
def fixed (places : Nat) (number : Float) : String := (ofDouble number).fixed places

end ChatTune.Decimal
