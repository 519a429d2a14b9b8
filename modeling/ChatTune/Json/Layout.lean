import ChatTune.Decimal.Layout

/-!
# Numbers written in JSON

Floating numbers have the fewest digits that read back, always with a point or an exponent.
The exponent is signed and used only for numbers too small or too large to be written out;
where that begins depends on the precision.  What is not finite has no number.
-/

set_option autoImplicit false

namespace ChatTune.Json

/-- Numbers of 64 bits: without an exponent from `0.00001` on and below `1e16`. -/
def doubleLayout : Decimal.Layout where
  positional := some (-5, 15)
  pointZero := true
  exponentPlus := "+"
  tie := .even
  notANumber := "null"
  infinite := "null"
  negativeInfinite := "null"

/-- Numbers of 32 bits: without an exponent from `0.000001` on and below `1e13`. -/
def singleLayout : Decimal.Layout := { doubleLayout with positional := some (-6, 12) }

end ChatTune.Json
