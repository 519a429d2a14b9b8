/-!
# Reading a decimal

A decimal text is a sign, digits with at most one point, and perhaps a power of ten; or a
word for what is not finite, in any case.  The number is the nearest one to the exact value.
-/

set_option autoImplicit false

namespace ChatTune.Decimal

/-- The value of a list of decimal digits. -/
def digitsValue (digits : List Char) : Nat :=
  digits.foldl (fun value digit => 10 * value + (digit.toNat - '0'.toNat)) 0

/-- `coefficient · 10 ^ exponent` as the nearest number of 64 bits.  Outside of the range in
which the exponent matters the answer is known without computing the power. -/
def nearest (coefficient : Nat) (exponent : Int) : Float :=
  let lead := exponent + (Nat.toDigits 10 coefficient).length
  if coefficient = 0 ∨ lead < -400 then 0
  else if 400 < lead then 1.0 / 0.0
  else Float.ofScientific coefficient (exponent < 0) exponent.natAbs

/-- A text without its sign, and whether the sign was a minus. -/
def signed (text : List Char) : Bool × List Char :=
  match text with
  | '-' :: rest => (true, rest)
  | '+' :: rest => (false, rest)
  | _ => (false, text)

/-- A whole number with an optional sign. -/
def readWhole? (text : List Char) : Option Int :=
  let (negative, digits) := signed text
  if digits ≠ [] ∧ digits.all Char.isDigit then
    some (if negative then -(digitsValue digits : Int) else digitsValue digits)
  else none

/-- The power of ten after the digits: absent, or an `e` and a whole number. -/
def readExponent? : List Char → Option Int
  | [] => some 0
  | mark :: rest => if mark = 'e' ∨ mark = 'E' then readWhole? rest else none

/-- A decimal without sign. -/
def readUnsigned? (text : List Char) : Option Float :=
  let whole := text.takeWhile Char.isDigit
  let (fraction, rest) := match text.dropWhile Char.isDigit with
    | '.' :: rest => (rest.takeWhile Char.isDigit, rest.dropWhile Char.isDigit)
    | rest => ([], rest)
  if whole = [] ∧ fraction = [] then none
  else
    (readExponent? rest).map fun exponent =>
      nearest (digitsValue (whole ++ fraction)) (exponent - fraction.length)

/-- A decimal text, if it is one. -/
def read? (text : List Char) : Option Float :=
  let (negative, rest) := signed text
  let word := rest.map Char.toLower
  let magnitude :=
    if word = "inf".toList ∨ word = "infinity".toList then some (1.0 / 0.0)
    else if word = "nan".toList then some (0.0 / 0.0)
    else readUnsigned? rest
  if negative then magnitude.map (-·) else magnitude

end ChatTune.Decimal
