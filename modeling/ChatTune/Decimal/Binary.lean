/-!
# Binary floating numbers, exactly

A floating number is stored as a pattern of bits: a sign, an exponent and a fraction.  Every
decimal form of it, the shortest as well as the rounded one, is a statement about its exact
value, so the pattern is taken apart here once and for both widths.  A finite number is
`mantissa · 2 ^ exponent` with integers throughout; nothing is rounded.
-/

set_option autoImplicit false

namespace ChatTune.Decimal

/-- The width of the two fields of a binary floating format. -/
structure Format where
  exponentBits : Nat
  fractionBits : Nat

/-- Numbers of 64 bits. -/
def Format.double : Format := ⟨11, 52⟩

/-- Numbers of 32 bits. -/
def Format.single : Format := ⟨8, 23⟩

/-- The exact magnitude of a finite number: `mantissa · 2 ^ exponent`. -/
structure Magnitude where
  mantissa : Nat
  exponent : Int
  /-- The next smaller number is only half as far away as the next larger one. -/
  narrowBelow : Bool

/-- What a pattern of bits stands for. -/
inductive Value where
  | notANumber
  | infinite (negative : Bool)
  | finite (negative : Bool) (magnitude : Magnitude)

namespace Format

/-- The largest stored exponent. -/
def largestExponent (format : Format) : Nat := (1 <<< format.exponentBits) - 1

/-- The amount by which stored exponents exceed the exponents of the mantissa's unit. -/
def offset (format : Format) : Int := format.largestExponent / 2 + format.fractionBits

/-- Takes a pattern of bits apart.  The largest exponent is kept for what is not finite, and
the smallest one for the numbers without a leading one bit. -/
def decode (format : Format) (bits : Nat) : Value :=
  let fraction := bits % (1 <<< format.fractionBits)
  let stored := (bits >>> format.fractionBits) % (1 <<< format.exponentBits)
  let negative := bits >>> (format.fractionBits + format.exponentBits) % 2 == 1
  if stored == format.largestExponent then
    if fraction == 0 then .infinite negative else .notANumber
  else if stored == 0 then
    .finite negative ⟨fraction, 1 - format.offset, false⟩
  else
    .finite negative
      ⟨(1 <<< format.fractionBits) + fraction, stored - format.offset, fraction == 0 && stored != 1⟩

end Format

/-- The exact value of a number of 64 bits. -/
def ofDouble (number : Float) : Value := Format.double.decode number.toBits.toNat

/-- The exact value of a number of 32 bits. -/
def ofSingle (number : Float32) : Value := Format.single.decode number.toBits.toNat

end ChatTune.Decimal
