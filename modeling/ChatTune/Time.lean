/-!
# Time values

Composing a score only adds, subtracts and compares times, and takes whole multiples of the
length of a note.  `Time` names these operations, so that one definition of the composing
rules runs on floating seconds and can be read on exact rational numbers as well: a law of
the exact reading speaks of the rules that run, without their rounding.
-/

set_option autoImplicit false

namespace ChatTune

/-- What composing asks of its time values. -/
class Time (τ : Type) extends Zero τ, Add τ, Sub τ, LE τ, LT τ where
  decidableLE : DecidableLE τ
  decidableLT : DecidableLT τ
  /-- A whole multiple of a length. -/
  times : UInt32 → τ → τ
  /-- The sum of no lengths. -/
  emptySum : τ

attribute [reducible, instance] Time.decidableLE Time.decidableLT

/-- Floating seconds.  The sum of nothing is the negative zero, which leaves every length
that is added to it as it is, the sign of a zero included. -/
instance : Time Float where
  decidableLE := inferInstance
  decidableLT := inferInstance
  times units length := length * units.toFloat
  emptySum := -0.0

/-- Exact seconds. -/
instance : Time Rat where
  toZero := ⟨0⟩
  decidableLE := inferInstance
  decidableLT := inferInstance
  times units length := length * (units.toNat : Rat)
  emptySum := 0

end ChatTune
