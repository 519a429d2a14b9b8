import ChatTune.Decimal.Binary

/-!
# The shortest decimal that reads back

Reading a decimal gives the nearest floating number.  So a decimal reads back as a given
number exactly when it lies in the interval around it that ends half way to its two
neighbours; the ends belong to it when the mantissa is even, because a tie goes to the even
mantissa.

The search walks through the decimal grids from coarse to fine.  On each of them only the
two points next to the number can be the nearest ones inside the interval, and the first
grid with a point inside gives the fewest digits.  Of two points the nearer one is taken; an
exact tie is left to the caller.
-/

set_option autoImplicit false

namespace ChatTune.Decimal

/-- A decimal number `coefficient · 10 ^ exponent`. -/
structure Digits where
  coefficient : Nat
  exponent : Int
  deriving DecidableEq

/-- Which of two equally near decimals is taken. -/
inductive Tie where
  /-- The larger one. -/
  | up
  /-- The one whose last digit is even. -/
  | even

namespace Magnitude

/-- The two natural numbers that compare a grid of step `10 ^ grid` with quarters of the unit
of the mantissa: `point · fst` on the grid and `quarters · snd` in quarters. -/
def scales (magnitude : Magnitude) (grid : Int) : Nat × Nat :=
  let quarter := magnitude.exponent - 2
  (Nat.pow 10 grid.toNat <<< (-quarter).toNat, Nat.pow 10 (-grid).toNat <<< quarter.toNat)

/-- The nearest point of a grid that reads back as the number, if the grid has one. -/
def pointOn (magnitude : Magnitude) (tie : Tie) (grid : Int) : Option Nat :=
  let (step, quarter) := magnitude.scales grid
  let value := 4 * magnitude.mantissa * quarter
  let lowest := (4 * magnitude.mantissa - if magnitude.narrowBelow then 1 else 2) * quarter
  let highest := (4 * magnitude.mantissa + 2) * quarter
  let closed := magnitude.mantissa % 2 == 0
  let inside := fun point =>
    if closed then lowest ≤ point && point ≤ highest else lowest < point && point < highest
  let below := value / step
  let above := below + 1
  let choice :=
    match compare (value - below * step) (above * step - value) with
    | .lt => below
    | .gt => above
    | .eq =>
      match tie with
      | .up => above
      | .even => if below % 2 == 0 then below else above
  match inside (below * step), inside (above * step) with
  | true, true => some choice
  | true, false => some below
  | false, true => some above
  | false, false => none

/-- The first of several grids, from coarse to fine, that has a point for the number. -/
def search (magnitude : Magnitude) (tie : Tie) : Nat → Int → Digits
  | 0, grid => ⟨0, grid⟩
  | grids + 1, grid =>
    match magnitude.pointOn tie grid with
    | some point => ⟨point, grid⟩
    | none => magnitude.search tie grids (grid - 1)

/-- A grid whose step is at least as large as the number: `1233 / 4096` is slightly less than
the logarithm of two, and the two steps more cover the difference. -/
def coarseGrid (magnitude : Magnitude) : Int :=
  (magnitude.mantissa.log2 + magnitude.exponent) * 1233 / 4096 + 2

/-- **The shortest decimal that reads back as a number.**  Seventeen digits tell all numbers
apart and the search starts less than four grids too coarse. -/
def shortest (magnitude : Magnitude) (tie : Tie) : Digits :=
  if magnitude.mantissa = 0 then ⟨0, 0⟩
  else magnitude.search tie 24 magnitude.coarseGrid

end Magnitude

end ChatTune.Decimal
