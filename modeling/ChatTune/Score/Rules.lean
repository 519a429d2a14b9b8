import ChatTune.Decimal.Layout
import ChatTune.Time

/-!
# Rules of composing

The lengths, limits and bounds under which commands become notes.  Rules can be set freely;
a composition runs under any of them.  Rules that a player sets are first examined for
defects, in a fixed order, and the first defect is reported (`Rules.defect?`).
-/

set_option autoImplicit false

namespace ChatTune

/-- The rules under which commands become notes. -/
structure Rules (τ : Type) where
  /-- The length of a note, and the unit by which a sustain extends it. -/
  noteLength : τ
  /-- What a shortening takes off. -/
  shortenStep : τ
  /-- A note attacks again once it is sustained more often than this. -/
  sustainLimit : UInt32
  /-- How many note lengths the clock goes back when a note attacks again. -/
  rewindUnits : UInt32
  highestOctave : Int32
  lowestOctave : Int32
  /-- The total duration at which a score becomes too long. -/
  longestTotal : τ
  /-- Whether a shortening stops at an empty duration. -/
  clampShortening : Bool

namespace Rules

/-- The rules that hold where nothing else is set. -/
def default : Rules Float where
  noteLength := 0.3
  shortenStep := 0.08
  sustainLimit := 7
  rewindUnits := 7
  highestOctave := 7
  lowestOctave := 0
  longestTotal := 10.0
  clampShortening := true

/-- What can be wrong with rules, with the values that are wrong. -/
inductive Defect (τ : Type) where
  | noteLength (length : τ)
  | shortenStep (length : τ)
  | longestTotal (length : τ)
  | octaves (lowest highest : Int32)

section Examination

variable {τ : Type} [Time τ]

/-- The first defect of the rules.  A length has to compare as wanted, so a length that
compares with nothing is a defect. -/
def defect? (rules : Rules τ) : Option (Defect τ) :=
  if ¬ 0 < rules.noteLength then some (.noteLength rules.noteLength)
  else if ¬ 0 ≤ rules.shortenStep then some (.shortenStep rules.shortenStep)
  else if ¬ 0 < rules.longestTotal then some (.longestTotal rules.longestTotal)
  else if rules.highestOctave < rules.lowestOctave then
    some (.octaves rules.lowestOctave rules.highestOctave)
  else none

/-- **Rules without a defect** are those with a positive length, a step that is not negative,
a positive limit and bounds in order. -/
theorem defect?_eq_none_iff (rules : Rules τ) :
    rules.defect? = none ↔
      0 < rules.noteLength ∧ 0 ≤ rules.shortenStep ∧ 0 < rules.longestTotal ∧
        ¬ rules.highestOctave < rules.lowestOctave := by
  unfold defect?
  grind

end Examination

/-- Lengths in messages: the fewest digits, never with an exponent. -/
def lengthLayout : Decimal.Layout where
  positional := none
  pointZero := false
  exponentPlus := ""
  tie := .up
  notANumber := "NaN"
  infinite := "inf"
  negativeInfinite := "-inf"

/-- A defect in words. -/
def Defect.message : Defect Float → String
  | .noteLength length => "note_length must be positive: " ++ lengthLayout.double length
  | .shortenStep length => "shorten_step must not be negative: " ++ lengthLayout.double length
  | .longestTotal length => "max_total_length must be positive: " ++ lengthLayout.double length
  | .octaves lowest highest =>
    "min_octave " ++ toString lowest.toInt ++ " exceeds max_octave " ++ toString highest.toInt

end Rules

end ChatTune
