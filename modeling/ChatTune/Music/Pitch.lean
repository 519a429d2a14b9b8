import ChatTune.Notation.Command
import ChatTune.Overflow

/-!
# Pitches

A pitch is one of four letters in an octave, with two marks that can be set independently;
a pitch that is both sharp and flat sounds like one that is neither.  Pitches are numbered by
semitones, twelve to the octave, with the `A` of the fourth octave at 69 and at 440 Hz in
equal temperament.

Octaves have 32 bits.  Every intermediate result of the numbering is checked, in the order
in which it is written here.
-/

set_option autoImplicit false

namespace ChatTune

/-- The letters that the instrument can sound. -/
inductive Letter where
  | d
  | f
  | a
  | b
  deriving DecidableEq, Inhabited

namespace Letter

/-- Semitones above the `C` of the same octave. -/
def semitone : Letter → Int32
  | d => 2
  | f => 5
  | a => 9
  | b => 11

/-- The name of a letter. -/
def name : Letter → String
  | d => "D"
  | f => "F"
  | a => "A"
  | b => "B"

end Letter

/-- A sounding pitch. -/
structure Pitch where
  letter : Letter
  octave : Int32
  sharp : Bool
  flat : Bool
  deriving DecidableEq, Inhabited

namespace Pitch

/-- A pitch without marks. -/
def plain (letter : Letter) (octave : Int32) : Pitch := ⟨letter, octave, false, false⟩

/-- The name of a pitch: its letter, its marks and its octave, as in `D#5`. -/
def name (pitch : Pitch) : String :=
  pitch.letter.name ++ (if pitch.sharp then "#" else "") ++ (if pitch.flat then "b" else "") ++
    toString pitch.octave.toInt

/-- One octave up, but not above a highest octave; from above it, straight down to it. -/
def raise (highest : Int32) (pitch : Pitch) : Except Overflow Pitch := do
  let octave ← Checked.add pitch.octave 1
  return { pitch with octave := if octave ≤ highest then octave else highest }

/-- One octave down, but not below a lowest octave; from below it, straight up to it. -/
def lower (lowest : Int32) (pitch : Pitch) : Except Overflow Pitch := do
  let octave ← Checked.subtract pitch.octave 1
  return { pitch with octave := if lowest ≤ octave then octave else lowest }

/-- The pitch with its sharp mark set. -/
def sharpened (pitch : Pitch) : Pitch := { pitch with sharp := true }

/-- The pitch with its flat mark set. -/
def flattened (pitch : Pitch) : Pitch := { pitch with flat := true }

/-- The number of a pitch in semitones. -/
def number (pitch : Pitch) : Except Overflow Int32 := do
  let octave ← Checked.add pitch.octave 1
  let start ← Checked.multiply 12 octave
  let natural ← Checked.add start pitch.letter.semitone
  let raised ← Checked.add natural (if pitch.sharp then 1 else 0)
  Checked.subtract raised (if pitch.flat then 1 else 0)

/-- The number of the pitch that everything is tuned to. -/
def tuningNumber : Int32 := 69

/-- The frequency of the pitch that everything is tuned to, in Hz. -/
def tuningFrequency : Float32 := 440

/-- The frequency of a pitch in Hz, in equal temperament. -/
def frequency (pitch : Pitch) : Except Overflow Float32 := do
  let semitones ← Checked.subtract (← pitch.number) tuningNumber
  return tuningFrequency * Float32.pow 2 (semitones.toFloat32 / 12)

end Pitch

/-- The pitch that a button sounds. -/
def Button.pitch : Button → Pitch
  | .d => Pitch.plain .d 4
  | .b => Pitch.plain .b 4
  | .a => Pitch.plain .a 4
  | .f => Pitch.plain .f 4
  | .highD => Pitch.plain .d 5

end ChatTune
