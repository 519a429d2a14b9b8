import ChatTune.Music.Pitch
import ChatTune.Time

/-!
# Notes

A note sounds one pitch or a chord from its attack on, for its duration.  A note without
pitches is a pause: it takes up time and sounds nothing.
-/

set_option autoImplicit false

namespace ChatTune

/-- A note, a chord or a pause at a time on the caller's clock. -/
structure Note (τ : Type) where
  pitches : List Pitch
  attack : τ
  duration : τ
  deriving DecidableEq, Inhabited

namespace Note

variable {τ : Type}

/-- Whether a note is silent. -/
def isSilent (note : Note τ) : Bool := note.pitches.isEmpty

variable [Time τ]

/-- The same note, held longer. -/
def lengthen (length : τ) (note : Note τ) : Note τ :=
  { note with duration := note.duration + length }

/-- The same note, held shorter. -/
def shorten (length : τ) (note : Note τ) : Note τ :=
  { note with duration := note.duration - length }

end Note

/-- The summed duration of a sequence of notes, added from the first to the last. -/
def summedDuration {τ : Type} [Time τ] (notes : Array (Note τ)) : τ :=
  notes.foldl (fun sum note => sum + note.duration) Time.emptySum

end ChatTune
