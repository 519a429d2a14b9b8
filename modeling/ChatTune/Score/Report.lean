import ChatTune.Score.Draft

/-!
# What composing reports

Composing a score can be watched: every added note, every new attack of a sustained note,
every character outside the notation and a chord that is never closed make an event.  The
events of a command are read off the draft after its first phase, the command itself and
whether it asked for a note; a sustain that asks for one attacks again.  A command that
overflows reports nothing, and nothing follows it.
-/

set_option autoImplicit false

namespace ChatTune

/-- Something worth reporting while a score is composed. -/
inductive ScoreEvent (τ : Type) where
  /-- A note was added. -/
  | note (attack : τ) (pitches : List Pitch)
  /-- A sustained note is made to attack again, at the new time of the clock. -/
  | reattack (clock : τ)
  /-- A character outside the notation was passed over. -/
  | ignored (symbol : Char)
  /-- A chord that was never closed is dropped, with so many pitches. -/
  | chordDropped (pitches : Nat)
  /-- The finished score was rejected: its total duration reached the limit. -/
  | rejected (total limit : τ)
  deriving DecidableEq

namespace Draft

variable {τ : Type}

/-- The events of a command that was performed. -/
def report (performed : Draft τ) (command : Command) (asked : Bool) : List (ScoreEvent τ) :=
  let own := match command with
    | .ignored symbol => [.ignored symbol]
    | .sustain => if asked then [.reattack performed.clock] else []
    | _ => []
  own ++ if performed.addsNote asked then [.note performed.clock performed.pending] else []

/-- The event that ends a composition, if it has one. -/
def closingReport (draft : Draft τ) : List (ScoreEvent τ) :=
  if draft.chordOpen && !draft.pending.isEmpty then [.chordDropped draft.pending.length] else []

/-- **The events of a list of commands,** up to the end or to an overflow. -/
def journal [Time τ] (rules : Rules τ) (draft : Draft τ) : List Command → List (ScoreEvent τ)
  | [] => draft.closingReport
  | command :: commands =>
    let asked := draft.asksForNote rules command
    match draft.perform rules command with
    | .error _ => []
    | .ok performed =>
      performed.report command asked ++ (performed.settle rules asked).journal rules commands

end Draft

end ChatTune
