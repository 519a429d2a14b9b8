import ChatTune.Music.Note
import ChatTune.Score.Rules

/-!
# A score in the making

A draft is a score while its commands come in one by one: the notes so far, the pitches that
wait for the next note, and the clock at which that note will attack.

A command works in two phases.  `Draft.perform` gives the command's own effect: it collects
pitches, opens or closes a chord, or changes the last note.  `Draft.settle` then adds a note
if the command asks for one and no chord is open.  The last note stays open to change after
it is added, and every change of its duration moves the clock along, so that the following
notes attack when it ends.

A note that is sustained beyond the limit attacks again: its pitches wait for the next note
and the clock goes back by a fixed number of note lengths.
-/

set_option autoImplicit false

namespace ChatTune

/-- A score in the making. -/
structure Draft (τ : Type) where
  notes : Array (Note τ)
  /-- The pitches that wait for the next note. -/
  pending : List Pitch
  /-- The place of the note that modifiers change. -/
  current : Option Nat
  /-- How often the current note was sustained since it was added. -/
  sustains : UInt32
  chordOpen : Bool
  /-- The attack of the next note. -/
  clock : τ
  deriving DecidableEq

namespace Draft

variable {τ : Type}

/-- The draft without notes, at a time. -/
def start (clock : τ) : Draft τ :=
  { notes := #[], pending := [], current := none, sustains := 0, chordOpen := false, clock }

/-! ## When a note is due -/

/-- Whether one more sustain makes the current note attack again. -/
def reattacks (rules : Rules τ) (draft : Draft τ) : Bool :=
  draft.current.isSome && rules.sustainLimit ≤ draft.sustains

/-- Whether a command asks for a note. -/
def asksForNote (rules : Rules τ) (draft : Draft τ) : Command → Bool
  | .chordEnd => true
  | .press _ => true
  | .pause => true
  | .sustain => draft.reattacks rules
  | _ => false

/-- Whether a note is added after a command was performed that asked for it or not. -/
def addsNote (performed : Draft τ) (asked : Bool) : Bool := asked && !performed.chordOpen

/-! ## Effects of single commands -/

/-- Changes the last pitch of the current note, if there is one. -/
def changePitch (change : Pitch → Except Overflow Pitch) (draft : Draft τ) :
    Except Overflow (Draft τ) :=
  match draft.current with
  | none => .ok draft
  | some place =>
    match draft.notes[place]? with
    | none => .ok draft
    | some note =>
      match note.pitches.getLast? with
      | none => .ok draft
      | some pitch => do
        let changed ← change pitch
        let note := { note with pitches := note.pitches.dropLast ++ [changed] }
        return { draft with notes := draft.notes.setIfInBounds place note }

/-- The pitches of the current note. -/
def currentPitches (draft : Draft τ) : List Pitch :=
  match draft.current.bind (draft.notes[·]?) with
  | some note => note.pitches
  | none => []

variable [Time τ]

/-- Extends the current note by a note length.  Beyond the limit its pitches are made to wait
for another attack, the clock goes back, and counting starts again. -/
def sustain (rules : Rules τ) (draft : Draft τ) : Except Overflow (Draft τ) :=
  match draft.current with
  | none => .ok draft
  | some place => do
    let count ← Checked.next draft.sustains
    let clock := draft.clock + rules.noteLength
    if draft.reattacks rules then
      let pitches := draft.currentPitches
      return { draft with
        notes := draft.notes.modify place (·.lengthen rules.noteLength)
        pending := pitches
        sustains := 0
        clock := clock - Time.times rules.rewindUnits rules.noteLength }
    else
      return { draft with
        notes := draft.notes.modify place (·.lengthen rules.noteLength)
        sustains := count
        clock }

/-- What a shortening takes off a duration.  A clamped step takes no more than the duration
has, and nothing from a duration that is not above zero; that nothing is the positive zero,
which leaves the sign of a zero duration as it is. -/
def stepFor (rules : Rules τ) (duration : τ) : τ :=
  if rules.clampShortening then
    let room := if 0 < duration then duration else 0
    if rules.shortenStep < room then rules.shortenStep else room
  else rules.shortenStep

/-- Shortens the current note. -/
def shorten (rules : Rules τ) (draft : Draft τ) : Draft τ :=
  match draft.current with
  | none => draft
  | some place =>
    match draft.notes[place]? with
    | none => draft
    | some note =>
      let step := stepFor rules note.duration
      { draft with
        notes := draft.notes.setIfInBounds place (note.shorten step)
        clock := draft.clock - step }

/-! ## The two phases of a command -/

/-- What a command does by itself, before any note is added. -/
def perform (rules : Rules τ) (draft : Draft τ) : Command → Except Overflow (Draft τ)
  | .chordStart => .ok { draft with chordOpen := true }
  | .chordEnd => .ok { draft with chordOpen := false }
  | .press button => .ok { draft with pending := draft.pending ++ [button.pitch] }
  | .pause => .ok { draft with pending := [] }
  | .sustain => draft.sustain rules
  | .shorten => .ok (draft.shorten rules)
  | .octaveUp => draft.changePitch (Pitch.raise rules.highestOctave)
  | .octaveDown => draft.changePitch (Pitch.lower rules.lowestOctave)
  | .sharp => draft.changePitch fun pitch => .ok pitch.sharpened
  | .flat => draft.changePitch fun pitch => .ok pitch.flattened
  | .ignored _ => .ok draft

/-- Adds the pending pitches as a note; without pitches it is a pause. -/
def addNote (rules : Rules τ) (draft : Draft τ) : Draft τ :=
  { notes := draft.notes.push ⟨draft.pending, draft.clock, rules.noteLength⟩
    pending := []
    current := some draft.notes.size
    sustains := 0
    chordOpen := draft.chordOpen
    clock := draft.clock + rules.noteLength }

/-- The draft after the second phase of a command that asked for a note or not. -/
def settle (rules : Rules τ) (performed : Draft τ) (asked : Bool) : Draft τ :=
  if performed.addsNote asked then performed.addNote rules else performed

/-- **One command.** -/
def advance (rules : Rules τ) (draft : Draft τ) (command : Command) :
    Except Overflow (Draft τ) := do
  let asked := draft.asksForNote rules command
  let performed ← draft.perform rules command
  return performed.settle rules asked

/-- **A list of commands.** -/
def run (rules : Rules τ) (draft : Draft τ) (commands : List Command) :
    Except Overflow (Draft τ) :=
  commands.foldlM (advance rules) draft

end Draft

end ChatTune
