/-!
# Commands of the notation

A tune is written one character a command: a button of the instrument, a bracket of a
chord, a pause, or a modifier of the note before.  Characters outside the notation are
commands too (`Command.ignored`), so that a reading accounts for every character of the
text.

`Command.symbol` writes a command and `Command.render` a tune.
-/

set_option autoImplicit false

namespace ChatTune

/-- The five buttons of the instrument, named for the pitch that each of them sounds. -/
inductive Button where
  | d
  | b
  | a
  | f
  | highD
  deriving DecidableEq, Inhabited

namespace Button

/-- The character that presses a button. -/
def symbol : Button → Char
  | d => 'a'
  | b => '<'
  | a => '>'
  | f => 'v'
  | highD => '^'

/-- The button that a character presses, if it presses one. -/
def ofSymbol? (symbol : Char) : Option Button :=
  if symbol = 'a' then some d
  else if symbol = '<' then some b
  else if symbol = '>' then some a
  else if symbol = 'v' then some f
  else if symbol = '^' then some highD
  else none

end Button

/-- One command of a tune. -/
inductive Command where
  /-- Opens a chord: notes are collected until it closes. -/
  | chordStart
  /-- Closes a chord and sounds what it collected. -/
  | chordEnd
  /-- Sounds a button, or adds it to the open chord. -/
  | press (button : Button)
  /-- Drops what is pending and sounds a silence. -/
  | pause
  /-- Makes the last note longer. -/
  | sustain
  /-- Makes the last note shorter. -/
  | shorten
  | octaveUp
  | octaveDown
  | sharp
  | flat
  /-- A character outside the notation. -/
  | ignored (symbol : Char)
  deriving DecidableEq, Inhabited

namespace Command

/-- The character that writes a command. -/
def symbol : Command → Char
  | chordStart => '['
  | chordEnd => ']'
  | press button => button.symbol
  | pause => ' '
  | sustain => '~'
  | shorten => '/'
  | octaveUp => '+'
  | octaveDown => '-'
  | sharp => '#'
  | flat => 'b'
  | ignored symbol => symbol

/-- The characters of the notation. -/
def alphabet : List Char :=
  ['[', ']', ' ', 'a', '<', '>', 'v', '^', '~', '/', '+', '-', '#', 'b']

/-- The text of a list of commands. -/
def render (commands : List Command) : List Char := commands.map symbol

end Command

end ChatTune
