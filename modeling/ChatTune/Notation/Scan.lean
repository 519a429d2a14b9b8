import ChatTune.Notation.Command
import ChatTune.Notation.Reader
import ChatTune.Text.LetterCase

/-!
# Reading a tune

`scan` reads a text command by command.  The alternatives are tried in the order in which
they are listed, and the last one accepts any character, so that a scan never gets stuck.
Scanning knows only the small letters of the notation; `parse` lowers the case of the text
first and is what a player's typing goes through.
-/

set_option autoImplicit false

namespace ChatTune.Notation

/-- One of the five buttons. -/
def button : Reader Command := mapped Command.press (oneOf Button.ofSymbol?)

/-- A modifier of the note before. -/
def modifier : Reader Command :=
  firstOf [
    symbol '~' .sustain,
    symbol '/' .shorten,
    symbol '+' .octaveUp,
    symbol '-' .octaveDown,
    symbol '#' .sharp,
    symbol 'b' .flat]

/-- One command. -/
def command : Reader Command :=
  firstOf [
    symbol '[' .chordStart,
    symbol ']' .chordEnd,
    symbol ' ' .pause,
    button,
    modifier,
    mapped Command.ignored anyCharacter]

/-- **The commands of a text,** up to its end, and what is left of the text. -/
def scan (text : List Char) : Except Fault (List Command × List Char) :=
  complete (many command text)

/-- The commands of a text in any case. -/
def parse (body : List Char) : Except Fault (List Command) :=
  match scan (Text.lowercase body) with
  | .ok (commands, _) => .ok commands
  | .error fault => .error fault

end ChatTune.Notation
