import ChatTune.Text.Letters

/-!
# Modes of a pattern

A pattern may change in its course how it is meant.  Letters within parentheses switch modes
on and, behind a minus, off; each may be named once.  Three of the modes decide about what
may follow: whether letters match in both cases, whether a pattern speaks of characters or of
single bytes, and whether it is laid out with blanks and comments that do not count.

Patterns are matched without any table of letters.  Where a pattern speaks of characters, it
can therefore not ask for both cases, nor for digits, blanks or word letters by kind; where
it speaks of bytes it can, but then it must not match half a character.
-/

set_option autoImplicit false

namespace ChatTune.Pattern

/-- How a pattern is meant from some place on. -/
structure Modes where
  ignoresCase : Bool
  /-- Whether the pattern speaks of bytes instead of characters. -/
  bytewise : Bool
  /-- Whether blanks and comments do not count. -/
  spaced : Bool
  deriving DecidableEq

namespace Modes

/-- How a pattern is meant at its beginning. -/
def initial : Modes := ⟨false, false, false⟩

/-- The letters of the modes, and the minus that switches off. -/
def marks : List Char := ['i', 'm', 's', 'U', 'u', 'R', 'x', '-']

/-- Whether a text names modes: every mark is known and given once, and a minus has
something behind it. -/
def areMarks (text : List Char) : Bool :=
  text.all (marks.contains ·) && text.eraseDups == text && text.getLast? != some '-'

/-- A mode after some marks: those in front of a minus switch on, those behind it off. -/
def switched (mark : Char) (text : List Char) (before : Bool) : Bool :=
  if (text.takeWhile (· ≠ '-')).contains mark then true
  else if (text.dropWhile (· ≠ '-')).contains mark then false
  else before

/-- The modes after some marks. -/
def change (modes : Modes) (text : List Char) : Modes where
  ignoresCase := switched 'i' text modes.ignoresCase
  bytewise := !switched 'u' text (!modes.bytewise)
  spaced := switched 'x' text modes.spaced

/-! ## What does not count -/

/-- The text behind the blanks and comments at its front; a comment goes from `#` to the end
of its line. -/
def skipLayout (inComment : Bool) : List Char → List Char
  | [] => []
  | char :: rest =>
    if inComment then skipLayout (char ≠ '\n') rest
    else if Text.isBlank char then skipLayout false rest
    else if char = '#' then skipLayout true rest
    else char :: rest

/-- The text from the first character that counts on. -/
def skip (modes : Modes) (text : List Char) : List Char :=
  if modes.spaced then skipLayout false text else text

/-- The character that a dash in a set looks at to find out whether it makes a range.  It
looks over blanks and over the mark of one comment. -/
def peek (modes : Modes) (text : List Char) : Option Char :=
  if modes.spaced then
    match text.dropWhile Text.isBlank with
    | '#' :: comment => (comment.dropWhile Text.isBlank).head?
    | shown => shown.head?
  else text.head?

/-! ## What may be asked for -/

/-- Whether a character may stand for itself; `raw` says that it is a byte by its number.
Both cases of a character need a table of letters, and a byte that is no character by itself
would match half of one. -/
def allows (modes : Modes) (char : Char) (raw : Bool) : Bool :=
  if modes.bytewise then !raw || char.toNat < 0x80 else !modes.ignoresCase

/-- Whether a character may belong to a set.  Of bytes, only those that are characters. -/
def allowsInSet (modes : Modes) (char : Char) : Bool :=
  if modes.bytewise then char.toNat < 0x80 else !modes.ignoresCase

/-- Whether a set may be turned into everything outside it: of bytes that would be halves of
characters. -/
def allowsComplement (modes : Modes) : Bool := !modes.bytewise

end Modes

end ChatTune.Pattern
