import ChatTune.Pattern.Modes

/-!
# Escapes in patterns

Behind a backslash, a mark stands for itself, and a letter for a control character, for a
character by its number, for a kind of characters, or for a place in the text.  Digits are
kept for references to groups, which patterns do not have, and most letters have no meaning.

A pattern stands within braces itself.  So no braces open and close in it, and whatever would
be written in braces breaks off.
-/

set_option autoImplicit false

namespace ChatTune.Pattern

/-- A smallest part of a pattern. -/
inductive Atom where
  /-- A character, written as itself or by its number; `raw` says that it is a byte by its
  number. -/
  | literal (char : Char) (raw : Bool)
  /-- A place, such as the end of the text. -/
  | place
  /-- A kind of characters. -/
  | kind
  deriving DecidableEq

/-- The value of a hexadecimal digit. -/
def hexValue? (char : Char) : Option Nat :=
  if char.isDigit then some (char.toNat - '0'.toNat)
  else if 'a' ≤ char ∧ char ≤ 'f' then some (char.toNat - 'a'.toNat + 10)
  else if 'A' ≤ char ∧ char ≤ 'F' then some (char.toNat - 'A'.toNat + 10)
  else none

/-- A number of so many hexadecimal digits, layout between them skipped. -/
def readHex (modes : Modes) : Nat → Nat → List Char → Option (Nat × List Char)
  | 0, number, text => some (number, text)
  | _ + 1, _, [] => none
  | count + 1, number, char :: rest =>
    match hexValue? char with
    | some value => readHex modes count (16 * number + value) (modes.skip rest)
    | none => none

/-- A character by its number of so many hexadecimal digits. -/
def readNumbered (modes : Modes) (count : Nat) (text : List Char) : Option (Char × List Char) :=
  match readHex modes count 0 (modes.skip text) with
  | some (number, rest) =>
    if number.isValidChar then some (Char.ofNat number, rest) else none
  | none => none

/-- The letters that stand for control characters. -/
def controls : List (Char × Char) :=
  [('a', '\x07'), ('f', '\x0c'), ('n', '\n'), ('r', '\r'), ('t', '\t'), ('v', '\x0b')]

/-- Whether a character may be escaped to stand for itself. -/
def isEscapable (char : Char) : Bool :=
  char.toNat < 0x80 && !char.isAlphanum && char != '<' && char != '>'

/-- What follows a backslash.  Kinds of characters and the edges of words need a table of
letters, and the complement of a kind would match halves of characters where the pattern
speaks of bytes. -/
def readEscape (modes : Modes) : List Char → Option (Atom × List Char)
  | [] => none
  | char :: rest =>
    if char = 'x' then
      (readNumbered modes 2 rest).map fun (char, rest) => (.literal char true, rest)
    else if char = 'u' then
      (readNumbered modes 4 rest).map fun (char, rest) => (.literal char false, rest)
    else if char = 'U' then
      (readNumbered modes 8 rest).map fun (char, rest) => (.literal char false, rest)
    else if char = 'd' ∨ char = 's' ∨ char = 'w' then
      if modes.bytewise then some (.kind, rest) else none
    else if char = 'b' ∨ char = 'B' ∨ char = '<' ∨ char = '>' then
      if modes.bytewise then some (.place, rest) else none
    else if char = 'A' ∨ char = 'z' then some (.place, rest)
    else
      match controls.lookup char with
      | some control => some (.literal control false, rest)
      | none => if isEscapable char then some (.literal char false, rest) else none

end ChatTune.Pattern
