import ChatTune.Text.Quoted

/-!
# Readers

A reader takes a value off the front of a text and hands back what follows, or says why it
could not.  Readers are tried in order (`firstOf`), repeated until one fails (`many`), and
required to leave nothing behind (`complete`).

Repetition is the one place where a reading could go wrong by itself: a reader that succeeds
without taking anything would repeat forever.  So a reader hands back a rest that is shorter
than its text, and proves it.  That makes `many` total, and it always succeeds.
-/

set_option autoImplicit false

namespace ChatTune.Notation

/-- Why a reading stopped. -/
inductive Cause where
  /-- The text has another length than the reader wants. -/
  | length
  /-- Another character was wanted. -/
  | character
  /-- None of the alternatives reads the text. -/
  | alternatives
  deriving DecidableEq

/-- A reading that failed: where it stopped and why. -/
structure Fault where
  rest : List Char
  cause : Cause
  deriving DecidableEq

namespace Cause

/-- The word that names a cause in a message. -/
def word : Cause → String
  | length => "Eof"
  | character => "Char"
  | alternatives => "Alt"

end Cause

namespace Fault

/-- The message of a failed reading: the text that was left, quoted, and the cause. -/
def message (fault : Fault) : String :=
  "Parsing Error: VerboseError \x7b errors: [(" ++ String.ofList (Text.quoted fault.rest) ++
    ", Nom(" ++ fault.cause.word ++ "))] \x7d"

end Fault

/-- What was taken off the front of a text: a value, and a rest that is shorter. -/
structure Taken (α : Type) (text : List Char) where
  value : α
  rest : List Char
  shorter : rest.length < text.length

/-- Takes a value off the front of a text. -/
abbrev Reader (α : Type) : Type := (text : List Char) → Except Fault (Taken α text)

section Readers

variable {α β : Type}

/-- The first character of a text, which stands for a value. -/
def Taken.first (value : α) (char : Char) (rest : List Char) : Taken α (char :: rest) :=
  ⟨value, rest, Nat.lt_succ_self rest.length⟩

/-- Any single character. -/
def anyCharacter : Reader Char
  | [] => .error ⟨[], .length⟩
  | char :: rest => .ok (.first char char rest)

/-- One given character, which stands for a given value. -/
def symbol (wanted : Char) (value : α) : Reader α
  | [] => .error ⟨[], .character⟩
  | char :: rest =>
    if char = wanted then .ok (.first value char rest) else .error ⟨char :: rest, .character⟩

/-- One character that a table knows. -/
def oneOf (table : Char → Option α) : Reader α
  | [] => .error ⟨[], .character⟩
  | char :: rest =>
    match table char with
    | some value => .ok (.first value char rest)
    | none => .error ⟨char :: rest, .character⟩

/-- Applies a function to what a reader finds. -/
def mapped (change : α → β) (reader : Reader α) : Reader β := fun text =>
  match reader text with
  | .ok ⟨value, rest, shorter⟩ => .ok ⟨change value, rest, shorter⟩
  | .error fault => .error fault

/-- The first of several readers that succeeds. -/
def firstOf : List (Reader α) → Reader α
  | [] => fun text => .error ⟨text, .alternatives⟩
  | reader :: others => fun text =>
    match reader text with
    | .ok taken => .ok taken
    | .error _ => firstOf others text

/-- A reader as often as it succeeds: the values in their order, and the text on which it
failed. -/
def many (reader : Reader α) (text : List Char) : List α × List Char :=
  match reader text with
  | .error _ => ([], text)
  | .ok ⟨value, rest, _⟩ =>
    let (values, remaining) := many reader rest
    (value :: values, remaining)
termination_by text.length

/-- A result that has to take the whole text. -/
def complete (result : α × List Char) : Except Fault (α × List Char) :=
  match result with
  | (value, []) => .ok (value, [])
  | (_, char :: rest) => .error ⟨char :: rest, .length⟩

end Readers

end ChatTune.Notation
