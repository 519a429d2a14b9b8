import ChatTune.Pattern.CharacterSet

/-!
# Legible patterns

A pattern is a sequence of parts, or several sequences of which any may match, with bars
between them.  A part is an atom, a set, or a group in parentheses, and it may be repeated.
Groups may have names, each name once, and may switch modes for what is in them; modes may
also be switched up to the end of the group around.

Nothing is matched here.  What is decided is whether a text is a pattern at all: whether it
follows this grammar, asks for nothing that its modes do not allow, and does not nest deeper
than `deepestNesting`.
-/

set_option autoImplicit false

namespace ChatTune.Pattern

/-- How deep the parts of a pattern may lie inside one another. -/
def deepestNesting : Nat := 250

/-- A part of a pattern that was read. -/
structure Part where
  depth : Nat
  /-- Whether the part can be repeated: one that only switches modes cannot. -/
  repeatable : Bool
  deriving DecidableEq

/-- What was read between the ends of a group. -/
structure Body where
  /-- The parts of the sequence that is being read, the last one first. -/
  parts : List Part
  /-- The depths of the sequences in front of bars, the last one first. -/
  alternatives : List Nat

namespace Body

/-- Nothing was read. -/
def empty : Body := ⟨[], []⟩

/-- The depth of the sequence that is being read. -/
def sequenceDepth (body : Body) : Nat := collectionDepth (body.parts.map Part.depth)

/-- The depth of what was read. -/
def depth (body : Body) : Nat := collectionDepth (body.sequenceDepth :: body.alternatives)

/-- Adds a part to the sequence. -/
def add (body : Body) (part : Part) : Body := { body with parts := part :: body.parts }

/-- Begins another sequence behind a bar. -/
def alternative (body : Body) : Body := ⟨[], body.sequenceDepth :: body.alternatives⟩

/-- Repeats the last part, if there is one that can be repeated. -/
def repeatLast? (body : Body) : Option Body :=
  match body.parts with
  | [] => none
  | part :: parts =>
    if part.repeatable then some { body with parts := ⟨1 + part.depth, true⟩ :: parts }
    else none

end Body

/-- A pattern that is being read. -/
structure Reading where
  modes : Modes
  /-- The names of all groups so far. -/
  names : List (List Char)
  body : Body
  /-- What was read of the groups around, the innermost first, each with the modes that hold
  again behind the group in it. -/
  around : List (Modes × Body)

namespace Reading

/-- Nothing was read. -/
def initial : Reading := ⟨.initial, [], .empty, []⟩

/-- Adds a part. -/
def add (reading : Reading) (depth : Nat) : Reading :=
  { reading with body := reading.body.add ⟨depth, true⟩ }

/-- Enters a group that is read in some modes. -/
def enter (reading : Reading) (modes : Modes) : Reading :=
  { reading with
    modes, body := .empty, around := (reading.modes, reading.body) :: reading.around }

/-- Leaves a group, if there is one. -/
def leave? (reading : Reading) : Option Reading :=
  match reading.around with
  | [] => none
  | (modes, body) :: around =>
    some { reading with modes, body := body.add ⟨1 + reading.body.depth, true⟩, around }

/-- Switches modes up to the end of the group. -/
def switch (reading : Reading) (marks : List Char) : Reading :=
  { reading with
    modes := reading.modes.change marks, body := reading.body.add ⟨0, false⟩ }

/-! ## Groups -/

/-- Whether a text can name a group: a letter or an underscore, and then letters, numerals
and a few marks. -/
def isName : List Char → Bool
  | [] => false
  | char :: rest =>
    (char == '_' || Text.isLetter char) &&
      rest.all fun char =>
        char == '_' || char == '.' || char == '[' || char == ']' || Text.isAlphanumeric char

/-- Enters a group with a name, of which everything in front of the name was read. -/
def enterNamed (reading : Reading) (text : List Char) : Option (Reading × List Char) :=
  let name := text.takeWhile (· ≠ '>')
  match text.dropWhile (· ≠ '>') with
  | [] => none
  | _ :: rest =>
    if isName name && !reading.names.contains name then
      some ({ reading with names := name :: reading.names }.enter reading.modes, rest)
    else none

/-- Switches modes, for a group or up to the end of the group around. -/
def enterSwitching (reading : Reading) (text : List Char) : Option (Reading × List Char) :=
  let marks := text.takeWhile fun char => char ≠ ':' ∧ char ≠ ')'
  if Modes.areMarks marks then
    match text.dropWhile fun char => char ≠ ':' ∧ char ≠ ')' with
    | ':' :: rest => some (reading.enter (reading.modes.change marks), rest)
    | ')' :: rest => if marks.isEmpty then none else some (reading.switch marks, rest)
    | _ => none
  else none

/-- Enters what an opening parenthesis begins. -/
def enterGroup (reading : Reading) (text : List Char) : Option (Reading × List Char) :=
  match reading.modes.skip text with
  | '?' :: 'P' :: '<' :: rest => reading.enterNamed rest
  | '?' :: '<' :: rest => reading.enterNamed rest
  | '?' :: rest => reading.enterSwitching rest
  | rest => some (reading.enter reading.modes, rest)

/-! ## Parts -/

/-- Adds an atom, if the modes allow it. -/
def addAtom? (reading : Reading) : Atom → Option Reading
  | .literal char raw => if reading.modes.allows char raw then some (reading.add 0) else none
  | .place => some (reading.add 0)
  | .kind => some (reading.add 0)

/-- The text behind a repetition, which may end in a mark that asks for as little as
possible. -/
def skipReluctance : List Char → List Char
  | '?' :: rest => rest
  | rest => rest

/-- Reads what begins with a character.  A dot is any character, so it needs a pattern that
speaks of characters; an opening brace could only begin a count, which is never closed. -/
def step (reading : Reading) (char : Char) (rest : List Char) : Option (Reading × List Char) :=
  if char = '(' then reading.enterGroup rest
  else if char = ')' then reading.leave?.map fun next => (next, rest)
  else if char = '|' then some ({ reading with body := reading.body.alternative }, rest)
  else if char = '[' then
    (readBracketed reading.modes rest).map fun (depth, rest) => (reading.add depth, rest)
  else if char = '?' ∨ char = '*' ∨ char = '+' then
    reading.body.repeatLast?.map fun body => ({ reading with body }, skipReluctance rest)
  else if char = '\x7b' then none
  else if char = '\\' then
    match readEscape reading.modes rest with
    | some (atom, rest) => (reading.addAtom? atom).map fun next => (next, rest)
    | none => none
  else if char = '.' then if reading.modes.bytewise then none else some (reading.add 0, rest)
  else if char = '^' ∨ char = '$' then some (reading.add 0, rest)
  else (reading.addAtom? (.literal char false)).map fun next => (next, rest)

/-- Reads a text to its end: how deep the pattern nests. -/
def depth? (reading : Reading) (text : List Char) : Option Nat :=
  match reading.modes.skip text with
  | [] => if reading.around.isEmpty then some reading.body.depth else none
  | char :: rest =>
    match reading.step char rest with
    | none => none
    | some (next, rest) => if rest.length < text.length then next.depth? rest else none
termination_by text.length

end Reading

/-- **Whether a text is a pattern.** -/
def isLegible (text : List Char) : Bool :=
  (Reading.initial.depth? text).any (· ≤ deepestNesting)

end ChatTune.Pattern
