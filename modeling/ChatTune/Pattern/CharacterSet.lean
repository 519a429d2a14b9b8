import ChatTune.Pattern.Escape

/-!
# Sets of characters in patterns

A set stands in square brackets.  It holds characters, ranges, named kinds such as
`[:alpha:]`, and further sets, and it may be the result of taking sets from one another with
`&&`, `--` and `~~`.  At its front, dashes and a closing bracket stand for themselves.

Of a set that can be read only its depth is of interest: how many brackets, operators and
collections of several items lie inside one another.
-/

set_option autoImplicit false

namespace ChatTune.Pattern

/-- The depth of a collection: of several items, one more than the deepest has. -/
def collectionDepth : List Nat → Nat
  | [] => 0
  | [depth] => depth
  | depths => 1 + depths.foldl max 0

/-- A set that is being read, without the sets around it. -/
structure SetLevel where
  /-- The depths of the items since the last operator. -/
  items : List Nat
  /-- The depth of what stands before the last operator. -/
  left : Option Nat
  /-- Whether dashes and a closing bracket still stand for themselves. -/
  opening : Bool

namespace SetLevel

/-- A set of which only the bracket was read. -/
def empty : SetLevel := ⟨[], none, true⟩

/-- The depth of what was read. -/
def depth (level : SetLevel) : Nat :=
  match level.left with
  | none => collectionDepth level.items
  | some left => 1 + max left (collectionDepth level.items)

/-- Adds an item. -/
def add (level : SetLevel) (depth : Nat) : SetLevel :=
  { level with items := depth :: level.items }

/-- Sets apart what was read as the left side of an operator. -/
def operator (level : SetLevel) : SetLevel := ⟨[], some level.depth, false⟩

end SetLevel

/-- The names of the kinds of characters. -/
def kindNames : List String :=
  ["alnum", "alpha", "ascii", "blank", "cntrl", "digit", "graph", "lower", "print", "punct",
    "space", "upper", "word", "xdigit"]

/-- A named kind of characters, of which the first bracket was read: whether it is a
complement, and what follows it. -/
def readKind : List Char → Option (Bool × List Char)
  | ':' :: text =>
    let (complement, text) := match text with
      | '^' :: rest => (true, rest)
      | _ => (false, text)
    let name := text.takeWhile (· ≠ ':')
    match text.dropWhile (· ≠ ':') with
    | ':' :: ']' :: rest =>
      if kindNames.contains (String.ofList name) then some (complement, rest) else none
    | _ => none
  | _ => none

/-- A character or an escape within a set. -/
def readSetAtom (modes : Modes) : List Char → Option (Atom × List Char)
  | [] => none
  | '\\' :: rest => readEscape modes rest
  | char :: rest => some (.literal char false, rest)

/-- Whether something may belong to a set: places may not. -/
def Atom.isMember (modes : Modes) : Atom → Bool
  | .literal char _ => modes.allowsInSet char
  | .kind => true
  | .place => false

/-- A member of a set, or a range of members; what follows it is handed back. -/
def readMember (modes : Modes) (text : List Char) : Option (List Char) := do
  let (first, rest) ← readSetAtom modes text
  match modes.skip rest with
  | [] => none
  | '-' :: after =>
    if modes.peek after = some ']' ∨ modes.peek after = some '-' then
      if first.isMember modes then some ('-' :: after) else none
    else
      let (last, rest) ← readSetAtom modes (modes.skip after)
      match first, last with
      | .literal low _, .literal high _ =>
        if first.isMember modes && last.isMember modes && low ≤ high then some rest else none
      | _, _ => none
  | next => if first.isMember modes then some next else none

/-- What one step of reading a set leads to. -/
inductive SetStep where
  /-- More of the set follows. -/
  | inside (level : SetLevel) (outer : List SetLevel)
  /-- The outermost set is closed. -/
  | closed (depth : Nat)

/-- Reads one item, operator or bracket of a set. -/
def stepSet (modes : Modes) (level : SetLevel) (outer : List SetLevel) :
    List Char → Option (SetStep × List Char)
  | [] => none
  | char :: rest =>
    if level.opening && (char == '-' || (char == ']' && level.items.isEmpty)) then
      if modes.allowsInSet char then
        some (.inside { level.add 0 with opening := char == '-' } outer, rest)
      else none
    else
      let level := { level with opening := false }
      if char = '[' then
        match readKind rest with
        | some (complement, rest) =>
          if (!complement || modes.allowsComplement) && modes.allowsInSet 'a' then
            some (.inside (level.add 0) outer, rest)
          else none
        | none =>
          match modes.skip rest with
          | '^' :: rest =>
            if modes.allowsComplement then some (.inside .empty (level :: outer), rest) else none
          | rest => some (.inside .empty (level :: outer), rest)
      else if char = ']' then
        match outer with
        | [] => some (.closed (1 + level.depth), rest)
        | around :: outer => some (.inside (around.add (1 + level.depth)) outer, rest)
      else if (char = '&' ∨ char = '-' ∨ char = '~') ∧ rest.head? = some char then
        some (.inside level.operator outer, rest.tail)
      else (readMember modes (char :: rest)).map fun rest => (.inside (level.add 0) outer, rest)

/-- Reads a set to its end: its depth, and what follows it. -/
def readSet (modes : Modes) (level : SetLevel) (outer : List SetLevel) (text : List Char) :
    Option (Nat × List Char) :=
  match stepSet modes level outer (modes.skip text) with
  | none => none
  | some (.closed depth, rest) => some (depth, rest)
  | some (.inside level outer, rest) =>
    if rest.length < text.length then readSet modes level outer rest else none
termination_by text.length

/-- A set of which the first bracket was read. -/
def readBracketed (modes : Modes) (text : List Char) : Option (Nat × List Char) :=
  match modes.skip text with
  | '^' :: rest => if modes.allowsComplement then readSet modes .empty [] rest else none
  | rest => readSet modes .empty [] rest

end ChatTune.Pattern
