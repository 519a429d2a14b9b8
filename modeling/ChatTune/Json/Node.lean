import ChatTune.Json.Number

/-!
# JSON values as they are written

A `Node` is a JSON value together with everything that is wrong with it.  Reading never
fails: where the text breaks the grammar, the node breaks off with the fault.  Faults that
only matter to somebody who wants the value, such as a number out of range, stay with the
number, and the text goes on behind it.

Somebody who wants a value and somebody who passes over it do not always name the same fault,
so a place where the text breaks off keeps both names.  A text that is passed over is sound
exactly when `Node.skip` finds no such place.
-/

set_option autoImplicit false

namespace ChatTune.Json

mutual

/-- A JSON value as it is written. -/
inductive Node where
  | null
  | boolean (value : Bool)
  | number (value : Except Fault Number)
  | text (value : Except Fault String)
  | list (items : Items)
  | object (members : Members)
  /-- The text breaks off: what that is to a reader of the value, and to one who skips it. -/
  | broken (read skipped : Fault)

/-- What is left of a list. -/
inductive Items where
  | close
  | item (node : Node) (rest : Items)
  | broken (read skipped : Fault)

/-- What is left of an object. -/
inductive Members where
  | close
  | member (key : Except Fault String) (node : Node) (rest : Members)
  /-- The text breaks off between a key and its value. -/
  | keyOnly (key : Except Fault String) (fault : Fault)
  | broken (read skipped : Fault)

end

/-! ## Passing over -/

mutual

/-- The first place where a value breaks the grammar. -/
def Node.skip : Node → Except Fault Unit
  | .list items => items.skip
  | .object members => members.skip
  | .broken _ skipped => .error skipped
  | _ => .ok ()

/-- The first place where the rest of a list breaks the grammar. -/
def Items.skip : Items → Except Fault Unit
  | .close => .ok ()
  | .item node rest =>
    match node.skip with
    | .ok () => rest.skip
    | .error fault => .error fault
  | .broken _ skipped => .error skipped

/-- The first place where the rest of an object breaks the grammar. -/
def Members.skip : Members → Except Fault Unit
  | .close => .ok ()
  | .member _ node rest =>
    match node.skip with
    | .ok () => rest.skip
    | .error fault => .error fault
  | .keyOnly _ fault => .error fault
  | .broken _ skipped => .error skipped

end

/-! ## Reading -/

/-- The text without the blanks at its front. -/
def skipBlanks (bytes : List UInt8) : List UInt8 := bytes.dropWhile Byte.isBlank

/-- A word that has to follow. -/
def readWord : List Char → List UInt8 → Except Fault (List UInt8)
  | [], bytes => .ok bytes
  | _ :: _, [] => .error .endInValue
  | char :: wanted, byte :: rest =>
    if byte = Byte.of char then readWord wanted rest else .error .wantedWord

/-- A value that is written with a word, of which the first letter was read. -/
def readNamed (wanted : List Char) (value : Node) (bytes : List UInt8) : Node × List UInt8 :=
  match readWord wanted bytes with
  | .ok rest => (value, rest)
  | .error fault => (.broken fault fault, [])

/-- A number.  Only a reader of the number distinguishes a text that ends in it. -/
def readNumber (bytes : List UInt8) : Node × List UInt8 :=
  match readLiteral bytes with
  | .ok (literal, rest) => (.number literal.value, rest)
  | .error [] => (.broken .endInValue .invalidNumber, [])
  | .error (_ :: _) => (.broken .invalidNumber .invalidNumber, [])

/-- The fault of something that can be decoded no further. -/
def faultOf {α : Type} (found : Except Fault α) (otherwise : Fault) : Fault :=
  match found with
  | .ok _ => otherwise
  | .error fault => fault

/-- A text, of which the opening quotation mark was read. -/
def readTextNode (bytes : List UInt8) : Node × List UInt8 :=
  match readText bytes with
  | ⟨text, .ok rest⟩ => (.text text, rest)
  | ⟨text, .error fault⟩ => (.broken (faultOf text fault) fault, [])

mutual

/-- A value, blanks before it included, and what follows it.  The fuel bounds how deep the
parts of a value lie inside and behind one another. -/
def readNode : Nat → List UInt8 → Node × List UInt8
  | 0, _ => (.broken .endInValue .endInValue, [])
  | fuel + 1, bytes =>
    match skipBlanks bytes with
    | [] => (.broken .endInValue .endInValue, [])
    | byte :: rest =>
      if byte = Byte.of 'n' then readNamed ['u', 'l', 'l'] .null rest
      else if byte = Byte.of 't' then readNamed ['r', 'u', 'e'] (.boolean true) rest
      else if byte = Byte.of 'f' then readNamed ['a', 'l', 's', 'e'] (.boolean false) rest
      else if byte = Byte.quote then readTextNode rest
      else if byte = Byte.minus ∨ Byte.isDigit byte then readNumber (byte :: rest)
      else if byte = Byte.openList then
        let (items, rest) := readItems fuel true rest
        (.list items, rest)
      else if byte = Byte.openObject then
        let (members, rest) := readMembers fuel true rest
        (.object members, rest)
      else (.broken .wantedValue .wantedValue, [])

/-- What is left of a list; `first` says that nothing of it was read yet. -/
def readItems : Nat → Bool → List UInt8 → Items × List UInt8
  | 0, _, _ => (.broken .endInList .endInList, [])
  | fuel + 1, first, bytes =>
    match skipBlanks bytes with
    | [] => (.broken .endInList .endInList, [])
    | byte :: rest =>
      if byte = Byte.closeList then (.close, rest)
      else if first then readItem fuel (byte :: rest)
      else if byte = Byte.comma then
        match skipBlanks rest with
        | [] => (.broken .endInValue .endInValue, [])
        | next :: rest =>
          if next = Byte.closeList then (.broken .trailingComma .wantedValue, [])
          else readItem fuel (next :: rest)
      else (.broken .wantedListSeparator .wantedListSeparator, [])

/-- An item of a list and what is left of the list behind it. -/
def readItem : Nat → List UInt8 → Items × List UInt8
  | 0, _ => (.broken .endInList .endInList, [])
  | fuel + 1, bytes =>
    let (node, rest) := readNode fuel bytes
    let (items, rest) := readItems fuel false rest
    (.item node items, rest)

/-- What is left of an object; `first` says that nothing of it was read yet. -/
def readMembers : Nat → Bool → List UInt8 → Members × List UInt8
  | 0, _, _ => (.broken .endInObject .endInObject, [])
  | fuel + 1, first, bytes =>
    match skipBlanks bytes with
    | [] => (.broken .endInObject .endInObject, [])
    | byte :: rest =>
      if byte = Byte.closeObject then (.close, rest)
      else if first then readMember fuel byte rest
      else if byte = Byte.comma then
        match skipBlanks rest with
        | [] => (.broken .endInValue .endInObject, [])
        | next :: rest =>
          if next = Byte.closeObject then (.broken .trailingComma .wantedKey, [])
          else readMember fuel next rest
      else (.broken .wantedObjectSeparator .wantedObjectSeparator, [])

/-- A member of an object, of which the first byte was read, and what is left of the object
behind it. -/
def readMember : Nat → UInt8 → List UInt8 → Members × List UInt8
  | 0, _, _ => (.broken .endInObject .endInObject, [])
  | fuel + 1, byte, bytes =>
    if byte = Byte.quote then
      match readText bytes with
      | ⟨key, .error fault⟩ => (.broken (faultOf key fault) fault, [])
      | ⟨key, .ok rest⟩ =>
        match skipBlanks rest with
        | [] => (.keyOnly key .endInObject, [])
        | next :: rest =>
          if next = Byte.colon then
            let (node, rest) := readNode fuel rest
            let (members, rest) := readMembers fuel false rest
            (.member key node members, rest)
          else (.keyOnly key .wantedColon, [])
    else (.broken .wantedKey .wantedKey, [])

end

/-- A whole JSON text: its value, and whether something else follows. -/
structure Document where
  node : Node
  trailing : Bool

/-- **Reads a JSON text.**  Every byte is reached by at most three calls inside one another. -/
def readDocument (bytes : List UInt8) : Document :=
  let (node, rest) := readNode (3 * bytes.length + 3) bytes
  ⟨node, !(skipBlanks rest).isEmpty⟩

end ChatTune.Json
