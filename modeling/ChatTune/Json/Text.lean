import ChatTune.Json.Fault

/-!
# Texts of JSON

A text stands between quotation marks.  It is taken apart in two steps.  `pieces` follows the
grammar alone: it finds the end of the text and the pieces it is made of, bytes and 16-bit
units.  `decode` then makes bytes of the pieces, where two units may have to be joined to one
character, and the whole has to be valid UTF-8.

A text that nobody reads only has to follow the grammar.  So the two steps are kept apart,
and a text remembers what is wrong with its pieces.
-/

set_option autoImplicit false

namespace ChatTune.Json

/-! ## Bytes of the grammar -/

namespace Byte

/-- The byte of an ASCII character. -/
def of (char : Char) : UInt8 := UInt8.ofNat char.toNat

def quote : UInt8 := of '"'
def backslash : UInt8 := of '\\'
def openList : UInt8 := of '['
def closeList : UInt8 := of ']'
def openObject : UInt8 := of '\x7b'
def closeObject : UInt8 := of '\x7d'
def comma : UInt8 := of ','
def colon : UInt8 := of ':'
def minus : UInt8 := of '-'
def plus : UInt8 := of '+'
def point : UInt8 := of '.'
def zero : UInt8 := of '0'
def nine : UInt8 := of '9'

/-- Whether a byte is a decimal digit. -/
def isDigit (byte : UInt8) : Bool := zero ≤ byte && byte ≤ nine

/-- Whether a byte may stand between the parts of a text. -/
def isBlank (byte : UInt8) : Bool :=
  byte == of ' ' || byte == of '\n' || byte == of '\t' || byte == of '\r'

/-- The value of a hexadecimal digit. -/
def hexValue? (byte : UInt8) : Option Nat :=
  let code := byte.toNat
  if isDigit byte then some (code - '0'.toNat)
  else if 'a'.toNat ≤ code ∧ code ≤ 'f'.toNat then some (code - 'a'.toNat + 10)
  else if 'A'.toNat ≤ code ∧ code ≤ 'F'.toNat then some (code - 'A'.toNat + 10)
  else none

/-- The byte that a one-letter escape stands for. -/
def escaped? (mark : UInt8) : Option UInt8 :=
  if mark = quote ∨ mark = backslash ∨ mark = of '/' then some mark
  else if mark = of 'b' then some 0x08
  else if mark = of 'f' then some 0x0C
  else if mark = of 'n' then some 0x0A
  else if mark = of 'r' then some 0x0D
  else if mark = of 't' then some 0x09
  else none

end Byte

/-! ## Pieces -/

/-- A piece of a text. -/
inductive Piece where
  | byte (value : UInt8)
  /-- A 16-bit unit, written with four hexadecimal digits. -/
  | unit (value : Nat)

/-- The unit that four hexadecimal digits write. -/
def unitOf? (first second third fourth : UInt8) : Option Nat := do
  let first ← Byte.hexValue? first
  let second ← Byte.hexValue? second
  let third ← Byte.hexValue? third
  let fourth ← Byte.hexValue? fourth
  return ((first * 16 + second) * 16 + third) * 16 + fourth

/-- The pieces of a text after its opening quotation mark, and what follows the closing one;
or the pieces up to the place where the text breaks the grammar. -/
def pieces : List UInt8 → List Piece × Except Fault (List UInt8)
  | [] => ([], .error .endInText)
  | byte :: rest =>
    if byte = Byte.quote then ([], .ok rest)
    else if byte = Byte.backslash then
      match rest with
      | [] => ([], .error .endInText)
      | mark :: rest =>
        match Byte.escaped? mark with
        | some value =>
          let (found, ending) := pieces rest
          (.byte value :: found, ending)
        | none =>
          if mark = Byte.of 'u' then
            match rest with
            | first :: second :: third :: fourth :: rest =>
              match unitOf? first second third fourth with
              | some unit =>
                let (found, ending) := pieces rest
                (.unit unit :: found, ending)
              | none => ([], .error .badHexDigit)
            | _ => ([], .error .endInText)
          else ([], .error .unknownEscape)
    else if byte < 0x20 then ([], .error .controlCharacter)
    else
      let (found, ending) := pieces rest
      (.byte byte :: found, ending)

/-! ## Characters -/

/-- Whether a unit is the first half of a character. -/
def isLeading (unit : Nat) : Bool := 0xD800 ≤ unit && unit ≤ 0xDBFF

/-- Whether a unit is the second half of a character. -/
def isTrailing (unit : Nat) : Bool := 0xDC00 ≤ unit && unit ≤ 0xDFFF

/-- The code point of two halves. -/
def joined (leading trailing : Nat) : Nat :=
  0x10000 + (leading - 0xD800) * 0x400 + (trailing - 0xDC00)

/-- The bytes of a code point. -/
def codeBytes (code : Nat) : List UInt8 := String.utf8EncodeChar (Char.ofNat code)

/-- What is wrong with a first half when the text breaks off right after it.  Only an escape
could have continued the character. -/
def brokenOffAfterHalf : Option Fault → Fault
  | some .endInText => .endInText
  | some .badHexDigit => .badHexDigit
  | _ => .unfinishedSurrogate

/-- The bytes of a text from its pieces.  `defect` says how the grammar was broken after the
last piece, if it was. -/
def decodePieces (defect : Option Fault) : List Piece → Except Fault (List UInt8)
  | [] =>
    match defect with
    | some fault => .error fault
    | none => .ok []
  | .byte value :: rest => do return value :: (← decodePieces defect rest)
  | .unit unit :: rest =>
    if isTrailing unit then .error .loneSurrogate
    else if isLeading unit then
      match rest with
      | [] => .error (brokenOffAfterHalf defect)
      | .byte _ :: _ => .error .unfinishedSurrogate
      | .unit second :: rest =>
        if isTrailing second then do
          return codeBytes (joined unit second) ++ (← decodePieces defect rest)
        else .error .loneSurrogate
    else do return codeBytes unit ++ (← decodePieces defect rest)

/-- The text of some bytes. -/
def textOfBytes (bytes : List UInt8) : Except Fault String :=
  match String.fromUTF8? ⟨bytes.toArray⟩ with
  | some text => .ok text
  | none => .error .invalidCodePoint

/-- What was found between quotation marks: the text, and what follows it. -/
structure TextFound where
  text : Except Fault String
  rest : Except Fault (List UInt8)

/-- **Reads a text** after its opening quotation mark. -/
def readText (bytes : List UInt8) : TextFound :=
  let (found, rest) := pieces bytes
  let defect := match rest with
    | .ok _ => none
    | .error fault => some fault
  ⟨decodePieces defect found >>= textOfBytes, rest⟩

end ChatTune.Json
