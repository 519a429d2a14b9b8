import ChatTune.Problem

/-!
# Faults of JSON texts

What can be wrong with a JSON text: it ends too early, it breaks the grammar, or it holds a
value that does not fit where it stands.
-/

set_option autoImplicit false

namespace ChatTune.Json

/-- What is wrong with a JSON text. -/
inductive Fault where
  -- The text ends inside of something.
  | endInList
  | endInObject
  | endInText
  | endInValue
  -- Something else was wanted.
  | wantedColon
  | wantedListSeparator
  | wantedObjectSeparator
  | wantedWord
  | wantedValue
  | wantedKey
  -- A text between quotation marks is at fault.
  | unknownEscape
  | badHexDigit
  | controlCharacter
  | invalidCodePoint
  | loneSurrogate
  | unfinishedSurrogate
  -- A number is at fault.
  | invalidNumber
  | numberOutOfRange
  -- There is more than there should be.
  | trailingComma
  | trailingCharacters
  -- A value does not fit.
  | mismatch (found expected : String)
  | outside (number : Int) (expected : String)
  | duplicate (field : String)
  deriving DecidableEq

namespace Fault

/-- What kind of problem a fault is. -/
def kind : Fault → JsonProblem
  | endInList | endInObject | endInText | endInValue => .ending
  | mismatch .. | outside .. | duplicate _ => .data
  | _ => .grammar

/-- A fault in words.  In the program a message ends with the line and the column of the fault;
faults do not carry their places here, so that end is left out. -/
def message : Fault → String
  | endInList => "EOF while parsing a list"
  | endInObject => "EOF while parsing an object"
  | endInText => "EOF while parsing a string"
  | endInValue => "EOF while parsing a value"
  | wantedColon => "expected \x60:\x60"
  | wantedListSeparator => "expected \x60,\x60 or \x60]\x60"
  | wantedObjectSeparator => "expected \x60,\x60 or \x60\x7d\x60"
  | wantedWord => "expected ident"
  | wantedValue => "expected value"
  | wantedKey => "key must be a string"
  | unknownEscape => "invalid escape"
  | badHexDigit => "invalid escape"
  | controlCharacter => "control character (\\u0000-\\u001F) found while parsing a string"
  | invalidCodePoint => "invalid unicode code point"
  | loneSurrogate => "lone leading surrogate in hex escape"
  | unfinishedSurrogate => "unexpected end of hex escape"
  | invalidNumber => "invalid number"
  | numberOutOfRange => "number out of range"
  | trailingComma => "trailing comma"
  | trailingCharacters => "trailing characters"
  | mismatch found expected => "invalid type: " ++ found ++ ", expected " ++ expected
  | outside number expected =>
    "invalid value: integer \x60" ++ toString number ++ "\x60, expected " ++ expected
  | duplicate field => "duplicate field \x60" ++ field ++ "\x60"

/-- The problem that a fault is. -/
def problem (fault : Fault) : Problem Float := .json fault.kind fault.message

end Fault

end ChatTune.Json
