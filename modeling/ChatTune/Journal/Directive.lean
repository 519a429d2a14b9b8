import ChatTune.Decimal.Reading
import ChatTune.Journal.Event
import ChatTune.Pattern.Reading
import ChatTune.Text.Bytes

/-!
# Directives for the journal

A directive says which events are logged.  It names a part of the program, a severity, or
both as `part=severity`; it may also ask for an enclosing span or for a value by name, in
brackets as `part[span{value}]=severity`.

The marks of a directive are sought behind the blanks at its front, and their places are
counted from there, in bytes.  The names between them are cut out of the text as it was
given, at those places.  So blanks belong to names and spoil them, and blanks at the front
make every cut come too early; a cut that falls into a character cannot be made.
-/

set_option autoImplicit false

namespace ChatTune

/-- Which events a directive lets through: those at least as severe as given, or none. -/
abbrev Threshold : Type := Option Severity

namespace Threshold

/-- The words for thresholds. -/
def words : List (String × Threshold) := [
  ("off", none), ("error", some .error), ("warn", some .warn), ("info", some .info),
  ("debug", some .debug), ("trace", some .trace)]

/-- A threshold by its number, from `0` for none to `5` for all events. -/
def ofDigits? (digits : List Char) : Option Threshold :=
  if digits ≠ [] ∧ digits.all Char.isDigit then
    (words[digits.foldl (fun number digit => 10 * number + (digit.toNat - '0'.toNat)) 0]?).map
      Prod.snd
  else none

/-- A threshold by its word, in any case, or by its number. -/
def ofText? (text : List Char) : Option Threshold :=
  let digits := match text with
    | '+' :: rest => rest
    | _ => text
  match ofDigits? digits with
  | some threshold => some threshold
  | none => (words.find? fun (word, _) => word.toList = text.map Char.toLower).map Prod.snd

end Threshold

/-- One directive of a filter. -/
structure Directive where
  /-- What the origin of an event has to start with. -/
  origin : List Char
  /-- The value that an event has to have. -/
  field : Option (List Char)
  /-- Whether the directive asks for something that no event of this program has: an
  enclosing span, or a value that is compared. -/
  unmet : Bool
  threshold : Threshold

namespace Directive

/-- Why a text is no directive. -/
inductive Fault where
  /-- It cannot be understood. -/
  | unreadable
  /-- It would have to be cut within a character. -/
  | splitCharacter
  deriving DecidableEq

/-- The part of a text between two places. -/
def cut (text : List Char) (start stop : Nat) : Except Fault (List Char) :=
  match Text.cut? start stop text with
  | some part => .ok part
  | none => .error .splitCharacter

/-- Whether a directive may begin with a character. -/
def mayBegin (char : Char) : Bool :=
  char == '-' || char == ':' || char == '_' || char == '[' || Text.isAlphanumeric char

/-- Whether a value can be compared with a text: a number, or else a pattern. -/
def isComparable (text : List Char) : Bool :=
  (Decimal.read? text).isSome || Pattern.isLegible text

/-- The threshold behind an equals sign.  The sign alone lets everything through. -/
def readThreshold (text : List Char) (start : Nat) : Except Fault Threshold := do
  match ← cut text start (Text.byteCount text) with
  | [] => return some .trace
  | word =>
    match Threshold.ofText? word with
    | some threshold => return threshold
    | none => throw .unreadable

/-- The threshold behind brackets: absent, which lets everything through, or an equals sign
and a threshold.  The rest of the marked text begins at the given place. -/
def readEnd (text : List Char) (place : Nat) : List Char → Except Fault Threshold
  | [] => .ok (some .trace)
  | '=' :: _ => readThreshold text (place + 1)
  | _ => .error .unreadable

/-- A value that an event has to have, behind the opening brace. -/
def readField (text origin span : List Char) (place : Nat) (marked : List Char) :
    Except Fault Directive := do
  let stop := place + Text.byteCount (marked.takeWhile (· ≠ '\x7d'))
  match marked.dropWhile (· ≠ '\x7d') with
  | [] => throw .unreadable
  | _ :: rest =>
    let field ← cut text place stop
    let name := field.takeWhile (· ≠ '=')
    let compared := match field.dropWhile (· ≠ '=') with
      | [] => none
      | _ :: value => some (value.takeWhile (· ≠ '='))
    if field.isEmpty ∨ compared.any (!isComparable ·) then throw .unreadable
    match rest with
    | ']' :: rest =>
      let threshold ← readEnd text (stop + 2) rest
      return ⟨origin, some name, !span.isEmpty || compared.isSome, threshold⟩
    | _ => throw .unreadable

/-- What stands in brackets, behind the opening one. -/
def readBrackets (text origin : List Char) (place : Nat) (marked : List Char) :
    Except Fault Directive := do
  let stop := place + Text.byteCount (marked.takeWhile fun char => char ≠ ']' ∧ char ≠ '\x7b')
  match marked.dropWhile fun char => char ≠ ']' ∧ char ≠ '\x7b' with
  | [] => throw .unreadable
  | mark :: rest =>
    let span ← cut text place stop
    if mark = ']' then return ⟨origin, none, true, ← readEnd text (stop + 1) rest⟩
    else readField text origin span (stop + 1) rest

/-- **A directive by its text.**  A name alone is a threshold if it can be one, and otherwise
a part of the program of which everything is let through. -/
def ofText (text : List Char) : Except Fault Directive := do
  let marked := Text.trimmed text
  if !(marked.head?.any mayBegin) then throw .unreadable
  let place := Text.byteCount (marked.takeWhile fun char => char ≠ '=' ∧ char ≠ '[')
  match marked.dropWhile fun char => char ≠ '=' ∧ char ≠ '[' with
  | [] =>
    match Threshold.ofText? text with
    | some threshold => return ⟨[], none, false, threshold⟩
    | none => return ⟨text, none, false, some .trace⟩
  | mark :: rest =>
    let origin ← cut text 0 place
    if mark = '[' then readBrackets text origin (place + 1) rest
    else return ⟨origin, none, false, ← readThreshold text (place + 1)⟩

/-- Whether a directive speaks about an event. -/
def concerns (directive : Directive) (event : Event) : Bool :=
  !directive.unmet && directive.origin.isPrefixOf event.origin.toList &&
    directive.field.all fun field => event.fields.contains (String.ofList field)

/-- Whether a name is the same as another one or comes before it in the alphabet. -/
def isUpTo : List Char → List Char → Bool
  | [], _ => true
  | _ :: _, [] => false
  | char :: rest, other :: others =>
    char.toNat < other.toNat || (char == other && isUpTo rest others)

/-- Whether a directive gives way to another one that was given later: to one with a longer
origin; of equal origins, to one that asks for a value; and of two values, to the one whose
name comes later in the alphabet, or is the same. -/
def givesWay (directive later : Directive) : Bool :=
  directive.origin.length < later.origin.length ||
    (directive.origin.length == later.origin.length &&
      isUpTo (directive.field.getD []) (later.field.getD []))

end Directive

end ChatTune
