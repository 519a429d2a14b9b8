import ChatTune.Chat
import ChatTune.Text.Quoted

/-!
# Journal events

While it works, the program keeps a journal.  Every event has a severity, the part of the
program that it comes from, and a line of text: a message and the values that belong to it,
written so that a reader sees exactly which value it was.
-/

set_option autoImplicit false

namespace ChatTune

/-- How severe an event is. -/
inductive Severity where
  | trace
  | debug
  | info
  | warn
  | error
  deriving DecidableEq

namespace Severity

/-- The place of a severity in their order, from the least severe on. -/
def rank : Severity → Nat
  | trace => 0
  | debug => 1
  | info => 2
  | warn => 3
  | error => 4

/-- The word for a severity. -/
def word : Severity → String
  | trace => "TRACE"
  | debug => "DEBUG"
  | info => "INFO"
  | warn => "WARN"
  | error => "ERROR"

end Severity

/-- Something that is entered into the journal. -/
inductive Event where
  /-- An event of composing or accepting a score. -/
  | score (event : ScoreEvent Float)
  /-- A message, in lower case, was addressed to somebody else. -/
  | notAddressed (message : List Char)
  /-- A score of so many notes is played. -/
  | playing (notes : Nat)
  /-- A score was refused for its total duration. -/
  | skipped (total : Float)
  /-- The work ended with a problem. -/
  | failed (message : List Char)

namespace Event

/-! ## Values in lines -/

/-- Numbers in the journal: the fewest digits, `.0` on whole numbers, and an exponent only
below `0.0001` and from `1e16` on. -/
def numberLayout : Decimal.Layout where
  positional := some (-4, 15)
  pointZero := true
  exponentPlus := ""
  tie := .up
  notANumber := "NaN"
  infinite := "inf"
  negativeInfinite := "-inf"

/-- The names of pitches as a list of quoted texts. -/
def namesText (pitches : List Pitch) : String :=
  "[" ++ String.intercalate ", " (pitches.map fun pitch =>
    String.ofList (Text.quoted pitch.name.toList)) ++ "]"

/-- Whether a character could steer a terminal. -/
def steersTerminal (code : Nat) : Bool :=
  code == 0x07 || code == 0x08 || code == 0x0C || code == 0x1B || code == 0x7F ||
    (0x80 ≤ code && code ≤ 0x9F)

/-- A character of a message.  One that could steer a terminal is shown by its number. -/
def messageChar (char : Char) : List Char :=
  let code := char.toNat
  if steersTerminal code then
    if code < 0x80 then
      let digits := Nat.toDigits 16 code
      ['\\', 'x'] ++ List.replicate (2 - digits.length) '0' ++ digits
    else Text.numberEscape code
  else [char]

/-- A message as it stands in a line. -/
def messageText (message : List Char) : String := String.ofList (message.flatMap messageChar)

/-! ## The parts of an event -/

/-- How severe an event is. -/
def severity : Event → Severity
  | score (.note ..) => .debug
  | score (.reattack _) => .debug
  | score (.ignored _) => .trace
  | score (.chordDropped _) => .warn
  | score (.rejected ..) => .info
  | notAddressed _ => .debug
  | playing _ => .info
  | skipped _ => .info
  | failed _ => .error

/-- The part of the program that an event comes from. -/
def origin : Event → String
  | score (.rejected ..) => "ocarina::seq::guard"
  | score _ => "ocarina::seq::sequence_generator"
  | notAddressed _ => "ocarina::chat"
  | playing _ => "ocarina"
  | skipped _ => "ocarina"
  | failed _ => "ocarina"

/-- The names of the values of an event; its message counts as one. -/
def fields : Event → List String
  | score (.note ..) => ["message", "attack_time", "pitches"]
  | score (.reattack _) => ["message", "attack_time"]
  | score (.ignored _) => ["message", "c"]
  | score (.chordDropped _) => ["message", "pitches"]
  | score (.rejected ..) => ["message", "total", "limit"]
  | notAddressed _ => ["message"]
  | playing _ => ["message", "notes"]
  | skipped _ => ["message", "total"]
  | failed _ => ["message"]

/-- The message of an event and its values. -/
def text : Event → String
  | score (.note attack pitches) =>
    "note attack_time=" ++ numberLayout.double attack ++ " pitches=" ++ namesText pitches
  | score (.reattack clock) => "sustain re-attack attack_time=" ++ numberLayout.double clock
  | score (.ignored symbol) => "ignored c=" ++ String.ofList (Text.quotedChar symbol)
  | score (.chordDropped pitches) => "unterminated chord dropped pitches=" ++ toString pitches
  | score (.rejected total limit) =>
    "rejecting notes total=" ++ numberLayout.double total ++
      " limit=" ++ numberLayout.double limit
  | notAddressed message => "not a command " ++ messageText message
  | playing notes => "playing notes=" ++ toString notes
  | skipped total => "skipped total=" ++ numberLayout.double total
  | failed message => messageText message

/-- **The line of an event.** -/
def line (event : Event) : String :=
  event.severity.word ++ " " ++ event.origin ++ ": " ++ event.text

/-- Whether an event is at least as severe as asked for. -/
def isAtLeast (least : Severity) (event : Event) : Bool :=
  least.rank ≤ event.severity.rank

end Event

/-! ## What answering a message reports -/

/-- The events of answering a message. -/
def Chat.journal (settings : Settings) (now : Float) (message : List Char) : List Event :=
  let message := Text.lowercase message
  let trigger := Text.lowercase settings.chat.trigger.toList
  if message = trigger then []
  else
    match Chat.tune? trigger message with
    | none => [.notAddressed message]
    | some body => (Score.bodyJournal settings.rules now body).map .score

end ChatTune
