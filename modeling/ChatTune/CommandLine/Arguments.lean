import ChatTune.Decimal.Reading
import ChatTune.Playback.Outlet

/-!
# Arguments of the command line

Arguments are read from left to right.  An option takes its value after an equals sign or
from the next argument, and each option may be given once; `--` ends the options, and
everything else is an input.  Asking for help or for the version ends the reading at once,
unless something before it is already wrong.

A value of its own must not look like an option.  Only the start time, which may be negative,
takes a number with a minus.
-/

set_option autoImplicit false

namespace ChatTune.CommandLine

/-- What the program is asked to do. -/
structure Options where
  /-- Where the settings are kept, if not everything has its standard value. -/
  settings : Option String
  form : OutletForm
  /-- The attack of the first note of every input. -/
  start : Float
  /-- Whether inputs are chat messages. -/
  chat : Bool
  inputs : List String

/-- Why the arguments ask for no work. -/
inductive Stop where
  | help
  | version
  /-- The arguments cannot be understood. -/
  | misuse
  deriving DecidableEq

/-- The options that take a value. -/
inductive Valued where
  | settings
  | form
  | start
  deriving DecidableEq

/-- The arguments that were read so far. -/
structure Reading where
  settings : Option String
  form : Option OutletForm
  start : Option Float
  chat : Bool
  /-- The inputs, the last one first. -/
  inputs : List String

namespace Reading

/-- Nothing was read. -/
def empty : Reading := ⟨none, none, none, false, []⟩

/-- The options, with standard values for what is missing. -/
def options (reading : Reading) : Options where
  settings := reading.settings
  form := reading.form.getD .text
  start := reading.start.getD 0
  chat := reading.chat
  inputs := reading.inputs.reverse

/-- Adds an input. -/
def addInput (reading : Reading) (input : String) : Reading :=
  { reading with inputs := input :: reading.inputs }

/-- Gives an option its value. -/
def setValue (reading : Reading) (option : Valued) (value : String) : Except Stop Reading :=
  match option with
  | .settings =>
    if reading.settings.isSome || value.isEmpty then .error .misuse
    else .ok { reading with settings := some value }
  | .form =>
    let form := [("text", OutletForm.text), ("json", .json), ("null", .silent)].lookup value
    if reading.form.isSome || form.isNone then .error .misuse
    else .ok { reading with form }
  | .start =>
    let start := Decimal.read? value.toList
    if reading.start.isSome || start.isNone then .error .misuse
    else .ok { reading with start }

end Reading

/-- Whether the text after a minus is a number: digits, at most one point behind the first
digit, and at most one exponent with digits. -/
def isPlainNumber (text : List Char) : Bool :=
  let lead := text.takeWhile fun char => char ≠ 'e' ∧ char ≠ 'E'
  let simple := lead.all (fun char => char.isDigit || char == '.') && lead.count '.' ≤ 1 &&
    lead.head? != some '.'
  match text.dropWhile fun char => char ≠ 'e' ∧ char ≠ 'E' with
  | [] => simple
  | _ :: digits => simple && !lead.isEmpty && !digits.isEmpty && digits.all Char.isDigit

/-- Whether an argument can be the value of the option before it. -/
def canBeValue (option : Valued) (argument : List Char) : Bool :=
  match argument with
  | ['-'] => true
  | '-' :: rest => option == .start && isPlainNumber rest
  | _ => true

/-- An option that takes a value, by its name. -/
def Valued.ofName? (name : List Char) : Option Valued :=
  [("config", settings), ("output", form), ("start-time", start)].lookup (String.ofList name)

/-- What an argument turns out to be. -/
inductive Argument where
  | input
  /-- From here on everything is an input. -/
  | endOfOptions
  | stop (reason : Stop)
  | chat
  | valued (option : Valued) (value : Option String)

/-- Recognizes an argument that is not a value.  Only help and the version have short names,
and the first short name of several decides. -/
def recognize (argument : List Char) : Argument :=
  match argument with
  | ['-', '-'] => .endOfOptions
  | '-' :: '-' :: text =>
    let name := text.takeWhile (· ≠ '=')
    let value := match text.dropWhile (· ≠ '=') with
      | [] => none
      | _ :: value => some (String.ofList value)
    match Valued.ofName? name with
    | some option => .valued option value
    | none =>
      if value.isSome then .stop .misuse
      else if name = "chat".toList then .chat
      else if name = "help".toList then .stop .help
      else if name = "version".toList then .stop .version
      else .stop .misuse
  | ['-'] => .input
  | '-' :: mark :: _ =>
    if mark = 'h' then .stop .help else if mark = 'V' then .stop .version else .stop .misuse
  | _ => .input

/-- Reads the rest of the arguments. -/
def read (reading : Reading) : List String → Except Stop Reading
  | [] => .ok reading
  | argument :: rest =>
    match recognize argument.toList with
    | .input => read (reading.addInput argument) rest
    | .endOfOptions => .ok (rest.foldl Reading.addInput reading)
    | .stop reason => .error reason
    | .chat =>
      if reading.chat then .error .misuse else read { reading with chat := true } rest
    | .valued option (some value) =>
      match reading.setValue option value with
      | .ok reading => read reading rest
      | .error reason => .error reason
    | .valued option none =>
      match rest with
      | [] => .error .misuse
      | value :: rest =>
        if canBeValue option value.toList then
          match reading.setValue option value with
          | .ok reading => read reading rest
          | .error reason => .error reason
        else .error .misuse

/-- **The options that arguments ask for.** -/
def parse (arguments : List String) : Except Stop Options :=
  match read Reading.empty arguments with
  | .ok reading => .ok reading.options
  | .error reason => .error reason

end ChatTune.CommandLine
