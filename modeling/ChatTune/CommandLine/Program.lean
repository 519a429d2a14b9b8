import ChatTune.CommandLine.Arguments
import ChatTune.Journal.Filter
import ChatTune.Playback.Session
import ChatTune.Settings.Loading

/-!
# The program

The program takes its inputs from the arguments or, if there are none, line by line from
standard input.  Every input is a tune, or a chat message, and all of them are played on one
outlet; texts to post go to the same stream as the notes.  The first failure ends the work.

Lines end with a line feed, and a carriage return before it belongs to the end of the line.
-/

set_option autoImplicit false

namespace ChatTune.CommandLine

/-! ## Inputs -/

/-- An input: a text, or the problem that was met in reading it. -/
abbrev Input : Type := Except (Problem Float) (List Char)

/-- The problem of bytes that are no text. -/
def notText : Problem Float := .file "stream did not contain valid UTF-8"

/-- The input that some bytes are. -/
def inputOfBytes (bytes : List UInt8) : Input :=
  match String.fromUTF8? ⟨bytes.toArray⟩ with
  | some text => .ok text.toList
  | none => .error notText

/-- A line without the carriage return at its end. -/
def withoutReturn (line : List UInt8) : List UInt8 :=
  if line.getLast? = some 0x0D then line.dropLast else line

/-- The lines of standard input.  What follows the last line feed is a line of its own, as it
is, unless it is empty; `line` holds the bytes of the line so far, the last one first. -/
def linesFrom (line : List UInt8) : List UInt8 → List (List UInt8)
  | [] => if line.isEmpty then [] else [line.reverse]
  | byte :: rest =>
    if byte = 0x0A then withoutReturn line.reverse :: linesFrom [] rest
    else linesFrom (byte :: line) rest

/-- The inputs on standard input. -/
def inputsOfStream (bytes : List UInt8) : List Input := (linesFrom [] bytes).map inputOfBytes

/-- The inputs of a run. -/
def Options.allInputs (options : Options) (standardInput : List UInt8) : List Input :=
  if options.inputs.isEmpty then inputsOfStream standardInput
  else options.inputs.map fun input => .ok input.toList

/-! ## Work -/

/-- What became of some work, and what it reported. -/
structure Work where
  outcome : Outcome
  events : List Event

/-- Posts a text on the stream of an outlet.  Nothing is reported when it does not fit, where the
program would break off: posts are meant for standard output, which is unlimited. -/
def post (outlet : Outlet) (text : String) : Outcome :=
  { outlet := { outlet with stream := outlet.stream.print (text ++ "\n") }, result := .ok () }

/-- Answers a chat message. -/
def answerMessage (settings : Settings) (outlet : Outlet) (message : Message) : Work :=
  let answered := Session.answer settings outlet message
  let events := Chat.journal settings message.now message.text
  match answered.answer with
  | .error failure => ⟨⟨outlet, .error failure⟩, events⟩
  | .ok none => ⟨answered.outcome, events⟩
  | .ok (some reply) =>
    match reply.text? with
    | some text => ⟨post outlet text, events⟩
    | none => ⟨answered.outcome, events⟩

/-- Plays a tune, or posts a refusal if it is too long. -/
def playTune (settings : Settings) (outlet : Outlet) (start : Float) (body : List Char) : Work :=
  let events := (Score.bodyJournal settings.rules start body).map Event.score
  match Score.ofBody settings.rules start body with
  | .ok notes => ⟨outlet.playAll notes.toList, events ++ [.playing notes.size]⟩
  | .error (.problem (.tooLong total)) =>
    ⟨post outlet settings.chat.refusal, events ++ [.skipped total]⟩
  | .error failure => ⟨⟨outlet, .error failure⟩, events⟩

/-- **Works on one input.** -/
def workOn (options : Options) (settings : Settings) (outlet : Outlet) (input : List Char) :
    Work :=
  if options.chat then answerMessage settings outlet ⟨input, options.start⟩
  else playTune settings outlet options.start input

/-- **Works on inputs in their order,** up to the first failure. -/
def workOnAll (options : Options) (settings : Settings) (outlet : Outlet) : List Input → Work
  | [] => ⟨⟨outlet, .ok ()⟩, []⟩
  | .error problem :: _ => ⟨⟨outlet, .error (.problem problem)⟩, []⟩
  | .ok input :: inputs =>
    let first := workOn options settings outlet input
    match first.outcome.result with
    | .error _ => first
    | .ok () =>
      let others := workOnAll options settings first.outcome.outlet inputs
      ⟨others.outcome, first.events ++ others.events⟩

/-- All the work that options ask for. -/
def work (options : Options) (source : Option Settings.Source) (standardInput : List UInt8) :
    Work :=
  let outlet := Outlet.opening options.form Stream.unlimited
  let loaded : Except (Problem Float) Settings := match source with
    | none => .ok Settings.default
    | some source => Settings.ofSource source
  match loaded with
  | .error problem => ⟨⟨outlet, .error (.problem problem)⟩, []⟩
  | .ok settings => workOnAll options settings outlet (options.allInputs standardInput)

/-! ## The program as a whole -/

/-- How the program ends. -/
structure Ending where
  status : Nat
  output : ByteArray
  log : List String

/-- What the program says about its version. -/
def versionText : String := "ocarina 0.1.0\n"

/-- What the program says about its use. -/
def helpText : String :=
  "Plays ocarina notation given as arguments, or line by line from stdin\n\n" ++
  "Usage: ocarina [OPTIONS] [INPUTS]...\n\n" ++
  "Arguments:\n  [INPUTS]...  \n\n" ++
  "Options:\n" ++
  "      --config <CONFIG>          JSON config file\n" ++
  "      --output <OUTPUT>          [default: text] [possible values: text, json, null]\n" ++
  "      --start-time <START_TIME>  [default: 0]\n" ++
  "      --chat                     expect chat messages starting with the trigger word\n" ++
  "  -h, --help                     Print help\n" ++
  "  -V, --version                  Print version\n"

/-- How the program ends when there is no work. -/
def Stop.ending : Stop → Ending
  | .help => ⟨0, helpText.toUTF8, []⟩
  | .version => ⟨0, versionText.toUTF8, []⟩
  | .misuse => ⟨2, ByteArray.empty, []⟩

/-- How the program ends when it breaks off before any work. -/
def brokenOff : Ending := ⟨101, ByteArray.empty, []⟩

/-- How the program ends after its work, with the lines that a filter lets through.  A problem
is logged; an overflow is not, it breaks the program off. -/
def Work.ending (work : Work) (filter : Filter) : Ending :=
  let (status, last) : Nat × List Event := match work.outcome.result with
    | .ok () => (0, [])
    | .error (.problem problem) => (1, [.failed problem.message.toList])
    | .error (.overflow _) => (101, [])
  { status
    output := work.outcome.outlet.stream.written
    log := ((work.events ++ last).filter filter.passes).map Event.line }

/-- What the program is given. -/
structure Surroundings where
  arguments : List String
  standardInput : List UInt8
  /-- What is found in a place where settings may be kept. -/
  sourceAt : String → Settings.Source
  /-- The setting of the filter for the log, if there is one. -/
  logSetting : Option String

/-- **The program.**  The filter for the log comes first: the program may break off over it
before it looks at its arguments. -/
def run (surroundings : Surroundings) : Ending :=
  match Filter.ofSetting surroundings.logSetting with
  | none => brokenOff
  | some filter =>
    match parse surroundings.arguments with
    | .error reason => reason.ending
    | .ok options =>
      (work options (options.settings.map surroundings.sourceAt)
        surroundings.standardInput).ending filter

end ChatTune.CommandLine
