import ChatTune.Json.Record
import ChatTune.Settings

/-!
# Loading settings

Settings are kept in a JSON file.  What the file does not mention keeps its standard value,
and names that are no settings are passed over.  Loaded settings are examined like any
others.
-/

set_option autoImplicit false

namespace ChatTune

open Json

/-- The names of the rules, in the order in which a list sets them. -/
def Rules.fields : List (RecordField (Rules Float)) := [
  .of "note_length" Node.toFloat fun rules value => { rules with noteLength := value },
  .of "shorten_step" Node.toFloat fun rules value => { rules with shortenStep := value },
  .of "sustain_limit" Node.toCount fun rules value => { rules with sustainLimit := value },
  .of "sustain_rewind_units" Node.toCount fun rules value => { rules with rewindUnits := value },
  .of "max_octave" Node.toInt32 fun rules value => { rules with highestOctave := value },
  .of "min_octave" Node.toInt32 fun rules value => { rules with lowestOctave := value },
  .of "max_total_length" Node.toFloat fun rules value => { rules with longestTotal := value },
  .of "clamp_shortening" Node.toBool fun rules value => { rules with clampShortening := value }]

/-- Rules from their JSON value. -/
def Rules.ofNode (node : Node) : Except Fault (Rules Float) :=
  node.toRecord Rules.fields "struct SequencerConfig" Rules.default

/-- The names of the texts, in the order in which a list sets them. -/
def ChatTexts.fields : List (RecordField ChatTexts) := [
  .of "trigger" Node.toText fun texts value => { texts with trigger := value },
  .of "help" Node.toText fun texts value => { texts with help := value },
  .of "refusal" Node.toText fun texts value => { texts with refusal := value }]

/-- Texts from their JSON value. -/
def ChatTexts.ofNode (node : Node) : Except Fault ChatTexts :=
  node.toRecord ChatTexts.fields "struct ChatConfig" ChatTexts.default

namespace Settings

/-- The parts of the settings, in the order in which a list sets them. -/
def fields : List (RecordField Settings) := [
  .of "sequencer" Rules.ofNode fun settings value => { settings with rules := value },
  .of "chat" ChatTexts.ofNode fun settings value => { settings with chat := value }]

/-- Settings from a JSON text. -/
def ofDocument (document : Document) : Except Fault Settings :=
  document.toRecord fields "struct Config" Settings.default

/-- What is found in the place where settings are kept. -/
inductive Source where
  /-- Nothing that can be opened, for a reason. -/
  | unopened (reason : String)
  /-- Something that cannot be read, for a reason. -/
  | unreadable (reason : String)
  /-- A file with some bytes. -/
  | content (bytes : List UInt8)

/-- A place where there is nothing. -/
def Source.missing : Source := .unopened "No such file or directory (os error 2)"

/-- A directory opens like a file but has no bytes to read. -/
def Source.directory : Source := .unreadable "Is a directory (os error 21)"

/-- **Loads settings** and examines them. -/
def ofSource (source : Source) : Except (Problem Float) Settings :=
  match source with
  | .unopened reason => .error (.file reason)
  | .unreadable reason => .error (.json .transfer reason)
  | .content bytes =>
    match ofDocument (readDocument bytes) with
    | .error fault => .error fault.problem
    | .ok settings =>
      match settings.examine with
      | .ok () => .ok settings
      | .error problem => .error problem

end Settings

end ChatTune
