import ChatTune.Decimal.Fixed
import ChatTune.Json.Layout
import ChatTune.Music.Note
import ChatTune.Playback.Stream
import ChatTune.Problem

/-!
# Outlets

An outlet is where notes sound.  It writes one line a note, as plain columns or as a JSON
object; a silent outlet writes nothing and counts the notes instead.

A line of columns is one piece.  A JSON line is two, the object and the end of the line: what
is reported for a stream that is full depends on the piece that did not fit.  Frequencies are
computed before anything is written, so a note whose frequency overflows leaves no trace.
-/

set_option autoImplicit false

namespace ChatTune

/-- How an outlet writes the notes that sound. -/
inductive OutletForm where
  /-- Columns: attack, duration, names. -/
  | text
  /-- One JSON object a line. -/
  | json
  /-- Nothing is written. -/
  | silent
  deriving DecidableEq

/-- A form of output, the stream that takes it, and how many notes a silent outlet counted. -/
structure Outlet where
  form : OutletForm
  stream : Stream
  count : Nat

/-- What became of an outlet, and whether all went well. -/
structure Outcome where
  outlet : Outlet
  result : Except (Failure Float) Unit

namespace Playback

/-! ## The lines -/

/-- Times in columns have three decimals. -/
def column (time : Float) : String := Decimal.fixed 3 time

/-- The columns of a note. -/
def textLine (note : Note Float) : String :=
  column note.attack ++ "\t" ++ column note.duration ++ "\t" ++
    String.intercalate " " (note.pitches.map Pitch.name) ++ "\n"

/-- A list of values in JSON. -/
def jsonList (values : List String) : String :=
  "[" ++ String.intercalate "," values ++ "]"

/-- The name of a pitch in JSON.  Names have no character that needs an escape. -/
def jsonName (pitch : Pitch) : String := "\"" ++ pitch.name ++ "\""

/-- The JSON object of a note with the frequencies of its pitches. -/
def jsonObject (note : Note Float) (frequencies : List Float32) : String :=
  "\x7b\"notes\":" ++ jsonList (note.pitches.map jsonName) ++
    ",\"freqs\":" ++ jsonList (frequencies.map Json.singleLayout.single) ++
    ",\"duration\":" ++ Json.doubleLayout.double note.duration ++
    ",\"attack_time\":" ++ Json.doubleLayout.double note.attack ++ "\x7d"

/-- The reason that a full stream gives. -/
def fullReason : String := "failed to write whole buffer"

end Playback

namespace Outlet

/-- An outlet that has not sounded anything yet. -/
def opening (form : OutletForm) (stream : Stream) : Outlet := ⟨form, stream, 0⟩

/-- Writes a piece; a piece that does not fit is cut short and ends in a problem. -/
def put (outlet : Outlet) (problem : Problem Float) (piece : String) : Outcome :=
  { outlet := { outlet with stream := outlet.stream.print piece }
    result := if outlet.stream.fits piece.toUTF8 then .ok () else .error (.problem problem) }

/-- Writes the JSON line of a note. -/
def putJson (outlet : Outlet) (note : Note Float) (frequencies : List Float32) : Outcome :=
  let object := outlet.put (.json .transfer Playback.fullReason)
    (Playback.jsonObject note frequencies)
  match object.result with
  | .error failure => ⟨object.outlet, .error failure⟩
  | .ok () => object.outlet.put (.file Playback.fullReason) "\n"

/-- Sounds a note. -/
def sound (outlet : Outlet) (note : Note Float) : Outcome :=
  match outlet.form with
  | .text => outlet.put (.file Playback.fullReason) (Playback.textLine note)
  | .json =>
    match note.pitches.mapM Pitch.frequency with
    | .error operation => ⟨outlet, .error (.overflow operation)⟩
    | .ok frequencies => outlet.putJson note frequencies
  | .silent => ⟨{ outlet with count := outlet.count + 1 }, .ok ()⟩

/-- Ends a performance.  A stream holds nothing back, so there is nothing left to do. -/
def finish (outlet : Outlet) : Outcome := ⟨outlet, .ok ()⟩

/-- **Plays notes in their order.**  Pauses only take up time and are passed over, and the
first note that fails ends the performance. -/
def playAll (outlet : Outlet) : List (Note Float) → Outcome
  | [] => outlet.finish
  | note :: notes =>
    if note.isSilent then outlet.playAll notes
    else
      let outcome := outlet.sound note
      match outcome.result with
      | .ok () => outcome.outlet.playAll notes
      | .error failure => ⟨outcome.outlet, .error failure⟩

end Outlet

end ChatTune
