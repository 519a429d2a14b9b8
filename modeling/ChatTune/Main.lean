import ChatTune.CommandLine.Program

/-!
# The executable

Gathers what the program is given, runs it, and writes what it says: its output to standard
output and its log to standard error.
-/

set_option autoImplicit false

open ChatTune

/-- Reads standard input to its end. -/
partial def readToEnd (stream : IO.FS.Stream) (found : ByteArray) : IO ByteArray := do
  let bytes ← stream.read 65536
  if bytes.isEmpty then return found else readToEnd stream (found ++ bytes)

/-- The reason for which the system refused something, in its own words and with its number. -/
def refusal : IO.Error → String
  | .alreadyExists _ number words | .interrupted _ number words
  | .noFileOrDirectory _ number words | .invalidArgument _ number words
  | .permissionDenied _ number words | .resourceExhausted _ number words
  | .inappropriateType _ number words | .noSuchThing _ number words
  | .otherError number words | .resourceBusy number words | .resourceVanished number words
  | .unsupportedOperation number words | .hardwareFault number words
  | .unsatisfiedConstraints number words | .illegalOperation number words
  | .protocolError number words | .timeExpired number words =>
    words ++ " (os error " ++ toString number ++ ")"
  | .unexpectedEof => "unexpected end of file"
  | .userError words => words

/-- What is found in a place of the file system. -/
def sourceAt (path : String) : IO Settings.Source := do
  try
    let file ← IO.FS.Handle.mk path .read
    return .content (← readToEnd (.ofHandle file) ByteArray.empty).toList
  catch error =>
    return .unopened (refusal error)

/-- Runs the program and tells its status. -/
def main (arguments : List String) : IO UInt32 := do
  let logSetting ← IO.getEnv "RUST_LOG"
  let options := CommandLine.parse arguments
  let source ← match options with
    | .ok ⟨some path, _, _, _, _⟩ => sourceAt path
    | _ => pure .missing
  let standardInput ← match options with
    | .ok ⟨_, _, _, _, []⟩ => readToEnd (← IO.getStdin) ByteArray.empty
    | _ => pure ByteArray.empty
  let ending := CommandLine.run
    { arguments, standardInput := standardInput.toList, sourceAt := fun _ => source, logSetting }
  let output ← IO.getStdout
  output.write ending.output
  output.flush
  for line in ending.log do
    IO.eprintln line
  return UInt32.ofNat ending.status
