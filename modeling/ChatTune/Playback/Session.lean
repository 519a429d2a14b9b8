import ChatTune.Chat
import ChatTune.Playback.Outlet

/-!
# Sessions

A session answers messages one after another and plays all tunes on one outlet.  Help and
refusals are texts to post; they do not sound.  A session goes on after a failure.
-/

set_option autoImplicit false

namespace ChatTune

/-- A message and the time at which it is answered. -/
structure Message where
  text : List Char
  now : Float

/-- What became of a message: the answer, and the outlet after a tune was played. -/
structure Answered where
  answer : Except (Failure Float) (Option Reply)
  outcome : Outcome

namespace Session

/-- Answers a message, and plays the tune if it is one. -/
def answer (settings : Settings) (outlet : Outlet) (message : Message) : Answered :=
  let answer := Chat.reply settings message.now message.text
  match answer with
  | .ok (some (.play notes)) => ⟨answer, outlet.playAll notes.toList⟩
  | _ => ⟨answer, ⟨outlet, .ok ()⟩⟩

/-- **Answers messages in their order,** each on the outlet that the one before it left. -/
def run (settings : Settings) (outlet : Outlet) : List Message → List Answered
  | [] => []
  | message :: messages =>
    let answered := answer settings outlet message
    answered :: run settings answered.outcome.outlet messages

end Session

end ChatTune
