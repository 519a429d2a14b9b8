import ChatTune.Score.Compose
import ChatTune.Settings

/-!
# Answering chat messages

A message addresses the player when it starts with the trigger word, in any case.  The
trigger alone asks for help.  Otherwise one character after the trigger separates it from
the tune, whatever that character is; the rest of the message is the tune.  A tune is played,
or refused when it is too long.
-/

set_option autoImplicit false

namespace ChatTune

/-- What the player answers to a message. -/
inductive Reply where
  | help (text : String)
  | play (notes : Array (Note Float))
  | refuse (text : String)

/-- The text of a reply to post, if it has one. -/
def Reply.text? : Reply → Option String
  | .help text => some text
  | .play _ => none
  | .refuse text => some text

namespace Chat

/-- The tune of a message: what follows the trigger and one separator.  `none` if the message
does not start with the trigger. -/
def tune? (trigger message : List Char) : Option (List Char) :=
  if trigger.isPrefixOf message then some (message.drop (trigger.length + 1)) else none

/-- **The answer to a message.**  `none` when the message is addressed to somebody else. -/
def reply (settings : Settings) (now : Float) (message : List Char) :
    Except (Failure Float) (Option Reply) :=
  let message := Text.lowercase message
  let trigger := Text.lowercase settings.chat.trigger.toList
  if message = trigger then .ok (some (.help settings.chat.help))
  else
    match tune? trigger message with
    | none => .ok none
    | some body =>
      match Score.ofBody settings.rules now body with
      | .ok notes => .ok (some (.play notes))
      | .error (.problem (.tooLong _)) => .ok (some (.refuse settings.chat.refusal))
      | .error failure => .error failure

end Chat

end ChatTune
