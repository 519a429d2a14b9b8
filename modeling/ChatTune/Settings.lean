import ChatTune.Problem
import ChatTune.Score.Rules

/-!
# Settings

What a player can set: the rules of composing and the texts of the chat.  Settings are
examined before they are used: the rules first, then the trigger, which must not be empty.
-/

set_option autoImplicit false

namespace ChatTune

/-- The texts of the chat. -/
structure ChatTexts where
  /-- The word that addresses the player. -/
  trigger : String
  /-- The answer to the trigger alone. -/
  help : String
  /-- The answer to a tune that is too long. -/
  refusal : String
  deriving DecidableEq

/-- The texts that hold where nothing else is set. -/
def ChatTexts.default : ChatTexts where
  trigger := "!ocarina"
  help :=
    "Usage: !ocarina notes (^ v < > A) (eg: !ocarina ^vA~ ^vA~) | Note Modifiers: ~ lengthen, " ++
    "/ shorten, # sharp, b flat, [notes] chord, + increase octave, - decrease octave, " ++
    "space is a pause. Input is case-insensitive."
  refusal := "Your notes are too powerful traveller."

/-- All settings. -/
structure Settings where
  rules : Rules Float
  chat : ChatTexts

namespace Settings

/-- The settings that hold where nothing else is set. -/
def default : Settings := ⟨Rules.default, ChatTexts.default⟩

/-- Why settings are refused, if they are. -/
def defect? (settings : Settings) : Option String :=
  match settings.rules.defect? with
  | some defect => some defect.message
  | none => if settings.chat.trigger.isEmpty then some "trigger must not be empty" else none

/-- Accepts settings without a defect. -/
def examine (settings : Settings) : Except (Problem Float) Unit :=
  match settings.defect? with
  | some reason => .error (.settings reason)
  | none => .ok ()

end Settings

end ChatTune
