import ChatTune.Notation.Scan
import ChatTune.Problem
import ChatTune.Score.Report

/-!
# Composing scores

A score is what a list of commands leaves in the draft that began empty.  A text becomes a
score when its commands are composed and the result is not too long; the limit itself is
already too long.  A total that compares with nothing is accepted.
-/

set_option autoImplicit false

namespace ChatTune

namespace Score

variable {τ : Type} [Time τ]

/-- The draft that a list of commands leaves. -/
def draft (rules : Rules τ) (start : τ) (commands : List Command) : Except Overflow (Draft τ) :=
  (Draft.start start).run rules commands

/-- **The notes of a list of commands.** -/
def compose (rules : Rules τ) (start : τ) (commands : List Command) :
    Except Overflow (Array (Note τ)) := do
  let draft ← draft rules start commands
  return draft.notes

/-- The events of composing a list of commands. -/
def journal (rules : Rules τ) (start : τ) (commands : List Command) : List (ScoreEvent τ) :=
  (Draft.start start).journal rules commands

/-- Accepts notes whose total duration stays below the limit. -/
def accept (rules : Rules τ) (notes : Array (Note τ)) : Except (Problem τ) Unit :=
  let total := summedDuration notes
  if rules.longestTotal ≤ total then .error (.tooLong total) else .ok ()

/-- The events of accepting notes. -/
def acceptJournal (rules : Rules τ) (notes : Array (Note τ)) : List (ScoreEvent τ) :=
  let total := summedDuration notes
  if rules.longestTotal ≤ total then [.rejected total rules.longestTotal] else []

/-- The commands of a text, in any case. -/
def commandsOf (body : List Char) : Except (Problem τ) (List Command) :=
  match Notation.parse body with
  | .ok commands => .ok commands
  | .error fault => .error (.malformed fault.message)

/-- **The score of a text,** if it is not too long. -/
def ofBody (rules : Rules τ) (start : τ) (body : List Char) :
    Except (Failure τ) (Array (Note τ)) :=
  match commandsOf body with
  | .error problem => .error (.problem problem)
  | .ok commands =>
    match compose rules start commands with
    | .error operation => .error (.overflow operation)
    | .ok notes =>
      match accept rules notes with
      | .error problem => .error (.problem problem)
      | .ok () => .ok notes

/-- The events of turning a text into a score. -/
def bodyJournal (rules : Rules τ) (start : τ) (body : List Char) : List (ScoreEvent τ) :=
  match Notation.parse body with
  | .error _ => []
  | .ok commands =>
    journal rules start commands ++
      match compose rules start commands with
      | .error _ => []
      | .ok notes => acceptJournal rules notes

end Score

end ChatTune
