import ChatTune.Decimal.Fixed
import ChatTune.Overflow

/-!
# What can go wrong

Problems are answered: a score that is too long, settings that make no sense, a file that
cannot be read or written.  Each of them has a message.  An overflow is no answer but the end
of the work that met it; `Failure` keeps the two apart.
-/

set_option autoImplicit false

namespace ChatTune

/-- What kind of problem a JSON text has. -/
inductive JsonProblem where
  /-- The text does not follow the grammar. -/
  | grammar
  /-- A value does not fit the place where it stands. -/
  | data
  /-- The text ends too early. -/
  | ending
  /-- The text could not be read or written. -/
  | transfer
  deriving DecidableEq

/-- A problem that is answered with a message. -/
inductive Problem (τ : Type) where
  /-- The total duration of a score reaches the limit. -/
  | tooLong (total : τ)
  /-- A text does not follow the notation. -/
  | malformed (reason : String)
  /-- The settings make no sense. -/
  | settings (reason : String)
  /-- A file or a stream failed. -/
  | file (reason : String)
  /-- A JSON text is at fault. -/
  | json (kind : JsonProblem) (reason : String)
  deriving DecidableEq

namespace Problem

/-- A problem in words. -/
def message : Problem Float → String
  | tooLong total => "notes too long: " ++ Decimal.fixed 2 total ++ "s"
  | malformed reason => "syntax error: " ++ reason
  | settings reason => "invalid config: " ++ reason
  | file reason => reason
  | json _ reason => reason

end Problem

/-- How work can end without a result. -/
inductive Failure (τ : Type) where
  | overflow (operation : Overflow)
  | problem (problem : Problem τ)
  deriving DecidableEq

end ChatTune
