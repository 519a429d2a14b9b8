/-!
# Sets of code points

The properties that character tables publish are unions of ranges.  A set is kept as the
ascending list of the code points at which membership changes: the first edge opens a range,
the second closes it, and so on.  A code point belongs exactly when an odd number of edges
lie at or below it, so one count answers every question and no range can be written badly.
-/

set_option autoImplicit false

namespace ChatTune.Text

/-- A union of ranges of code points, given by the ascending list of its edges. -/
structure CodePoints where
  edges : List Nat

namespace CodePoints

/-- A code point belongs when it has passed an odd number of edges. -/
def contains (set : CodePoints) (code : Nat) : Bool :=
  (set.edges.takeWhile (· ≤ code)).length % 2 == 1

end CodePoints

end ChatTune.Text
