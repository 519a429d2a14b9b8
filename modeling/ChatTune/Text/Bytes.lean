/-!
# Places in a text, counted in bytes

A character takes between one and four bytes when it is stored.  Where places in a text are
counted in bytes, a place may lie inside a character; there the text cannot be cut.
-/

set_option autoImplicit false

namespace ChatTune.Text

/-- How many bytes a text takes. -/
def byteCount : List Char → Nat
  | [] => 0
  | char :: rest => char.utf8Size + byteCount rest

/-- What follows the first bytes of a text, unless a character lies across that place. -/
def dropBytes? : Nat → List Char → Option (List Char)
  | 0, text => some text
  | _ + 1, [] => some []
  | count + 1, char :: rest =>
    if char.utf8Size ≤ count + 1 then dropBytes? (count + 1 - char.utf8Size) rest else none

/-- The first bytes of a text, unless a character lies across their end. -/
def takeBytes? : Nat → List Char → Option (List Char)
  | 0, _ => some []
  | _ + 1, [] => some []
  | count + 1, char :: rest =>
    if char.utf8Size ≤ count + 1 then
      (takeBytes? (count + 1 - char.utf8Size) rest).map (char :: ·)
    else none

/-- The part of a text between two places, unless a character lies across one of them. -/
def cut? (start stop : Nat) (text : List Char) : Option (List Char) :=
  (dropBytes? start text).bind (takeBytes? (stop - start))

end ChatTune.Text
