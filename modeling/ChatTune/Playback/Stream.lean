/-!
# Output streams

A stream keeps the bytes that it took.  It may have a limited capacity: then it takes what
fits, and a text that does not fit is cut short and its writing fails.  Writing nothing
always succeeds.

Main statement: a stream holds what it held and the first bytes of what was written, as many
as there was room for (`Stream.written_write`).
-/

set_option autoImplicit false

namespace ChatTune

/-- Bytes that were taken, and how many more are taken; `none` for any number. -/
structure Stream where
  written : ByteArray
  room : Option Nat

namespace Stream

/-- A stream that takes any number of bytes. -/
def unlimited : Stream := ⟨ByteArray.empty, none⟩

/-- A stream that takes a given number of bytes in all. -/
def limited (capacity : Nat) : Stream := ⟨ByteArray.empty, some capacity⟩

/-- Whether some bytes still fit. -/
def fits (stream : Stream) (bytes : ByteArray) : Bool :=
  match stream.room with
  | none => true
  | some room => bytes.size ≤ room

/-- The stream after bytes were written as far as they fit. -/
def write (stream : Stream) (bytes : ByteArray) : Stream :=
  match stream.room with
  | none => ⟨stream.written ++ bytes, none⟩
  | some room => ⟨stream.written ++ bytes.extract 0 room, some (room - bytes.size)⟩

/-- The stream after a text was written as far as it fits. -/
def print (stream : Stream) (text : String) : Stream := stream.write text.toUTF8

/-- Without a limit everything is taken. -/
theorem write_of_unlimited {stream : Stream} (unlimited : stream.room = none)
    (bytes : ByteArray) : stream.write bytes = ⟨stream.written ++ bytes, none⟩ := by
  simp only [write, unlimited]

theorem written_write_of_unlimited {stream : Stream} (bytes : ByteArray)
    (unlimited : stream.room = none) :
    (stream.write bytes).written = stream.written ++ bytes := by
  rw [write_of_unlimited unlimited]

/-- A limit cuts what is written and nothing else. -/
theorem written_write {stream : Stream} {room : Nat} (bytes : ByteArray)
    (limit : stream.room = some room) :
    (stream.write bytes).written = stream.written ++ bytes.extract 0 room := by
  simp [write, limit]

end Stream

end ChatTune
