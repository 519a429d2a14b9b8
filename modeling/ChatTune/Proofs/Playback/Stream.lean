import ChatTune.Playback.Stream

/-!
# Writing in parts

What a stream takes does not depend on how it is divided into writes.  Parts that are written one
after another, up to the first one that does not fit, leave the stream as it is after all of them
were written at once, and they all fit when their whole fits (`Stream.writeAll_eq`).  So nothing
is lost by describing the output of a note, of a tune or of a session as a single text.

A stream with a capacity holds the first bytes of what an unlimited one holds
(`Stream.Cuts`), and goes on doing so whatever is written on both (`Stream.Cuts.write`).
-/

set_option autoImplicit false

namespace ChatTune

/-- Few bytes are their own first bytes. -/
theorem extract_of_size_le {bytes : ByteArray} {capacity : Nat} (inside : bytes.size ≤ capacity) :
    bytes.extract 0 capacity = bytes := by
  have whole : (bytes.extract 0 bytes.size).extract 0 capacity = bytes.extract 0 bytes.size := by
    rw [ByteArray.extract_extract, Nat.zero_add, Nat.zero_add, Nat.min_eq_right inside]
  rwa [ByteArray.extract_zero_size] at whole

namespace Stream

variable {stream : Stream} {first second : ByteArray}

theorem fits_of_room {room : Nat} (limit : stream.room = some room) (bytes : ByteArray) :
    stream.fits bytes = true ↔ bytes.size ≤ room := by
  simp only [fits, limit, decide_eq_true_eq]

theorem fits_of_unlimited (unlimited : stream.room = none) (bytes : ByteArray) :
    stream.fits bytes = true := by
  simp only [fits, unlimited]

theorem room_write {room : Nat} (limit : stream.room = some room) (bytes : ByteArray) :
    (stream.write bytes).room = some (room - bytes.size) := by
  simp only [write, limit]

theorem room_write_of_unlimited (unlimited : stream.room = none) (bytes : ByteArray) :
    (stream.write bytes).room = none := by
  rw [write_of_unlimited unlimited]

/-! ## Two parts -/

@[simp]
theorem write_empty (stream : Stream) : stream.write ByteArray.empty = stream := by
  obtain ⟨written, room⟩ := stream
  cases room with
  | none => simp only [write, ByteArray.append_empty]
  | some room =>
      have nothing : ByteArray.empty.extract 0 room = ByteArray.empty :=
        extract_of_size_le (Nat.zero_le room)
      simp only [write, nothing, ByteArray.append_empty, ByteArray.size_empty, Nat.sub_zero]

@[simp]
theorem fits_empty (stream : Stream) : stream.fits ByteArray.empty = true := by
  cases limit : stream.room with
  | none => exact fits_of_unlimited limit _
  | some room => exact (fits_of_room limit _).mpr (Nat.zero_le room)

/-- A part that fits leaves the stream to the next one. -/
theorem write_append_of_fits (fits : stream.fits first = true) (second : ByteArray) :
    stream.write (first ++ second) = (stream.write first).write second := by
  obtain ⟨written, room⟩ := stream
  cases room with
  | none => simp only [write, ByteArray.append_assoc]
  | some room =>
      have inside : first.size ≤ room := (fits_of_room rfl first).mp fits
      simp only [write, ByteArray.extract_append, ByteArray.size_append,
        extract_of_size_le inside, ByteArray.append_assoc, Nat.zero_sub, Nat.sub_add_eq]

/-- A part that does not fit leaves no room for the next one. -/
theorem write_append_of_not_fits (full : stream.fits first = false) (second : ByteArray) :
    stream.write (first ++ second) = stream.write first := by
  obtain ⟨written, room⟩ := stream
  cases room with
  | none => cases full
  | some room =>
      have beyond : room < first.size := by
        refine Nat.lt_of_not_le fun inside => ?_
        cases full.symm.trans ((fits_of_room rfl first).mpr inside)
      have nothing : second.extract 0 (room - first.size) = ByteArray.empty := by
        rw [Nat.sub_eq_zero_of_le (Nat.le_of_lt beyond)]
        exact ByteArray.extract_same
      simp only [write, ByteArray.extract_append, ByteArray.size_append, Nat.zero_sub, nothing,
        ByteArray.append_empty]
      rw [Nat.sub_eq_zero_of_le (by omega), Nat.sub_eq_zero_of_le (by omega)]

/-- Two parts fit together when the first one fits, and the second one after it. -/
theorem fits_append :
    stream.fits (first ++ second) = (stream.fits first && (stream.write first).fits second) := by
  rw [Bool.eq_iff_iff, Bool.and_eq_true]
  cases limit : stream.room with
  | none =>
      simp only [fits_of_unlimited limit, fits_of_unlimited (room_write_of_unlimited limit _),
        and_self]
  | some room =>
      rw [fits_of_room limit, fits_of_room limit, fits_of_room (room_write limit _),
        ByteArray.size_append]
      omega

/-! ## Any number of parts -/

/-- The whole of some parts. -/
def whole (parts : List ByteArray) : ByteArray := parts.foldr (· ++ ·) ByteArray.empty

/-- The stream after some parts were written one after another, up to the first one that does not
fit, and whether all of them fitted. -/
def writeAll (stream : Stream) : List ByteArray → Stream × Bool
  | [] => (stream, true)
  | part :: parts =>
    if stream.fits part then (stream.write part).writeAll parts else (stream.write part, false)

/-- **Parts are written as their whole is written.** -/
theorem writeAll_eq (stream : Stream) (parts : List ByteArray) :
    stream.writeAll parts = (stream.write (whole parts), stream.fits (whole parts)) := by
  induction parts generalizing stream with
  | nil => rw [writeAll, whole, List.foldr_nil, write_empty, fits_empty]
  | cons part parts ih =>
      have split : whole (part :: parts) = part ++ whole parts := rfl
      rw [writeAll, split, fits_append]
      cases fits : stream.fits part with
      | true => rw [if_pos rfl, ih, write_append_of_fits fits, Bool.true_and]
      | false =>
          rw [if_neg Bool.false_ne_true, write_append_of_not_fits fits, Bool.false_and]

/-! ## Limited and unlimited streams -/

/-- **A stream that holds the first bytes of an unlimited one,** as many as it has a capacity
for. -/
structure Cuts (capacity : Nat) (free limited : Stream) : Prop where
  unlimited : free.room = none
  room : limited.room = some (capacity - free.written.size)
  written : limited.written = free.written.extract 0 capacity

namespace Cuts

variable {capacity : Nat} {free limited : Stream}

theorem start (capacity : Nat) : Cuts capacity .unlimited (.limited capacity) where
  unlimited := rfl
  room := rfl
  written := (extract_of_size_le (Nat.zero_le capacity)).symm

/-- The same bytes, written on both streams, keep them alike. -/
theorem write (cuts : Cuts capacity free limited) (bytes : ByteArray) :
    Cuts capacity (free.write bytes) (limited.write bytes) where
  unlimited := room_write_of_unlimited cuts.unlimited bytes
  room := by
    rw [room_write cuts.room, written_write_of_unlimited bytes cuts.unlimited,
      ByteArray.size_append, Nat.sub_sub]
  written := by
    rw [written_write bytes cuts.room, written_write_of_unlimited bytes cuts.unlimited,
      ByteArray.extract_append, cuts.written, Nat.zero_sub]

/-- Bytes fit on the limited stream when the unlimited one stays within the capacity. -/
theorem fits_iff (cuts : Cuts capacity free limited) (bytes : ByteArray) :
    limited.fits bytes = true ↔
      bytes.size = 0 ∨ (free.write bytes).written.size ≤ capacity := by
  rw [fits_of_room cuts.room, written_write_of_unlimited bytes cuts.unlimited,
    ByteArray.size_append]
  omega

end Cuts

end Stream

end ChatTune
