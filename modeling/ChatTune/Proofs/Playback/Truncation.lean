import ChatTune.Playback.Session
import ChatTune.Proofs.Chat
import ChatTune.Proofs.Playback.Stream

/-!
# A full stream truncates

An outlet writes a line for every note that sounds, and a tune is the bytes of its lines
(`Playback.lines`).  Playing a tune writes these bytes as far as the stream takes them and
succeeds when it takes all of them (`Outlet.playAll_writes`).  Nothing is written after a line
that was cut, neither by the same tune nor by a later one, since a cut line fills the stream.

So a session on a stream with a capacity says the same as on an unlimited one and writes the first
bytes of what is written there.  A tune fails exactly when its own bytes go beyond the capacity,
and what is reported tells to which piece of a line the first refused byte belongs
(`Session.run_truncates`).
-/

set_option autoImplicit false

namespace ChatTune

/-! ## The bytes of a tune -/

namespace Playback

/-- The bytes of the JSON object of a note. -/
def objectBytes (note : Note Float) : ByteArray :=
  match note.pitches.mapM Pitch.frequency with
  | .ok frequencies => (jsonObject note frequencies).toUTF8
  | .error _ => ByteArray.empty

/-- The bytes of the line of a note. -/
def lineBytes (form : OutletForm) (note : Note Float) : ByteArray :=
  match form with
  | .text => (textLine note).toUTF8
  | .json => objectBytes note ++ "\n".toUTF8
  | .silent => ByteArray.empty

/-- The bytes of the lines of some notes.  Pauses have none. -/
def lines (form : OutletForm) (notes : List (Note Float)) : ByteArray :=
  Stream.whole ((notes.filter fun note => !note.isSilent).map (lineBytes form))

/-- No frequency of a note overflows where frequencies are written. -/
def Sounds (form : OutletForm) (note : Note Float) : Prop :=
  form = .json → ∀ pitch ∈ note.pitches, ∃ frequency, pitch.frequency = .ok frequency

theorem lines_cons_of_silent {form : OutletForm} {note : Note Float} (silent : note.isSilent = true)
    (notes : List (Note Float)) : lines form (note :: notes) = lines form notes := by
  rw [lines, List.filter_cons_of_neg (by rw [silent]; decide), lines]

theorem lines_cons_of_sounding {form : OutletForm} {note : Note Float}
    (sounding : note.isSilent = false) (notes : List (Note Float)) :
    lines form (note :: notes) = lineBytes form note ++ lines form notes := by
  rw [lines, List.filter_cons_of_pos (by rw [sounding]; decide), List.map_cons, Stream.whole,
    List.foldr_cons]
  rfl

end Playback

open Playback

/-! ## Outcomes that write -/

/-- An outcome in which an outlet wrote some bytes as far as they fitted, and which is good when
all of them did. -/
structure Outcome.Writes (outlet : Outlet) (bytes : ByteArray) (outcome : Outcome) : Prop where
  left : outcome.outlet = { outlet with stream := outlet.stream.write bytes }
  good : outcome.result = .ok () ↔ outlet.stream.fits bytes = true

/-- More work on the outlet that some work left, if that went well. -/
def Outcome.andThen (first : Outcome) (next : Outlet → Outcome) : Outcome :=
  match first.result with
  | .ok () => next first.outlet
  | .error failure => ⟨first.outlet, .error failure⟩

namespace Outcome.Writes

variable {outlet : Outlet} {first second : ByteArray}

theorem nothing (outlet : Outlet) : Writes outlet ByteArray.empty ⟨outlet, .ok ()⟩ where
  left := by rw [Stream.write_empty]
  good := by simp only [Stream.fits_empty]

theorem put (outlet : Outlet) (problem : Problem Float) (piece : String) :
    Writes outlet piece.toUTF8 (outlet.put problem piece) where
  left := rfl
  good := by
    unfold Outlet.put
    split
    case isTrue fits => simp only [fits]
    case isFalse full => simp only [full, reduceCtorEq]

/-- What is written after some bytes is written behind them. -/
theorem andThen {outcome : Outcome} {next : Outlet → Outcome}
    (writes : Writes outlet first outcome)
    (others : ∀ stream, Writes { outlet with stream } second (next { outlet with stream })) :
    Writes outlet (first ++ second) (outcome.andThen next) := by
  obtain ⟨after, result⟩ := outcome
  obtain ⟨same, good⟩ := writes
  cases same
  cases fits : outlet.stream.fits first with
  | true =>
      cases good.mpr fits
      obtain ⟨left, goodNext⟩ := others (outlet.stream.write first)
      refine ⟨?_, ?_⟩
      · rw [Stream.write_append_of_fits fits]
        exact left
      · rw [Stream.fits_append, fits, Bool.true_and]
        exact goodNext
  | false =>
      cases result with
      | ok => cases fits.symm.trans (good.mp rfl)
      | error failure =>
          -- The first bytes were cut, so there is no room left that the others would have had.
          refine ⟨?_, ?_⟩
          · rw [Stream.write_append_of_not_fits fits]
            rfl
          · rw [Stream.fits_append, fits, Bool.false_and]
            simp only [Outcome.andThen, reduceCtorEq, Bool.false_eq_true]

end Outcome.Writes

/-! ## Notes and tunes -/

/-- A list of pitches without overflow has its frequencies. -/
theorem Pitch.exists_frequencies {pitches : List Pitch}
    (each : ∀ pitch ∈ pitches, ∃ frequency, pitch.frequency = .ok frequency) :
    ∃ frequencies, pitches.mapM Pitch.frequency = .ok frequencies := by
  induction pitches with
  | nil => exact ⟨[], rfl⟩
  | cons pitch pitches ih =>
      obtain ⟨⟨frequency, first⟩, others⟩ := List.forall_mem_cons.mp each
      obtain ⟨frequencies, later⟩ := ih others
      exact ⟨frequency :: frequencies, by rw [List.mapM_cons, first, later]; rfl⟩

namespace Outlet

variable {outlet : Outlet} {note : Note Float} {notes : List (Note Float)}

theorem sound_of_text (text : outlet.form = .text) (note : Note Float) :
    outlet.sound note = outlet.put (.file fullReason) (textLine note) := by
  simp only [sound, text]

/-- A JSON line is an object, and the end of the line if that went well. -/
theorem sound_of_json (json : outlet.form = .json) {frequencies : List Float32}
    (found : note.pitches.mapM Pitch.frequency = .ok frequencies) :
    outlet.sound note =
      (outlet.put (.json .transfer fullReason) (jsonObject note frequencies)).andThen
        fun outlet => outlet.put (.file fullReason) "\n" := by
  simp only [sound, json, found, putJson, Outcome.andThen]
  cases (outlet.put (.json .transfer fullReason) (jsonObject note frequencies)).result <;> rfl

/-- A note is played and the others after it, unless it fails. -/
theorem playAll_cons_of_sounding (sounding : note.isSilent = false)
    (notes : List (Note Float)) :
    outlet.playAll (note :: notes) =
      (outlet.sound note).andThen fun outlet => outlet.playAll notes :=
  if_neg (Bool.eq_false_iff.mp sounding)

theorem playAll_cons_of_silent (silent : note.isSilent = true) (notes : List (Note Float)) :
    outlet.playAll (note :: notes) = outlet.playAll notes := by
  rw [playAll, if_pos silent]

/-- A sounding note writes its line. -/
theorem sound_writes (loud : outlet.form ≠ .silent) (sounds : Sounds outlet.form note) :
    (outlet.sound note).Writes outlet (lineBytes outlet.form note) := by
  cases form : outlet.form with
  | text =>
      rw [sound_of_text form, lineBytes]
      exact .put outlet _ _
  | json =>
      obtain ⟨frequencies, found⟩ := Pitch.exists_frequencies (sounds form)
      rw [sound_of_json form found, lineBytes, objectBytes]
      simp only [found]
      exact (Outcome.Writes.put outlet _ _).andThen fun stream => .put _ _ _
  | silent => exact absurd form loud

/-- **Playing a tune writes its lines** as far as the stream takes them, and goes well when it
takes all of them. -/
theorem playAll_writes (loud : outlet.form ≠ .silent)
    (sounds : ∀ note ∈ notes, Sounds outlet.form note) :
    (outlet.playAll notes).Writes outlet (lines outlet.form notes) := by
  induction notes generalizing outlet with
  | nil => exact .nothing outlet
  | cons note notes ih =>
      obtain ⟨first, others⟩ := List.forall_mem_cons.mp sounds
      cases silent : note.isSilent with
      | true =>
          rw [playAll_cons_of_silent silent, lines_cons_of_silent silent]
          exact ih loud others
      | false =>
          rw [playAll_cons_of_sounding silent, lines_cons_of_sounding silent]
          exact (sound_writes loud first).andThen fun stream => ih loud others

/-! ## What is reported -/

/-- A line of columns fails as a file. -/
theorem sound_error_of_text (text : outlet.form = .text) {failure : Failure Float}
    (failed : (outlet.sound note).result = .error failure) :
    failure = .problem (.file fullReason) := by
  rw [sound_of_text text, put] at failed
  split at failed
  · cases failed
  · cases failed
    rfl

/-- A JSON line fails as JSON when its object does not fit, and as a file when only the end of
the line does not. -/
theorem sound_error_of_json (json : outlet.form = .json) {room : Nat}
    (limit : outlet.stream.room = some room) (sounds : Sounds outlet.form note)
    {failure : Failure Float} (failed : (outlet.sound note).result = .error failure) :
    (room < (objectBytes note).size ∧ failure = .problem (.json .transfer fullReason)) ∨
      (room = (objectBytes note).size ∧ failure = .problem (.file fullReason)) := by
  obtain ⟨frequencies, found⟩ := Pitch.exists_frequencies (sounds json)
  have object : objectBytes note = (jsonObject note frequencies).toUTF8 := by
    simp only [objectBytes, found]
  rw [sound_of_json json found] at failed
  rw [object]
  cases fits : outlet.stream.fits (jsonObject note frequencies).toUTF8 with
  | false =>
      have beyond : ¬ (jsonObject note frequencies).toUTF8.size ≤ room := fun inside => by
        cases fits.symm.trans ((Stream.fits_of_room limit _).mpr inside)
      simp only [Outcome.andThen, put, fits, Bool.false_eq_true, if_false] at failed
      cases failed
      exact .inl ⟨Nat.lt_of_not_le beyond, rfl⟩
  | true =>
      have inside := (Stream.fits_of_room limit _).mp fits
      have left := Stream.room_write limit (jsonObject note frequencies).toUTF8
      simp only [Outcome.andThen, put, fits, if_true] at failed
      split at failed
      · cases failed
      case isFalse full =>
          cases failed
          refine .inr ⟨Nat.le_antisymm ?_ inside, rfl⟩
          have newline : ¬ 1 ≤ room - (jsonObject note frequencies).toUTF8.size := fun more =>
            full ((Stream.fits_of_room left _).mpr more)
          omega

/-- A tune fails at one of its sounding notes, after the lines of the earlier ones were taken. -/
theorem playAll_error (loud : outlet.form ≠ .silent)
    (sounds : ∀ note ∈ notes, Sounds outlet.form note) {room : Nat}
    (limit : outlet.stream.room = some room) {failure : Failure Float}
    (failed : (outlet.playAll notes).result = .error failure) :
    ∃ (earlier : List (Note Float)) (note : Note Float) (later : List (Note Float))
        (reached : Outlet),
      (notes.filter fun note => !note.isSilent) = earlier ++ note :: later ∧
        Sounds outlet.form note ∧ (lines outlet.form earlier).size ≤ room ∧
        reached.form = outlet.form ∧
        reached.stream.room = some (room - (lines outlet.form earlier).size) ∧
        (reached.sound note).result = .error failure := by
  induction notes generalizing outlet room with
  | nil => cases failed
  | cons note notes ih =>
      obtain ⟨first, others⟩ := List.forall_mem_cons.mp sounds
      cases silent : note.isSilent with
      | true =>
          rw [playAll_cons_of_silent silent] at failed
          rw [List.filter_cons_of_neg (by rw [silent]; decide)]
          exact ih loud others limit failed
      | false =>
          rw [playAll_cons_of_sounding silent] at failed
          rw [List.filter_cons_of_pos (by rw [silent]; decide)]
          obtain ⟨left, good⟩ := sound_writes loud first
          cases result : (outlet.sound note).result with
          | error reported =>
              simp only [Outcome.andThen, result] at failed
              cases failed
              exact ⟨[], note, _, outlet, rfl, first, Nat.zero_le _, rfl, limit, result⟩
          | ok =>
              simp only [Outcome.andThen, result, left] at failed
              have inside := (Stream.fits_of_room limit _).mp (good.mp result)
              obtain ⟨earlier, last, later, reached, split, sounds, taken, form, room, fails⟩ :=
                @ih { outlet with stream := outlet.stream.write (lineBytes outlet.form note) }
                  loud others _ (Stream.room_write limit _) failed
              have more : (lines outlet.form (note :: earlier)).size =
                  (lineBytes outlet.form note).size + (lines outlet.form earlier).size := by
                rw [lines_cons_of_sounding silent, ByteArray.size_append]
              refine ⟨note :: earlier, last, later, reached, by rw [split]; rfl, sounds, ?_, form,
                ?_, fails⟩
              · rw [more]
                dsimp only at taken
                omega
              · rw [more, Nat.sub_add_eq]
                exact room

end Outlet

/-! ## Tunes on a limited stream -/

/-- A limited outlet that writes in the form of an unlimited one and holds the first bytes of what
that one holds. -/
structure Outlet.Cuts (capacity : Nat) (free limited : Outlet) : Prop where
  form : limited.form = free.form
  stream : Stream.Cuts capacity free.stream limited.stream

/-- **What a capacity does to a tune** that is played behind some bytes, compared to the tune on an
unlimited stream. -/
structure Truncated (form : OutletForm) (capacity : Nat) (before : ByteArray)
    (notes : List (Note Float)) (free limited : Outcome) : Prop where
  /-- The tune's own bytes are its lines. -/
  own : free.outlet.stream.written = before ++ lines form notes
  /-- Without a sounding note nothing can fail. -/
  silent : (∀ note ∈ notes, note.isSilent = true) → limited.result = .ok ()
  /-- A tune with bytes of its own goes well when they end within the capacity. -/
  good : before.size < free.outlet.stream.written.size →
    (limited.result = .ok () ↔ free.outlet.stream.written.size ≤ capacity)
  /-- Columns fail as a file. -/
  text : form = .text → ∀ failure, limited.result = .error failure →
    failure = .problem (.file fullReason)
  /-- Of the tune's own bytes, the first one that is refused belongs to an object, and is reported
  as JSON, or ends the line of one, and is reported as a file. -/
  json : form = .json → ∀ failure, limited.result = .error failure →
    ∃ earlier note later,
      (notes.filter fun note => !note.isSilent) = earlier ++ note :: later ∧
        let refused := max capacity before.size
        let object := before.size + (lines form earlier).size
        let newline := object + (objectBytes note).size
        (object ≤ refused ∧ refused < newline ∧
            failure = .problem (.json .transfer fullReason)) ∨
          (refused = newline ∧ failure = .problem (.file fullReason))

theorem lines_of_silent {form : OutletForm} {notes : List (Note Float)}
    (silent : ∀ note ∈ notes, note.isSilent = true) : lines form notes = ByteArray.empty := by
  induction notes with
  | nil => rfl
  | cons note notes ih =>
      obtain ⟨first, others⟩ := List.forall_mem_cons.mp silent
      rw [lines_cons_of_silent first, ih others]

/-- A tune on a limited outlet is truncated, and the outlets stay alike. -/
theorem Outlet.Cuts.playAll {capacity : Nat} {free limited : Outlet}
    (cuts : Cuts capacity free limited) (loud : free.form ≠ .silent) {notes : List (Note Float)}
    (sounds : ∀ note ∈ notes, Sounds free.form note) :
    Cuts capacity (free.playAll notes).outlet (limited.playAll notes).outlet ∧
      Truncated free.form capacity free.stream.written notes (free.playAll notes)
        (limited.playAll notes) := by
  obtain ⟨form, stream⟩ := cuts
  have loudLimited : limited.form ≠ .silent := form ▸ loud
  have soundsLimited : ∀ note ∈ notes, Sounds limited.form note := form ▸ sounds
  obtain ⟨left, -⟩ := playAll_writes loud sounds
  obtain ⟨leftLimited, goodLimited⟩ := playAll_writes loudLimited soundsLimited
  rw [form] at leftLimited goodLimited
  have own : (free.stream.write (lines free.form notes)).written =
      free.stream.written ++ lines free.form notes :=
    Stream.written_write_of_unlimited _ stream.unlimited
  refine ⟨⟨?_, ?_⟩, ?_, fun silent => ?_, fun more => ?_, fun text failure failed => ?_,
    fun json failure failed => ?_⟩
  · rw [left, leftLimited]
  · rw [left, leftLimited]
    exact stream.write _
  · rw [left]
    exact own
  · rw [goodLimited, lines_of_silent silent, Stream.fits_empty]
  · rw [goodLimited, stream.fits_iff, left]
    rw [left, own, ByteArray.size_append] at more
    constructor
    · rintro (nothing | inside)
      · omega
      · exact inside
    · exact .inr
  · obtain ⟨-, note, -, reached, -, -, -, same, -, fails⟩ :=
      playAll_error loudLimited soundsLimited stream.room failed
    exact sound_error_of_text (same.trans (form.trans text)) fails
  · obtain ⟨earlier, note, later, reached, split, sounding, taken, same, room, fails⟩ :=
      playAll_error loudLimited soundsLimited stream.room failed
    rw [form] at taken room same sounding
    refine ⟨earlier, note, later, split, ?_⟩
    intro refused object newline
    have reported := sound_error_of_json (same.trans json) room (same.symm ▸ sounding) fails
    -- Behind the capacity there is no room at all, and the first byte of the tune is refused.
    have place : refused = free.stream.written.size + (capacity - free.stream.written.size) := by
      omega
    rcases reported with ⟨inside, report⟩ | ⟨behind, report⟩
    · exact .inl ⟨by omega, by omega, report⟩
    · exact .inr ⟨by omega, report⟩

/-- The labels and brackets of an object alone take fifty bytes. -/
theorem fifty_le_size_objectBytes {note : Note Float} (sounds : Sounds .json note) :
    50 ≤ (objectBytes note).size := by
  obtain ⟨frequencies, found⟩ := Pitch.exists_frequencies (sounds rfl)
  have object : (objectBytes note).size = (jsonObject note frequencies).utf8ByteSize := by
    simp only [objectBytes, found]
    rfl
  have brackets (values : List String) : 2 ≤ (jsonList values).utf8ByteSize := by
    have ends : "[".utf8ByteSize = 1 ∧ "]".utf8ByteSize = 1 := by decide
    simp only [jsonList, String.utf8ByteSize_append, ends]
    omega
  have labels : "\x7b\"notes\":".utf8ByteSize = 9 ∧ ",\"freqs\":".utf8ByteSize = 9 ∧
      ",\"duration\":".utf8ByteSize = 12 ∧ ",\"attack_time\":".utf8ByteSize = 15 ∧
      "\x7d".utf8ByteSize = 1 := by
    decide +kernel
  have names := brackets (note.pitches.map jsonName)
  have values := brackets (frequencies.map Json.singleLayout.single)
  unfold jsonObject at object
  simp only [String.utf8ByteSize_append] at object
  omega

/-- A tune whose first object goes beyond the capacity is reported as JSON. -/
theorem Truncated.result_of_long_object {capacity : Nat} {before : ByteArray} {note : Note Float}
    {notes : List (Note Float)} {free limited : Outcome}
    (truncated : Truncated .json capacity before (note :: notes) free limited)
    (sounding : note.isSilent = false)
    (long : max capacity before.size < before.size + (objectBytes note).size) :
    limited.result = .error (.problem (.json .transfer fullReason)) := by
  have size (others : List (Note Float)) : (objectBytes note).size + (lines .json others).size ≤
      (lines .json (note :: others)).size := by
    rw [lines_cons_of_sounding sounding, lineBytes, ByteArray.size_append, ByteArray.size_append]
    omega
  cases result : limited.result with
  | ok =>
      have whole : free.outlet.stream.written.size =
          before.size + (lines .json (note :: notes)).size := by
        rw [truncated.own, ByteArray.size_append]
      have more := size notes
      have inside := (truncated.good (by omega)).mp result
      omega
  | error failure =>
      obtain ⟨earlier, last, later, split, refused⟩ := truncated.json rfl failure result
      rw [List.filter_cons_of_pos (by rw [sounding]; decide)] at split
      rcases refused with ⟨-, -, report⟩ | ⟨behind, -⟩
      · rw [report]
      · cases earlier with
        | nil =>
            obtain ⟨rfl, -⟩ := List.cons.inj split
            omega
        | cons first earlier =>
            obtain ⟨rfl, -⟩ := List.cons.inj split
            have more := size earlier
            omega

/-! ## Sessions -/

namespace Session

variable {settings : Settings} {message : Message}

theorem answer_of_play {notes : Array (Note Float)}
    (plays : Chat.reply settings message.now message.text = .ok (some (.play notes)))
    (outlet : Outlet) :
    answer settings outlet message = ⟨.ok (some (.play notes)), outlet.playAll notes.toList⟩ := by
  simp only [answer, plays]

theorem answer_of_not_play
    (other : ∀ notes, Chat.reply settings message.now message.text ≠ .ok (some (.play notes)))
    (outlet : Outlet) :
    answer settings outlet message =
      ⟨Chat.reply settings message.now message.text, outlet, .ok ()⟩ := by
  simp only [answer]

/-- What is written after some steps of a session on a stream that held some bytes before. -/
def written (before : ByteArray) : List Answered → ByteArray
  | [] => before
  | step :: steps => written step.outcome.outlet.stream.written steps

/-- **What a capacity does to a step of a session,** compared to the step on an unlimited stream
that held some bytes before. -/
structure StepTruncated (form : OutletForm) (capacity : Nat) (before : ByteArray)
    (free limited : Answered) : Prop where
  answer : limited.answer = free.answer
  written : limited.outcome.outlet.stream.written =
    free.outcome.outlet.stream.written.extract 0 capacity
  tune : ∀ notes, free.answer = .ok (some (.play notes)) →
    Truncated form capacity before notes.toList free.outcome limited.outcome
  /-- Only tunes write. -/
  other : (∀ notes, free.answer ≠ .ok (some (.play notes))) →
    free.outcome.outlet.stream.written = before ∧ limited.outcome.result = .ok ()

/-- A step on a limited outlet is truncated, and the outlets stay alike. -/
theorem answer_truncated {capacity : Nat} {free limited : Outlet}
    (cuts : Outlet.Cuts capacity free limited) (loud : free.form ≠ .silent)
    (sounds : ∀ notes, Chat.reply settings message.now message.text = .ok (some (.play notes)) →
      ∀ note ∈ notes.toList, Sounds free.form note) :
    Outlet.Cuts capacity (answer settings free message).outcome.outlet
        (answer settings limited message).outcome.outlet ∧
      StepTruncated free.form capacity free.stream.written (answer settings free message)
        (answer settings limited message) := by
  by_cases plays : ∃ notes, Chat.reply settings message.now message.text = .ok (some (.play notes))
  · obtain ⟨notes, plays⟩ := plays
    obtain ⟨alike, truncated⟩ := cuts.playAll loud (sounds notes plays)
    rw [answer_of_play plays, answer_of_play plays]
    refine ⟨alike, rfl, alike.stream.written, fun same found => ?_, fun other => ?_⟩
    · cases found
      exact truncated
    · exact absurd rfl (other notes)
  · have other : ∀ notes, Chat.reply settings message.now message.text ≠ .ok (some (.play notes)) :=
      fun notes found => plays ⟨notes, found⟩
    rw [answer_of_not_play other, answer_of_not_play other]
    exact ⟨cuts, rfl, cuts.stream.written, fun notes found => absurd found (other notes),
      fun _ => ⟨rfl, rfl⟩⟩

theorem answer_answer (settings : Settings) (outlet : Outlet) (message : Message) :
    (answer settings outlet message).answer = Chat.reply settings message.now message.text := by
  simp only [answer]
  split <;> simp only [*]

theorem answer_form (settings : Settings) (outlet : Outlet) (message : Message)
    (loud : outlet.form ≠ .silent)
    (sounds : ∀ notes, Chat.reply settings message.now message.text = .ok (some (.play notes)) →
      ∀ note ∈ notes.toList, Sounds outlet.form note) :
    (answer settings outlet message).outcome.outlet.form = outlet.form := by
  by_cases plays : ∃ notes, Chat.reply settings message.now message.text = .ok (some (.play notes))
  · obtain ⟨notes, plays⟩ := plays
    rw [answer_of_play plays, (Outlet.playAll_writes loud (sounds notes plays)).left]
  · rw [answer_of_not_play fun notes found => plays ⟨notes, found⟩]

/-- What a capacity does to the step that answers a message at some place of a session. -/
def StepTruncatedAt (settings : Settings) (form : OutletForm) (capacity : Nat)
    (before : ByteArray) (free limited : List Answered) (place : Nat) (message : Message) : Prop :=
  ∃ freeStep limitedStep,
    free[place]? = some freeStep ∧ limited[place]? = some limitedStep ∧
      freeStep.answer = Chat.reply settings message.now message.text ∧
      StepTruncated form capacity (written before (free.take place)) freeStep limitedStep

/-- A session on a limited outlet is truncated step by step. -/
theorem run_truncated {capacity : Nat} {free limited : Outlet} {messages : List Message}
    (cuts : Outlet.Cuts capacity free limited) (loud : free.form ≠ .silent)
    (sounds : ∀ message ∈ messages, ∀ notes,
      Chat.reply settings message.now message.text = .ok (some (.play notes)) →
        ∀ note ∈ notes.toList, Sounds free.form note) :
    written limited.stream.written (run settings limited messages) =
        (written free.stream.written (run settings free messages)).extract 0 capacity ∧
      ∀ (place : Nat) (message : Message), messages[place]? = some message →
        StepTruncatedAt settings free.form capacity free.stream.written
          (run settings free messages) (run settings limited messages) place message := by
  induction messages generalizing free limited with
  | nil =>
      refine ⟨cuts.stream.written, fun place message found => ?_⟩
      cases found
  | cons first messages ih =>
      obtain ⟨here, others⟩ := List.forall_mem_cons.mp sounds
      obtain ⟨alike, truncated⟩ := answer_truncated cuts loud here
      have form := answer_form settings free first loud here
      obtain ⟨whole, steps⟩ := ih alike (form ▸ loud) (form ▸ others)
      refine ⟨whole, fun place message found => ?_⟩
      cases place with
      | zero =>
          cases found
          exact ⟨_, _, rfl, rfl, answer_answer settings free first, truncated⟩
      | succ place =>
          rw [form] at steps
          exact steps place message found

/-- **A full stream only truncates a session.**  On a stream with a capacity a session writes the
first bytes of what it writes on an unlimited one, as many as there is capacity for, and they are
the same in whatever parts they are written.  Each of its steps is the truncated one. -/
theorem run_truncates (settings : Settings) (form : OutletForm) (capacity : Nat)
    (messages : List Message) (loud : form ≠ .silent)
    (inRange : form = .json → ∀ message ∈ messages, ∀ notes,
      Chat.reply settings message.now message.text = .ok (some (.play notes)) →
        ∀ note ∈ notes.toList, ∀ pitch ∈ note.pitches, ∃ frequency,
          pitch.frequency = .ok frequency) :
    let free := run settings (.opening form .unlimited) messages
    let limited := run settings (.opening form (.limited capacity)) messages
    written .empty limited = (written .empty free).extract 0 capacity ∧
      (∀ parts, Stream.whole parts = written .empty free →
        ((Stream.limited capacity).writeAll parts).1.written = written .empty limited) ∧
      ∀ (place : Nat) (message : Message), messages[place]? = some message →
        StepTruncatedAt settings form capacity .empty free limited place message := by
  intro free limited
  have cuts : Outlet.Cuts capacity (.opening form .unlimited) (.opening form (.limited capacity)) :=
    ⟨rfl, Stream.Cuts.start capacity⟩
  obtain ⟨truncated, steps⟩ := run_truncated cuts loud
    fun message member notes plays note sounding json =>
      inRange json message member notes plays note sounding
  refine ⟨truncated, fun parts whole => ?_, steps⟩
  calc ((Stream.limited capacity).writeAll parts).1.written
      = ((Stream.limited capacity).write (written .empty free)).written := by
        rw [Stream.writeAll_eq, whole]
    _ = ByteArray.empty ++ (written .empty free).extract 0 capacity :=
        Stream.written_write _ rfl
    _ = written .empty limited := by
        rw [ByteArray.empty_append]
        exact truncated.symm

/-- Twenty bytes are too few for the JSON object of a note.  Help is given all the same. -/
theorem run_of_twenty_bytes :
    let messages : List Message := [⟨"!ocarina v".toList, 100⟩, ⟨"!ocarina".toList, 101⟩]
    let free := run .default (.opening .json .unlimited) messages
    let limited := run .default (.opening .json (.limited 20)) messages
    written .empty limited = (written .empty free).extract 0 20 ∧
      (∃ tune, limited[0]? = some tune ∧
        tune.answer = .ok (some (.play #[⟨[.plain .f 4], 100, 0.3⟩])) ∧
        tune.outcome.result = .error (.problem (.json .transfer fullReason))) ∧
      ∃ help, limited[1]? = some help ∧
        help.answer = .ok (some (.help Settings.default.chat.help)) ∧
        help.outcome.result = .ok () := by
  intro messages free limited
  let note : Note Float := ⟨[.plain .f 4], 100, 0.3⟩
  have tune : Chat.reply .default 100 "!ocarina v".toList = .ok (some (.play #[note])) := by
    have split : Text.lowercase "!ocarina v".toList =
        Text.lowercase Settings.default.chat.trigger.toList ++ ' ' :: ['v'] := by
      decide +kernel
    have composed : Score.compose Settings.default.rules 100
        ((Text.lowercase ['v']).map Command.ofSymbol) = .ok #[note] := by
      decide +kernel
    have accepted : Score.accept Settings.default.rules #[note] = .ok () := by
      decide +kernel
    rw [Chat.reply_of_tune 100 split, Score.ofBody_eq, composed]
    simp only [accepted]
    rfl
  have help : Chat.reply .default 101 "!ocarina".toList =
      .ok (some (.help Settings.default.chat.help)) :=
    Chat.reply_of_trigger 101 rfl
  have sounds : Sounds .json note := fun _ pitch member => by
    cases List.mem_singleton.mp member
    exact ⟨_, rfl⟩
  obtain ⟨whole, -, steps⟩ := run_truncates .default .json 20 messages (by decide) (by
    intro json message member notes plays sounding among
    rcases List.mem_cons.mp member with rfl | other
    · cases tune.symm.trans plays
      cases List.mem_singleton.mp among
      exact sounds json
    · cases List.mem_singleton.mp other
      cases help.symm.trans plays)
  refine ⟨whole, ?_, ?_⟩
  · obtain ⟨freeTune, limitedTune, -, found, answered, truncated⟩ := steps 0 _ rfl
    have long := fifty_le_size_objectBytes sounds
    refine ⟨limitedTune, found, truncated.answer.trans (answered.trans tune), ?_⟩
    refine (truncated.tune _ (answered.trans tune)).result_of_long_object rfl ?_
    exact Nat.lt_of_lt_of_le (by decide) (Nat.le_add_left_of_le long)
  · obtain ⟨freeHelp, limitedHelp, -, found, answered, truncated⟩ := steps 1 _ rfl
    refine ⟨limitedHelp, found, truncated.answer.trans (answered.trans help), ?_⟩
    refine (truncated.other fun notes plays => ?_).2
    cases (answered.trans help).symm.trans plays

end Session

end ChatTune
