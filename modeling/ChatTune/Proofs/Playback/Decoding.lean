import ChatTune.Proofs.Json.Written
import ChatTune.Proofs.Music.Name
import ChatTune.Proofs.Playback.Truncation

/-!
# What is played can be read back

An outlet writes a line for each note that sounds, and what a line tells of its note can be read
from it.  A line of columns has three of them, and the names in the third are the pitches of the
note (`Playback.ofColumns?`).  A JSON line is an object with the names and with as many frequencies
(`Playback.ofObject?`).  No name and no number has a character that separates names, columns or
lines, whatever the number is, so a performance is taken apart at these characters into the notes
that sounded (`Outlet.playAll_decodes`).
-/

set_option autoImplicit false

namespace ChatTune

open Playback
open Text (IsToken)

/-! ## Readers -/

namespace Json

/-- The items of a list that is complete. -/
def Items.complete? : Items → Option (List Node)
  | .close => some []
  | .item node rest => (rest.complete?).map (node :: ·)
  | .broken .. => none

/-- The members of an object that is complete. -/
def Members.complete? : Members → Option (List (String × Node))
  | .close => some []
  | .member (.ok name) node rest => (rest.complete?).map ((name, node) :: ·)
  | _ => none

/-- The items of a list. -/
def Node.items? : Node → Option (List Node)
  | .list items => items.complete?
  | _ => none

/-- The members of an object. -/
def Node.members? : Node → Option (List (String × Node))
  | .object members => members.complete?
  | _ => none

theorem Items.complete?_of (nodes : List Node) : (Items.of nodes).complete? = some nodes := by
  induction nodes with
  | nil => rfl
  | cons node nodes ih => rw [of, complete?, ih, Option.map_some]

theorem Members.complete?_of (members : List (String × Node)) :
    (Members.of members).complete? = some members := by
  induction members with
  | nil => rfl
  | cons member members ih => rw [of, complete?, ih, Option.map_some]

end Json

/-- The pitch of a name in JSON. -/
def Pitch.ofNode? : Json.Node → Option Pitch
  | .text (.ok name) => ofName? name.toList
  | _ => none

namespace Playback

/-- The pitches that a line of columns tells: names between single blanks in the third of three
columns. -/
def ofColumns? (line : List Char) : Option (List Pitch) :=
  match line.splitOn '\t' with
  | [_, _, names] => (names.splitOn ' ').mapM Pitch.ofName?
  | _ => none

/-- The pitches that a JSON line tells, and the number of its frequencies: the line is one object,
with a list of names and a list of frequencies. -/
def ofObject? (line : List Char) : Option (List Pitch × Nat) := do
  let object ← Json.valueOf? line
  let members ← object.members?
  let names ← (← members.lookup "notes").items?
  let frequencies ← (← members.lookup "freqs").items?
  return (← names.mapM Pitch.ofNode?, frequencies.length)

end Playback

/-- A list is read item by item, if each item is read as what was written. -/
theorem mapM_eq_some_of_forall {α β : Type} {read? : α → Option β} {write : β → α}
    (inverse : ∀ value, read? (write value) = some value) (values : List β) :
    (values.map write).mapM read? = some values := by
  induction values with
  | nil => rfl
  | cons value values ih => simp only [List.map_cons, List.mapM_cons, inverse, ih]; rfl

/-- **An outcome that tells some things,** each on a line of its own that is read as it, in their
order, and nothing else. -/
structure Outcome.Tells {α : Type} (read? : List Char → Option α) (told : List α)
    (outcome : Outcome) : Prop where
  good : outcome.result = .ok ()
  lines : ∃ (text : String) (lines : List (List Char)),
    outcome.outlet.stream.written = text.toUTF8 ∧
      text.toList.splitOn '\n' = lines ++ [[]] ∧ lines.map read? = told.map some

/-! ## Lines -/

/-- Lines that are ended each can be taken apart. -/
theorem splitOn_ended {lines : List (List Char)} (oneLine : ∀ line ∈ lines, '\n' ∉ line) :
    (lines.flatMap (· ++ ['\n'])).splitOn '\n' = lines ++ [[]] := by
  induction lines with
  | nil => rfl
  | cons line lines ih =>
      obtain ⟨first, others⟩ := List.forall_mem_cons.mp oneLine
      rw [List.flatMap_cons, List.append_assoc, List.singleton_append,
        List.splitOn_append_cons_self_of_not_mem first, ih others]
      rfl

/-- The bytes of ended lines, one after another, are those of their text. -/
theorem whole_ended (lines : List (List Char)) :
    Stream.whole (lines.map fun line => (String.ofList (line ++ ['\n'])).toUTF8) =
      (String.ofList (lines.flatMap (· ++ ['\n']))).toUTF8 := by
  induction lines with
  | nil => rfl
  | cons line lines ih =>
      have split : String.ofList ((line ++ ['\n']) ++ lines.flatMap (· ++ ['\n'])) =
          String.ofList (line ++ ['\n']) ++ String.ofList (lines.flatMap (· ++ ['\n'])) :=
        String.ofList_append
      rw [Stream.whole] at ih
      rw [List.map_cons, Stream.whole, List.foldr_cons, ih, List.flatMap_cons, split]
      exact String.toByteArray_append.symm

/-- A text that is the line of a note, stands on one line, and is read as something. -/
structure LineTells {α : Type} (form : OutletForm) (note : Note Float)
    (read? : List Char → Option α) (told : α) (line : List Char) : Prop where
  bytes : lineBytes form note = (String.ofList (line ++ ['\n'])).toUTF8
  oneLine : '\n' ∉ line
  read : read? line = some told

/-- An outlet whose lines are read as something of their notes tells it of the notes that sound. -/
theorem Outlet.tells_of_lines {α : Type} {form : OutletForm} (loud : form ≠ .silent)
    {notes : List (Note Float)} (sounds : ∀ note ∈ notes, Sounds form note)
    (write : Note Float → List Char) {read? : List Char → Option α} {told : Note Float → α}
    (each : ∀ note ∈ notes.filter fun note => !note.isSilent,
      LineTells form note read? (told note) (write note)) :
    ((Outlet.opening form .unlimited).playAll notes).Tells read?
      ((notes.filter fun note => !note.isSilent).map told) := by
  have writes : ((Outlet.opening form .unlimited).playAll notes).Writes
      (.opening form .unlimited) (lines form notes) := Outlet.playAll_writes loud sounds
  obtain ⟨left, good⟩ := writes
  refine ⟨good.mpr (Stream.fits_of_unlimited rfl _), ?_⟩
  revert each
  generalize sounding : (notes.filter fun note => !note.isSilent) = heard
  intro each
  have bytes : heard.map (lineBytes form) =
      (heard.map write).map fun line => (String.ofList (line ++ ['\n'])).toUTF8 := by
    rw [List.map_map]
    exact List.map_congr_left fun note member => (each note member).bytes
  have oneLine : ∀ line ∈ heard.map write, '\n' ∉ line :=
    List.forall_mem_map.mpr fun note member => (each note member).oneLine
  refine ⟨String.ofList ((heard.map write).flatMap (· ++ ['\n'])), heard.map write, ?_, ?_, ?_⟩
  · rw [left, ← whole_ended, ← bytes, ← sounding]
    exact ByteArray.empty_append
  · rw [String.toList_ofList]
    exact splitOn_ended oneLine
  · rw [List.map_map, List.map_map]
    exact List.map_congr_left fun note member => (each note member).read

/-! ## Columns -/

/-- The names of pitches between single blanks. -/
def namesText (pitches : List Pitch) : List Char :=
  [' '].intercalate (pitches.map fun pitch => pitch.name.toList)

/-- The columns of a note. -/
def columns (note : Note Float) : List (List Char) :=
  [(column note.attack).toList, (column note.duration).toList, namesText note.pitches]

/-- The line of a note, without its end. -/
def columnsText (note : Note Float) : List Char := ['\t'].intercalate (columns note)

theorem toList_textLine (note : Note Float) :
    (textLine note).toList = columnsText note ++ ['\n'] := by
  have names : (String.intercalate " " (note.pitches.map Pitch.name)).toList =
      namesText note.pitches := by
    rw [String.toList_intercalate, List.map_map]
    rfl
  have tab : "\t".toList = ['\t'] := rfl
  have newline : "\n".toList = ['\n'] := rfl
  simp only [textLine, columnsText, columns, String.toList_append, names, tab, newline,
    List.intercalate_cons_cons, List.intercalate_singleton, List.append_assoc]

/-- No column holds a separator of columns or of lines. -/
theorem not_mem_of_mem_columns {mark : Char} (other : mark ≠ ' ')
    (outside : Text.inToken mark = false) (note : Note Float) :
    ∀ text ∈ columns note, mark ∉ text := by
  have names : mark ∉ namesText note.pitches :=
    Text.not_mem_intercalate other
      (List.forall_mem_map.mpr fun pitch _ => (Pitch.isToken_name pitch).not_mem outside)
  have time (time : Float) : mark ∉ (column time).toList :=
    (Decimal.isToken_fixed 3 time).not_mem outside
  exact List.forall_mem_cons.mpr ⟨time _, List.forall_mem_cons.mpr ⟨time _,
    List.forall_mem_singleton.mpr names⟩⟩

/-- Names are taken apart at the blanks between them, if there are any. -/
theorem splitOn_namesText {pitches : List Pitch} (nonempty : pitches ≠ []) :
    (namesText pitches).splitOn ' ' = pitches.map fun pitch => pitch.name.toList :=
  List.splitOn_intercalate ' '
    (List.forall_mem_map.mpr fun pitch _ => (Pitch.isToken_name pitch).not_mem (by decide))
    fun empty => nonempty (List.map_eq_nil_iff.mp empty)

/-- **A line of columns is read as the pitches of its note.** -/
theorem ofColumns?_columnsText {note : Note Float} (sounding : note.isSilent = false) :
    ofColumns? (columnsText note) = some note.pitches := by
  have split : (columnsText note).splitOn '\t' = columns note :=
    List.splitOn_intercalate '\t' (not_mem_of_mem_columns (by decide) (by decide) note)
      (List.cons_ne_nil _ _)
  have pitches : note.pitches ≠ [] := fun empty => by
    rw [Note.isSilent, empty] at sounding
    cases sounding
  rw [ofColumns?, split, columns]
  dsimp only
  rw [splitOn_namesText pitches]
  exact mapM_eq_some_of_forall Pitch.ofName?_name note.pitches

/-- The line of a note that sounds tells its pitches. -/
theorem lineTells_columnsText {note : Note Float} (sounding : note.isSilent = false) :
    LineTells .text note ofColumns? note.pitches (columnsText note) where
  bytes := by
    rw [← toList_textLine, String.ofList_toList]
    rfl
  oneLine := Text.not_mem_intercalate (by decide)
    (not_mem_of_mem_columns (by decide) (by decide) note)
  read := ofColumns?_columnsText sounding

/-! ## Objects -/

/-- The object of a note, without the end of the line. -/
def objectText (note : Note Float) : List Char :=
  match note.pitches.mapM Pitch.frequency with
  | .ok frequencies => (jsonObject note frequencies).toList
  | .error _ => []

theorem toList_jsonList (values : List String) :
    (jsonList values).toList = '[' :: [','].intercalate (values.map String.toList) ++ [']'] := by
  rw [jsonList, String.toList_append, String.toList_append, String.toList_intercalate]
  rfl

theorem toList_jsonObject (note : Note Float) (frequencies : List Float32) :
    (jsonObject note frequencies).toList =
      '\x7b' :: [','].intercalate
        [Json.memberText "notes" (jsonList (note.pitches.map jsonName)).toList,
          Json.memberText "freqs"
            (jsonList (frequencies.map Json.singleLayout.single)).toList,
          Json.memberText "duration" (Json.doubleLayout.double note.duration).toList,
          Json.memberText "attack_time" (Json.doubleLayout.double note.attack).toList] ++
        ['\x7d'] := by
  unfold jsonObject
  -- Only the labels are left to be computed.
  generalize jsonList (note.pitches.map jsonName) = names
  generalize jsonList (frequencies.map Json.singleLayout.single) = values
  generalize Json.doubleLayout.double note.duration = duration
  generalize Json.doubleLayout.double note.attack = attack
  simp only [String.toList_append, Json.memberText, List.intercalate_cons_cons,
    List.intercalate_singleton, List.append_assoc, List.cons_append, List.nil_append]
  rfl

/-- Names in JSON are read as texts. -/
theorem readAs_jsonName (pitch : Pitch) :
    Json.ReadAs (jsonName pitch).toList (.text (.ok pitch.name)) := by
  have read := Json.ReadAs.token pitch.isToken_name
  rw [String.ofList_toList] at read
  rw [jsonName, String.toList_append, String.toList_append]
  exact read

/-- As many frequencies are read as are written. -/
theorem exists_readAs_frequencies (frequencies : List Float32) :
    ∃ nodes, nodes.length = frequencies.length ∧
      List.Forall₂ Json.ReadAs
        ((frequencies.map Json.singleLayout.single).map String.toList) nodes := by
  induction frequencies with
  | nil => exact ⟨[], rfl, .nil⟩
  | cons frequency frequencies ih =>
      obtain ⟨node, read⟩ := Json.exists_readAs_single frequency
      obtain ⟨nodes, count, others⟩ := ih
      exact ⟨node :: nodes, congrArg (· + 1) count, .cons read others⟩

/-- **The object of a note is read as an object** with the names of its pitches and with its
frequencies. -/
theorem exists_readAs_jsonObject (note : Note Float) (frequencies : List Float32) :
    ∃ nodes duration attack, nodes.length = frequencies.length ∧
      Json.ReadAs (jsonObject note frequencies).toList
        (.object (.of
          [("notes", .list (.of (note.pitches.map fun pitch => .text (.ok pitch.name)))),
            ("freqs", .list (.of nodes)), ("duration", duration), ("attack_time", attack)])) := by
  obtain ⟨nodes, count, values⟩ := exists_readAs_frequencies frequencies
  obtain ⟨duration, durationRead⟩ := Json.exists_readAs_double note.duration
  obtain ⟨attack, attackRead⟩ := Json.exists_readAs_double note.attack
  have names : List.Forall₂ Json.ReadAs ((note.pitches.map jsonName).map String.toList)
      (note.pitches.map fun pitch => .text (.ok pitch.name)) := by
    rw [List.map_map, List.forall₂_map_left_iff, List.forall₂_map_right_iff]
    exact List.forall₂_same.mpr fun pitch _ => readAs_jsonName pitch
  refine ⟨nodes, duration, attack, count, ?_⟩
  rw [toList_jsonObject, toList_jsonList, toList_jsonList]
  exact .object (.cons (.intro (by decide) (.list names))
    (.cons (.intro (by decide) (.list values))
      (.cons (.intro (by decide) durationRead)
        (.cons (.intro (by decide) attackRead) .nil))))

/-- **A JSON line is read as the pitches of its note,** with a frequency for each. -/
theorem ofObject?_jsonObject (note : Note Float) (frequencies : List Float32) :
    ofObject? (jsonObject note frequencies).toList =
      some (note.pitches, frequencies.length) := by
  obtain ⟨nodes, duration, attack, count, read⟩ := exists_readAs_jsonObject note frequencies
  have named (pitch : Pitch) : Pitch.ofNode? (.text (.ok pitch.name)) = some pitch :=
    Pitch.ofName?_name pitch
  have notes (object : List (String × Json.Node)) (names : Json.Node) :
      (("notes", names) :: object).lookup "notes" = some names := rfl
  have freqs (object : List (String × Json.Node)) (names frequencies : Json.Node) :
      (("notes", names) :: ("freqs", frequencies) :: object).lookup "freqs" = some frequencies :=
    rfl
  simp only [ofObject?, read.valueOf?, Option.bind_eq_bind, Option.bind_some, Json.Node.members?,
    Json.Members.complete?_of, notes, freqs, Json.Node.items?, Json.Items.complete?_of,
    mapM_eq_some_of_forall named, count]
  rfl

/-- Pitches have as many frequencies as there are pitches. -/
theorem length_of_mapM {pitches : List Pitch} {frequencies : List Float32}
    (found : pitches.mapM Pitch.frequency = .ok frequencies) :
    frequencies.length = pitches.length := by
  induction pitches generalizing frequencies with
  | nil =>
      cases found
      rfl
  | cons pitch pitches ih =>
      rw [List.mapM_cons] at found
      obtain ⟨frequency, -, found⟩ := bind_eq_ok.mp found
      obtain ⟨others, later, found⟩ := bind_eq_ok.mp found
      cases found
      exact congrArg (· + 1) (ih later)

/-- The object of a note without overflow tells its pitches, with a frequency for each. -/
theorem lineTells_objectText {note : Note Float}
    (inRange : ∀ pitch ∈ note.pitches, ∃ frequency, pitch.frequency = .ok frequency) :
    LineTells .json note ofObject? (note.pitches, note.pitches.length) (objectText note) := by
  obtain ⟨frequencies, found⟩ := Pitch.exists_frequencies inRange
  obtain ⟨nodes, duration, attack, -, read⟩ := exists_readAs_jsonObject note frequencies
  have text : objectText note = (jsonObject note frequencies).toList := by
    rw [objectText, found]
  rw [text]
  refine ⟨?_, read.oneLine, ?_⟩
  · rw [String.ofList_append, String.ofList_toList, lineBytes, objectBytes, found]
    exact String.toByteArray_append.symm
  · rw [ofObject?_jsonObject, length_of_mapM found]

/-! ## Performances -/

/-- Pauses contribute nothing. -/
theorem Outlet.playAll_filter (outlet : Outlet) (notes : List (Note Float)) :
    outlet.playAll (notes.filter fun note => !note.isSilent) = outlet.playAll notes := by
  induction notes generalizing outlet with
  | nil => rfl
  | cons note notes ih =>
      cases silent : note.isSilent with
      | true =>
          rw [List.filter_cons_of_neg (by rw [silent]; decide), playAll_cons_of_silent silent]
          exact ih outlet
      | false =>
          rw [List.filter_cons_of_pos (by rw [silent]; decide), playAll_cons_of_sounding silent,
            playAll_cons_of_sounding silent]
          exact congrArg _ (funext ih)

/-- A silent outlet counts the notes that sound. -/
theorem Outlet.playAll_of_silent {outlet : Outlet} (mute : outlet.form = .silent)
    (notes : List (Note Float)) :
    outlet.playAll notes =
      ⟨{ outlet with
          count := outlet.count + (notes.filter fun note => !note.isSilent).length }, .ok ()⟩ := by
  induction notes generalizing outlet with
  | nil => rfl
  | cons note notes ih =>
      cases silent : note.isSilent with
      | true =>
          rw [List.filter_cons_of_neg (by rw [silent]; decide), playAll_cons_of_silent silent]
          exact ih mute
      | false =>
          have sounds :
              outlet.sound note = ⟨{ outlet with count := outlet.count + 1 }, .ok ()⟩ := by
            simp only [sound, mute]
          rw [List.filter_cons_of_pos (by rw [silent]; decide), playAll_cons_of_sounding silent,
            sounds]
          have counted := @ih { outlet with count := outlet.count + 1 } mute
          simp only [Outcome.andThen]
          rw [counted, List.length_cons, Nat.add_assoc, Nat.add_comm 1]

/-- **A performance can be read back.**  Columns tell the pitches of the notes that sound, one line
a note.  Where no frequency overflows, so do JSON lines, with a frequency for each pitch.  Pauses
contribute nothing, a silent outlet counts the notes that sound, and no two pitches share a name. -/
theorem Outlet.playAll_decodes (notes : List (Note Float)) :
    let sounding := notes.filter fun note => !note.isSilent
    ((Outlet.opening .text .unlimited).playAll notes).Tells ofColumns? (sounding.map Note.pitches) ∧
      ((∀ note ∈ notes, ∀ pitch ∈ note.pitches, ∃ frequency, pitch.frequency = .ok frequency) →
        ((Outlet.opening .json .unlimited).playAll notes).Tells ofObject?
          (sounding.map fun note => (note.pitches, note.pitches.length))) ∧
      (∀ outlet : Outlet, outlet.playAll notes = outlet.playAll sounding) ∧
      (∀ outlet : Outlet, outlet.form = .silent →
        (outlet.playAll notes).outlet.count = outlet.count + sounding.length) ∧
      Function.Injective Pitch.name := by
  intro sounding
  refine ⟨?_, fun inRange => ?_, fun outlet => (outlet.playAll_filter notes).symm,
    fun outlet mute => by rw [Outlet.playAll_of_silent mute], Pitch.name_injective⟩
  · refine Outlet.tells_of_lines (by decide) (fun _ _ json => by cases json) columnsText ?_
    intro note member
    have sounds := (List.mem_filter.mp member).2
    exact lineTells_columnsText (by rwa [Bool.not_eq_true'] at sounds)
  · refine Outlet.tells_of_lines (by decide) (fun note member _ => inRange note member)
      objectText ?_
    intro note member
    exact lineTells_objectText (inRange note (List.mem_filter.mp member).1)

/-- A `B` that is sharp and flat, in a chord before a pause. -/
theorem Outlet.chord_and_pause_decoded :
    let chord : List Pitch := [⟨.b, -2, true, true⟩, .plain .d 5]
    let notes : List (Note Float) := [⟨chord, 1.5, 0.3⟩, ⟨[], 1.8, 0.3⟩]
    (∀ note ∈ notes, ∀ pitch ∈ note.pitches, ∃ frequency, pitch.frequency = .ok frequency) ∧
      ((Outlet.opening .text .unlimited).playAll notes).Tells ofColumns? [chord] ∧
      ((Outlet.opening .json .unlimited).playAll notes).Tells ofObject? [(chord, 2)] := by
  intro chord notes
  have inRange : ∀ note ∈ notes, ∀ pitch ∈ note.pitches,
      ∃ frequency, pitch.frequency = .ok frequency := by
    refine List.forall_mem_cons.mpr ⟨?_, List.forall_mem_singleton.mpr fun pitch member => ?_⟩
    · exact List.forall_mem_cons.mpr ⟨⟨_, rfl⟩, List.forall_mem_singleton.mpr ⟨_, rfl⟩⟩
    · cases member
  obtain ⟨columns, objects, -⟩ := Outlet.playAll_decodes notes
  exact ⟨inRange, columns, objects inRange⟩

end ChatTune
