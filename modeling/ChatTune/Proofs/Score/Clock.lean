import ChatTune.Proofs.Score.History
import Mathlib.Tactic.Linarith
import Mathlib.Tactic.Ring

/-!
# Where the clock stands

In exact time the clock of a draft is the sum of three parts: the time at which composing
started, the durations of the notes, and back by a fixed length for every time that a note was
made to attack again.  The first and the last part together are the draft's origin, the time
from which its notes fill the time up to the clock (`Draft.origin`).  Only a renewed attack
moves the origin; adding, lengthening and shortening a note do not (`Draft.advance_origin`).

Notes attack at the clock at which they are added, and the notes before them are settled then.
So the attack of every note is known from the final durations of the notes before it and from
the renewed attacks up to the command that added it (`Score.attack_eq_start_add_durations`).
-/

set_option autoImplicit false

namespace ChatTune

/-- Adding a note to a sequence adds its duration. -/
theorem summedDuration_push {τ : Type} [Time τ] (earlier : Array (Note τ)) (last : Note τ) :
    summedDuration (earlier.push last) = summedDuration earlier + last.duration := by
  simp only [summedDuration, Array.foldl_push]

/-- Changing a pitch keeps the duration. -/
theorem Note.duration_of_changeLast {τ : Type} {change : Pitch → Except Overflow Pitch}
    {note changed : Note τ} (done : note.changeLast change = .ok changed) :
    changed.duration = note.duration := by
  rcases Note.changeLast_cases done with ⟨-, rfl⟩ | ⟨front, before, after, -, -, rfl⟩
  · rfl
  · rfl

/-! ## Counting renewed attacks -/

namespace Draft

variable {τ : Type} {rules : Rules τ}

/-- Whether a command makes the current note attack again. -/
def attacksAgain (rules : Rules τ) (draft : Draft τ) : Command → Bool
  | .sustain => draft.reattacks rules
  | _ => false

theorem attacksAgain_of_none {draft : Draft τ} (vacant : draft.current = none) (command : Command) :
    draft.attacksAgain rules command = false := by
  cases command <;> simp only [attacksAgain, reattacks, vacant, Option.isSome_none, Bool.false_and]

theorem attacksAgain_of_pitchChange? {command : Command} {change : Pitch → Except Overflow Pitch}
    (found : command.pitchChange? rules = some change) (draft : Draft τ) :
    draft.attacksAgain rules command = false := by
  cases command <;> cases found <;> rfl

theorem EndsWith.attacksAgain_of_lt {draft : Draft τ} {earlier : Array (Note τ)} {last : Note τ}
    (ends : draft.EndsWith earlier last) (below : draft.sustains < rules.sustainLimit) :
    draft.attacksAgain rules .sustain = false := by
  rw [attacksAgain, ends.reattacks_eq, decide_eq_false_iff_not]
  exact UInt32.not_le.mpr below

theorem EndsWith.attacksAgain_of_le {draft : Draft τ} {earlier : Array (Note τ)} {last : Note τ}
    (ends : draft.EndsWith earlier last) (beyond : rules.sustainLimit ≤ draft.sustains) :
    draft.attacksAgain rules .sustain = true := by
  rw [attacksAgain, ends.reattacks_eq, decide_eq_true_eq]
  exact beyond

variable [Time τ]

/-- How often the commands of a list make a note attack again, whether a note is added at once
or waits in an open chord. -/
def reattackCount (rules : Rules τ) (draft : Draft τ) (commands : List Command) : Nat :=
  (draft.steps rules commands).countP fun step => step.before.attacksAgain rules step.command

/-- The last command of a list is counted on the draft that the others leave. -/
theorem reattackCount_concat {draft middle : Draft τ} {commands : List Command}
    (ran : draft.run rules commands = .ok middle) (command : Command) :
    draft.reattackCount rules (commands ++ [command]) =
      draft.reattackCount rules commands + (middle.attacksAgain rules command).toNat := by
  rw [reattackCount, steps_append ran, List.countP_append, steps_singleton,
    List.countP_singleton, reattackCount]
  cases middle.attacksAgain rules command <;> rfl

end Draft

namespace Score

variable {τ : Type} [Time τ]

/-- How often a list of commands makes a note attack again. -/
def reattackCount (rules : Rules τ) (start : τ) (commands : List Command) : Nat :=
  (Draft.start start).reattackCount rules commands

theorem reattackCount_concat {rules : Rules τ} {start : τ} {commands : List Command}
    {last : Draft τ} (reached : draft rules start commands = .ok last) (command : Command) :
    reattackCount rules start (commands ++ [command]) =
      reattackCount rules start commands + (last.attacksAgain rules command).toNat :=
  Draft.reattackCount_concat reached command

/-- After some commands, one more command adds the note of a given number. -/
def AddsNote (rules : Rules τ) (start : τ) (front : List Command) (command : Command)
    (number : Nat) : Prop :=
  ∃ before after, draft rules start front = .ok before ∧ before.advance rules command = .ok after ∧
    before.notes.size = number ∧ after.notes.size = number + 1

/-- Every note is added by a command. -/
theorem exists_addsNote {rules : Rules τ} {start : τ} {commands : List Command} {last : Draft τ}
    (reached : draft rules start commands = .ok last) {number : Nat}
    (present : number < last.notes.size) :
    ∃ front command rest, commands = front ++ command :: rest ∧
      AddsNote rules start front command number := by
  revert present
  refine draft_induction (motive := fun commands last => number < last.notes.size →
    ∃ front command rest, commands = front ++ command :: rest ∧
      AddsNote rules start front command number) ?_ ?_ reached
  · intro present
    exact absurd present (Nat.not_lt_zero number)
  · intro commands command before after reached ih advanced present
    by_cases older : number < before.notes.size
    · obtain ⟨front, adding, rest, rfl, adds⟩ := ih older
      exact ⟨front, adding, rest ++ [command], by simp, adds⟩
    · obtain ⟨oneMore, -⟩ := Draft.advance_continues (draft_coherent reached) advanced
      exact ⟨commands, command, [], rfl, before, after, reached, advanced, by omega, by omega⟩

/-- A note is added outside of a chord, to the notes that are there by then. -/
theorem AddsNote.exists_added {rules : Rules τ} {start : τ} {front : List Command}
    {command : Command} {number : Nat} (adds : AddsNote rules start front command number) :
    ∃ performed : Draft τ, draft rules start (front ++ [command]) = .ok (performed.addNote rules) ∧
      performed.notes.size = number ∧ performed.chordOpen = false := by
  obtain ⟨before, after, reached, advanced, rfl, more⟩ := adds
  obtain ⟨performed, performs, closed, rfl⟩ :=
    Draft.advance_adds (draft_coherent reached) advanced (by omega)
  exact ⟨performed, draft_concat_eq_ok.mpr ⟨before, reached, advanced⟩, performs.continues.1,
    closed⟩

/-- **An added note attacks at the clock at which it was added,** after the notes that are there
by then and that no later command touches. -/
theorem AddsNote.settles {rules : Rules τ} {start : τ} {front rest : List Command}
    {command : Command} {number : Nat} (adds : AddsNote rules start front command number)
    {last : Draft τ} (reached : draft rules start (front ++ command :: rest) = .ok last)
    {note : Note τ} (found : last.notes[number]? = some note) :
    ∃ performed : Draft τ, draft rules start (front ++ [command]) = .ok (performed.addNote rules) ∧
      last.notes.take number = performed.notes ∧ note.attack = performed.clock := by
  obtain ⟨performed, reachedAfter, rfl, -⟩ := adds.exists_added
  rw [List.append_cons] at reached
  obtain ⟨-, continues⟩ := draft_append_continues reachedAfter reached
  rw [(performed.addNote_endsWith rules).notes] at continues
  obtain ⟨changed, same, retouched⟩ :=
    continues.retouched performed.notes.size _ Array.getElem?_push_size
  cases found.symm.trans same
  exact ⟨performed, reachedAfter, continues.take_eq, retouched.attack⟩

end Score

/-! ## The origin of a draft -/

/-- How far the clock goes back when a note attacks again. -/
def Rules.rewind (rules : Rules Rat) : Rat := rules.noteLength * rules.rewindUnits.toNat

namespace Draft

variable {rules : Rules Rat} {draft performed next : Draft Rat} {command : Command}

/-- The time from which the notes of a draft fill the time up to its clock. -/
def origin (draft : Draft Rat) : Rat := draft.clock - summedDuration draft.notes

/-- The origin goes back when a note attacks again and stays where it is otherwise. -/
theorem Performs.origin (performs : draft.Performs rules command performed) :
    performed.origin = draft.origin - rules.rewind * (draft.attacksAgain rules command).toNat := by
  unfold Draft.origin
  cases performs with
  | opens | closes | collects | drops | ignores =>
      simp only [attacksAgain, Bool.toNat_false, Nat.cast_zero, mul_zero, sub_zero]
  | misses modifies vacant =>
      simp only [attacksAgain_of_none vacant, Bool.toNat_false, Nat.cast_zero, mul_zero, sub_zero]
  | lengthens ends below =>
      simp only [ends.attacksAgain_of_lt below, ends.notes, summedDuration_push, Note.lengthen,
        Bool.toNat_false, Nat.cast_zero]
      ring
  | rewinds ends beyond =>
      simp only [ends.attacksAgain_of_le beyond, ends.notes, summedDuration_push, Note.lengthen,
        Rules.rewind, Time.times, Bool.toNat_true, Nat.cast_one]
      ring
  | shortens ends =>
      simp only [attacksAgain, ends.notes, summedDuration_push, Note.shorten, Bool.toNat_false,
        Nat.cast_zero]
      ring
  | alters ends found done =>
      simp only [attacksAgain_of_pitchChange? found, ends.notes, summedDuration_push,
        Note.duration_of_changeLast done, Bool.toNat_false, Nat.cast_zero, mul_zero, sub_zero]

/-- Adding a note keeps the origin. -/
theorem origin_addNote (draft : Draft Rat) : (draft.addNote rules).origin = draft.origin := by
  simp only [Draft.origin, addNote, summedDuration_push]
  ring

/-- **A command moves the origin only by making a note attack again.** -/
theorem advance_origin (coherent : draft.Coherent rules)
    (advanced : draft.advance rules command = .ok next) :
    next.origin = draft.origin - rules.rewind * (draft.attacksAgain rules command).toNat := by
  obtain ⟨performed, performs, rfl⟩ := advance_cases coherent advanced
  rw [← performs.origin]
  rcases settle_cases rules performed (draft.asksForNote rules command) with ⟨-, same⟩ | ⟨-, added⟩
  · rw [same]
  · rw [added, origin_addNote]

end Draft

namespace Score

variable {rules : Rules Rat} {start : Rat}

/-- A run moves the origin back once for every renewed attack. -/
theorem draft_origin {commands : List Command} {last : Draft Rat}
    (reached : draft rules start commands = .ok last) :
    last.origin = start - rules.rewind * reattackCount rules start commands := by
  refine draft_induction (motive := fun commands last =>
    last.origin = start - rules.rewind * reattackCount rules start commands) ?_ ?_ reached
  · change start - summedDuration #[] = start - rules.rewind * ((0 : Nat) : Rat)
    rw [Nat.cast_zero, mul_zero]
    rfl
  · intro commands command before after reached origin advanced
    rw [Draft.advance_origin (draft_coherent reached) advanced, origin,
      reattackCount_concat reached, Nat.cast_add]
    ring

/-- A note attacks when the notes before it are over, counted from the origin of the draft to
which it is added. -/
theorem attack_of_addsNote {front rest : List Command} {command : Command} {last : Draft Rat}
    (reached : draft rules start (front ++ command :: rest) = .ok last) {number : Nat}
    (adds : AddsNote rules start front command number) {note : Note Rat}
    (found : last.notes[number]? = some note) :
    note.attack = start - rules.rewind * reattackCount rules start (front ++ [command]) +
      summedDuration (last.notes.take number) := by
  obtain ⟨performed, reachedAfter, earlier, attack⟩ := adds.settles reached found
  rw [attack, earlier, ← draft_origin reachedAfter, Draft.origin_addNote, Draft.origin]
  ring

/-- **The clock is conserved.**  The attack of every note is the start, and the final durations
of the notes before it, less the fixed length for every renewed attack up to the command that
added the note; and so is the clock after the last command, with all notes and all renewed
attacks. -/
theorem attack_eq_start_add_durations (rules : Rules Rat) (start : Rat) (commands : List Command)
    {notes : Array (Note Rat)} (composed : compose rules start commands = .ok notes) :
    (∀ number note, notes[number]? = some note →
      (∃ front command rest, commands = front ++ command :: rest ∧
        AddsNote rules start front command number) ∧
      ∀ front command rest, commands = front ++ command :: rest →
        AddsNote rules start front command number →
        note.attack = start + summedDuration (notes.take number) -
          rules.noteLength * rules.rewindUnits.toNat *
            reattackCount rules start (front ++ [command])) ∧
      ∃ last, draft rules start commands = .ok last ∧ last.notes = notes ∧
        last.clock = start + summedDuration notes -
          rules.noteLength * rules.rewindUnits.toNat * reattackCount rules start commands := by
  obtain ⟨last, reached, rfl⟩ := compose_eq_ok.mp composed
  refine ⟨fun number note found => ⟨?_, ?_⟩, last, reached, rfl, ?_⟩
  · exact exists_addsNote reached (Array.getElem?_eq_some_iff.mp found).1
  · rintro front command rest rfl adds
    rw [attack_of_addsNote reached adds found, Rules.rewind]
    ring
  · have origin := draft_origin reached
    rw [Draft.origin, Rules.rewind] at origin
    linarith

/-- A renewed attack that waits in an open chord counts. -/
theorem clock_of_waiting_reattack :
    ∃ notes last, compose .exactDefault 100
        (.press .d :: .chordStart :: List.replicate 8 .sustain ++ [.shorten, .chordEnd, .pause]) =
          .ok notes ∧
      draft .exactDefault 100
        (.press .d :: .chordStart :: List.replicate 8 .sustain ++ [.shorten, .chordEnd, .pause]) =
          .ok last ∧ last.notes = notes ∧
      last.clock = 100 + summedDuration notes - 3 / 10 * 7 * 1 := by
  have composed : compose .exactDefault 100
      (.press .d :: .chordStart :: List.replicate 8 .sustain ++ [.shorten, .chordEnd, .pause]) =
        .ok #[⟨[.plain .d 4], 100, 131 / 50⟩, ⟨[.plain .d 4], 2513 / 25, 3 / 10⟩,
          ⟨[], 5041 / 50, 3 / 10⟩] := by
    decide +kernel
  have once : reattackCount .exactDefault 100
      (.press .d :: .chordStart :: List.replicate 8 .sustain ++ [.shorten, .chordEnd, .pause]) =
        1 := by
    decide +kernel
  obtain ⟨-, last, reached, same, clock⟩ := attack_eq_start_add_durations _ _ _ composed
  rw [once] at clock
  exact ⟨_, last, composed, reached, same, clock⟩

end Score

end ChatTune
