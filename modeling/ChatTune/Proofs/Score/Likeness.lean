import ChatTune.Proofs.Score.Runs
import Mathlib.Data.List.Forall2

/-!
# Compositions that stay alike

Two compositions of the same commands can be alike in one respect, whatever is different in the
others: in their pitches under different lengths, or in their durations under different octaves.
A `Likeness` names the respect.  It says which notes are alike, which waiting pitches and which
clocks.  Two drafts are alike when in addition they agree on what decides when a note is due: the
current note, its sustains and the open chord (`Draft.Alike`).

A likeness is respected by two sets of rules when the effects of single commands keep it
(`Likeness.Respected`).  Then a command that changes no pitch is carried out on both of two alike
drafts or on none, and leaves them alike (`Draft.Alike.advance`).  The commands for pitches can
overflow on one draft and not on the other, so what they do is left to the notes: a likeness that
they keep on notes is kept by every two compositions that succeed (`Score.compose_alike`).
-/

set_option autoImplicit false

namespace ChatTune

variable {τ : Type}

/-- Lists that end in an element are related when their fronts are and the elements are. -/
theorem forall₂_concat_iff {α β : Type} {related : α → β → Prop} {front : List α}
    {last : α} {otherFront : List β} {otherLast : β} :
    List.Forall₂ related (front ++ [last]) (otherFront ++ [otherLast]) ↔
      List.Forall₂ related front otherFront ∧ related last otherLast := by
  rw [← List.forall₂_reverse_iff, List.reverse_concat, List.reverse_concat, List.forall₂_cons,
    List.forall₂_reverse_iff, and_comm]

/-- A respect in which two compositions can be alike. -/
structure Likeness (τ : Type) where
  notes : Note τ → Note τ → Prop
  /-- The pitches that wait for the next note. -/
  pitches : List Pitch → List Pitch → Prop
  clocks : τ → τ → Prop

/-- **A likeness that commands keep** under two sets of rules, as far as they change no pitch. -/
structure Likeness.Respected [Time τ] (likeness : Likeness τ) (rules other : Rules τ) : Prop where
  sustainLimit : rules.sustainLimit = other.sustainLimit
  nothing : likeness.pitches [] []
  collects : ∀ {pitches others : List Pitch}, likeness.pitches pitches others →
    ∀ pitch : Pitch, likeness.pitches (pitches ++ [pitch]) (others ++ [pitch])
  adds : ∀ {pitches others : List Pitch} {clock otherClock : τ}, likeness.pitches pitches others →
    likeness.clocks clock otherClock →
      likeness.notes ⟨pitches, clock, rules.noteLength⟩ ⟨others, otherClock, other.noteLength⟩
  passes : ∀ {clock otherClock : τ}, likeness.clocks clock otherClock →
    likeness.clocks (clock + rules.noteLength) (otherClock + other.noteLength)
  rewinds : ∀ {clock otherClock : τ}, likeness.clocks clock otherClock →
    likeness.clocks (clock - Time.times rules.rewindUnits rules.noteLength)
      (otherClock - Time.times other.rewindUnits other.noteLength)
  copies : ∀ {note otherNote : Note τ}, likeness.notes note otherNote →
    likeness.pitches note.pitches otherNote.pitches
  lengthens : ∀ {note otherNote : Note τ}, likeness.notes note otherNote →
    likeness.notes (note.lengthen rules.noteLength) (otherNote.lengthen other.noteLength)
  shortens : ∀ {note otherNote : Note τ}, likeness.notes note otherNote →
    likeness.notes (note.shorten (Draft.stepFor rules note.duration))
      (otherNote.shorten (Draft.stepFor other otherNote.duration))
  hastens : ∀ {note otherNote : Note τ} {clock otherClock : τ}, likeness.notes note otherNote →
    likeness.clocks clock otherClock →
      likeness.clocks (clock - Draft.stepFor rules note.duration)
        (otherClock - Draft.stepFor other otherNote.duration)

/-- **A likeness that the commands for pitches keep** on notes on which both of them succeed. -/
def Likeness.RespectedByPitches (likeness : Likeness τ) (rules other : Rules τ) : Prop :=
  ∀ {command : Command} {change otherChange : Pitch → Except Overflow Pitch}
    {note otherNote changed otherChanged : Note τ},
    command.pitchChange? rules = some change → command.pitchChange? other = some otherChange →
      likeness.notes note otherNote → note.changeLast change = .ok changed →
        otherNote.changeLast otherChange = .ok otherChanged →
          likeness.notes changed otherChanged

/-- Which commands change a pitch does not depend on the rules. -/
theorem Command.exists_pitchChange? {rules : Rules τ} (other : Rules τ) {command : Command}
    {change : Pitch → Except Overflow Pitch} (found : command.pitchChange? rules = some change) :
    ∃ otherChange, command.pitchChange? other = some otherChange := by
  cases command <;> cases found <;> exact ⟨_, rfl⟩

namespace Draft

/-- A pitch is changed exactly when the last note can be changed. -/
theorem EndsWith.changePitch_eq_ok {draft next : Draft τ} {earlier : Array (Note τ)}
    {last : Note τ} (ends : draft.EndsWith earlier last)
    {change : Pitch → Except Overflow Pitch} :
    draft.changePitch change = .ok next ↔
      ∃ changed, last.changeLast change = .ok changed ∧
        { draft with notes := earlier.push changed } = next := by
  rw [ends.changePitch]
  cases last.changeLast change with
  | error operation => simp only [Except.map, reduceCtorEq, false_and, exists_false]
  | ok changed => simp only [Except.map, Except.ok.injEq, exists_eq_left']

/-- Two drafts that are alike in a respect. -/
structure Alike (likeness : Likeness τ) (draft other : Draft τ) : Prop where
  notes : List.Forall₂ likeness.notes draft.notes.toList other.notes.toList
  pending : likeness.pitches draft.pending other.pending
  current : draft.current = other.current
  sustains : draft.sustains = other.sustains
  chordOpen : draft.chordOpen = other.chordOpen
  clock : likeness.clocks draft.clock other.clock

namespace Alike

variable {likeness : Likeness τ} {draft other : Draft τ}

/-- Drafts that are alike end with notes that are alike. -/
theorem endsWith {otherRules : Rules τ} (alike : Alike likeness draft other)
    (otherCoherent : other.Coherent otherRules) {earlier : Array (Note τ)} {last : Note τ}
    (ends : draft.EndsWith earlier last) :
    ∃ otherEarlier otherLast, other.EndsWith otherEarlier otherLast ∧
      List.Forall₂ likeness.notes earlier.toList otherEarlier.toList ∧
      likeness.notes last otherLast := by
  rcases otherCoherent.empty_or_endsWith with ⟨-, vacant⟩ | ⟨otherEarlier, otherLast, otherEnds⟩
  · cases (alike.current.symm.trans ends.current).symm.trans vacant
  · have notes := alike.notes
    rw [ends.notes, otherEnds.notes, Array.toList_push, Array.toList_push,
      forall₂_concat_iff] at notes
    exact ⟨otherEarlier, otherLast, otherEnds, notes⟩

/-- A change of both last notes that keeps them alike keeps the notes alike. -/
theorem notes_push {earlier otherEarlier : Array (Note τ)} {last otherLast : Note τ}
    (notes : List.Forall₂ likeness.notes earlier.toList otherEarlier.toList)
    (lasts : likeness.notes last otherLast) :
    List.Forall₂ likeness.notes (earlier.push last).toList
      (otherEarlier.push otherLast).toList := by
  rw [Array.toList_push, Array.toList_push]
  exact forall₂_concat_iff.mpr ⟨notes, lasts⟩

variable [Time τ] {rules otherRules : Rules τ} {command : Command} {performed next : Draft τ}

theorem start (respected : likeness.Respected rules otherRules) {clock otherClock : τ}
    (clocks : likeness.clocks clock otherClock) :
    Alike likeness (Draft.start clock) (Draft.start otherClock) :=
  ⟨.nil, respected.nothing, rfl, rfl, rfl, clocks⟩

/-- A command asks for a note on both drafts or on none. -/
theorem asksForNote (respected : likeness.Respected rules otherRules)
    (alike : Alike likeness draft other) (command : Command) :
    draft.asksForNote rules command = other.asksForNote otherRules command := by
  cases command <;>
    simp only [Draft.asksForNote, reattacks, alike.current, alike.sustains, respected.sustainLimit]

/-- Sustains keep drafts alike. -/
theorem sustain (respected : likeness.Respected rules otherRules)
    (alike : Alike likeness draft other) (coherent : draft.Coherent rules)
    (otherCoherent : other.Coherent otherRules) (done : draft.sustain rules = .ok performed) :
    ∃ otherPerformed, other.sustain otherRules = .ok otherPerformed ∧
      Alike likeness performed otherPerformed := by
  rcases coherent.empty_or_endsWith with ⟨-, vacant⟩ | ⟨earlier, last, ends⟩
  · have otherNone := alike.current.symm.trans vacant
    simp only [Draft.sustain, vacant] at done
    cases done
    exact ⟨other, by simp only [Draft.sustain, otherNone], alike⟩
  · obtain ⟨otherEarlier, otherLast, otherEnds, fronts, lasts⟩ := alike.endsWith otherCoherent ends
    have longer := notes_push fronts (respected.lengthens lasts)
    have passed := respected.passes alike.clock
    have fits := ends.fits_of_sustain done
    rcases UInt32.lt_or_le draft.sustains rules.sustainLimit with below | beyond
    · rw [ends.sustain_of_lt below] at done
      cases done
      rw [alike.sustains, respected.sustainLimit] at below
      exact ⟨_, otherEnds.sustain_of_lt below, longer, alike.pending, alike.current,
        congrArg (· + 1) alike.sustains, alike.chordOpen, passed⟩
    · rw [ends.sustain_of_le beyond fits] at done
      cases done
      rw [alike.sustains, respected.sustainLimit] at beyond
      rw [alike.sustains] at fits
      exact ⟨_, otherEnds.sustain_of_le beyond fits, longer, respected.copies lasts,
        alike.current, rfl, alike.chordOpen, respected.rewinds passed⟩

/-- Shortenings keep drafts alike. -/
theorem shorten (respected : likeness.Respected rules otherRules)
    (alike : Alike likeness draft other) (coherent : draft.Coherent rules)
    (otherCoherent : other.Coherent otherRules) :
    Alike likeness (draft.shorten rules) (other.shorten otherRules) := by
  rcases coherent.empty_or_endsWith with ⟨-, vacant⟩ | ⟨earlier, last, ends⟩
  · have otherNone := alike.current.symm.trans vacant
    simpa only [Draft.shorten, vacant, otherNone] using alike
  · obtain ⟨otherEarlier, otherLast, otherEnds, fronts, lasts⟩ := alike.endsWith otherCoherent ends
    rw [ends.shorten, otherEnds.shorten]
    exact { alike with
      notes := notes_push fronts (respected.shortens lasts)
      clock := respected.hastens lasts alike.clock }

/-- The first phase of a command that changes no pitch keeps drafts alike. -/
theorem perform (respected : likeness.Respected rules otherRules)
    (alike : Alike likeness draft other) (coherent : draft.Coherent rules)
    (otherCoherent : other.Coherent otherRules) (steady : command.pitchChange? rules = none)
    (done : draft.perform rules command = .ok performed) :
    ∃ otherPerformed, other.perform otherRules command = .ok otherPerformed ∧
      Alike likeness performed otherPerformed := by
  cases command with
  | chordStart =>
      cases done
      exact ⟨_, rfl, { alike with chordOpen := rfl }⟩
  | chordEnd =>
      cases done
      exact ⟨_, rfl, { alike with chordOpen := rfl }⟩
  | press button =>
      cases done
      exact ⟨_, rfl, { alike with pending := respected.collects alike.pending button.pitch }⟩
  | pause =>
      cases done
      exact ⟨_, rfl, { alike with pending := respected.nothing }⟩
  | sustain => exact alike.sustain respected coherent otherCoherent done
  | shorten =>
      cases done
      exact ⟨_, rfl, alike.shorten respected coherent otherCoherent⟩
  | ignored symbol =>
      cases done
      exact ⟨_, rfl, alike⟩
  | octaveUp | octaveDown | sharp | flat => cases steady

/-- The second phase keeps drafts alike. -/
theorem settle (respected : likeness.Respected rules otherRules)
    (alike : Alike likeness draft other) (asked : Bool) :
    Alike likeness (draft.settle rules asked) (other.settle otherRules asked) := by
  have same : draft.addsNote asked = other.addsNote asked := by
    simp only [addsNote, alike.chordOpen]
  have size : draft.notes.size = other.notes.size := alike.notes.length_eq
  unfold Draft.settle
  rw [same]
  split
  · exact ⟨notes_push alike.notes (respected.adds alike.pending alike.clock), respected.nothing,
      congrArg some size, rfl, alike.chordOpen, respected.passes alike.clock⟩
  · exact alike

/-- **A command that changes no pitch keeps drafts alike,** and is carried out on the one if it is
on the other. -/
theorem advance (respected : likeness.Respected rules otherRules)
    (alike : Alike likeness draft other) (coherent : draft.Coherent rules)
    (otherCoherent : other.Coherent otherRules) (steady : command.pitchChange? rules = none)
    (advanced : draft.advance rules command = .ok next) :
    ∃ otherNext, other.advance otherRules command = .ok otherNext ∧
      Alike likeness next otherNext := by
  obtain ⟨performed, done, rfl⟩ := exists_perform_of_advance advanced
  obtain ⟨otherPerformed, otherDone, performedAlike⟩ :=
    alike.perform respected coherent otherCoherent steady done
  refine ⟨_, advance_of_perform otherDone, ?_⟩
  rw [← alike.asksForNote respected]
  exact performedAlike.settle respected _

/-- A command for pitches keeps drafts alike on which it succeeds. -/
theorem advance_pitch (byPitches : likeness.RespectedByPitches rules otherRules)
    (alike : Alike likeness draft other) (coherent : draft.Coherent rules)
    (otherCoherent : other.Coherent otherRules) {otherNext : Draft τ}
    {change otherChange : Pitch → Except Overflow Pitch}
    (found : command.pitchChange? rules = some change)
    (otherFound : command.pitchChange? otherRules = some otherChange)
    (advanced : draft.advance rules command = .ok next)
    (otherAdvanced : other.advance otherRules command = .ok otherNext) :
    Alike likeness next otherNext := by
  rw [advance_of_pitchChange? found] at advanced
  rw [advance_of_pitchChange? otherFound] at otherAdvanced
  rcases coherent.empty_or_endsWith with ⟨-, vacant⟩ | ⟨earlier, last, ends⟩
  · rw [changePitch_of_none vacant] at advanced
    rw [changePitch_of_none (alike.current.symm.trans vacant)] at otherAdvanced
    cases advanced
    cases otherAdvanced
    exact alike
  · obtain ⟨otherEarlier, otherLast, otherEnds, fronts, lasts⟩ := alike.endsWith otherCoherent ends
    rw [ends.changePitch_eq_ok] at advanced
    rw [otherEnds.changePitch_eq_ok] at otherAdvanced
    obtain ⟨changed, changes, rfl⟩ := advanced
    obtain ⟨otherChanged, otherChanges, rfl⟩ := otherAdvanced
    have lasts := byPitches found otherFound lasts changes otherChanges
    exact { alike with notes := notes_push fronts lasts }

/-- **Runs of the same commands keep drafts alike** if both of them succeed. -/
theorem run (respected : likeness.Respected rules otherRules)
    (byPitches : likeness.RespectedByPitches rules otherRules)
    (alike : Alike likeness draft other) (coherent : draft.Coherent rules)
    (otherCoherent : other.Coherent otherRules) {commands : List Command} {otherNext : Draft τ}
    (ran : draft.run rules commands = .ok next)
    (otherRan : other.run otherRules commands = .ok otherNext) :
    Alike likeness next otherNext := by
  induction commands generalizing draft other with
  | nil =>
      cases ran
      cases otherRan
      exact alike
  | cons command commands ih =>
      obtain ⟨middle, advanced, ran⟩ := run_cons_eq_ok.mp ran
      obtain ⟨otherMiddle, otherAdvanced, otherRan⟩ := run_cons_eq_ok.mp otherRan
      refine ih ?_ (coherent.advance advanced) (otherCoherent.advance otherAdvanced) ran otherRan
      cases found : command.pitchChange? rules with
      | some change =>
          obtain ⟨otherChange, otherFound⟩ := Command.exists_pitchChange? otherRules found
          exact alike.advance_pitch byPitches coherent otherCoherent found otherFound advanced
            otherAdvanced
      | none =>
          obtain ⟨same, reached, middleAlike⟩ :=
            alike.advance respected coherent otherCoherent found advanced
          cases otherAdvanced.symm.trans reached
          exact middleAlike

end Alike

end Draft

/-- **Two compositions of the same commands that succeed have notes that are alike.** -/
theorem Score.compose_alike [Time τ] {likeness : Likeness τ} {rules otherRules : Rules τ}
    (respected : likeness.Respected rules otherRules)
    (byPitches : likeness.RespectedByPitches rules otherRules) {start otherStart : τ}
    (clocks : likeness.clocks start otherStart) {commands : List Command}
    {notes otherNotes : Array (Note τ)} (composed : compose rules start commands = .ok notes)
    (otherComposed : compose otherRules otherStart commands = .ok otherNotes) :
    List.Forall₂ likeness.notes notes.toList otherNotes.toList := by
  obtain ⟨last, reached, rfl⟩ := compose_eq_ok.mp composed
  obtain ⟨otherLast, otherReached, rfl⟩ := compose_eq_ok.mp otherComposed
  exact ((Draft.Alike.start respected clocks).run respected byPitches (.start rules start)
    (.start otherRules otherStart) reached otherReached).notes

end ChatTune
