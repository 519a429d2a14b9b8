import ChatTune.Proofs.Score.Runs
import Mathlib.Data.List.Forall2

/-!
# The history of a score

Notes are only ever appended, and a note is settled as soon as another one follows it.  Until
then modifiers may retouch it: they change its duration, and of its last pitch the octave and
the marks, where a mark that is set stays set (`Note.Retouched`).

So the notes of a list of commands are continued by the notes of every longer list: those
before the last one are the same notes, and the last one is at most retouched
(`Score.Continues`).  One command continues the notes by at most one note
(`Draft.advance_continues`), and a run continues them by at most one note for each of its
commands (`Score.compose_append_continues`).
-/

set_option autoImplicit false

namespace ChatTune

variable {τ : Type}

/-! ## Retouched notes -/

/-- A pitch of the same letter, with at least the marks of the other one. -/
structure Pitch.Remarked (pitch later : Pitch) : Prop where
  letter : later.letter = pitch.letter
  sharp : pitch.sharp = true → later.sharp = true
  flat : pitch.flat = true → later.flat = true

namespace Pitch.Remarked

theorem refl (pitch : Pitch) : pitch.Remarked pitch := ⟨rfl, id, id⟩

theorem trans {first second third : Pitch} (earlier : first.Remarked second)
    (later : second.Remarked third) : first.Remarked third :=
  ⟨later.letter.trans earlier.letter, later.sharp ∘ earlier.sharp, later.flat ∘ earlier.flat⟩

end Pitch.Remarked

/-- The commands for pitches keep the letter and never reset a mark. -/
theorem Command.remarked_of_pitchChange? {rules : Rules τ} {command : Command}
    {change : Pitch → Except Overflow Pitch} (found : command.pitchChange? rules = some change)
    {before after : Pitch} (done : change before = .ok after) : before.Remarked after := by
  cases command <;> cases found
  case octaveUp =>
      obtain ⟨octave, -, raised⟩ := bind_eq_ok.mp done
      cases raised
      exact ⟨rfl, id, id⟩
  case octaveDown =>
      obtain ⟨octave, -, lowered⟩ := bind_eq_ok.mp done
      cases lowered
      exact ⟨rfl, id, id⟩
  case sharp =>
      cases done
      exact ⟨rfl, fun _ => rfl, id⟩
  case flat =>
      cases done
      exact ⟨rfl, id, fun _ => rfl⟩

/-- **What modifiers can make of a note:** it attacks at the same time and has as many pitches
of the same letters; all but the last of them are the same, and no mark of the last one is
reset. -/
structure Note.Retouched (note later : Note τ) : Prop where
  attack : later.attack = note.attack
  front : later.pitches.dropLast = note.pitches.dropLast
  pitches : List.Forall₂ Pitch.Remarked note.pitches later.pitches

namespace Note.Retouched

/-- Whatever is done to its duration, a note with the same attack and pitches is retouched. -/
theorem of_pitches_eq {note later : Note τ} (attack : later.attack = note.attack)
    (pitches : later.pitches = note.pitches) : note.Retouched later := by
  refine ⟨attack, by rw [pitches], ?_⟩
  rw [pitches]
  exact List.forall₂_same.mpr fun pitch _ => .refl pitch

theorem refl (note : Note τ) : note.Retouched note := of_pitches_eq rfl rfl

theorem trans {first second third : Note τ} (earlier : first.Retouched second)
    (later : second.Retouched third) : first.Retouched third where
  attack := later.attack.trans earlier.attack
  front := later.front.trans earlier.front
  pitches := by
    have lengths := earlier.pitches.length_eq.trans later.pitches.length_eq
    refine List.forall₂_of_length_eq_of_get lengths fun place inFirst inThird => ?_
    have inSecond : place < second.pitches.length := earlier.pitches.length_eq ▸ inFirst
    exact (earlier.pitches.get inFirst inSecond).trans (later.pitches.get inSecond inThird)

theorem changeLast {rules : Rules τ} {command : Command} {note changed : Note τ}
    {change : Pitch → Except Overflow Pitch} (found : command.pitchChange? rules = some change)
    (done : note.changeLast change = .ok changed) : note.Retouched changed := by
  rcases Note.changeLast_cases done with ⟨-, rfl⟩ | ⟨front, before, after, pitches, changes, rfl⟩
  · exact .refl _
  · refine ⟨rfl, by simp only [pitches, List.dropLast_concat], ?_⟩
    rw [pitches]
    refine List.rel_append (List.forall₂_same.mpr fun pitch _ => .refl pitch) ?_
    exact .cons (Command.remarked_of_pitchChange? found changes) .nil

/-- A retouched note has the same letters. -/
theorem letters {note later : Note τ} (retouched : note.Retouched later) :
    later.pitches.map Pitch.letter = note.pitches.map Pitch.letter := by
  rw [← List.forall₂_eq_eq_eq, List.forall₂_map_left_iff, List.forall₂_map_right_iff]
  exact (retouched.pitches.imp fun _ _ remarked => remarked.letter).flip

end Note.Retouched

/-! ## Continued notes -/

namespace Score

/-- **Notes that continue others:** every note is at most retouched, and only the last one is. -/
structure Continues (notes later : Array (Note τ)) : Prop where
  retouched : ∀ (place : Nat) (note : Note τ), notes[place]? = some note →
    ∃ changed, later[place]? = some changed ∧ note.Retouched changed
  settled : ∀ place : Nat, place + 1 < notes.size → later[place]? = notes[place]?

namespace Continues

variable {notes middle later : Array (Note τ)}

theorem size_le (continues : Continues notes later) : notes.size ≤ later.size := by
  refine Nat.le_of_not_lt fun shorter => ?_
  obtain ⟨changed, found, -⟩ := continues.retouched later.size _ (Array.getElem?_eq_getElem shorter)
  simp only [Nat.le_refl, Array.getElem?_eq_none, reduceCtorEq] at found

theorem refl (notes : Array (Note τ)) : Continues notes notes where
  retouched _ note found := ⟨note, found, .refl note⟩
  settled _ _ := rfl

theorem trans (first : Continues notes middle) (second : Continues middle later) :
    Continues notes later where
  retouched place note found := by
    obtain ⟨changed, foundChanged, earlierChange⟩ := first.retouched place note found
    obtain ⟨final, foundFinal, laterChange⟩ := second.retouched place changed foundChanged
    exact ⟨final, foundFinal, earlierChange.trans laterChange⟩
  settled place inside :=
    (second.settled place (Nat.lt_of_lt_of_le inside first.size_le)).trans
      (first.settled place inside)

theorem push (notes : Array (Note τ)) (added : Note τ) : Continues notes (notes.push added) where
  retouched place note found := by
    refine ⟨note, ?_, .refl note⟩
    grind
  settled place inside := by grind

/-- The notes before the last one are the front of the notes that continue it. -/
theorem take_eq {earlier : Array (Note τ)} {last : Note τ}
    (continues : Continues (earlier.push last) later) : later.take earlier.size = earlier := by
  have longer := continues.size_le
  rw [Array.size_push] at longer
  refine Array.ext_getElem? fun place => ?_
  rw [Array.take_eq_extract, Array.getElem?_extract, Nat.zero_add]
  by_cases inside : place < earlier.size
  · rw [if_pos (by omega), continues.settled place (by rw [Array.size_push]; omega),
      Array.getElem?_push_lt inside, Array.getElem?_eq_getElem inside]
  · rw [if_neg (by omega), Array.getElem?_eq_none (Nat.le_of_not_lt inside)]

/-- Retouching the last note continues the notes. -/
theorem of_last {earlier : Array (Note τ)} {last changed : Note τ}
    (retouched : last.Retouched changed) :
    Continues (earlier.push last) (earlier.push changed) where
  retouched place note found := by
    rw [Array.getElem?_push] at found ⊢
    by_cases isLast : place = earlier.size
    · rw [if_pos isLast] at found ⊢
      cases found
      exact ⟨changed, rfl, retouched⟩
    · rw [if_neg isLast] at found ⊢
      exact ⟨note, found, .refl note⟩
  settled place inside := by grind

end Continues

end Score

/-! ## Commands and runs continue the notes -/

namespace Draft

variable [Time τ] {rules : Rules τ} {draft performed next : Draft τ} {command : Command}

open Score (Continues)

/-- The first phase of a command adds no note and at most retouches the last one. -/
theorem Performs.continues (performs : draft.Performs rules command performed) :
    performed.notes.size = draft.notes.size ∧ Continues draft.notes performed.notes := by
  cases performs with
  | opens | closes | collects | drops | ignores | misses => exact ⟨rfl, .refl _⟩
  | lengthens ends _ | rewinds ends _ | shortens ends =>
      refine ⟨by simp only [ends.notes, Array.size_push], ?_⟩
      rw [ends.notes]
      exact .of_last (.of_pitches_eq rfl rfl)
  | alters ends found done =>
      refine ⟨by simp only [ends.notes, Array.size_push], ?_⟩
      rw [ends.notes]
      exact .of_last (.changeLast found done)

/-- A command after which there are more notes has added one in its second phase, outside of a
chord. -/
theorem advance_adds (coherent : draft.Coherent rules)
    (advanced : draft.advance rules command = .ok next)
    (more : draft.notes.size < next.notes.size) :
    ∃ performed, draft.Performs rules command performed ∧ performed.chordOpen = false ∧
      next = performed.addNote rules := by
  obtain ⟨performed, performs, rfl⟩ := advance_cases coherent advanced
  refine ⟨performed, performs, ?_⟩
  rcases settle_cases rules performed (draft.asksForNote rules command) with
    ⟨-, same⟩ | ⟨adds, added⟩
  · rw [same, performs.continues.1] at more
    exact absurd more (Nat.lt_irrefl _)
  · rw [addsNote, Bool.and_eq_true, Bool.not_eq_true'] at adds
    exact ⟨adds.2, added⟩

/-- **One command continues the notes by at most one note.** -/
theorem advance_continues (coherent : draft.Coherent rules)
    (advanced : draft.advance rules command = .ok next) :
    next.notes.size ≤ draft.notes.size + 1 ∧ Continues draft.notes next.notes := by
  obtain ⟨performed, performs, rfl⟩ := advance_cases coherent advanced
  obtain ⟨size, continues⟩ := performs.continues
  rcases settle_cases rules performed (draft.asksForNote rules command) with ⟨-, same⟩ | ⟨-, added⟩
  · rw [same]
    exact ⟨by omega, continues⟩
  · rw [added]
    refine ⟨?_, continues.trans (.push _ _)⟩
    simp only [addNote, Array.size_push, size, Nat.le_refl]

/-- A run continues the notes by at most one note for each of its commands. -/
theorem run_continues {commands : List Command} (coherent : draft.Coherent rules)
    (ran : draft.run rules commands = .ok next) :
    next.notes.size ≤ draft.notes.size + commands.length ∧ Continues draft.notes next.notes := by
  induction commands generalizing draft with
  | nil =>
      cases ran
      exact ⟨Nat.le_refl _, .refl _⟩
  | cons command commands ih =>
      obtain ⟨middle, advanced, ran⟩ := run_cons_eq_ok.mp ran
      obtain ⟨oneMore, first⟩ := advance_continues coherent advanced
      obtain ⟨more, rest⟩ := ih (coherent.advance advanced) ran
      rw [List.length_cons]
      exact ⟨by omega, first.trans rest⟩

end Draft

namespace Score

variable [Time τ] {rules : Rules τ} {start : τ}

/-- The notes of the front of a list are continued by the notes of the whole list. -/
theorem draft_append_continues {before after : List Command} {middle last : Draft τ}
    (front : draft rules start before = .ok middle)
    (whole : draft rules start (before ++ after) = .ok last) :
    last.notes.size ≤ middle.notes.size + after.length ∧ Continues middle.notes last.notes := by
  obtain ⟨reached, same, ran⟩ := draft_append_eq_ok.mp whole
  cases front.symm.trans same
  exact Draft.run_continues (draft_coherent front) ran

/-- **History is append-only.**  Commands that follow a list of commands append at most one note
each.  They leave every note before the last one as it is, in its pitches, its attack and its
duration, and they at most retouch the last one. -/
theorem compose_append_continues (rules : Rules τ) (start : τ) (before after : List Command)
    {notes later : Array (Note τ)} (front : compose rules start before = .ok notes)
    (whole : compose rules start (before ++ after) = .ok later) :
    notes.size ≤ later.size ∧ later.size ≤ notes.size + after.length ∧
      (∀ place, place + 1 < notes.size → later[place]? = notes[place]?) ∧
      ∀ place note, place + 1 = notes.size → notes[place]? = some note →
        ∃ changed, later[place]? = some changed ∧ note.Retouched changed := by
  obtain ⟨middle, reached, rfl⟩ := compose_eq_ok.mp front
  obtain ⟨last, reachedLast, rfl⟩ := compose_eq_ok.mp whole
  obtain ⟨bounded, continues⟩ := draft_append_continues reached reachedLast
  exact ⟨continues.size_le, bounded, continues.settled,
    fun place note _ found => continues.retouched place note found⟩

/-- A note that attacked again is kept while its copy is changed. -/
theorem reattacked_note_settled :
    compose .exactDefault 0 (.press .b :: .sharp :: List.replicate 8 .sustain) =
        .ok #[⟨[⟨.b, 4, true, false⟩], 0, 27 / 10⟩, ⟨[⟨.b, 4, true, false⟩], 3 / 5, 3 / 10⟩] ∧
      ∃ later, compose .exactDefault 0
          ((.press .b :: .sharp :: List.replicate 8 .sustain) ++ [.octaveUp, .flat, .shorten]) =
            .ok later ∧
        later[0]? = some ⟨[⟨.b, 4, true, false⟩], 0, 27 / 10⟩ := by
  have front : compose .exactDefault 0 (.press .b :: .sharp :: List.replicate 8 .sustain) =
      .ok #[⟨[⟨.b, 4, true, false⟩], 0, 27 / 10⟩, ⟨[⟨.b, 4, true, false⟩], 3 / 5, 3 / 10⟩] := by
    decide +kernel
  have whole : compose .exactDefault 0
      ((.press .b :: .sharp :: List.replicate 8 .sustain) ++ [.octaveUp, .flat, .shorten]) =
        .ok #[⟨[⟨.b, 4, true, false⟩], 0, 27 / 10⟩, ⟨[⟨.b, 5, true, true⟩], 3 / 5, 11 / 50⟩] := by
    decide +kernel
  obtain ⟨-, -, settled, -⟩ := compose_append_continues .exactDefault 0 _ _ front whole
  exact ⟨front, _, whole, settled 0 (by decide)⟩

end Score

end ChatTune
