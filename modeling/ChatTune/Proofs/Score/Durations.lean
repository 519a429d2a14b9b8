import ChatTune.Proofs.Score.Clock
import Mathlib.Algebra.Order.BigOperators.Group.List

/-!
# What durations keep

A duration begins as the length of a note.  A sustain adds that length to it and a shortening takes
a step off it; no other command touches it.  So a property that the length of a note has, and that
these two operations keep, holds of every duration of every draft (`Rules.Keeps`,
`Score.draft_durations`), for any kind of time.

In exact time, under a clamp, such a property is to be no less than zero.  A sum of durations then
bounds the sum of every part of them, so that no part of an accepted score is as long as the limit
(`Score.clamped_durations_bounded`): no long note can hide behind another one that cancels it.
-/

set_option autoImplicit false

namespace ChatTune

/-! ## Properties of durations -/

section Keeping

variable {τ : Type} [Time τ] {rules : Rules τ} {property : τ → Prop}

/-- **Rules that keep a property of durations:** the length of a note has it, and neither a sustain
nor a shortening takes it away. -/
structure Rules.Keeps (rules : Rules τ) (property : τ → Prop) : Prop where
  length : property rules.noteLength
  lengthens : ∀ duration, property duration → property (duration + rules.noteLength)
  shortens : ∀ duration, property duration → property (duration - Draft.stepFor rules duration)

namespace Draft

/-- A shortening takes off the step that is set, all of the duration, or nothing. -/
theorem stepFor_cases (rules : Rules τ) (duration : τ) :
    (rules.clampShortening = true → rules.shortenStep < duration ∨ rules.shortenStep < 0) ∧
        stepFor rules duration = rules.shortenStep ∨
      0 < duration ∧ ¬ rules.shortenStep < duration ∧ stepFor rules duration = duration ∨
      stepFor rules duration = 0 := by
  unfold stepFor
  split
  case isFalse free => exact .inl ⟨fun clamped => absurd clamped free, rfl⟩
  case isTrue =>
    by_cases positive : 0 < duration
    · simp only [if_pos positive]
      split
      case isTrue less => exact .inl ⟨fun _ => .inl less, rfl⟩
      case isFalse more => exact .inr (.inl ⟨positive, more, rfl⟩)
    · simp only [if_neg positive]
      split
      case isTrue negative => exact .inl ⟨fun _ => .inr negative, rfl⟩
      case isFalse => exact .inr (.inr rfl)

variable {draft performed next : Draft τ} {command : Command}

/-- The first phase of a command keeps what the rules keep. -/
theorem Performs.durations (keeps : rules.Keeps property)
    (performs : draft.Performs rules command performed)
    (before : ∀ note ∈ draft.notes, property note.duration) :
    ∀ note ∈ performed.notes, property note.duration := by
  cases performs with
  | opens | closes | collects | drops | ignores | misses => exact before
  | lengthens ends | rewinds ends =>
      rw [ends.notes, Array.forall_mem_push] at before
      exact Array.forall_mem_push.mpr ⟨keeps.lengthens _ before.1, before.2⟩
  | shortens ends =>
      rw [ends.notes, Array.forall_mem_push] at before
      exact Array.forall_mem_push.mpr ⟨keeps.shortens _ before.1, before.2⟩
  | alters ends found done =>
      rw [ends.notes, Array.forall_mem_push] at before
      refine Array.forall_mem_push.mpr ⟨?_, before.2⟩
      rw [Note.duration_of_changeLast done]
      exact before.1

/-- **A command keeps what the rules keep.** -/
theorem advance_durations (keeps : rules.Keeps property) (coherent : draft.Coherent rules)
    (advanced : draft.advance rules command = .ok next)
    (before : ∀ note ∈ draft.notes, property note.duration) :
    ∀ note ∈ next.notes, property note.duration := by
  obtain ⟨performed, performs, rfl⟩ := advance_cases coherent advanced
  have kept := performs.durations keeps before
  rcases settle_cases rules performed (draft.asksForNote rules command) with ⟨-, same⟩ | ⟨-, added⟩
  · rwa [same]
  · rw [added]
    exact Array.forall_mem_push.mpr ⟨keeps.length, kept⟩

end Draft

/-- **What the rules keep holds of every duration in every draft that a run leaves.** -/
theorem Score.draft_durations (keeps : rules.Keeps property) {start : τ}
    {commands : List Command} {last : Draft τ} (reached : draft rules start commands = .ok last) :
    ∀ note ∈ last.notes, property note.duration := by
  refine draft_induction (motive := fun _ draft => ∀ note ∈ draft.notes, property note.duration)
    ?_ ?_ reached
  · intro note member
    cases Array.mem_def.mp member
  · intro commands command before after reached kept advanced
    exact Draft.advance_durations keeps (draft_coherent reached) advanced kept

end Keeping

/-! ## Clamped shortening -/

/-- A clamped step takes no more than there is. -/
theorem Draft.stepFor_le {rules : Rules Rat} (clamped : rules.clampShortening = true)
    {duration : Rat} (nonnegative : 0 ≤ duration) : Draft.stepFor rules duration ≤ duration := by
  rcases stepFor_cases rules duration with ⟨less, same⟩ | ⟨-, -, same⟩ | same <;> rw [same]
  · rcases less clamped with less | negative
    · exact le_of_lt less
    · exact le_trans (le_of_lt negative) nonnegative
  · exact nonnegative

/-- Under a clamp no duration falls below zero. -/
theorem Rules.keeps_nonneg {rules : Rules Rat} (length : 0 < rules.noteLength)
    (clamped : rules.clampShortening = true) : rules.Keeps (0 ≤ ·) where
  length := le_of_lt length
  lengthens _ nonnegative := add_nonneg nonnegative (le_of_lt length)
  shortens _ nonnegative := sub_nonneg.mpr (Draft.stepFor_le clamped nonnegative)

namespace Score

/-- **Clamped durations are bounded.**  Under rules without a defect that clamp shortening, no list
of commands leaves a note with a duration below zero, nor does any part of the list that comes
first.  So the durations of any notes of an accepted score add up to no less than zero and to less
than the limit. -/
theorem clamped_durations_bounded (rules : Rules Rat) (start : Rat)
    (sound : rules.defect? = none) (clamped : rules.clampShortening = true) :
    (∀ commands front : List Command, front <+: commands → ∀ notes,
      compose rules start front = .ok notes → ∀ note ∈ notes, 0 ≤ note.duration) ∧
    ∀ (body : List Char) (notes : Array (Note Rat)), ofBody rules start body = .ok notes →
      ∀ part : List (Note Rat), part.Sublist notes.toList →
        0 ≤ summedDuration part.toArray ∧ summedDuration part.toArray < rules.longestTotal := by
  have keeps := rules.keeps_nonneg (rules.defect?_eq_none_iff.mp sound).1 clamped
  have nonnegative {commands : List Command} {notes : Array (Note Rat)}
      (composed : compose rules start commands = .ok notes) :
      ∀ note ∈ notes, 0 ≤ note.duration := by
    obtain ⟨last, reached, rfl⟩ := compose_eq_ok.mp composed
    exact draft_durations keeps reached
  refine ⟨fun _ _ _ _ composed => nonnegative composed, fun body notes accepted part sublist => ?_⟩
  obtain ⟨commands, -, composed, short⟩ := ofBody_eq_ok.mp accepted
  have durations : ∀ duration ∈ notes.toList.map Note.duration, 0 ≤ duration := by
    intro duration member
    obtain ⟨note, inside, rfl⟩ := List.mem_map.mp member
    exact nonnegative composed note (Array.mem_toList_iff.mp inside)
  have taken : (part.map Note.duration).Sublist (notes.toList.map Note.duration) :=
    sublist.map Note.duration
  have total (notes : List (Note Rat)) :
      summedDuration notes.toArray = (notes.map Note.duration).sum := by
    rw [summedDuration, List.foldl_toArray, ← List.foldl_map, List.sum_eq_foldl]
    rfl
  rw [total]
  constructor
  · exact List.sum_nonneg fun duration member =>
      durations duration (taken.subset member)
  · calc (part.map Note.duration).sum
        ≤ (notes.toList.map Note.duration).sum := taken.sum_le_sum durations
      _ = summedDuration notes := (total notes.toList).symm
      _ < rules.longestTotal := not_le.mp short

/-- Shortenings inside a chord empty the note before it, and a sustain then lengthens the chord: the
durations of that chord alone are within the bounds. -/
theorem clamped_note_emptied :
    ofBody .exactDefault 0 "a[//////>]~".toList =
        .ok #[⟨[.plain .d 4], 0, 0⟩, ⟨[.plain .a 4], 0, 3 / 5⟩] ∧
      (0 ≤ summedDuration #[(⟨[.plain .a 4], 0, 3 / 5⟩ : Note Rat)] ∧
        summedDuration #[(⟨[.plain .a 4], 0, 3 / 5⟩ : Note Rat)] < 10) := by
  have accepted : ofBody .exactDefault 0 "a[//////>]~".toList =
      .ok #[⟨[.plain .d 4], 0, 0⟩, ⟨[.plain .a 4], 0, 3 / 5⟩] := by
    decide +kernel
  obtain ⟨-, bounded⟩ := clamped_durations_bounded .exactDefault 0 (by decide +kernel) rfl
  exact ⟨accepted, bounded _ _ accepted _ (List.sublist_cons_self _ _)⟩

end Score

end ChatTune
