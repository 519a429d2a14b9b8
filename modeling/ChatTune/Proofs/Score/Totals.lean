import ChatTune.Proofs.Score.Clock

/-!
# What a total grows by

Without shortening a total only grows.  Every note begins with the length of a note, and a sustain
that finds a note lengthens it by as much, whether the note attacks again or not and whether a chord
is open or not.  Nothing else touches a duration: a renewed attack takes the clock back but no time
from the notes, and pitches that are dropped never had any.

So what the notes last beyond a note length each grows with the sustains alone
(`Draft.run_overtime`), and the total of a score is that of its front and a note length for every
note and every sustain of a note behind it.  What is too long stays too long, whatever follows, as
long as nothing shortens (`Score.total_grows`).
-/

set_option autoImplicit false

namespace ChatTune

/-! ## Counting sustained notes -/

namespace Draft

variable {τ : Type}

/-- Whether a command sustains a note that is there. -/
def sustainsNote (draft : Draft τ) : Command → Bool
  | .sustain => !draft.notes.isEmpty
  | _ => false

theorem sustainsNote_of_empty {draft : Draft τ} (empty : draft.notes = #[]) (command : Command) :
    draft.sustainsNote command = false := by
  cases command <;> simp only [sustainsNote, empty, Array.isEmpty_empty, Bool.not_true]

theorem sustainsNote_of_pitchChange? {rules : Rules τ} {command : Command}
    {change : Pitch → Except Overflow Pitch} (found : command.pitchChange? rules = some change)
    (draft : Draft τ) : draft.sustainsNote command = false := by
  cases command <;> cases found <;> rfl

theorem EndsWith.sustainsNote {draft : Draft τ} {earlier : Array (Note τ)} {last : Note τ}
    (ends : draft.EndsWith earlier last) : draft.sustainsNote .sustain = true := by
  simp only [Draft.sustainsNote, ends.notes, Array.isEmpty_push, Bool.not_false]

/-- How many commands of a list are sustains of a note that is there by then. -/
def sustainedCount [Time τ] (rules : Rules τ) (draft : Draft τ) (commands : List Command) : Nat :=
  (draft.steps rules commands).countP fun step => step.before.sustainsNote step.command

theorem sustainedCount_cons [Time τ] {rules : Rules τ} {draft next : Draft τ} {command : Command}
    (advanced : draft.advance rules command = .ok next) (commands : List Command) :
    draft.sustainedCount rules (command :: commands) =
      (draft.sustainsNote command).toNat + next.sustainedCount rules commands := by
  rw [sustainedCount, steps_cons advanced, List.countP_cons, Nat.add_comm, sustainedCount]
  cases draft.sustainsNote command <;> rfl

end Draft

/-- How many commands behind a front are sustains of a note that is there by then. -/
def Score.sustainedCount {τ : Type} [Time τ] (rules : Rules τ) (start : τ)
    (front rest : List Command) : Nat :=
  match draft rules start front with
  | .error _ => 0
  | .ok middle => middle.sustainedCount rules rest

/-! ## Overtime -/

namespace Draft

variable {rules : Rules Rat} {draft performed next : Draft Rat} {command : Command}

/-- What the notes of a draft last beyond a note length each. -/
def overtime (rules : Rules Rat) (draft : Draft Rat) : Rat :=
  summedDuration draft.notes - rules.noteLength * draft.notes.size

/-- The overtime of notes that end with a given one. -/
theorem overtime_of_push {earlier : Array (Note Rat)} {last : Note Rat}
    (notes : draft.notes = earlier.push last) :
    draft.overtime rules =
      summedDuration earlier + last.duration - rules.noteLength * (earlier.size + 1) := by
  rw [overtime, notes, summedDuration_push, Array.size_push, Nat.cast_add, Nat.cast_one]

/-- The first phase of a command adds to the overtime when it sustains a note. -/
theorem Performs.overtime (coherent : draft.Coherent rules)
    (performs : draft.Performs rules command performed) (unshortened : command ≠ .shorten) :
    performed.overtime rules =
      draft.overtime rules + rules.noteLength * (draft.sustainsNote command).toNat := by
  have still (quiet : draft.sustainsNote command = false) :
      draft.overtime rules =
        draft.overtime rules + rules.noteLength * (draft.sustainsNote command).toNat := by
    rw [quiet, Bool.toNat_false, Nat.cast_zero, mul_zero, add_zero]
  cases performs with
  | opens | closes | collects | drops | ignores => exact still rfl
  | misses modifies vacant =>
      exact still (sustainsNote_of_empty (coherent.notes_of_none vacant) command)
  | lengthens ends | rewinds ends =>
      rw [overtime_of_push rfl, overtime_of_push ends.notes, ends.sustainsNote, Bool.toNat_true,
        Nat.cast_one]
      simp only [Note.lengthen]
      ring
  | shortens => exact absurd rfl unshortened
  | alters ends found done =>
      rw [overtime_of_push rfl, Note.duration_of_changeLast done, ← overtime_of_push ends.notes]
      exact still (sustainsNote_of_pitchChange? found draft)

/-- A note begins without overtime. -/
theorem overtime_addNote (draft : Draft Rat) :
    (draft.addNote rules).overtime rules = draft.overtime rules := by
  rw [overtime_of_push (draft.addNote_endsWith rules).notes, overtime]
  ring

/-- **A command that does not shorten adds to the overtime only by sustaining a note.** -/
theorem advance_overtime (coherent : draft.Coherent rules) (unshortened : command ≠ .shorten)
    (advanced : draft.advance rules command = .ok next) :
    next.overtime rules =
      draft.overtime rules + rules.noteLength * (draft.sustainsNote command).toNat := by
  obtain ⟨performed, performs, rfl⟩ := advance_cases coherent advanced
  rw [← performs.overtime coherent unshortened]
  rcases settle_cases rules performed (draft.asksForNote rules command) with ⟨-, same⟩ | ⟨-, added⟩
  · rw [same]
  · rw [added, overtime_addNote]

/-- **A run that does not shorten adds a note length to the overtime for every sustained note.** -/
theorem run_overtime (coherent : draft.Coherent rules) {commands : List Command}
    (unshortened : ∀ command ∈ commands, command ≠ .shorten)
    (ran : draft.run rules commands = .ok next) :
    next.overtime rules =
      draft.overtime rules + rules.noteLength * draft.sustainedCount rules commands := by
  induction commands generalizing draft with
  | nil =>
      cases ran
      rw [sustainedCount, steps, List.countP_nil, Nat.cast_zero, mul_zero, add_zero]
  | cons command commands ih =>
      obtain ⟨middle, advanced, ran⟩ := run_cons_eq_ok.mp ran
      obtain ⟨first, others⟩ := List.forall_mem_cons.mp unshortened
      rw [ih (coherent.advance advanced) others ran, advance_overtime coherent first advanced,
        sustainedCount_cons advanced, Nat.cast_add]
      ring

end Draft

/-! ## The total of a longer list -/

namespace Score

/-- **A total grows by whole note lengths.**  Commands follow a list of commands, and none of them
shortens.  Then the total grows by a note length for every note that they add, and by another one
for every sustain among them at which there is a note.  So it does not shrink, and what is rejected
before is rejected behind them. -/
theorem total_grows (rules : Rules Rat) (start : Rat) (front rest : List Command)
    (length : 0 ≤ rules.noteLength) (unshortened : .shorten ∉ rest) {later : Array (Note Rat)}
    (composed : compose rules start (front ++ rest) = .ok later) :
    ∃ notes, compose rules start front = .ok notes ∧
      summedDuration later = summedDuration notes +
        rules.noteLength *
          (((later.size - notes.size : Nat) : Rat) + sustainedCount rules start front rest) ∧
      summedDuration notes ≤ summedDuration later ∧
      ∀ problem, accept rules notes = .error problem →
        accept rules later = .error (.tooLong (summedDuration later)) := by
  obtain ⟨last, reachedLast, rfl⟩ := compose_eq_ok.mp composed
  obtain ⟨middle, reached, ran⟩ := draft_append_eq_ok.mp reachedLast
  obtain ⟨-, continues⟩ := draft_append_continues reached reachedLast
  have grown : last.overtime rules =
      middle.overtime rules + rules.noteLength * sustainedCount rules start front rest := by
    rw [sustainedCount, reached]
    exact Draft.run_overtime (draft_coherent reached)
      (fun command member shortens => unshortened (shortens ▸ member)) ran
  have total : summedDuration last.notes = summedDuration middle.notes +
      rules.noteLength * (((last.notes.size - middle.notes.size : Nat) : Rat) +
        sustainedCount rules start front rest) := by
    rw [Nat.cast_sub continues.size_le]
    unfold Draft.overtime at grown
    linarith
  have more : summedDuration middle.notes ≤ summedDuration last.notes := by
    rw [total]
    exact le_add_of_nonneg_right
      (mul_nonneg length (add_nonneg (Nat.cast_nonneg _) (Nat.cast_nonneg _)))
  refine ⟨middle.notes, compose_eq_ok.mpr ⟨middle, reached, rfl⟩, total, more, ?_⟩
  intro problem rejected
  have tooLong : rules.longestTotal ≤ summedDuration middle.notes := by
    by_contra short
    simp only [accept, if_neg short, reduceCtorEq] at rejected
  simp only [accept, if_pos (tooLong.trans more)]

/-- Sustains before any note do not count; a note that attacks again in an open chord counts for its
sustains and not for the pitches that are dropped. -/
theorem total_grows_behind_dropped_chord :
    let rules : Rules Rat := { Rules.exactDefault with longestTotal := 1 }
    let front : List Command := [.sustain, .press .d, .sustain, .sustain, .pause]
    let rest : List Command := .press .a :: .chordStart :: .replicate 8 .sustain ++ [.press .f]
    0 ≤ rules.noteLength ∧ .shorten ∉ rest ∧
      ∃ notes later, compose rules 100 front = .ok notes ∧
        compose rules 100 (front ++ rest) = .ok later ∧ later.size = 3 ∧
        summedDuration later = summedDuration notes + 3 / 10 * (1 + 8) ∧
        accept rules notes = .error (.tooLong (6 / 5)) ∧
        accept rules later = .error (.tooLong (summedDuration later)) := by
  intro rules front rest
  have length : 0 ≤ rules.noteLength := by decide +kernel
  have unshortened : .shorten ∉ rest := by decide
  have composed : compose rules 100 (front ++ rest) = .ok #[⟨[.plain .d 4], 100, 9 / 10⟩,
      ⟨[], 1009 / 10, 3 / 10⟩, ⟨[.plain .a 4], 506 / 5, 27 / 10⟩] := by
    decide +kernel
  have first : compose rules 100 front =
      .ok #[⟨[.plain .d 4], 100, 9 / 10⟩, ⟨[], 1009 / 10, 3 / 10⟩] := by
    decide +kernel
  have rejected : accept rules #[⟨[.plain .d 4], 100, 9 / 10⟩, ⟨[], 1009 / 10, 3 / 10⟩] =
      .error (.tooLong (6 / 5)) := by
    decide +kernel
  have counted : sustainedCount rules 100 front rest = 8 := by decide +kernel
  obtain ⟨notes, same, total, -, final⟩ :=
    total_grows rules 100 front rest length unshortened composed
  cases first.symm.trans same
  rw [counted] at total
  exact ⟨length, unshortened, _, _, first, composed, rfl, total, rejected, final _ rejected⟩

end Score

end ChatTune
