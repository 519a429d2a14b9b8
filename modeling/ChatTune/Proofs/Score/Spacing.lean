import ChatTune.Proofs.Score.Clock

/-!
# How far apart notes attack

Without shortening a note lasts for its length and one more for every sustain.  A sustain beyond the
limit takes the clock back, but by no more than the sustains that were counted brought it on, if the
clock goes back by at most the limit and one more note lengths.  So the clock stays ahead of every
attack by a note length, and by another one for every sustain that is counted (`Draft.Spaced`).
That holds however often a note attacks again before the next one is added, within a chord as well.

So the notes attack at least a note length apart, one after the other, and none of them before the
start (`Score.attacks_spaced`).
-/

set_option autoImplicit false

namespace ChatTune

/-- The attacks of notes, in their order. -/
def attacksOf {τ : Type} (notes : Array (Note τ)) : List τ := notes.toList.map Note.attack

theorem attacksOf_push {τ : Type} (earlier : Array (Note τ)) (last : Note τ) :
    attacksOf (earlier.push last) = attacksOf earlier ++ [last.attack] := by
  simp only [attacksOf, Array.toList_push, List.map_append, List.map_cons, List.map_nil]

/-- The first phase of a command leaves the attacks as they are. -/
theorem Draft.Performs.attacksOf_eq {τ : Type} [Time τ] {rules : Rules τ}
    {draft performed : Draft τ} {command : Command}
    (performs : draft.Performs rules command performed) :
    attacksOf performed.notes = attacksOf draft.notes := by
  cases performs with
  | opens | closes | collects | drops | ignores | misses => rfl
  | lengthens ends | rewinds ends | shortens ends =>
      rw [ends.notes, attacksOf_push, attacksOf_push]
      rfl
  | alters ends found done =>
      rw [ends.notes, attacksOf_push, attacksOf_push, (Note.Retouched.changeLast found done).attack]

/-- Rules under which a clock that goes back does not go back too far: at most by the limit of
sustains and one more note lengths. -/
structure Rules.Unhurried (rules : Rules Rat) : Prop where
  length : 0 < rules.noteLength
  rewind : rules.rewindUnits.toNat ≤ rules.sustainLimit.toNat + 1

/-- What the clock goes back has been sustained for. -/
theorem Rules.Unhurried.rewind_le {rules : Rules Rat} (unhurried : rules.Unhurried) :
    rules.rewind ≤ (rules.sustainLimit.toNat + 1) * rules.noteLength := by
  have units : (rules.rewindUnits.toNat : Rat) ≤ rules.sustainLimit.toNat + 1 := by
    exact_mod_cast unhurried.rewind
  rw [Rules.rewind, mul_comm]
  exact mul_le_mul_of_nonneg_right units (le_of_lt unhurried.length)

namespace Draft

/-- **A spaced draft:** its notes attack at least a note length apart and not before the start, and
the clock is ahead of them by a note length and by another one for every sustain. -/
structure Spaced (rules : Rules Rat) (start : Rat) (draft : Draft Rat) : Prop where
  apart : (attacksOf draft.notes).Pairwise fun earlier later => earlier + rules.noteLength ≤ later
  notBefore : ∀ attack ∈ attacksOf draft.notes, start ≤ attack
  ahead : ∀ attack ∈ attacksOf draft.notes,
    attack + (draft.sustains.toNat + 1) * rules.noteLength ≤ draft.clock
  started : start ≤ draft.clock

namespace Spaced

variable {rules : Rules Rat} {start : Rat} {draft performed next : Draft Rat} {command : Command}

/-- The draft that begins empty is spaced. -/
theorem empty (rules : Rules Rat) (start : Rat) : (Draft.start start).Spaced rules start where
  apart := .nil
  notBefore _ member := absurd member List.not_mem_nil
  ahead _ member := absurd member List.not_mem_nil
  started := le_refl start

/-- **The first phase of a command keeps a draft spaced** if it shortens nothing. -/
theorem perform (unhurried : rules.Unhurried) (coherent : draft.Coherent rules)
    (spaced : draft.Spaced rules start) (performs : draft.Performs rules command performed)
    (unshortened : command ≠ .shorten) : performed.Spaced rules start := by
  have same := performs.attacksOf_eq
  obtain ⟨apart, notBefore, ahead, started⟩ := spaced
  have length := unhurried.length
  rw [← same] at apart notBefore ahead
  cases performs with
  | opens | closes | collects | drops | ignores | misses =>
      exact ⟨apart, notBefore, ahead, started⟩
  | lengthens ends below =>
      refine ⟨apart, notBefore, ?_, ?_⟩
      · intro attack member
        have before := ahead attack member
        simp only [Checked.toNat_succ_of_lt below, Nat.cast_add, Nat.cast_one]
        linarith
      · change start ≤ draft.clock + rules.noteLength
        linarith
  | @rewinds earlier last ends beyond =>
      have full : draft.sustains = rules.sustainLimit := UInt32.le_antisymm coherent.sustains beyond
      have rewind := unhurried.rewind_le
      -- Counting starts again, and what the clock goes back was counted before.
      have aheadAgain : ∀ attack ∈ attacksOf draft.notes,
          attack + rules.noteLength ≤ draft.clock + rules.noteLength - rules.rewind := by
        intro attack member
        have before := ahead attack (same ▸ member)
        rw [full] at before
        linarith
      have inside : last.attack ∈ attacksOf draft.notes := by
        rw [ends.notes, attacksOf_push]
        exact List.mem_append_right _ (List.mem_singleton_self _)
      refine ⟨apart, notBefore, ?_, ?_⟩
      · intro attack member
        simp only [UInt32.toNat_zero, Nat.cast_zero, zero_add, one_mul]
        exact aheadAgain attack (same ▸ member)
      · have first := notBefore last.attack (same ▸ inside)
        have second := aheadAgain last.attack inside
        change start ≤ draft.clock + rules.noteLength - rules.rewind
        linarith
  | shortens => exact absurd rfl unshortened
  | alters ends found done => exact ⟨apart, notBefore, ahead, started⟩

/-- A note that is added attacks at the clock, and so behind all others. -/
theorem addNote (unhurried : rules.Unhurried) (spaced : draft.Spaced rules start) :
    (draft.addNote rules).Spaced rules start := by
  obtain ⟨apart, notBefore, ahead, started⟩ := spaced
  have length := unhurried.length
  have behind : ∀ attack ∈ attacksOf draft.notes, attack + rules.noteLength ≤ draft.clock := by
    intro attack member
    have sustained : (0 : Rat) ≤ draft.sustains.toNat * rules.noteLength :=
      mul_nonneg (Nat.cast_nonneg _) (le_of_lt length)
    linarith [ahead attack member]
  refine ⟨?_, ?_, ?_, ?_⟩
  · rw [(draft.addNote_endsWith rules).notes, attacksOf_push]
    refine List.pairwise_append.mpr ⟨apart, List.pairwise_singleton _ _, ?_⟩
    intro attack member added isAdded
    rw [List.mem_singleton.mp isAdded]
    exact behind attack member
  · rw [(draft.addNote_endsWith rules).notes, attacksOf_push]
    exact List.forall_mem_append.mpr ⟨notBefore, List.forall_mem_singleton.mpr started⟩
  · rw [(draft.addNote_endsWith rules).notes, attacksOf_push]
    simp only [Draft.addNote, UInt32.toNat_zero, Nat.cast_zero, zero_add, one_mul]
    refine List.forall_mem_append.mpr ⟨?_, List.forall_mem_singleton.mpr (le_refl _)⟩
    intro attack member
    linarith [behind attack member]
  · change start ≤ draft.clock + rules.noteLength
    linarith

/-- **A command keeps a draft spaced** if it shortens nothing. -/
theorem advance (unhurried : rules.Unhurried) (coherent : draft.Coherent rules)
    (spaced : draft.Spaced rules start) (unshortened : command ≠ .shorten)
    (advanced : draft.advance rules command = .ok next) : next.Spaced rules start := by
  obtain ⟨performed, performs, rfl⟩ := advance_cases coherent advanced
  have performedSpaced := spaced.perform unhurried coherent performs unshortened
  rcases settle_cases rules performed (draft.asksForNote rules command) with ⟨-, same⟩ | ⟨-, added⟩
  · rwa [same]
  · rw [added]
    exact performedSpaced.addNote unhurried

/-- **A run without shortening keeps a draft spaced.** -/
theorem run (unhurried : rules.Unhurried) (coherent : draft.Coherent rules)
    (spaced : draft.Spaced rules start) {commands : List Command}
    (unshortened : ∀ command ∈ commands, command ≠ .shorten)
    (ran : draft.run rules commands = .ok next) : next.Spaced rules start := by
  refine (run_induction
    (motive := fun draft => draft.Coherent rules ∧ draft.Spaced rules start) ?_
    ⟨coherent, spaced⟩ ran).2
  rintro command member before after ⟨coherent, spaced⟩ advanced
  exact ⟨coherent.advance advanced,
    spaced.advance unhurried coherent (unshortened command member) advanced⟩

end Spaced

end Draft

namespace Score

/-- Notes are apart by their places. -/
theorem apart_of_pairwise {length : Rat} {notes : Array (Note Rat)}
    (apart : (attacksOf notes).Pairwise fun earlier later => earlier + length ≤ later)
    {place behind : Nat} {note later : Note Rat} (before : place < behind)
    (found : notes[place]? = some note) (foundLater : notes[behind]? = some later) :
    note.attack + length ≤ later.attack := by
  obtain ⟨inside, rfl⟩ := Array.getElem?_eq_some_iff.mp found
  obtain ⟨insideLater, rfl⟩ := Array.getElem?_eq_some_iff.mp foundLater
  rw [attacksOf, List.pairwise_map, List.pairwise_iff_getElem] at apart
  exact apart place behind inside insideLater before

/-- **Attacks are spaced.**  Notes have a length, the clock goes back by at most the limit of
sustains and one more note lengths, and no command shortens.  Then every note attacks at least a
note length after the one before, so that the attacks increase strictly, and no note attacks before
the start. -/
theorem attacks_spaced (rules : Rules Rat) (start : Rat) (commands : List Command)
    (length : 0 < rules.noteLength)
    (rewind : rules.rewindUnits.toNat ≤ rules.sustainLimit.toNat + 1)
    (unshortened : .shorten ∉ commands) {notes : Array (Note Rat)}
    (composed : compose rules start commands = .ok notes) :
    (∀ (place : Nat) (note next : Note Rat), notes[place]? = some note →
      notes[place + 1]? = some next → note.attack + rules.noteLength ≤ next.attack) ∧
    (∀ (place behind : Nat) (note later : Note Rat), place < behind →
      notes[place]? = some note → notes[behind]? = some later → note.attack < later.attack) ∧
    ∀ note ∈ notes, start ≤ note.attack := by
  obtain ⟨last, reached, rfl⟩ := compose_eq_ok.mp composed
  have spaced : last.Spaced rules start :=
    (Draft.Spaced.empty rules start).run ⟨length, rewind⟩ (.start rules start)
      (fun command member shortens => unshortened (shortens ▸ member)) reached
  refine ⟨?_, ?_, ?_⟩
  · intro place note next found foundNext
    exact apart_of_pairwise spaced.apart (Nat.lt_succ_self place) found foundNext
  · intro place behind note later before found foundLater
    have apart := apart_of_pairwise spaced.apart before found foundLater
    linarith
  · intro note member
    exact spaced.notBefore _ (List.mem_map_of_mem (Array.mem_toList_iff.mpr member))

/-- The distance is sharp when the clock goes back as far as that, also behind a chord in which a
note was made to attack again twice. -/
theorem attacks_spaced_by_a_length :
    let rules : Rules Rat := { Rules.exactDefault with sustainLimit := 2, rewindUnits := 3 }
    let commands : List Command := [.press .d, .chordStart] ++ List.replicate 6 .sustain ++
      [.press .a, .chordEnd] ++ List.replicate 3 .sustain
    (0 < rules.noteLength ∧ rules.rewindUnits.toNat ≤ rules.sustainLimit.toNat + 1 ∧
      .shorten ∉ commands) ∧
    ∃ notes, compose rules 100 commands = .ok notes ∧
      notes.map Note.attack = #[100, 1003 / 10, 503 / 5] ∧ ∀ note ∈ notes, 100 ≤ note.attack := by
  intro rules commands
  have composed : compose rules 100 commands = .ok #[⟨[.plain .d 4], 100, 21 / 10⟩,
      ⟨[.plain .d 4, .plain .a 4], 1003 / 10, 6 / 5⟩,
      ⟨[.plain .d 4, .plain .a 4], 503 / 5, 3 / 10⟩] := by
    decide +kernel
  have length : 0 < rules.noteLength := by decide +kernel
  have unshortened : .shorten ∉ commands := by decide
  have rewind : rules.rewindUnits.toNat ≤ rules.sustainLimit.toNat + 1 := by decide
  obtain ⟨-, -, notBefore⟩ := attacks_spaced rules 100 commands length rewind unshortened composed
  exact ⟨⟨length, rewind, unshortened⟩, _, composed, by decide +kernel, notBefore⟩

end Score

end ChatTune
