import ChatTune.Proofs.Score.Durations

/-!
# How early a note attacks

The clock goes back by a fixed length when a note attacks again, however long that note lasts by
then.  A note that was only sustained has lasted long enough, if the clock goes back by no more
note lengths than the limit of sustains.  A note that was shortened as well may have lasted for
no time at all, and then its renewed attack comes before its first one, and even before the
start of the score (`Score.not_start_le_attack`).

So the renewed attacks of shortened notes are told apart from the others (`Tally`).  Under a
clamp no duration falls below zero, and no note attacks earlier than the start less the fixed
length for each renewed attack of a shortened note (`Score.start_sub_le_attack`).  A tune
without them keeps to the start.
-/

set_option autoImplicit false

namespace ChatTune

/-! ## Renewed attacks of shortened notes -/

/-- A tally of renewed attacks, those of shortened notes apart. -/
structure Tally where
  /-- The renewed attacks of earlier notes that were shortened as well. -/
  settled : Nat
  /-- The renewed attacks of the current note. -/
  current : Nat
  /-- Whether the current note was shortened. -/
  shortened : Bool

namespace Tally

/-- The tally of an empty draft. -/
def empty : Tally := ⟨0, 0, false⟩

/-- The renewed attacks of notes that were shortened as well. -/
def ofShortened (tally : Tally) : Nat :=
  tally.settled + if tally.shortened then tally.current else 0

/-- The tally after another note was added: the last one is settled. -/
def settle (tally : Tally) : Tally := ⟨tally.ofShortened, 0, false⟩

variable {τ : Type}

/-- The tally after the first phase of a command. -/
def perform (rules : Rules τ) (draft : Draft τ) (command : Command) (tally : Tally) : Tally where
  settled := tally.settled
  current := tally.current + (draft.attacksAgain rules command).toNat
  shortened := tally.shortened || decide (command = .shorten)

/-- The tally after a command that took a draft to the next one. -/
def advance (rules : Rules τ) (draft : Draft τ) (command : Command) (next : Draft τ)
    (tally : Tally) : Tally :=
  let performed := tally.perform rules draft command
  if draft.notes.size < next.notes.size then performed.settle else performed

theorem perform_of_still {rules : Rules τ} {draft : Draft τ} {command : Command}
    (still : draft.attacksAgain rules command = false) (keeps : command ≠ .shorten)
    (tally : Tally) : tally.perform rules draft command = tally := by
  simp only [perform, still, keeps, Bool.toNat_false, Nat.add_zero, decide_false, Bool.or_false]

theorem ofShortened_settle (tally : Tally) : tally.settle.ofShortened = tally.ofShortened := by
  simp only [settle, ofShortened, Bool.false_eq_true, if_false, Nat.add_zero]

theorem ofShortened_le_perform (rules : Rules τ) (draft : Draft τ) (command : Command)
    (tally : Tally) : tally.ofShortened ≤ (tally.perform rules draft command).ofShortened := by
  cases shortened : tally.shortened with
  | false => simp only [ofShortened, perform, shortened, Bool.false_eq_true, if_false]; omega
  | true => simp only [ofShortened, perform, shortened, Bool.true_or, if_true]; omega

/-- A tally of shortened notes never shrinks. -/
theorem ofShortened_le_advance (rules : Rules τ) (draft : Draft τ) (command : Command)
    (next : Draft τ) (tally : Tally) :
    tally.ofShortened ≤ (tally.advance rules draft command next).ofShortened := by
  have performed := tally.ofShortened_le_perform rules draft command
  unfold advance
  split
  · rwa [ofShortened_settle]
  · exact performed

/-- The tally after a step of a run.  A command that overflows leaves it as it is. -/
def follow (rules : Rules τ) (tally : Tally) (step : Draft.Step τ) : Tally :=
  match step.result with
  | .error _ => tally
  | .ok next => tally.advance rules step.before step.command next

theorem ofShortened_le_follow (rules : Rules τ) (step : Draft.Step τ) (tally : Tally) :
    tally.ofShortened ≤ (tally.follow rules step).ofShortened := by
  unfold follow
  split
  · exact Nat.le_refl _
  · exact ofShortened_le_advance ..

end Tally

namespace Draft

variable {τ : Type} [Time τ] {rules : Rules τ}

/-- The tally after a list of commands. -/
def tally (rules : Rules τ) (draft : Draft τ) (before : Tally) (commands : List Command) : Tally :=
  (draft.steps rules commands).foldl (Tally.follow rules) before

theorem tally_append {draft middle : Draft τ} {front : List Command}
    (ran : draft.run rules front = .ok middle) (before : Tally) (rest : List Command) :
    draft.tally rules before (front ++ rest) =
      middle.tally rules (draft.tally rules before front) rest := by
  rw [tally, steps_append ran, List.foldl_append, tally, tally]

theorem ofShortened_le_tally (draft : Draft τ) (before : Tally) (commands : List Command) :
    before.ofShortened ≤ (draft.tally rules before commands).ofShortened := by
  unfold tally
  induction draft.steps rules commands generalizing before with
  | nil => exact Nat.le_refl _
  | cons step steps ih => exact (before.ofShortened_le_follow rules step).trans (ih _)

end Draft

/-- How often a list of commands makes a note attack again that it shortens as well. -/
def Score.shortenedReattackCount {τ : Type} [Time τ] (rules : Rules τ) (start : τ)
    (commands : List Command) : Nat :=
  ((Draft.start start).tally rules .empty commands).ofShortened

/-! ## What a tally tells about the clock -/

/-- Restrained rules: notes have a length, shortening is clamped, and the clock goes back by no
more note lengths than the limit of sustains. -/
structure Rules.Restrained (rules : Rules Rat) : Prop where
  length : 0 < rules.noteLength
  clamped : rules.clampShortening = true
  rewind : rules.rewindUnits ≤ rules.sustainLimit

theorem Rules.Restrained.rewind_nonneg {rules : Rules Rat} (restrained : rules.Restrained) :
    0 ≤ rules.rewind :=
  mul_nonneg (le_of_lt restrained.length) (Nat.cast_nonneg _)

/-- **What a tally tells about the last note and the clock.**  The attack is bounded by the tally
of earlier notes.  From the attack on, the clock is ahead by the duration and behind by the
renewed attacks; and a note that was not shortened has lasted for all of its sustains. -/
structure Tally.Traces (rules : Rules Rat) (start : Rat) (last : Note Rat) (sustains : UInt32)
    (clock : Rat) (tally : Tally) : Prop where
  attack : start - rules.rewind * tally.settled ≤ last.attack
  clock_eq : clock = last.attack + last.duration - rules.rewind * tally.current
  duration : 0 ≤ last.duration
  whole : tally.shortened = false → last.duration =
    rules.noteLength * (1 + tally.current * (rules.sustainLimit.toNat + 1) + sustains.toNat)

/-- What a tally tells about a draft, whether it has notes or not. -/
structure Tally.Bounds (rules : Rules Rat) (start : Rat) (draft : Draft Rat) (tally : Tally) :
    Prop where
  empty : draft.notes.back? = none → draft.clock = start ∧ tally.settled = 0 ∧ tally.current = 0
  traces : ∀ last, draft.notes.back? = some last →
    tally.Traces rules start last draft.sustains draft.clock

namespace Tally

variable {rules : Rules Rat} {start : Rat} {draft performed next : Draft Rat} {command : Command}
  {tally : Tally}

/-- A note that was not shortened outlasts its renewed attacks. -/
theorem Traces.start_sub_le_clock (restrained : rules.Restrained) {last : Note Rat}
    {sustains : UInt32} {clock : Rat} (traces : tally.Traces rules start last sustains clock) :
    start - rules.rewind * tally.ofShortened ≤ clock := by
  obtain ⟨attack, clock_eq, duration, whole⟩ := traces
  rw [clock_eq, ofShortened]
  cases shortened : tally.shortened with
  | true =>
      simp only [if_true, Nat.cast_add]
      linarith
  | false =>
      -- Every renewed attack was sustained for: the limit and one more, so more than it takes back.
      have units : (rules.rewindUnits.toNat : Rat) ≤ rules.sustainLimit.toNat :=
        Nat.cast_le.mpr (UInt32.le_iff_toNat_le.mp restrained.rewind)
      have again :
          0 ≤ (tally.current : Rat) * (rules.sustainLimit.toNat - rules.rewindUnits.toNat) :=
        mul_nonneg (Nat.cast_nonneg _) (by linarith)
      have outlasts : rules.rewind * tally.current ≤ last.duration := by
        rw [whole shortened, Rules.rewind, mul_assoc]
        refine mul_le_mul_of_nonneg_left ?_ (le_of_lt restrained.length)
        have sustained : (0 : Rat) ≤ sustains.toNat := Nat.cast_nonneg _
        have renewed : (0 : Rat) ≤ tally.current := Nat.cast_nonneg _
        linarith
      simp only [Bool.false_eq_true, if_false, Nat.add_zero]
      linarith

theorem Bounds.start_sub_le_clock (restrained : rules.Restrained)
    (bounds : tally.Bounds rules start draft) :
    start - rules.rewind * tally.ofShortened ≤ draft.clock := by
  cases found : draft.notes.back? with
  | none =>
      obtain ⟨clock, settled, current⟩ := bounds.empty found
      simp only [ofShortened, clock, settled, current, ite_self, Nat.add_zero, Nat.cast_zero,
        mul_zero, sub_zero, le_refl]
  | some last => exact (bounds.traces last found).start_sub_le_clock restrained

/-- What a tally tells about the last note, it tells about the draft. -/
theorem Traces.bounds {earlier : Array (Note Rat)} {last : Note Rat}
    (notes : draft.notes = earlier.push last)
    (traces : tally.Traces rules start last draft.sustains draft.clock) :
    tally.Bounds rules start draft where
  empty nothing := by simp only [notes, Array.back?_push, reduceCtorEq] at nothing
  traces other found := by
    rw [notes, Array.back?_push] at found
    cases found
    exact traces

theorem Bounds.of_endsWith (bounds : tally.Bounds rules start draft) {earlier : Array (Note Rat)}
    {last : Note Rat} (ends : draft.EndsWith earlier last) :
    tally.Traces rules start last draft.sustains draft.clock :=
  bounds.traces last (by rw [ends.notes, Array.back?_push])

/-! ### Changes of the last note -/

section LastNote

variable {last : Note Rat} {sustains : UInt32} {clock : Rat}

theorem Traces.lengthen (restrained : rules.Restrained)
    (traces : tally.Traces rules start last sustains clock)
    (below : sustains < rules.sustainLimit) :
    tally.Traces rules start (last.lengthen rules.noteLength) (sustains + 1)
      (clock + rules.noteLength) := by
  obtain ⟨attack, clock_eq, duration, whole⟩ := traces
  refine ⟨attack, ?_, ?_, fun kept => ?_⟩
  · simp only [Note.lengthen]
    linarith
  · simp only [Note.lengthen]
    linarith [restrained.length]
  · simp only [Note.lengthen, whole kept, Checked.toNat_succ_of_lt below, Nat.cast_add,
      Nat.cast_one]
    ring

/-- A full count of sustains is another attack, and counting starts again. -/
theorem Traces.rewind (restrained : rules.Restrained)
    (traces : tally.Traces rules start last rules.sustainLimit clock) :
    { tally with current := tally.current + 1 }.Traces rules start
      (last.lengthen rules.noteLength) 0
      (clock + rules.noteLength - Time.times rules.rewindUnits rules.noteLength) := by
  obtain ⟨attack, clock_eq, duration, whole⟩ := traces
  refine ⟨attack, ?_, ?_, fun kept => ?_⟩
  · simp only [Note.lengthen, Time.times, Nat.cast_add, Nat.cast_one]
    rw [clock_eq, Rules.rewind]
    ring
  · simp only [Note.lengthen]
    linarith [restrained.length]
  · simp only [Note.lengthen, whole kept, Nat.cast_add, Nat.cast_one, UInt32.toNat_zero,
      Nat.cast_zero]
    ring

/-- A clamped step takes as much off the clock as off the note. -/
theorem Traces.shorten (restrained : rules.Restrained)
    (traces : tally.Traces rules start last sustains clock) :
    { tally with shortened := true }.Traces rules start
      (last.shorten (Draft.stepFor rules last.duration)) sustains
      (clock - Draft.stepFor rules last.duration) := by
  obtain ⟨attack, clock_eq, duration, -⟩ := traces
  refine ⟨attack, ?_, ?_, fun kept => by cases kept⟩
  · simp only [Note.shorten]
    linarith
  · simp only [Note.shorten]
    linarith [Draft.stepFor_le restrained.clamped duration]

theorem Traces.of_same_times {other : Note Rat}
    (traces : tally.Traces rules start last sustains clock) (attack : other.attack = last.attack)
    (duration : other.duration = last.duration) :
    tally.Traces rules start other sustains clock where
  attack := attack ▸ traces.attack
  clock_eq := by rw [attack, duration, traces.clock_eq]
  duration := duration ▸ traces.duration
  whole kept := duration.trans (traces.whole kept)

end LastNote

/-! ### Commands -/

/-- **The first phase of a command keeps what the tally tells.** -/
theorem Bounds.perform (restrained : rules.Restrained) (coherent : draft.Coherent rules)
    (bounds : tally.Bounds rules start draft)
    (performs : draft.Performs rules command performed) :
    (tally.perform rules draft command).Bounds rules start performed := by
  cases performs with
  | opens | closes | collects | drops | ignores =>
      rw [perform_of_still rfl (by simp only [ne_eq, reduceCtorEq, not_false_eq_true])]
      exact ⟨bounds.empty, bounds.traces⟩
  | misses modifies vacant =>
      have noNotes := coherent.notes_of_none vacant
      refine ⟨fun _ => ?_, fun last found => ?_⟩
      · simp only [Tally.perform, Draft.attacksAgain_of_none vacant, Bool.toNat_false, Nat.add_zero]
        exact bounds.empty (by rw [noNotes, Array.back?_empty])
      · rw [noNotes, Array.back?_empty] at found
        cases found
  | lengthens ends below =>
      rw [perform_of_still (ends.attacksAgain_of_lt below)
        (by simp only [ne_eq, reduceCtorEq, not_false_eq_true])]
      exact Traces.bounds rfl ((bounds.of_endsWith ends).lengthen restrained below)
  | rewinds ends beyond =>
      -- The count stops at the limit, so a full count starts again from a known number of sustains.
      have full : draft.sustains = rules.sustainLimit := UInt32.le_antisymm coherent.sustains beyond
      have renewed :
          tally.perform rules draft .sustain = { tally with current := tally.current + 1 } := by
        simp only [Tally.perform, ends.attacksAgain_of_le beyond, Bool.toNat_true, reduceCtorEq,
          decide_false, Bool.or_false]
      rw [renewed]
      exact Traces.bounds rfl ((full ▸ bounds.of_endsWith ends).rewind restrained)
  | shortens ends =>
      have shortened :
          tally.perform rules draft .shorten = { tally with shortened := true } := by
        simp only [Tally.perform, Draft.attacksAgain, Bool.toNat_false, Nat.add_zero, decide_true,
          Bool.or_true]
      rw [shortened]
      exact Traces.bounds rfl ((bounds.of_endsWith ends).shorten restrained)
  | alters ends found done =>
      rw [perform_of_still (Draft.attacksAgain_of_pitchChange? found draft)
        (by rintro rfl; cases found)]
      exact Traces.bounds rfl ((bounds.of_endsWith ends).of_same_times
        (Note.Retouched.changeLast found done).attack (Note.duration_of_changeLast done))

/-- Adding a note settles the tally, and the note attacks at the bounded clock. -/
theorem Bounds.settle (restrained : rules.Restrained) (bounds : tally.Bounds rules start draft) :
    tally.settle.Bounds rules start (draft.addNote rules) := by
  refine Traces.bounds rfl ⟨?_, ?_, le_of_lt restrained.length, fun _ => ?_⟩
  · exact bounds.start_sub_le_clock restrained
  · simp only [Draft.addNote, Tally.settle, Nat.cast_zero, mul_zero, sub_zero]
  · simp only [Draft.addNote, Tally.settle, UInt32.toNat_zero, Nat.cast_zero, zero_mul, add_zero,
      mul_one]

/-- **A command keeps what the tally tells.** -/
theorem Bounds.advance (restrained : rules.Restrained) (coherent : draft.Coherent rules)
    (bounds : tally.Bounds rules start draft)
    (advanced : draft.advance rules command = .ok next) :
    (tally.advance rules draft command next).Bounds rules start next := by
  obtain ⟨performed, performs, rfl⟩ := Draft.advance_cases coherent advanced
  have boundsPerformed := bounds.perform restrained coherent performs
  have size := performs.continues.1
  rcases Draft.settle_cases rules performed (draft.asksForNote rules command) with
    ⟨-, same⟩ | ⟨-, added⟩
  · rw [Tally.advance, same, if_neg (by omega)]
    exact boundsPerformed
  · have more : draft.notes.size < (performed.addNote rules).notes.size := by
      simp only [Draft.addNote, Array.size_push]
      omega
    rw [Tally.advance, added, if_pos more]
    exact boundsPerformed.settle restrained

end Tally

/-! ## The earliest attack -/

/-- Rules under which a few commands shorten a note away. -/
def Rules.coarse : Rules Rat :=
  { Rules.exactDefault with noteLength := 1, shortenStep := 1, sustainLimit := 2, rewindUnits := 2 }

namespace Score

variable {rules : Rules Rat} {start : Rat}

/-- The tally of a run tells about the draft that the run leaves. -/
theorem draft_bounds (restrained : rules.Restrained) {commands : List Command} {last : Draft Rat}
    (reached : draft rules start commands = .ok last) :
    ((Draft.start start).tally rules .empty commands).Bounds rules start last := by
  refine draft_induction (motive := fun commands last =>
    ((Draft.start start).tally rules .empty commands).Bounds rules start last) ?_ ?_ reached
  · exact ⟨fun _ => ⟨rfl, rfl, rfl⟩, fun last found => by cases found⟩
  · intro commands command before after reached bounds advanced
    rw [Draft.tally_append reached, Draft.tally, Draft.steps_singleton, advanced]
    exact bounds.advance restrained (draft_coherent reached) advanced

/-- Longer lists make shortened notes attack again at least as often. -/
theorem shortenedReattackCount_le_append {front : List Command} {middle : Draft Rat}
    (reached : draft rules start front = .ok middle) (rest : List Command) :
    shortenedReattackCount rules start front ≤
      shortenedReattackCount rules start (front ++ rest) := by
  rw [shortenedReattackCount, shortenedReattackCount, Draft.tally_append reached]
  exact Draft.ofShortened_le_tally _ _ _

/-- An added note attacks no earlier than the tally at its command allows. -/
theorem start_sub_le_attack_of_addsNote (restrained : rules.Restrained) {front rest : List Command}
    {command : Command} {last : Draft Rat}
    (reached : draft rules start (front ++ command :: rest) = .ok last) {number : Nat}
    (adds : AddsNote rules start front command number) {note : Note Rat}
    (found : last.notes[number]? = some note) :
    start - rules.rewind * shortenedReattackCount rules start (front ++ [command]) ≤
      note.attack := by
  obtain ⟨performed, reachedAfter, -, attack⟩ := adds.settles reached found
  have bounds := draft_bounds restrained reachedAfter
  have settled := (bounds.of_endsWith (performed.addNote_endsWith rules)).attack
  rw [attack]
  refine le_trans (sub_le_sub_left ?_ start) settled
  refine mul_le_mul_of_nonneg_left ?_ restrained.rewind_nonneg
  exact Nat.cast_le.mpr (Nat.le_add_right _ _)

/-- **How early a note attacks.**  Under rules without a defect that clamp shortening, and that
let the clock go back by no more note lengths than the limit of sustains, the notes of a text
attack no earlier than its start, less the fixed length for every renewed attack of a shortened
note up to the command that added the note.  So they attack no earlier than the start, if no
note that attacks again is shortened. -/
theorem start_sub_le_attack (rules : Rules Rat) (start : Rat) (body : List Char)
    (sound : rules.defect? = none) (clamped : rules.clampShortening = true)
    (bounded : rules.rewindUnits ≤ rules.sustainLimit) {notes : Array (Note Rat)}
    (accepted : ofBody rules start body = .ok notes) :
    ∃ commands, Notation.parse body = .ok commands ∧
      (∀ number note, notes[number]? = some note →
        (∃ front command rest, commands = front ++ command :: rest ∧
          AddsNote rules start front command number) ∧
        ∀ front command rest, commands = front ++ command :: rest →
          AddsNote rules start front command number →
          start - rules.noteLength * rules.rewindUnits.toNat *
            shortenedReattackCount rules start (front ++ [command]) ≤ note.attack) ∧
      (shortenedReattackCount rules start commands = 0 → ∀ note ∈ notes, start ≤ note.attack) := by
  have restrained : rules.Restrained :=
    ⟨(rules.defect?_eq_none_iff.mp sound).1, clamped, bounded⟩
  obtain ⟨commands, parsed, composed, -⟩ := ofBody_eq_ok.mp accepted
  obtain ⟨last, reached, rfl⟩ := compose_eq_ok.mp composed
  refine ⟨commands, parsed, fun number note found => ⟨?_, ?_⟩, fun never note member => ?_⟩
  · exact exists_addsNote reached (Array.getElem?_eq_some_iff.mp found).1
  · rintro front command rest rfl adds
    exact start_sub_le_attack_of_addsNote restrained reached adds found
  · obtain ⟨number, found⟩ := Array.getElem?_of_mem member
    obtain ⟨front, command, rest, rfl, adds⟩ :=
      exists_addsNote reached (Array.getElem?_eq_some_iff.mp found).1
    have bound := start_sub_le_attack_of_addsNote restrained reached adds found
    rw [List.append_cons] at reached never
    obtain ⟨middle, reachedMiddle, -⟩ := draft_append_eq_ok.mp reached
    have fewer := shortenedReattackCount_le_append reachedMiddle rest
    rw [never, Nat.le_zero] at fewer
    rwa [fewer, Nat.cast_zero, mul_zero, sub_zero] at bound

/-- The bound is sharp: a note that waits to attack again can be shortened away. -/
theorem start_sub_eq_attack_of_waiting_reattack :
    ofBody .coarse 0 "a[~~~////]".toList =
        .ok #[⟨[.plain .d 4], 0, 0⟩, ⟨[.plain .d 4], -2, 1⟩] ∧
      ∃ commands, Notation.parse "a[~~~////]".toList = .ok commands ∧
        shortenedReattackCount .coarse 0 commands = 1 ∧
        ∃ front command rest, commands = front ++ command :: rest ∧
          AddsNote .coarse 0 front command 1 ∧
          0 - 1 * 2 * (shortenedReattackCount .coarse 0 (front ++ [command]) : Rat) ≤ -2 := by
  have accepted : ofBody .coarse 0 "a[~~~////]".toList =
      .ok #[⟨[.plain .d 4], 0, 0⟩, ⟨[.plain .d 4], -2, 1⟩] := by
    decide +kernel
  have parses : Notation.parse "a[~~~////]".toList = .ok (.press .d :: .chordStart ::
      .replicate 3 .sustain ++ .replicate 4 .shorten ++ [.chordEnd]) := by
    decide +kernel
  obtain ⟨commands, parsed, bounds, -⟩ :=
    start_sub_le_attack .coarse 0 _ (by decide +kernel) rfl (by decide) accepted
  obtain ⟨⟨front, command, rest, split, adds⟩, bound⟩ := bounds 1 _ rfl
  cases parses.symm.trans parsed
  exact ⟨accepted, _, parses, by decide +kernel, front, command, rest, split, adds,
    bound front command rest split adds⟩

/-- **Notes can attack before the start.**  Under the default rules a shortened note attacks again
1.8 seconds before the score starts. -/
theorem not_start_le_attack :
    ¬ ∀ (rules : Rules Rat) (start : Rat) (body : List Char) (notes : Array (Note Rat)),
      rules.defect? = none → rules.clampShortening = true →
        rules.rewindUnits ≤ rules.sustainLimit → ofBody rules start body = .ok notes →
          ∀ note ∈ notes, start ≤ note.attack := by
  intro early
  have accepted : ofBody .exactDefault 100 "^////~////~////~////~////~////~////~////~".toList =
      .ok #[⟨[.plain .d 5], 100, 3 / 10⟩, ⟨[.plain .d 5], 491 / 5, 3 / 10⟩] := by
    decide +kernel
  have bound := early .exactDefault 100 _ _ (by decide +kernel) rfl (by decide) accepted
    ⟨[.plain .d 5], 491 / 5, 3 / 10⟩ (by simp)
  norm_num at bound

end Score

end ChatTune
