import ChatTune.Proofs.Score.Clock
import ChatTune.Proofs.Score.Octaves

/-!
# Runs of sustains

A note that was just added is followed by modifiers and ignored characters alone.  Then the
sustains among them are counted in rounds: a round is as many sustains as the limit and one more,
and it ends with another attack of the note.  The draft keeps the count in two places, full rounds
as added notes and the rest as the sustains of the last note, like the wheels of an odometer
(`Draft.odometer`).  A sustain moves the odometer on by one and no other modifier moves it, so a
division with remainder gives both the notes and the counter.

The added notes echo the first one.  Modifiers between the sustains can change the octaves and the
marks of what is copied, but not its letters.  Sustains alone change nothing, and in exact time
every round then takes equally long and brings the next attack equally far on
(`Score.sustains_counted_in_rounds`).
-/

set_option autoImplicit false

namespace ChatTune

variable {τ : Type}

/-! ## Commands for the last note -/

namespace Command

/-- Whether a command concerns the last note alone, or nothing. -/
def staysOnNote : Command → Bool
  | .sustain | .shorten | .octaveUp | .octaveDown | .sharp | .flat | .ignored _ => true
  | _ => false

/-- Whether a command moves an octave. -/
def movesOctave : Command → Bool
  | .octaveUp | .octaveDown => true
  | _ => false

end Command

namespace Draft

/-! ## Runs without an overflow -/

section Running

variable [Time τ] {rules : Rules τ} {draft next : Draft τ} {command : Command}
  {commands : List Command}

/-- Whether no octave overflows in a run: a step that fails is not one that moves an octave. -/
def octavesFit (rules : Rules τ) (draft : Draft τ) (commands : List Command) : Bool :=
  (draft.steps rules commands).all fun step => step.result.isOk || !step.command.movesOctave

/-- In a run that succeeds no octave overflows. -/
theorem octavesFit_of_run (ran : draft.run rules commands = .ok next) :
    draft.octavesFit rules commands = true := by
  induction commands generalizing draft with
  | nil => rfl
  | cons command commands ih =>
      obtain ⟨middle, advanced, ran⟩ := run_cons_eq_ok.mp ran
      rw [octavesFit, steps_cons advanced, List.all_cons]
      exact ih ran

theorem octavesFit_append {middle : Draft τ} (ran : draft.run rules commands = .ok middle)
    (rest : List Command) :
    draft.octavesFit rules (commands ++ rest) = middle.octavesFit rules rest := by
  have front : (draft.steps rules commands).all
      (fun step => step.result.isOk || !step.command.movesOctave) = true := octavesFit_of_run ran
  rw [octavesFit, steps_append ran, List.all_append, front, Bool.true_and, octavesFit]

/-- Without commands that move an octave none overflows. -/
theorem octavesFit_of_still (draft : Draft τ)
    (still : ∀ command ∈ commands, command.movesOctave = false) :
    draft.octavesFit rules commands = true :=
  List.all_eq_true.mpr fun step member => by
    rw [still step.command (command_mem_of_mem_steps member), Bool.not_false, Bool.or_true]

/-- Of the commands for the last note only those can fail that move an octave. -/
theorem Coherent.exists_advance_of_staysOnNote (coherent : draft.Coherent rules)
    (countable : rules.sustainLimit.toNat + 1 < UInt32.size) (stays : command.staysOnNote = true)
    (still : command.movesOctave = false) :
    ∃ next, draft.advance rules command = .ok next := by
  have performs : ∃ performed, draft.perform rules command = .ok performed := by
    cases command with
    | chordStart | chordEnd | press _ | pause => cases stays
    | octaveUp | octaveDown => cases still
    | sustain => exact coherent.exists_sustain countable
    | shorten | ignored _ => exact ⟨_, rfl⟩
    | sharp | flat => exact coherent.exists_changePitch fun _ _ _ _ => ⟨_, rfl⟩
  obtain ⟨performed, done⟩ := performs
  exact ⟨_, advance_of_perform done⟩

/-- **Commands for the last note are carried out** if no octave overflows. -/
theorem Coherent.exists_run_of_staysOnNote (coherent : draft.Coherent rules)
    (countable : rules.sustainLimit.toNat + 1 < UInt32.size)
    (stay : ∀ command ∈ commands, command.staysOnNote = true)
    (fit : draft.octavesFit rules commands = true) :
    ∃ next, draft.run rules commands = .ok next := by
  induction commands generalizing draft with
  | nil => exact ⟨draft, rfl⟩
  | cons command commands ih =>
      obtain ⟨stays, others⟩ := List.forall_mem_cons.mp stay
      cases advanced : draft.advance rules command with
      | error operation =>
          rw [octavesFit, steps_cons_of_error advanced, List.all_cons, List.all_nil,
            Bool.and_true] at fit
          obtain ⟨next, done⟩ :=
            coherent.exists_advance_of_staysOnNote countable stays ((Bool.not_eq_true' _).mp fit)
          cases advanced.symm.trans done
      | ok middle =>
          rw [octavesFit, steps_cons advanced, List.all_cons] at fit
          obtain ⟨next, ran⟩ := ih (coherent.advance advanced) others fit
          exact ⟨next, run_cons_eq_ok.mpr ⟨middle, advanced, ran⟩⟩

end Running

/-! ## The odometer -/

section Odometer

variable {rules : Rules τ} {draft : Draft τ}

/-- **The count of sustains in a draft,** a note standing for a full round of them. -/
def odometer (rules : Rules τ) (draft : Draft τ) : Nat :=
  draft.notes.size * (rules.sustainLimit.toNat + 1) + draft.sustains.toNat

/-- Notes and counter are read off the odometer by division. -/
theorem Coherent.of_odometer_eq (coherent : draft.Coherent rules) {size count : Nat}
    (odometer : draft.odometer rules = size * (rules.sustainLimit.toNat + 1) + count) :
    draft.notes.size = size + count / (rules.sustainLimit.toNat + 1) ∧
      draft.sustains.toNat = count % (rules.sustainLimit.toNat + 1) := by
  have single : draft.sustains.toNat < rules.sustainLimit.toNat + 1 :=
    Nat.lt_succ_of_le (UInt32.le_iff_toNat_le.mp coherent.sustains)
  have round : 0 < rules.sustainLimit.toNat + 1 := Nat.succ_pos _
  rw [Draft.odometer, Nat.mul_comm, Nat.mul_comm size] at odometer
  constructor
  · have divided := congrArg (· / (rules.sustainLimit.toNat + 1)) odometer
    simpa only [Nat.mul_add_div round, Nat.div_eq_of_lt single, Nat.add_zero] using divided
  · have remaining := congrArg (· % (rules.sustainLimit.toNat + 1)) odometer
    simpa only [Nat.mul_add_mod, Nat.mod_eq_of_lt single] using remaining

end Odometer

/-! ## Echoes of a note -/

/-- **Echoes:** no chord is open, there is a note of a given number, and from this note on all
notes have pitches with a property. -/
structure Echoes (property : List Pitch → Prop) (number : Nat) (draft : Draft τ) : Prop where
  closed : draft.chordOpen = false
  present : number < draft.notes.size
  pitches : ∀ place note, number ≤ place → draft.notes[place]? = some note →
    property note.pitches

/-- A property that a command for pitches keeps on notes. -/
def KeptBy (rules : Rules τ) (property : List Pitch → Prop) (command : Command) : Prop :=
  ∀ (change : Pitch → Except Overflow Pitch) (note changed : Note τ),
    command.pitchChange? rules = some change → note.changeLast change = .ok changed →
      property note.pitches → property changed.pitches

namespace Echoes

variable {property : List Pitch → Prop} {number : Nat} {draft : Draft τ}

theorem pitches_last (echoes : draft.Echoes property number) {earlier : Array (Note τ)}
    {last : Note τ} (ends : draft.EndsWith earlier last) : property last.pitches := by
  have present := echoes.present
  rw [ends.notes, Array.size_push] at present
  refine echoes.pitches earlier.size last (Nat.le_of_lt_succ present) ?_
  rw [ends.notes, Array.getElem?_push_size]

/-- The last note may be exchanged for one with the property. -/
theorem exchange (echoes : draft.Echoes property number) {earlier : Array (Note τ)}
    {last changed : Note τ} (ends : draft.EndsWith earlier last) {next : Draft τ}
    (notes : next.notes = earlier.push changed) (closed : next.chordOpen = draft.chordOpen)
    (holds : property changed.pitches) : next.Echoes property number where
  closed := closed.trans echoes.closed
  present := by
    have present := echoes.present
    rwa [ends.notes, Array.size_push, ← Array.size_push changed, ← notes] at present
  pitches place note later found := by
    rw [notes, Array.getElem?_push] at found
    split at found
    case isTrue =>
        cases found
        exact holds
    case isFalse other =>
        refine echoes.pitches place note later ?_
        rw [ends.notes, Array.getElem?_push, if_neg other]
        exact found

variable [Time τ] {rules : Rules τ} {performed next : Draft τ} {command : Command}

/-- Another note with the property may follow. -/
theorem addNote (echoes : draft.Echoes property number) (holds : property draft.pending) :
    (draft.addNote rules).Echoes property number where
  closed := echoes.closed
  present := by
    rw [(draft.addNote_endsWith rules).notes, Array.size_push]
    exact Nat.lt_succ_of_lt echoes.present
  pitches place note later found := by
    rw [(draft.addNote_endsWith rules).notes, Array.getElem?_push] at found
    split at found
    case isTrue =>
        cases found
        exact holds
    case isFalse => exact echoes.pitches place note later found

/-- **A command for the last note keeps echoes,** and a sustain moves the odometer on by one. -/
theorem advance (echoes : draft.Echoes property number) (coherent : draft.Coherent rules)
    (stays : command.staysOnNote = true) (kept : KeptBy rules property command)
    (advanced : draft.advance rules command = .ok next) :
    next.Echoes property number ∧
      next.odometer rules = draft.odometer rules + [command].count .sustain := by
  obtain ⟨performed, performs, rfl⟩ := advance_cases coherent advanced
  cases performs with
  | opens | closes | collects | drops => cases stays
  | ignores symbol => exact ⟨echoes, rfl⟩
  | misses modifies vacant =>
      have present := echoes.present
      rw [coherent.notes_of_none vacant] at present
      exact absurd present (Nat.not_lt_zero number)
  | lengthens ends below =>
      have quiet : draft.asksForNote rules .sustain = false := ends.attacksAgain_of_lt below
      have holds := echoes.pitches_last ends
      rw [quiet, settle_false]
      refine ⟨echoes.exchange ends rfl rfl holds, ?_⟩
      simp only [odometer, ends.notes, Array.size_push, Checked.toNat_succ_of_lt below]
      rfl
  | rewinds ends beyond =>
      have asks : draft.asksForNote rules .sustain = true := ends.attacksAgain_of_le beyond
      have holds := echoes.pitches_last ends
      -- The counter starts again from the limit, so the added note stands for one more than that.
      have full : draft.sustains = rules.sustainLimit := UInt32.le_antisymm coherent.sustains beyond
      rw [asks, settle_true_of_closed]
      · refine ⟨Echoes.addNote (echoes.exchange ends rfl rfl ?_) holds, ?_⟩
        · exact holds
        simp only [odometer, Draft.addNote, ends.notes, Array.size_push, full, UInt32.toNat_zero,
          List.count_singleton_self]
        ring
      · exact echoes.closed
  | shortens ends =>
      have holds := echoes.pitches_last ends
      have quiet : draft.asksForNote rules .shorten = false := rfl
      rw [quiet, settle_false]
      refine ⟨echoes.exchange ends rfl rfl holds, ?_⟩
      simp only [odometer, ends.notes, Array.size_push]
      rfl
  | alters ends found done =>
      have holds := kept _ _ _ found done (echoes.pitches_last ends)
      rw [asksForNote_of_pitchChange? found, settle_false]
      refine ⟨echoes.exchange ends rfl rfl holds, ?_⟩
      simp only [odometer, ends.notes, Array.size_push]
      cases command <;> cases found <;> rfl

/-- **Commands for the last note keep echoes,** and the odometer counts the sustains among them. -/
theorem run (echoes : draft.Echoes property number) (coherent : draft.Coherent rules)
    {commands : List Command} (stay : ∀ command ∈ commands, command.staysOnNote = true)
    (kept : ∀ command ∈ commands, KeptBy rules property command)
    (ran : draft.run rules commands = .ok next) :
    next.Echoes property number ∧
      next.odometer rules = draft.odometer rules + commands.count .sustain := by
  induction commands generalizing draft with
  | nil =>
      cases ran
      exact ⟨echoes, rfl⟩
  | cons command commands ih =>
      obtain ⟨middle, advanced, ran⟩ := run_cons_eq_ok.mp ran
      obtain ⟨stays, stay⟩ := List.forall_mem_cons.mp stay
      obtain ⟨keeps, kept⟩ := List.forall_mem_cons.mp kept
      obtain ⟨middleEchoes, one⟩ := echoes.advance coherent stays keeps advanced
      obtain ⟨nextEchoes, others⟩ := ih middleEchoes (coherent.advance advanced) stay kept ran
      refine ⟨nextEchoes, ?_⟩
      rw [others, one, Nat.add_assoc, ← List.count_append, List.singleton_append]

end Echoes

/-- Every command keeps the letters of pitches. -/
theorem keptBy_letters (rules : Rules τ) (letters : List Letter) (command : Command) :
    KeptBy rules (fun pitches => pitches.map Pitch.letter = letters) command := by
  intro change note changed found done same
  rw [(Note.Retouched.changeLast found done).letters, same]

/-- A sustain keeps pitches as they are. -/
theorem keptBy_sustain (rules : Rules τ) (property : List Pitch → Prop) :
    KeptBy rules property .sustain := by
  intro change note changed found
  cases found

variable [Time τ]

/-- An added note is the first of its echoes, and the odometer begins with it. -/
theorem echoes_addNote {rules : Rules τ} {draft : Draft τ} (closed : draft.chordOpen = false)
    {property : List Pitch → Prop} (holds : property draft.pending) :
    (draft.addNote rules).Echoes property draft.notes.size ∧
      (draft.addNote rules).odometer rules =
        (draft.notes.size + 1) * (rules.sustainLimit.toNat + 1) := by
  refine ⟨⟨closed, ?_, ?_⟩, ?_⟩
  · rw [(draft.addNote_endsWith rules).notes, Array.size_push]
    exact Nat.lt_succ_self _
  · intro place note later found
    rw [(draft.addNote_endsWith rules).notes, Array.getElem?_push] at found
    split at found
    case isTrue =>
        cases found
        exact holds
    case isFalse =>
        rw [Array.getElem?_eq_none later] at found
        cases found
  · rw [odometer, (draft.addNote_endsWith rules).notes, Array.size_push]
    rfl

/-- **What commands for an added note leave:** its echoes, and their count. -/
theorem run_addNote {rules : Rules τ} {draft next : Draft τ} (closed : draft.chordOpen = false)
    (coherent : (draft.addNote rules).Coherent rules) {property : List Pitch → Prop}
    (holds : property draft.pending) {commands : List Command}
    (stay : ∀ command ∈ commands, command.staysOnNote = true)
    (kept : ∀ command ∈ commands, KeptBy rules property command)
    (ran : (draft.addNote rules).run rules commands = .ok next) :
    next.Echoes property draft.notes.size ∧
      next.notes.size =
        draft.notes.size + 1 + commands.count .sustain / (rules.sustainLimit.toNat + 1) ∧
      next.sustains.toNat = commands.count .sustain % (rules.sustainLimit.toNat + 1) := by
  obtain ⟨first, begins⟩ := echoes_addNote closed holds
  obtain ⟨echoes, counted⟩ := first.run coherent stay kept ran
  rw [begins] at counted
  exact ⟨echoes, (coherent.run ran).of_odometer_eq counted⟩

end Draft

/-! ## Rounds in exact time -/

/-- How far the attacks of two rounds are apart: a round lasts for the limit and two more note
lengths, less the length by which the clock goes back. -/
def Rules.stride (rules : Rules Rat) : Rat :=
  (rules.sustainLimit.toNat + 2 - rules.rewindUnits.toNat) * rules.noteLength

/-- The note of a round after a first note, held for a number of note lengths. -/
def Note.ofRound (rules : Rules Rat) (first : Note Rat) (round units : Nat) : Note Rat where
  pitches := first.pitches
  attack := first.attack + round * rules.stride
  duration := units * rules.noteLength

theorem Note.ofRound_one (rules : Rules Rat) (first : Note Rat) (round : Nat) :
    first.ofRound rules round 1 =
      ⟨first.pitches, first.attack + round * rules.stride, rules.noteLength⟩ := by
  simp only [Note.ofRound, Nat.cast_one, one_mul]

theorem Note.lengthen_ofRound (rules : Rules Rat) (first : Note Rat) (round units : Nat) :
    (first.ofRound rules round units).lengthen rules.noteLength =
      first.ofRound rules round (units + 1) := by
  simp only [Note.lengthen, Note.ofRound, Nat.cast_add, Nat.cast_one, add_mul, one_mul]

namespace Draft

/-- **A draft in a round of sustains:** the notes of the rounds before lasted for a full round, and
the last one for the sustains that are counted. -/
structure InRound (rules : Rules Rat) (first : Note Rat) (number round : Nat)
    (earlier : Array (Note Rat)) (draft : Draft Rat) : Prop where
  ends : draft.EndsWith earlier (first.ofRound rules round (draft.sustains.toNat + 1))
  size : earlier.size = number + round
  whole : ∀ before < round,
    earlier[number + before]? = some (first.ofRound rules before (rules.sustainLimit.toNat + 2))
  clock : draft.clock =
    first.attack + round * rules.stride + (draft.sustains.toNat + 1) * rules.noteLength
  closed : draft.chordOpen = false

namespace InRound

variable {rules : Rules Rat} {first : Note Rat} {number round : Nat}
  {earlier : Array (Note Rat)} {draft next : Draft Rat}

/-- A note that was just added begins the first round. -/
theorem addNote (draft : Draft Rat) (closed : draft.chordOpen = false) :
    (draft.addNote rules).InRound rules ⟨draft.pending, draft.clock, rules.noteLength⟩
      draft.notes.size 0 draft.notes where
  ends := by
    refine ⟨?_, rfl⟩
    simp only [Draft.addNote, UInt32.toNat_zero, Nat.zero_add, Note.ofRound_one, Nat.cast_zero,
      zero_mul, add_zero]
  size := rfl
  whole before earlier := absurd earlier (Nat.not_lt_zero before)
  clock := by
    simp only [Draft.addNote, UInt32.toNat_zero, Nat.cast_zero, zero_mul, zero_add, one_mul,
      add_zero]
  closed := closed

/-- **A sustain goes on with the round or begins the next one.** -/
theorem sustain (inRound : draft.InRound rules first number round earlier)
    (coherent : draft.Coherent rules) (advanced : draft.advance rules .sustain = .ok next) :
    ∃ nextRound nextEarlier, next.InRound rules first number nextRound nextEarlier := by
  obtain ⟨ends, size, whole, clock, closed⟩ := inRound
  obtain ⟨performed, done, rfl⟩ := exists_perform_of_advance advanced
  rw [perform] at done
  rcases UInt32.lt_or_le draft.sustains rules.sustainLimit with below | beyond
  · have quiet : draft.asksForNote rules .sustain = false := ends.attacksAgain_of_lt below
    rw [ends.sustain_of_lt below, Note.lengthen_ofRound,
      ← Checked.toNat_succ_of_lt below] at done
    cases done
    rw [quiet, settle_false]
    refine ⟨round, earlier, ⟨rfl, ends.current⟩, size, whole, ?_, closed⟩
    rw [clock, Checked.toNat_succ_of_lt below, Nat.cast_add, Nat.cast_one]
    ring
  · have asks : draft.asksForNote rules .sustain = true := ends.attacksAgain_of_le beyond
    have full : draft.sustains = rules.sustainLimit := UInt32.le_antisymm coherent.sustains beyond
    have begins : draft.clock + rules.noteLength - Time.times rules.rewindUnits rules.noteLength =
        first.attack + (round + 1 : Nat) * rules.stride := by
      simp only [clock, full, Time.times, Rules.stride, Nat.cast_add, Nat.cast_one]
      ring
    rw [ends.sustain_of_le beyond (ends.fits_of_sustain done), Note.lengthen_ofRound, full,
      begins] at done
    cases done
    rw [asks, settle_true_of_closed]
    · refine ⟨round + 1, _, ⟨?_, rfl⟩, ?_, fun before sooner => ?_, ?_, closed⟩
      · simp only [Draft.addNote, UInt32.toNat_zero, Nat.zero_add, Note.ofRound_one]
        rfl
      · rw [Array.size_push, size, Nat.add_assoc]
      · rcases Nat.lt_succ_iff_lt_or_eq.mp sooner with older | rfl
        · rw [Array.getElem?_push_lt (by omega), ← Array.getElem?_eq_getElem, whole before older]
        · rw [← size, Array.getElem?_push_size]
      · simp only [Draft.addNote, UInt32.toNat_zero, Nat.cast_zero, zero_add, one_mul]
    · exact closed

/-- **A run of sustains ends in a round.** -/
theorem run (inRound : draft.InRound rules first number round earlier)
    (coherent : draft.Coherent rules) {count : Nat}
    (ran : draft.run rules (.replicate count .sustain) = .ok next) :
    ∃ nextRound nextEarlier, next.InRound rules first number nextRound nextEarlier := by
  refine (run_induction (motive := fun draft => draft.Coherent rules ∧
    ∃ round earlier, draft.InRound rules first number round earlier) ?_
    ⟨coherent, round, earlier, inRound⟩ ran).2
  rintro command member before after ⟨coherent, round, earlier, inRound⟩ advanced
  cases List.eq_of_mem_replicate member
  exact ⟨coherent.advance advanced, inRound.sustain coherent advanced⟩

/-- The notes of a draft in a round, from the first one on. -/
theorem getElem? (inRound : draft.InRound rules first number round earlier) {place : Nat}
    (upTo : place ≤ round) :
    draft.notes[number + place]? = some (first.ofRound rules place
      (if place < round then rules.sustainLimit.toNat + 2 else draft.sustains.toNat + 1)) := by
  rw [inRound.ends.notes]
  rcases Nat.lt_or_eq_of_le upTo with older | rfl
  · have inside : number + place < earlier.size := by
      rw [inRound.size]
      exact Nat.add_lt_add_left older number
    rw [if_pos older, Array.getElem?_push_lt inside, ← Array.getElem?_eq_getElem,
      inRound.whole place older]
  · rw [if_neg (Nat.lt_irrefl place), ← inRound.size, Array.getElem?_push_size]

end InRound

/-- **What sustains of an added note leave in exact time,** round by round. -/
theorem run_addNote_sustains {rules : Rules Rat} {draft next : Draft Rat}
    (closed : draft.chordOpen = false) (coherent : (draft.addNote rules).Coherent rules)
    {count : Nat} (ran : (draft.addNote rules).run rules (.replicate count .sustain) = .ok next) :
    next.notes.size = draft.notes.size + 1 + count / (rules.sustainLimit.toNat + 1) ∧
      ∀ round ≤ count / (rules.sustainLimit.toNat + 1), next.notes[draft.notes.size + round]? =
        some (Note.ofRound rules ⟨draft.pending, draft.clock, rules.noteLength⟩ round
          (if round < count / (rules.sustainLimit.toNat + 1) then rules.sustainLimit.toNat + 2
            else count % (rules.sustainLimit.toNat + 1) + 1)) := by
  obtain ⟨-, size, sustains⟩ := run_addNote closed coherent trivial
    (List.forall_mem_replicate.mpr (.inr rfl))
    (List.forall_mem_replicate.mpr (.inr (keptBy_sustain rules fun _ => True))) ran
  rw [List.count_replicate_self] at size sustains
  obtain ⟨last, earlier, inRound⟩ := (InRound.addNote draft closed).run coherent ran
  have rounds : last = count / (rules.sustainLimit.toNat + 1) := by
    rw [inRound.ends.notes, Array.size_push, inRound.size] at size
    omega
  subst rounds
  refine ⟨size, fun round upTo => ?_⟩
  rw [inRound.getElem? upTo, sustains]

end Draft

/-! ## The law of sustains -/

namespace Score

section Sustaining

variable [Time τ] {rules : Rules τ} {start : τ} {front : List Command} {command : Command}
  {number : Nat} {segment : List Command}

/-- Whether no octave overflows while a list of commands is composed. -/
def octavesFit (rules : Rules τ) (start : τ) (commands : List Command) : Bool :=
  (Draft.start start).octavesFit rules commands

/-- Commands for a note that was just added are carried out, if no octave overflows. -/
theorem AddsNote.exists_run (adds : AddsNote rules start front command number)
    (countable : rules.sustainLimit.toNat + 1 < UInt32.size)
    (stay : ∀ modifier ∈ segment, modifier.staysOnNote = true)
    (fit : octavesFit rules start (front ++ command :: segment) = true) :
    ∃ performed last : Draft τ, draft rules start (front ++ [command]) =
        .ok (performed.addNote rules) ∧ performed.notes.size = number ∧
      performed.chordOpen = false ∧ (performed.addNote rules).run rules segment = .ok last ∧
      draft rules start (front ++ command :: segment) = .ok last := by
  obtain ⟨performed, reached, size, closed⟩ := adds.exists_added
  rw [List.append_cons, octavesFit, Draft.octavesFit_append reached] at fit
  obtain ⟨last, ran⟩ := (draft_coherent reached).exists_run_of_staysOnNote countable stay fit
  refine ⟨performed, last, reached, size, closed, ran, ?_⟩
  rw [List.append_cons]
  exact draft_append_eq_ok.mpr ⟨_, reached, ran⟩

end Sustaining

/-- **Sustains are counted in rounds.**  A command adds a note, and then only commands for this note
follow, of which none overflows an octave.  For every round of sustains among them, which is the
limit and one more, another note is added; its letters are those of the first one, and so are its
pitches if there are only sustains.  The counter ends with the sustains that fill no round.  In
exact time every round that is over has the same duration, the limit and two more note lengths, and
the attacks follow each other at this distance, less what the clock goes back. -/
theorem sustains_counted_in_rounds :
    (∀ {τ : Type} [Time τ] (rules : Rules τ) (start : τ) (front : List Command)
      (command : Command) (number : Nat) (segment : List Command),
      rules.sustainLimit.toNat + 1 < UInt32.size → AddsNote rules start front command number →
      (∀ modifier ∈ segment, modifier.staysOnNote = true) →
      octavesFit rules start (front ++ command :: segment) = true →
      ∃ added first last, draft rules start (front ++ [command]) = .ok added ∧
        added.chordOpen = false ∧ added.sustains = 0 ∧ added.notes.back? = some first ∧
        draft rules start (front ++ command :: segment) = .ok last ∧
        last.notes.size =
          added.notes.size + segment.count .sustain / (rules.sustainLimit.toNat + 1) ∧
        last.sustains.toNat = segment.count .sustain % (rules.sustainLimit.toNat + 1) ∧
        ∀ place note, added.notes.size ≤ place → last.notes[place]? = some note →
          note.pitches.map Pitch.letter = first.pitches.map Pitch.letter ∧
            ((∀ modifier ∈ segment, modifier = .sustain) → note.pitches = first.pitches)) ∧
    ∀ (rules : Rules Rat) (start : Rat) (front : List Command) (command : Command)
      (number count : Nat),
      rules.sustainLimit.toNat + 1 < UInt32.size → AddsNote rules start front command number →
      ∃ notes first later, compose rules start (front ++ [command]) = .ok notes ∧
        notes.size = number + 1 ∧ notes.back? = some first ∧
        compose rules start (front ++ command :: List.replicate count .sustain) = .ok later ∧
        later.size = number + 1 + count / (rules.sustainLimit.toNat + 1) ∧
        ∀ round ≤ count / (rules.sustainLimit.toNat + 1), later[number + round]? = some
          ⟨first.pitches,
            first.attack + round *
              ((rules.sustainLimit.toNat + 2 - rules.rewindUnits.toNat) * rules.noteLength),
            if round < count / (rules.sustainLimit.toNat + 1) then
              (rules.sustainLimit.toNat + 2) * rules.noteLength
            else ((count % (rules.sustainLimit.toNat + 1) : Nat) + 1) * rules.noteLength⟩ := by
  constructor
  · intro τ _ rules start front command number segment countable adds stay fit
    obtain ⟨performed, last, reached, -, closed, ran, whole⟩ := adds.exists_run countable stay fit
    have coherent := draft_coherent reached
    have added : (performed.addNote rules).notes.size = performed.notes.size + 1 := by
      rw [(performed.addNote_endsWith rules).notes, Array.size_push]
    have sameLetters :
        performed.pending.map Pitch.letter = performed.pending.map Pitch.letter := rfl
    obtain ⟨letters, size, sustains⟩ := Draft.run_addNote closed coherent sameLetters stay
      (fun modifier _ => Draft.keptBy_letters rules _ modifier) ran
    refine ⟨_, _, last, reached, closed, rfl, Array.back?_push, whole, ?_, sustains, ?_⟩
    · rw [added]
      exact size
    · intro place note behind found
      rw [added] at behind
      have inside : performed.notes.size ≤ place := Nat.le_of_succ_le behind
      refine ⟨letters.pitches place note inside found, fun only => ?_⟩
      have unchanged : performed.pending = performed.pending := rfl
      obtain ⟨copies, -⟩ := Draft.run_addNote closed coherent unchanged stay
        (fun modifier member => only modifier member ▸ Draft.keptBy_sustain rules _) ran
      exact (copies.pitches place note inside found).symm
  · intro rules start front command number count countable adds
    have fit : octavesFit rules start (front ++ command :: .replicate count .sustain) = true := by
      obtain ⟨performed, reached, -⟩ := adds.exists_added
      rw [List.append_cons, octavesFit, Draft.octavesFit_append reached]
      exact Draft.octavesFit_of_still _ (List.forall_mem_replicate.mpr (.inr rfl))
    obtain ⟨performed, last, reached, rfl, closed, ran, whole⟩ :=
      adds.exists_run countable (List.forall_mem_replicate.mpr (.inr rfl)) fit
    obtain ⟨size, rounds⟩ := Draft.run_addNote_sustains closed (draft_coherent reached) ran
    refine ⟨_, _, _, compose_eq_ok.mpr ⟨_, reached, rfl⟩, ?_, Array.back?_push,
      compose_eq_ok.mpr ⟨last, whole, rfl⟩, size, fun round upTo => ?_⟩
    · rw [(performed.addNote_endsWith rules).notes, Array.size_push]
    · rw [rounds round upTo]
      by_cases complete : round < count / (rules.sustainLimit.toNat + 1)
      · simp only [Note.ofRound, Rules.stride, if_pos complete, Nat.cast_add, Nat.cast_ofNat]
      · simp only [Note.ofRound, Rules.stride, if_neg complete, Nat.cast_add, Nat.cast_one]

/-- Seventeen sustains, with other modifiers between them or without, are two rounds and one more
under a limit of seven. -/
theorem seventeen_sustains_counted :
    let mixed := List.replicate 5 .sustain ++ [.sharp, .octaveUp, .shorten, .ignored 'x'] ++
      List.replicate 12 .sustain
    AddsNote .exactDefault 100 [] (.press .d) 0 ∧
      octavesFit .exactDefault 100 (.press .d :: mixed) = true ∧
      (∃ last, draft .exactDefault 100 (.press .d :: mixed) = .ok last ∧ last.notes.size = 3 ∧
        last.sustains.toNat = 1 ∧ ∀ note, last.notes[2]? = some note →
          note.pitches.map Pitch.letter = [.d]) ∧
      ∃ later, compose .exactDefault 100 (.press .d :: List.replicate 17 .sustain) = .ok later ∧
        later.size = 3 ∧ later[1]? = some ⟨[.plain .d 4], 503 / 5, 27 / 10⟩ ∧
        later[2]? = some ⟨[.plain .d 4], 506 / 5, 3 / 5⟩ := by
  intro mixed
  have adds : AddsNote .exactDefault 100 [] (.press .d) 0 := ⟨_, _, rfl, rfl, rfl, rfl⟩
  have fit : octavesFit .exactDefault 100 (.press .d :: mixed) = true := by decide +kernel
  obtain ⟨counted, measured⟩ := sustains_counted_in_rounds
  obtain ⟨added, first, last, reached, -, -, ends, whole, size, sustains, echoes⟩ :=
    counted .exactDefault 100 [] (.press .d) 0 mixed (by decide) adds (by decide) fit
  obtain ⟨notes, note, later, composed, -, back, wholeLater, sizeLater, rounds⟩ :=
    measured .exactDefault 100 [] (.press .d) 0 17 (by decide) adds
  have start : draft .exactDefault 100 ([] ++ [.press .d]) =
      .ok ((⟨#[], [.plain .d 4], none, 0, false, 100⟩ : Draft Rat).addNote .exactDefault) := rfl
  cases start.symm.trans reached
  cases ends
  rw [compose, start] at composed
  cases composed
  cases back
  refine ⟨adds, fit, ⟨last, whole, size.trans (by decide), sustains.trans (by decide), ?_⟩, later,
    wholeLater, sizeLater, (rounds 1 (by decide)).trans ?_, (rounds 2 (by decide)).trans ?_⟩
  · intro note found
    exact (echoes 2 note (by decide) found).1
  · decide +kernel
  · decide +kernel

end Score

end ChatTune
