import ChatTune.Proofs.Score.Runs

/-!
# Octaves in reach

Composing can only overflow where an octave is moved or a sustain is counted.  Under a limit
that is not the greatest counter, counting never overflows.  Octaves begin at four or five, and
a move either goes one octave on or lands on a bound, wherever the bounds are; with the bounds
in order, every pitch of a draft stays between the lesser of four and the lowest octave and the
greater of five and the highest (`Rules.Reaches`, `Score.draft_reaches`).

So nothing overflows when the bounds are not the ends of the numbers themselves
(`Score.exists_draft_reaching`).  A bound at such an end is no bound: a pitch moves on to the
end octave by octave, and the next move overflows (`Draft.run_replicate_overflow`).
-/

set_option autoImplicit false

namespace ChatTune

variable {τ : Type}

/-! ## Moving an octave -/

namespace Pitch

/-- Below the greatest octave, a pitch is raised to the next octave or to the highest one. -/
theorem raise_of_lt (highest : Int32) (pitch : Pitch)
    (room : pitch.octave.toInt < Int32.maxValue.toInt) :
    ∃ octave : Int32, pitch.raise highest = .ok { pitch with octave } ∧
      octave.toInt = min (pitch.octave.toInt + 1) highest.toInt := by
  have atLeast := pitch.octave.minValue_le_toInt
  simp only [Int32.toInt_minValue, Int32.toInt_maxValue] at atLeast room
  have next : (Int32.ofInt (pitch.octave.toInt + 1)).toInt = pitch.octave.toInt + 1 :=
    Int32.toInt_ofInt_of_le (by omega) (by omega)
  have added : Checked.add pitch.octave 1 = .ok (.ofInt (pitch.octave.toInt + 1)) :=
    Checked.fit_eq_ok_iff.mpr next
  refine ⟨_, by simp only [raise, added]; rfl, ?_⟩
  split
  case isTrue below =>
      rw [Int32.le_iff_toInt_le, next] at below
      omega
  case isFalse above =>
      rw [Int32.le_iff_toInt_le, next] at above
      omega

/-- Above the least octave, a pitch is lowered to the octave before or to the lowest one. -/
theorem lower_of_lt (lowest : Int32) (pitch : Pitch)
    (room : Int32.minValue.toInt < pitch.octave.toInt) :
    ∃ octave : Int32, pitch.lower lowest = .ok { pitch with octave } ∧
      octave.toInt = max (pitch.octave.toInt - 1) lowest.toInt := by
  have atMost := pitch.octave.toInt_le
  simp only [Int32.toInt_minValue, Int32.toInt_maxValue] at atMost room
  have next : (Int32.ofInt (pitch.octave.toInt - 1)).toInt = pitch.octave.toInt - 1 :=
    Int32.toInt_ofInt_of_le (by omega) (by omega)
  have subtracted : Checked.subtract pitch.octave 1 = .ok (.ofInt (pitch.octave.toInt - 1)) :=
    Checked.fit_eq_ok_iff.mpr next
  refine ⟨_, by simp only [lower, subtracted]; rfl, ?_⟩
  split
  case isTrue above =>
      rw [Int32.le_iff_toInt_le, next] at above
      omega
  case isFalse below =>
      rw [Int32.le_iff_toInt_le, next] at below
      omega

theorem raise_of_eq (highest : Int32) (pitch : Pitch)
    (full : pitch.octave.toInt = Int32.maxValue.toInt) : pitch.raise highest = .error .add := by
  have overflows : Checked.add pitch.octave 1 = .error .add := by
    refine Checked.fit_eq_error (.inr ?_)
    rw [full, Int32.toInt_one]
    omega
  simp only [raise, overflows]
  rfl

theorem lower_of_eq (lowest : Int32) (pitch : Pitch)
    (full : pitch.octave.toInt = Int32.minValue.toInt) : pitch.lower lowest = .error .subtract := by
  have overflows : Checked.subtract pitch.octave 1 = .error .subtract := by
    refine Checked.fit_eq_error (.inl ?_)
    rw [full, Int32.toInt_one]
    omega
  simp only [lower, overflows]
  rfl

/-- A raised pitch is in the next octave or in the highest one, whichever is lower. -/
theorem octave_of_raise {highest : Int32} {pitch raised : Pitch}
    (done : pitch.raise highest = .ok raised) :
    raised.octave.toInt = min (pitch.octave.toInt + 1) highest.toInt := by
  by_cases full : pitch.octave.toInt = Int32.maxValue.toInt
  · cases (raise_of_eq highest pitch full).symm.trans done
  · have atMost := pitch.octave.toInt_le
    obtain ⟨octave, same, value⟩ := raise_of_lt highest pitch (by omega)
    cases same.symm.trans done
    exact value

/-- A lowered pitch is in the octave before or in the lowest one, whichever is higher. -/
theorem octave_of_lower {lowest : Int32} {pitch lowered : Pitch}
    (done : pitch.lower lowest = .ok lowered) :
    lowered.octave.toInt = max (pitch.octave.toInt - 1) lowest.toInt := by
  by_cases full : pitch.octave.toInt = Int32.minValue.toInt
  · cases (lower_of_eq lowest pitch full).symm.trans done
  · have atLeast := pitch.octave.minValue_le_toInt
    obtain ⟨octave, same, value⟩ := lower_of_lt lowest pitch (by omega)
    cases same.symm.trans done
    exact value

end Pitch

/-! ## What holds of every pitch -/

namespace Draft

/-- A property of every pitch of a draft, in its notes and waiting for the next one. -/
structure EveryPitch (property : Pitch → Prop) (draft : Draft τ) : Prop where
  pending : ∀ pitch ∈ draft.pending, property pitch
  notes : ∀ note ∈ draft.notes, ∀ pitch ∈ note.pitches, property pitch

namespace EveryPitch

variable {property : Pitch → Prop} {draft : Draft τ}

/-- The pitches of the last note may be exchanged. -/
theorem exchange (every : draft.EveryPitch property) {earlier : Array (Note τ)} {last : Note τ}
    (ends : draft.EndsWith earlier last) {changed : Note τ}
    (holds : ∀ pitch ∈ changed.pitches, property pitch) :
    ∀ note ∈ earlier.push changed, ∀ pitch ∈ note.pitches, property pitch := by
  intro note member
  rcases Array.mem_push.mp member with old | rfl
  · exact every.notes note (ends.notes ▸ Array.mem_push_of_mem last old)
  · exact holds

theorem last (every : draft.EveryPitch property) {earlier : Array (Note τ)} {last : Note τ}
    (ends : draft.EndsWith earlier last) : ∀ pitch ∈ last.pitches, property pitch :=
  every.notes last (ends.notes ▸ Array.mem_push_self)

variable [Time τ] {rules : Rules τ} {performed next : Draft τ} {command : Command}

/-- The first phase keeps a property that the buttons have and the command's change keeps. -/
theorem performs (every : draft.EveryPitch property)
    (performs : draft.Performs rules command performed)
    (buttons : ∀ button : Button, property button.pitch)
    (kept : ∀ change, command.pitchChange? rules = some change →
      ∀ before after, property before → change before = .ok after → property after) :
    performed.EveryPitch property := by
  cases performs with
  | opens | closes | ignores | misses => exact ⟨every.pending, every.notes⟩
  | collects button =>
      refine ⟨fun pitch member => ?_, every.notes⟩
      rcases List.mem_append.mp member with old | new
      · exact every.pending pitch old
      · rw [List.mem_singleton.mp new]
        exact buttons button
  | drops => exact ⟨fun _ member => (by cases member), every.notes⟩
  | lengthens ends _ | shortens ends =>
      have before := every.last ends
      exact ⟨every.pending, every.exchange ends before⟩
  | rewinds ends _ =>
      have before := every.last ends
      exact ⟨before, every.exchange ends before⟩
  | alters ends found done =>
      have before := every.last ends
      refine ⟨every.pending, every.exchange ends ?_⟩
      rcases Note.changeLast_cases done with ⟨-, rfl⟩ | ⟨front, old, new, pitches, changes, rfl⟩
      · exact before
      · rw [pitches] at before
        intro pitch member
        rcases List.mem_append.mp member with inFront | isLast
        · exact before pitch (List.mem_append_left _ inFront)
        · rw [List.mem_singleton.mp isLast]
          exact kept _ found old new (before old (by simp)) changes

theorem settle (every : performed.EveryPitch property) (asked : Bool) :
    (performed.settle rules asked).EveryPitch property := by
  rcases settle_cases rules performed asked with ⟨-, same⟩ | ⟨-, added⟩
  · rwa [same]
  · rw [added]
    refine ⟨fun _ member => (by cases member), fun note member => ?_⟩
    rcases Array.mem_push.mp member with old | rfl
    · exact every.notes note old
    · exact every.pending

/-- **A command keeps a property** that the buttons have and its change of a pitch keeps. -/
theorem advance (every : draft.EveryPitch property) (coherent : draft.Coherent rules)
    (buttons : ∀ button : Button, property button.pitch)
    (kept : ∀ change, command.pitchChange? rules = some change →
      ∀ before after, property before → change before = .ok after → property after)
    (advanced : draft.advance rules command = .ok next) : next.EveryPitch property := by
  obtain ⟨performed, performs, rfl⟩ := advance_cases coherent advanced
  exact (every.performs performs buttons kept).settle _

end EveryPitch

end Draft

/-! ## Rules under which nothing overflows -/

namespace Rules

/-- A pitch that commands can reach: neither below the fourth octave and the lowest one nor above
the fifth and the highest one. -/
def Reaches (rules : Rules τ) (pitch : Pitch) : Prop :=
  min 4 rules.lowestOctave.toInt ≤ pitch.octave.toInt ∧
    pitch.octave.toInt ≤ max 5 rules.highestOctave.toInt

/-- The octaves of the rules are in order and not the ends of the numbers, and neither is the
limit of sustains. -/
structure Inside (rules : Rules τ) : Prop where
  ordered : rules.lowestOctave.toInt ≤ rules.highestOctave.toInt
  countable : rules.sustainLimit.toNat + 1 < UInt32.size
  lowest : Int32.minValue.toInt < rules.lowestOctave.toInt
  highest : rules.highestOctave.toInt < Int32.maxValue.toInt

variable {rules : Rules τ}

/-- Bounds in order that are not the ends of the numbers are inside them. -/
theorem Inside.of_bounds (ordered : ¬ rules.highestOctave < rules.lowestOctave)
    (countable : rules.sustainLimit.toNat + 1 < UInt32.size)
    (notAtEnd : ¬ (rules.highestOctave = Int32.maxValue ∨ rules.lowestOctave = Int32.minValue)) :
    rules.Inside := by
  rw [← Int32.toInt_inj, ← Int32.toInt_inj] at notAtEnd
  have atLeast := rules.lowestOctave.minValue_le_toInt
  have atMost := rules.highestOctave.toInt_le
  exact ⟨Int32.le_iff_toInt_le.mp (Int32.not_lt.mp ordered), countable, by omega, by omega⟩

theorem reaches_button (rules : Rules τ) (button : Button) : rules.Reaches button.pitch := by
  have bounds : 4 ≤ button.pitch.octave.toInt ∧ button.pitch.octave.toInt ≤ 5 := by
    cases button <;> decide
  unfold Reaches
  omega

/-- Under bounds in order a pitch in reach stays in reach when it is changed. -/
theorem reaches_of_change (ordered : rules.lowestOctave.toInt ≤ rules.highestOctave.toInt)
    {command : Command} {change : Pitch → Except Overflow Pitch}
    (found : command.pitchChange? rules = some change) {before after : Pitch}
    (reaches : rules.Reaches before) (done : change before = .ok after) : rules.Reaches after := by
  unfold Reaches at reaches ⊢
  cases command <;> cases found
  case octaveUp =>
      have value := Pitch.octave_of_raise done
      omega
  case octaveDown =>
      have value := Pitch.octave_of_lower done
      omega
  case sharp =>
      cases done
      exact reaches
  case flat =>
      cases done
      exact reaches

/-- A pitch in reach can be changed. -/
theorem Inside.exists_change (inside : rules.Inside) {command : Command}
    {change : Pitch → Except Overflow Pitch} (found : command.pitchChange? rules = some change)
    {pitch : Pitch} (reaches : rules.Reaches pitch) :
    ∃ changed, change pitch = .ok changed := by
  obtain ⟨-, -, lowest, highest⟩ := inside
  simp only [Int32.toInt_minValue, Int32.toInt_maxValue] at lowest highest
  unfold Reaches at reaches
  cases command <;> cases found
  case octaveUp =>
      obtain ⟨octave, raised, -⟩ := Pitch.raise_of_lt rules.highestOctave pitch
        (by rw [Int32.toInt_maxValue]; omega)
      exact ⟨_, raised⟩
  case octaveDown =>
      obtain ⟨octave, lowered, -⟩ := Pitch.lower_of_lt rules.lowestOctave pitch
        (by rw [Int32.toInt_minValue]; omega)
      exact ⟨_, lowered⟩
  case sharp | flat => exact ⟨_, rfl⟩

end Rules

namespace Draft

section Progress

variable {draft : Draft τ}

/-- A pitch of the last note that can be changed is changed. -/
theorem EndsWith.exists_changePitch {earlier : Array (Note τ)} {last : Note τ}
    (ends : draft.EndsWith earlier last) {change : Pitch → Except Overflow Pitch}
    (changes : ∀ pitch ∈ last.pitches, ∃ changed, change pitch = .ok changed) :
    ∃ performed, draft.changePitch change = .ok performed := by
  rw [ends.changePitch, Note.changeLast]
  cases found : last.pitches.getLast? with
  | none => exact ⟨_, rfl⟩
  | some pitch =>
      obtain ⟨changed, done⟩ := changes pitch (List.mem_of_getLast? found)
      simp only [done]
      exact ⟨_, rfl⟩

/-- If every pitch of the notes can be changed, so can the last one. -/
theorem Coherent.exists_changePitch {rules : Rules τ} (coherent : draft.Coherent rules)
    {change : Pitch → Except Overflow Pitch}
    (changes : ∀ note ∈ draft.notes, ∀ pitch ∈ note.pitches,
      ∃ changed, change pitch = .ok changed) :
    ∃ performed, draft.changePitch change = .ok performed := by
  rcases coherent.empty_or_endsWith with ⟨-, vacant⟩ | ⟨earlier, last, ends⟩
  · exact ⟨draft, changePitch_of_none vacant change⟩
  · exact ends.exists_changePitch (changes last (ends.notes ▸ Array.mem_push_self))

variable [Time τ] {rules : Rules τ}

/-- Under a limit that is not the greatest counter, every sustain can be carried out. -/
theorem Coherent.exists_sustain (coherent : draft.Coherent rules)
    (countable : rules.sustainLimit.toNat + 1 < UInt32.size) :
    ∃ performed, draft.sustain rules = .ok performed := by
  rcases coherent.empty_or_endsWith with ⟨-, vacant⟩ | ⟨earlier, last, ends⟩
  · exact ⟨draft, by simp only [sustain, vacant]⟩
  · rcases UInt32.lt_or_le draft.sustains rules.sustainLimit with below | beyond
    · exact ⟨_, ends.sustain_of_lt below⟩
    · have := UInt32.le_iff_toNat_le.mp coherent.sustains
      exact ⟨_, ends.sustain_of_le beyond (by omega)⟩

theorem exists_changePitch (inside : rules.Inside) (coherent : draft.Coherent rules)
    (every : draft.EveryPitch rules.Reaches) {command : Command}
    {change : Pitch → Except Overflow Pitch} (found : command.pitchChange? rules = some change) :
    ∃ performed, draft.perform rules command = .ok performed := by
  rw [perform_of_pitchChange? found]
  exact coherent.exists_changePitch fun note member pitch within =>
    inside.exists_change found (every.notes note member pitch within)

/-- **Under such rules every command can be carried out** on a coherent draft with every pitch
in reach. -/
theorem exists_perform (inside : rules.Inside) (coherent : draft.Coherent rules)
    (every : draft.EveryPitch rules.Reaches) (command : Command) :
    ∃ performed, draft.perform rules command = .ok performed := by
  cases command with
  | chordStart | chordEnd | press _ | pause | shorten | ignored _ => exact ⟨_, rfl⟩
  | sustain => exact coherent.exists_sustain inside.countable
  | octaveUp | octaveDown | sharp | flat => exact exists_changePitch inside coherent every rfl

end Progress

end Draft

/-- **Under bounds in order every pitch of a draft is in reach,** wherever the bounds are. -/
theorem Score.draft_reaches [Time τ] {rules : Rules τ}
    (ordered : rules.lowestOctave.toInt ≤ rules.highestOctave.toInt) {start : τ}
    {commands : List Command} {last : Draft τ} (reached : draft rules start commands = .ok last) :
    last.EveryPitch rules.Reaches := by
  refine draft_induction (motive := fun _ draft => draft.EveryPitch rules.Reaches) ?_ ?_ reached
  · exact ⟨fun _ member => (by cases member), by simp [Draft.start]⟩
  · intro commands command before after reached every advanced
    exact every.advance (draft_coherent reached) rules.reaches_button
      (fun _ found _ _ => Rules.reaches_of_change ordered found) advanced

/-- Nothing overflows under rules inside the numbers, and every pitch stays in reach. -/
theorem Score.exists_draft_reaching [Time τ] {rules : Rules τ} (inside : rules.Inside) (start : τ)
    (commands : List Command) :
    ∃ last, Score.draft rules start commands = .ok last ∧ last.EveryPitch rules.Reaches := by
  induction commands using List.reverseRecOn with
  | nil =>
      have reached : draft rules start [] = .ok (Draft.start start) := rfl
      exact ⟨_, reached, draft_reaches inside.ordered reached⟩
  | append_singleton commands command ih =>
      obtain ⟨middle, reached, every⟩ := ih
      obtain ⟨performed, done⟩ := Draft.exists_perform inside (draft_coherent reached) every command
      have whole := draft_concat_eq_ok.mpr ⟨middle, reached, Draft.advance_of_perform done⟩
      exact ⟨_, whole, draft_reaches inside.ordered whole⟩

/-! ## Moving on to the end of the numbers -/

/-- A change of pitches that uses up the room of a pitch step by step, and without room
overflows. -/
structure Pitch.Exhausts (change : Pitch → Except Overflow Pitch) (operation : Overflow)
    (room : Pitch → Nat) : Prop where
  step : ∀ pitch steps, room pitch = steps + 1 →
    ∃ changed, change pitch = .ok changed ∧ room changed = steps
  full : ∀ pitch, room pitch = 0 → change pitch = .error operation

/-- Raising up to the greatest number goes on to it and then overflows. -/
theorem Pitch.exhausts_raise :
    Exhausts (Pitch.raise Int32.maxValue) .add
      fun pitch => (Int32.maxValue.toInt - pitch.octave.toInt).toNat where
  step pitch steps room := by
    obtain ⟨octave, raised, value⟩ := Pitch.raise_of_lt Int32.maxValue pitch (by omega)
    exact ⟨_, raised, by dsimp only; omega⟩
  full pitch room := by
    have := pitch.octave.toInt_le
    exact Pitch.raise_of_eq _ pitch (by omega)

/-- Lowering down to the least number goes on to it and then overflows. -/
theorem Pitch.exhausts_lower :
    Exhausts (Pitch.lower Int32.minValue) .subtract
      fun pitch => (pitch.octave.toInt - Int32.minValue.toInt).toNat where
  step pitch steps room := by
    obtain ⟨octave, lowered, value⟩ := Pitch.lower_of_lt Int32.minValue pitch (by omega)
    exact ⟨_, lowered, by dsimp only; omega⟩
  full pitch room := by
    have := pitch.octave.minValue_le_toInt
    exact Pitch.lower_of_eq _ pitch (by omega)

section Climbing

variable [Time τ] {rules : Rules τ} {command : Command} {change : Pitch → Except Overflow Pitch}
  {operation : Overflow} {room : Pitch → Nat}

/-- A command that exhausts the last pitch overflows when it is repeated once more than there is
room. -/
theorem Draft.run_replicate_overflow (found : command.pitchChange? rules = some change)
    (exhausts : Pitch.Exhausts change operation room) {draft : Draft τ} {earlier : Array (Note τ)}
    {last : Note τ} {pitch : Pitch} (ends : draft.EndsWith earlier last)
    (pitches : last.pitches = [pitch]) {steps : Nat} (left : room pitch = steps) :
    draft.run rules (List.replicate (steps + 1) command) = .error operation := by
  induction steps generalizing draft last pitch with
  | zero =>
      rw [List.replicate_succ, run_cons, advance_of_pitchChange? found, ends.changePitch,
        Note.changeLast, pitches]
      simp only [List.getLast?_singleton, exhausts.full pitch left]
      rfl
  | succ steps ih =>
      obtain ⟨changed, done, less⟩ := exhausts.step pitch steps left
      rw [List.replicate_succ, run_cons, advance_of_pitchChange? found, ends.changePitch,
        Note.changeLast, pitches]
      simp only [List.getLast?_singleton, done]
      exact ih ⟨rfl, ends.current⟩ rfl less

/-- A single note is followed by as many changes of its pitch as it takes to overflow. -/
theorem Score.exists_compose_overflow (found : command.pitchChange? rules = some change)
    (exhausts : Pitch.Exhausts change operation room) (start : τ) :
    ∃ commands, compose rules start commands = .error operation := by
  refine ⟨.press .d :: List.replicate (room Button.d.pitch + 1) command, ?_⟩
  obtain ⟨single, added, ends⟩ : ∃ single : Draft τ,
      (Draft.start start).advance rules (.press .d) = .ok single ∧
        single.EndsWith #[] ⟨[Button.d.pitch], start, rules.noteLength⟩ :=
    ⟨_, rfl, rfl, rfl⟩
  rw [compose, draft, Draft.run_cons, added]
  have overflows := Draft.run_replicate_overflow found exhausts ends rfl rfl
  simp only [bind, Except.bind] at overflows ⊢
  rw [overflows]

end Climbing

/-! ## When composing overflows -/

/-- **Composing overflows exactly when a bound of the octaves is an end of the numbers.**  The
bounds are in order, as rules without a defect have them, and the limit of sustains is not the
greatest counter.  Otherwise every list of commands leaves a draft, and all of its pitches are
in reach. -/
theorem Score.compose_overflows_iff [Time τ] (rules : Rules τ) (start : τ)
    (ordered : ¬ rules.highestOctave < rules.lowestOctave)
    (countable : rules.sustainLimit.toNat + 1 < UInt32.size) :
    ((∃ commands operation, compose rules start commands = .error operation) ↔
        rules.highestOctave = Int32.maxValue ∨ rules.lowestOctave = Int32.minValue) ∧
      (¬ (rules.highestOctave = Int32.maxValue ∨ rules.lowestOctave = Int32.minValue) →
        ∀ commands, ∃ last, draft rules start commands = .ok last ∧
          compose rules start commands = .ok last.notes ∧
          last.EveryPitch fun pitch =>
            min 4 rules.lowestOctave.toInt ≤ pitch.octave.toInt ∧
              pitch.octave.toInt ≤ max 5 rules.highestOctave.toInt) := by
  have reached : ¬ (rules.highestOctave = Int32.maxValue ∨ rules.lowestOctave = Int32.minValue) →
      ∀ commands, ∃ last, draft rules start commands = .ok last ∧
        compose rules start commands = .ok last.notes ∧ last.EveryPitch rules.Reaches := by
    intro notAtEnd commands
    have inside := Rules.Inside.of_bounds ordered countable notAtEnd
    obtain ⟨last, same, every⟩ := exists_draft_reaching inside start commands
    exact ⟨last, same, compose_eq_ok.mpr ⟨last, same, rfl⟩, every⟩
  refine ⟨⟨?_, ?_⟩, reached⟩
  · rintro ⟨commands, operation, overflows⟩
    refine Decidable.byContradiction fun notAtEnd => ?_
    obtain ⟨last, -, composed, -⟩ := reached notAtEnd commands
    cases overflows.symm.trans composed
  · rintro (highest | lowest)
    · have raises : Command.pitchChange? rules .octaveUp = some (Pitch.raise Int32.maxValue) := by
        rw [Command.pitchChange?, highest]
      obtain ⟨commands, overflows⟩ := exists_compose_overflow raises Pitch.exhausts_raise start
      exact ⟨commands, _, overflows⟩
    · have lowers : Command.pitchChange? rules .octaveDown = some (Pitch.lower Int32.minValue) := by
        rw [Command.pitchChange?, lowest]
      obtain ⟨commands, overflows⟩ := exists_compose_overflow lowers Pitch.exhausts_lower start
      exact ⟨commands, _, overflows⟩

/-- Bounds that do not contain the octaves of the buttons are no harm; a greatest octave that is
the greatest number is. -/
theorem Score.compose_overflows_at_greatest :
    (∀ commands, ∃ notes, compose { Rules.exactDefault with highestOctave := 2, lowestOctave := 2 }
      0 commands = .ok notes) ∧
    ∃ commands operation, compose { Rules.exactDefault with highestOctave := Int32.maxValue } 0
      commands = .error operation := by
  refine ⟨fun commands => ?_, ?_⟩
  · obtain ⟨last, -, composed, -⟩ := (compose_overflows_iff
      { Rules.exactDefault with highestOctave := 2, lowestOctave := 2 } 0 (by decide)
      (by decide)).2 (by decide) commands
    exact ⟨last.notes, composed⟩
  · exact (compose_overflows_iff { Rules.exactDefault with highestOctave := Int32.maxValue } 0
      (by decide) (by decide)).1.mpr (.inl rfl)

end ChatTune
