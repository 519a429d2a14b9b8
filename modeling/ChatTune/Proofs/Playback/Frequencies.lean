import ChatTune.Proofs.Music.Number
import ChatTune.Proofs.Playback.Truncation
import ChatTune.Proofs.Score.Octaves

/-!
# Tunes that sound to their end

A JSON line needs the frequency of every pitch, and most octaves have none.  Commands reach only
octaves between the bounds and those of the buttons, so bounds inside the range of frequencies keep
a tune inside it (`Score.playAll_of_compose`), and the lines of such a tune are all written where
there is room for them.

Composing itself can still stop.  Under such bounds no octave overflows, so only the counter of
sustains does, at its end, and only a limit at that end lets it come there
(`Score.exists_draft_or_exhausted`).
-/

set_option autoImplicit false

namespace ChatTune

/-! ## The counter of sustains -/

namespace Draft

section Counter

variable {τ : Type} [Time τ] {rules : Rules τ} {draft next : Draft τ} {command : Command}

/-- At the end of the counter a sustain overflows. -/
theorem EndsWith.sustain_of_full {earlier : Array (Note τ)} {last : Note τ}
    (ends : draft.EndsWith earlier last) (full : UInt32.size ≤ draft.sustains.toNat + 1) :
    draft.sustain rules = .error .add := by
  simp only [sustain, ends.current, Checked.next, if_neg (Nat.not_lt.mpr full)]
  rfl

/-- A sustain is carried out unless the counter is at its end. -/
theorem Coherent.exists_sustain_or_full (coherent : draft.Coherent rules) :
    (∃ performed, draft.sustain rules = .ok performed) ∨
      draft.sustain rules = .error .add ∧ UInt32.size ≤ draft.sustains.toNat + 1 := by
  rcases coherent.empty_or_endsWith with ⟨-, vacant⟩ | ⟨earlier, last, ends⟩
  · exact .inl ⟨draft, by simp only [sustain, vacant]⟩
  · rcases Nat.lt_or_ge (draft.sustains.toNat + 1) UInt32.size with room | full
    · refine .inl ?_
      rcases UInt32.lt_or_le draft.sustains rules.sustainLimit with below | beyond
      · exact ⟨_, ends.sustain_of_lt below⟩
      · exact ⟨_, ends.sustain_of_le beyond room⟩
    · exact .inr ⟨ends.sustain_of_full full, full⟩

/-- A command is carried out unless it is a sustain and the counter is at its end. -/
theorem Coherent.exists_perform_or_full (coherent : draft.Coherent rules)
    (every : draft.EveryPitch rules.Reaches)
    (ordered : rules.lowestOctave.toInt ≤ rules.highestOctave.toInt)
    (lowest : Int32.minValue.toInt < rules.lowestOctave.toInt)
    (highest : rules.highestOctave.toInt < Int32.maxValue.toInt) (command : Command) :
    (∃ performed, draft.perform rules command = .ok performed) ∨
      command = .sustain ∧ draft.perform rules command = .error .add ∧
        UInt32.size ≤ draft.sustains.toNat + 1 := by
  -- Changing a pitch does not look at the limit, so it may be taken to be any other one.
  have inside : ({ rules with sustainLimit := 0 } : Rules τ).Inside :=
    ⟨ordered, (by decide : (0 : UInt32).toNat + 1 < UInt32.size), lowest, highest⟩
  have changes {command : Command} {change : Pitch → Except Overflow Pitch}
      (found : command.pitchChange? rules = some change) :
      ∃ performed, draft.perform rules command = .ok performed := by
    have same : command.pitchChange? { rules with sustainLimit := 0 } = some change := by
      rw [← found]
      cases command <;> rfl
    rw [perform_of_pitchChange? found]
    exact coherent.exists_changePitch fun note member pitch within =>
      inside.exists_change same (every.notes note member pitch within)
  cases command with
  | chordStart | chordEnd | press _ | pause | shorten | ignored _ => exact .inl ⟨_, rfl⟩
  | sustain =>
      rcases coherent.exists_sustain_or_full with done | full
      · exact .inl done
      · exact .inr ⟨rfl, full⟩
  | octaveUp | octaveDown | sharp | flat => exact .inl (changes rfl)

/-- The first phase counts a sustain and nothing else. -/
theorem Performs.sustains_le {performed : Draft τ}
    (performs : draft.Performs rules command performed) :
    performed.sustains.toNat ≤ draft.sustains.toNat + [command].count .sustain := by
  cases performs with
  | opens | closes | collects | drops | ignores | misses | shortens | alters =>
      exact Nat.le_add_right _ _
  | lengthens ends below =>
      exact Nat.le_of_eq (Checked.toNat_succ_of_lt below)
  | rewinds => exact Nat.zero_le _

/-- A note that is added starts the counter again. -/
theorem sustains_settle_le (rules : Rules τ) (performed : Draft τ) (asked : Bool) :
    (performed.settle rules asked).sustains.toNat ≤ performed.sustains.toNat := by
  rcases settle_cases rules performed asked with ⟨-, same⟩ | ⟨-, added⟩
  · rw [same]
  · rw [added]
    exact Nat.zero_le _

theorem sustains_advance_le (coherent : draft.Coherent rules)
    (advanced : draft.advance rules command = .ok next) :
    next.sustains.toNat ≤ draft.sustains.toNat + [command].count .sustain := by
  obtain ⟨performed, performs, rfl⟩ := advance_cases coherent advanced
  exact (sustains_settle_le rules performed _).trans performs.sustains_le

end Counter

end Draft

namespace Score

variable {τ : Type} [Time τ] {rules : Rules τ} {start : τ} {commands : List Command}

/-- Every sustain that was counted was asked for. -/
theorem sustains_le_count {last : Draft τ} (reached : draft rules start commands = .ok last) :
    last.sustains.toNat ≤ commands.count .sustain := by
  refine draft_induction (motive := fun commands draft =>
    draft.sustains.toNat ≤ commands.count .sustain) (Nat.le_refl 0) ?_ reached
  intro commands command before after earlier counted advanced
  rw [List.count_append]
  exact (Draft.sustains_advance_le (draft_coherent earlier) advanced).trans
    (Nat.add_le_add_right counted _)

/-- The last command of a list is carried out on what the others leave. -/
theorem draft_concat (rules : Rules τ) (start : τ) (commands : List Command) (command : Command) :
    draft rules start (commands ++ [command]) =
      draft rules start commands >>= fun middle => middle.advance rules command := by
  simp only [draft, Draft.run, List.foldlM_append, List.foldlM_cons, List.foldlM_nil, bind_pure]

/-- **Only counting can stop the composing** under bounds that are not the ends of the numbers, and
then the limit is the end of the counter and as many sustains were asked for. -/
theorem exists_draft_or_exhausted (ordered : rules.lowestOctave.toInt ≤ rules.highestOctave.toInt)
    (lowest : Int32.minValue.toInt < rules.lowestOctave.toInt)
    (highest : rules.highestOctave.toInt < Int32.maxValue.toInt) (start : τ)
    (commands : List Command) :
    (∃ last, draft rules start commands = .ok last) ∨
      draft rules start commands = .error .add ∧ UInt32.size ≤ rules.sustainLimit.toNat + 1 ∧
        UInt32.size ≤ commands.count .sustain := by
  induction commands using List.reverseRecOn with
  | nil => exact .inl ⟨_, rfl⟩
  | append_singleton commands command ih =>
      rw [List.count_append]
      rcases ih with ⟨middle, reached⟩ | ⟨stopped, greatest, counted⟩
      · have coherent := draft_coherent reached
        rcases coherent.exists_perform_or_full (draft_reaches ordered reached) ordered lowest
          highest command with ⟨performed, done⟩ | ⟨rfl, overflows, full⟩
        · exact .inl ⟨_, draft_concat_eq_ok.mpr ⟨middle, reached, Draft.advance_of_perform done⟩⟩
        · have atLimit := UInt32.le_iff_toNat_le.mp coherent.sustains
          have counted := sustains_le_count reached
          refine .inr ⟨?_, by omega, ?_⟩
          · rw [draft_concat, reached]
            simp only [bind, Except.bind, Draft.advance, overflows]
          · rw [List.count_singleton_self]
            omega
      · exact .inr ⟨by rw [draft_concat, stopped]; rfl, greatest, Nat.le_add_right_of_le counted⟩

/-! ## Tunes within the range of frequencies -/

/-- **Under bounds within the range of frequencies a tune is played to its end** where there is
room for it. -/
theorem playAll_of_compose {rules : Rules Float} {start : Float} {commands : List Command}
    (ordered : rules.lowestOctave.toInt ≤ rules.highestOctave.toInt)
    (lowest : -178956966 ≤ rules.lowestOctave.toInt)
    (highest : rules.highestOctave.toInt ≤ 178956968) {notes : Array (Note Float)}
    (composed : compose rules start commands = .ok notes) {outlet : Outlet}
    (json : outlet.form = .json) (unlimited : outlet.stream.room = none) :
    (outlet.playAll notes.toList).result = .ok () := by
  obtain ⟨last, reached, rfl⟩ := compose_eq_ok.mp composed
  have every := draft_reaches ordered reached
  have sounds : ∀ note ∈ last.notes.toList, Playback.Sounds outlet.form note := by
    intro note member _ pitch within
    obtain ⟨least, most⟩ := every.notes note (Array.mem_toList_iff.mp member) pitch within
    exact (Pitch.exists_frequency_iff pitch).mpr (.inl ⟨by omega, by omega⟩)
  have loud : outlet.form ≠ .silent := by rw [json]; decide
  exact (Outlet.playAll_writes loud sounds).good.mpr (Stream.fits_of_unlimited unlimited _)

/-- A list has notes unless the counter of sustains stopped it. -/
theorem exists_compose_or_exhausted
    (ordered : rules.lowestOctave.toInt ≤ rules.highestOctave.toInt)
    (lowest : Int32.minValue.toInt < rules.lowestOctave.toInt)
    (highest : rules.highestOctave.toInt < Int32.maxValue.toInt) (start : τ)
    (commands : List Command) :
    (∃ notes, compose rules start commands = .ok notes) ∨
      compose rules start commands = .error .add ∧
        UInt32.size ≤ rules.sustainLimit.toNat + 1 ∧ UInt32.size ≤ commands.count .sustain := by
  rcases exists_draft_or_exhausted ordered lowest highest start commands with
    ⟨last, reached⟩ | ⟨stopped, exhausted⟩
  · exact .inl ⟨last.notes, compose_eq_ok.mpr ⟨last, reached, rfl⟩⟩
  · exact .inr ⟨by rw [compose, stopped]; rfl, exhausted⟩

end Score

/-- **Which pitches have a number and a frequency, and which tunes sound.**  The octaves that have a
number are these, and the last one has it for the low letters only; the number is the exact one, and
a frequency is missing in five octaves more.  So a tune under rules without a defect whose bounds
lie within the range of frequencies is played to its end on any unlimited JSON outlet, and a list of
commands has a tune unless its sustains come to the end of their counter. -/
theorem Playback.tunes_within_frequencies :
    (∀ pitch : Pitch,
      ((∃ number, pitch.number = .ok number) ↔
        -178956971 ≤ pitch.octave.toInt ∧ pitch.octave.toInt ≤ 178956968 ∨
          pitch.octave.toInt = 178956969 ∧ (pitch.letter = .d ∨ pitch.letter = .f)) ∧
      (∀ number, pitch.number = .ok number →
        number.toInt = 12 * (pitch.octave.toInt + 1) + pitch.letter.semitone.toInt +
          pitch.sharp.toNat - pitch.flat.toNat) ∧
      ((∃ frequency, pitch.frequency = .ok frequency) ↔
        -178956966 ≤ pitch.octave.toInt ∧ pitch.octave.toInt ≤ 178956968 ∨
          pitch.octave.toInt = 178956969 ∧ (pitch.letter = .d ∨ pitch.letter = .f))) ∧
    ∀ (rules : Rules Float) (start : Float) (commands : List Command),
      rules.defect? = none → -178956966 ≤ rules.lowestOctave.toInt →
      rules.highestOctave.toInt ≤ 178956968 →
        (∀ notes, Score.compose rules start commands = .ok notes →
          ∀ outlet : Outlet, outlet.form = .json → outlet.stream.room = none →
            (outlet.playAll notes.toList).result = .ok ()) ∧
        ((∃ notes, Score.compose rules start commands = .ok notes) ∨
          Score.compose rules start commands = .error .add ∧
            UInt32.size ≤ rules.sustainLimit.toNat + 1 ∧
              UInt32.size ≤ commands.count .sustain) := by
  refine ⟨fun pitch => ⟨pitch.exists_number_iff, fun number => Pitch.toInt_number,
    pitch.exists_frequency_iff⟩, fun rules start commands sound lowest highest => ?_⟩
  obtain ⟨-, -, -, notBelow⟩ := rules.defect?_eq_none_iff.mp sound
  have ordered := Int32.le_iff_toInt_le.mp (Int32.not_lt.mp notBelow)
  refine ⟨fun notes composed outlet json unlimited =>
    Score.playAll_of_compose ordered lowest highest composed json unlimited, ?_⟩
  exact Score.exists_compose_or_exhausted ordered
    (by rw [Int32.toInt_minValue]; omega) (by rw [Int32.toInt_maxValue]; omega) start commands

/-- The default rules with the widest bounds that are still in the range, and a tune that raises its
pitch. -/
theorem Playback.tunes_within_widest_octaves :
    let rules := { Rules.default with highestOctave := 178956968, lowestOctave := -178956966 }
    rules.defect? = none ∧
      ∃ notes, Score.compose rules 0 [.press .a, .octaveUp] = .ok notes ∧
        ((Outlet.opening .json .unlimited).playAll notes.toList).result = .ok () := by
  refine ⟨by decide +kernel, ?_⟩
  obtain ⟨plays, ⟨notes, composed⟩ | ⟨-, greatest, -⟩⟩ := tunes_within_frequencies.2
    { Rules.default with highestOctave := 178956968, lowestOctave := -178956966 } 0
    [.press .a, .octaveUp] (by decide +kernel) (by decide) (by decide)
  · exact ⟨notes, composed, plays notes composed _ rfl rfl⟩
  · exact absurd greatest (by decide)

end ChatTune
