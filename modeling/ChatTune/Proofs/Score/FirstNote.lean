import ChatTune.Proofs.Score.Clock

/-!
# Before the first note

Modifiers act on the current note, so without one they do nothing (`Draft.advance_of_modifies`).
The other commands open and close chords and collect pitches, and none of them can fail before
there is a note (`Draft.exists_advance_of_none`).  So the clock still stands at the start when the
first note is added, however late that is, and modifiers before it can be left out
(`Score.nothing_acts_before_first_note`).
-/

set_option autoImplicit false

namespace ChatTune

variable {τ : Type} [Time τ] {rules : Rules τ}

namespace Draft

variable {draft performed next : Draft τ} {command : Command}

/-! ## Drafts without notes -/

/-- Without a current note a modifier finds nothing to change. -/
theorem perform_of_modifies (modifies : command.modifies = true) (vacant : draft.current = none) :
    draft.perform rules command = .ok draft := by
  cases command <;> cases modifies
  case sustain => simp only [perform, sustain, vacant]
  case shorten => simp only [perform, shorten, vacant]
  all_goals exact changePitch_of_none vacant _

omit [Time τ] in
/-- Without a current note a modifier asks for none. -/
theorem asksForNote_of_modifies (modifies : command.modifies = true)
    (vacant : draft.current = none) : draft.asksForNote rules command = false := by
  cases command <;> cases modifies
  case sustain => simp only [asksForNote, reattacks, vacant, Option.isSome_none, Bool.false_and]
  all_goals rfl

/-- **Without a current note a modifier does nothing.** -/
theorem advance_of_modifies (modifies : command.modifies = true) (vacant : draft.current = none) :
    draft.advance rules command = .ok draft := by
  rw [advance_of_perform (perform_of_modifies modifies vacant),
    asksForNote_of_modifies modifies vacant, settle_false]

/-- Without a current note every command is carried out. -/
theorem exists_advance_of_none (rules : Rules τ) (vacant : draft.current = none)
    (command : Command) : ∃ next, draft.advance rules command = .ok next := by
  cases command with
  | chordStart | chordEnd | press _ | pause | ignored _ => exact ⟨_, rfl⟩
  | sustain | shorten | octaveUp | octaveDown | sharp | flat =>
      exact ⟨draft, advance_of_modifies rfl vacant⟩

/-- Without a current note the first phase of a command leaves the clock as it is. -/
theorem Performs.clock_of_none (performs : draft.Performs rules command performed)
    (vacant : draft.current = none) : performed.clock = draft.clock := by
  cases performs with
  | opens | closes | collects | drops | ignores | misses => rfl
  | lengthens ends | rewinds ends | shortens ends | alters ends =>
      cases vacant.symm.trans ends.current

omit [Time τ] in
/-- Without notes there is no current one. -/
theorem Coherent.none_of_empty (coherent : draft.Coherent rules) (empty : draft.notes = #[]) :
    draft.current = none := by
  rw [coherent.current, empty, lastPlace_empty]

/-- Notes are never taken away, so there were none before a run that leaves none. -/
theorem Coherent.empty_of_run (coherent : draft.Coherent rules) {commands : List Command}
    (ran : draft.run rules commands = .ok next) (empty : next.notes = #[]) :
    draft.notes = #[] := by
  have shorter := (run_continues coherent ran).2.size_le
  rw [empty] at shorter
  exact Array.eq_empty_of_size_eq_zero (Nat.le_zero.mp shorter)

/-- A command that leaves no note leaves the clock as it is, and there was none before it. -/
theorem Coherent.clock_of_advance (coherent : draft.Coherent rules)
    (advanced : draft.advance rules command = .ok next) (empty : next.notes = #[]) :
    draft.notes = #[] ∧ next.clock = draft.clock := by
  have ran : draft.run rules [command] = .ok next := run_cons_eq_ok.mpr ⟨next, advanced, rfl⟩
  have before := coherent.empty_of_run ran empty
  refine ⟨before, ?_⟩
  obtain ⟨performed, performs, rfl⟩ := advance_cases coherent advanced
  rcases settle_cases rules performed (draft.asksForNote rules command) with ⟨-, same⟩ | ⟨-, added⟩
  · rw [same]
    exact performs.clock_of_none (coherent.none_of_empty before)
  · rw [added] at empty
    exact absurd empty Array.push_ne_empty

/-- **A run that adds no note is a run of its commands without the modifiers.** -/
theorem run_filter_of_empty (coherent : draft.Coherent rules) {commands : List Command}
    (ran : draft.run rules commands = .ok next) (empty : next.notes = #[]) :
    draft.run rules (commands.filter fun command => !command.modifies) = .ok next := by
  induction commands generalizing draft with
  | nil => exact ran
  | cons command commands ih =>
      obtain ⟨middle, advanced, rest⟩ := run_cons_eq_ok.mp ran
      have coherentMiddle := coherent.advance advanced
      have others := ih coherentMiddle rest
      cases modifies : command.modifies with
      | true =>
          have vacant := coherent.none_of_empty (coherent.empty_of_run ran empty)
          cases (advance_of_modifies modifies vacant).symm.trans advanced
          rw [List.filter_cons_of_neg (by rw [modifies]; decide)]
          exact others
      | false =>
          rw [List.filter_cons_of_pos (by rw [modifies]; decide)]
          exact run_cons_eq_ok.mpr ⟨middle, advanced, others⟩

end Draft

/-! ## Up to the first note -/

namespace Score

variable {start : τ} {commands : List Command}

/-- As long as there is no note the clock stands at the start. -/
theorem clock_of_empty {last : Draft τ} (reached : draft rules start commands = .ok last)
    (empty : last.notes = #[]) : last.clock = start := by
  revert empty
  refine draft_induction (motive := fun _ last => last.notes = #[] → last.clock = start)
    (fun _ => rfl) ?_ reached
  intro commands command before after reached ih advanced empty
  obtain ⟨noNotes, same⟩ := (draft_coherent reached).clock_of_advance advanced empty
  rw [same, ih noNotes]

/-- **The first note attacks at the start,** whatever comes before and after it. -/
theorem AddsNote.attack_of_first {front rest : List Command} {command : Command}
    (adds : AddsNote rules start front command 0) {last : Draft τ}
    (reached : draft rules start (front ++ command :: rest) = .ok last) {note : Note τ}
    (found : last.notes[0]? = some note) : note.attack = start := by
  obtain ⟨before, after, reachedBefore, advanced, noNote, one⟩ := adds
  have coherent := draft_coherent reachedBefore
  have empty : before.notes = #[] := Array.eq_empty_of_size_eq_zero noNote
  obtain ⟨performed, performs, -, rfl⟩ := Draft.advance_adds coherent advanced (by omega)
  rw [List.append_cons] at reached
  obtain ⟨-, continues⟩ :=
    draft_append_continues (draft_concat_eq_ok.mpr ⟨before, reachedBefore, advanced⟩) reached
  have place : performed.notes.size = 0 := performs.continues.1.trans noNote
  rw [(performed.addNote_endsWith rules).notes] at continues
  obtain ⟨changed, same, retouched⟩ :=
    continues.retouched performed.notes.size _ Array.getElem?_push_size
  rw [place] at same
  cases found.symm.trans same
  calc note.attack = performed.clock := retouched.attack
    _ = before.clock := performs.clock_of_none (coherent.none_of_empty empty)
    _ = start := clock_of_empty reachedBefore empty

/-- A list of commands leaves no note, or one of them adds the first. -/
theorem exists_front_without_notes (rules : Rules τ) (start : τ) (commands : List Command) :
    ∃ front back, commands = front ++ back ∧ compose rules start front = .ok #[] ∧
      (back = [] ∨ ∃ command rest, back = command :: rest ∧
        AddsNote rules start front command 0) := by
  induction commands using List.reverseRecOn with
  | nil => exact ⟨[], [], rfl, rfl, .inl rfl⟩
  | append_singleton commands command ih =>
      obtain ⟨front, back, rfl, composed, whole | ⟨adding, rest, rfl, adds⟩⟩ := ih
      · subst whole
        rw [List.append_nil]
        obtain ⟨before, reached, empty⟩ := compose_eq_ok.mp composed
        have coherent := draft_coherent reached
        obtain ⟨after, advanced⟩ :=
          Draft.exists_advance_of_none rules (coherent.none_of_empty empty) command
        obtain ⟨oneMore, -⟩ := Draft.advance_continues coherent advanced
        rw [empty, Array.size_empty] at oneMore
        rcases Nat.le_one_iff_eq_zero_or_eq_one.mp oneMore with still | one
        · refine ⟨front ++ [command], [], (List.append_nil _).symm,
            compose_eq_ok.mpr ⟨after, ?_, ?_⟩, .inl rfl⟩
          · exact draft_concat_eq_ok.mpr ⟨before, reached, advanced⟩
          · exact Array.eq_empty_of_size_eq_zero still
        · exact ⟨front, [command], rfl, composed,
            .inr ⟨command, [], rfl, before, after, reached, advanced, by rw [empty]; rfl, one⟩⟩
      · exact ⟨front, adding :: rest ++ [command], List.append_assoc _ _ _, composed,
          .inr ⟨adding, rest ++ [command], rfl, adds⟩⟩

/-- **Nothing acts before the first note.**  The first note attacks exactly at the start.  Every
list of commands begins with a front that leaves no note, behind which there is nothing or the
command that adds the first note; and without the modifiers of a front that leaves no note, open
chords included, everything is composed as with them. -/
theorem nothing_acts_before_first_note (rules : Rules τ) (start : τ) (commands : List Command) :
    (∀ notes first, compose rules start commands = .ok notes → notes[0]? = some first →
      first.attack = start) ∧
    (∃ front back, commands = front ++ back ∧ compose rules start front = .ok #[] ∧
      (back = [] ∨ ∃ command rest, back = command :: rest ∧
        AddsNote rules start front command 0)) ∧
    ∀ front back, commands = front ++ back → compose rules start front = .ok #[] →
      compose rules start (front.filter (fun command => !command.modifies) ++ back) =
        compose rules start commands := by
  refine ⟨?_, exists_front_without_notes rules start commands, ?_⟩
  · intro notes first composed found
    obtain ⟨last, reached, rfl⟩ := compose_eq_ok.mp composed
    obtain ⟨front, command, rest, rfl, adds⟩ :=
      exists_addsNote reached (Array.getElem?_eq_some_iff.mp found).1
    exact adds.attack_of_first reached found
  · rintro front back rfl composed
    obtain ⟨middle, reached, empty⟩ := compose_eq_ok.mp composed
    have same : draft rules start (front.filter fun command => !command.modifies) =
        draft rules start front :=
      (Draft.run_filter_of_empty (.start rules start) reached empty).trans reached.symm
    rw [draft, draft] at same
    rw [compose, compose, draft, draft, Draft.run_append, Draft.run_append, same]

/-- Modifiers before a chord and within it are left out; the first note attacks at a start that is
no number. -/
theorem first_note_at_no_number :
    let nowhere : Float := 0 / 0
    let front : List Command := [.sustain, .chordStart, .press .d, .shorten, .pause, .octaveUp,
      .chordStart, .press .highD, .sharp]
    let back : List Command := [.chordEnd, .flat, .shorten]
    compose .default nowhere front = .ok #[] ∧
      compose .default nowhere
          ([.chordStart, .press .d, .pause, .chordStart, .press .highD] ++ back) =
        compose .default nowhere (front ++ back) ∧
      ∃ first, compose .default nowhere (front ++ back) = .ok #[first] ∧
        first.attack = nowhere := by
  intro nowhere front back
  have empty : compose .default nowhere front = .ok #[] := by decide +kernel
  have composed : compose .default nowhere (front ++ back) =
      .ok #[⟨[⟨.d, 5, false, true⟩], nowhere, 0.3 - 0.08⟩] := by
    decide +kernel
  obtain ⟨attack, -, leftOut⟩ := nothing_acts_before_first_note .default nowhere (front ++ back)
  exact ⟨empty, leftOut front back rfl empty, _, composed, attack _ _ composed rfl⟩

end Score

end ChatTune
