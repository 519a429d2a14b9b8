import ChatTune.Score.Draft

/-!
# What one command does to a draft

The place of the current note and the count of its sustains are kept beside the notes.  In
every draft that composing reaches they are coherent with them: the current note is the last
one, and it was not sustained beyond the limit (`Draft.Coherent`).  So a modifier finds its
note at the end of the notes, or there are no notes at all.

`Draft.Performs` lists what the first phase of a command can leave behind, one constructor for
each kind of effect.  The four commands that change a pitch are one kind, with the change as
their difference (`Command.pitchChange?`).  A command that is carried out on a coherent draft
performs one of these effects and then settles (`Draft.advance_cases`), and the draft that it
leaves is coherent again (`Draft.Coherent.advance`).
-/

set_option autoImplicit false

namespace ChatTune

/-- A counter below another one has a next value. -/
theorem Checked.toNat_succ_of_lt {count limit : UInt32} (below : count < limit) :
    (count + 1).toNat = count.toNat + 1 := by
  have := UInt32.lt_iff_toNat_lt.mp below
  have := limit.toNat_lt_size
  rw [UInt32.toNat_add, UInt32.toNat_one]
  exact Nat.mod_eq_of_lt (by simp only [UInt32.size] at *; omega)

variable {τ : Type}

/-! ## Commands for the current note -/

namespace Command

/-- What a command does to the last pitch of the current note, if it is a command for that
pitch. -/
def pitchChange? (rules : Rules τ) : Command → Option (Pitch → Except Overflow Pitch)
  | .octaveUp => some (Pitch.raise rules.highestOctave)
  | .octaveDown => some (Pitch.lower rules.lowestOctave)
  | .sharp => some fun pitch => .ok pitch.sharpened
  | .flat => some fun pitch => .ok pitch.flattened
  | _ => none

/-- Whether a command changes the current note and does nothing without one. -/
def modifies : Command → Bool
  | .sustain | .shorten | .octaveUp | .octaveDown | .sharp | .flat => true
  | _ => false

theorem modifies_of_pitchChange? {rules : Rules τ} {command : Command}
    {change : Pitch → Except Overflow Pitch} (found : command.pitchChange? rules = some change) :
    command.modifies = true := by
  cases command <;> cases found <;> rfl

end Command

/-- The same note with its last pitch changed; a note without pitches stays as it is. -/
def Note.changeLast (change : Pitch → Except Overflow Pitch) (note : Note τ) :
    Except Overflow (Note τ) :=
  match note.pitches.getLast? with
  | none => .ok note
  | some pitch => do
    let changed ← change pitch
    return { note with pitches := note.pitches.dropLast ++ [changed] }

/-- A changed note has the old pitches up to a last one, and the change of that one. -/
theorem Note.changeLast_cases {change : Pitch → Except Overflow Pitch} {note changed : Note τ}
    (done : note.changeLast change = .ok changed) :
    (note.pitches = [] ∧ changed = note) ∨
      ∃ front before after, note.pitches = front ++ [before] ∧ change before = .ok after ∧
        changed = { note with pitches := front ++ [after] } := by
  cases found : note.pitches.getLast? with
  | none =>
      simp only [Note.changeLast, found, Except.ok.injEq] at done
      exact .inl ⟨List.getLast?_eq_none_iff.mp found, done.symm⟩
  | some before =>
      simp only [Note.changeLast, found, bind_eq_ok] at done
      obtain ⟨front, same⟩ := List.getLast?_eq_some_iff.mp found
      obtain ⟨after, changes, changed⟩ := done
      rw [same, List.dropLast_concat] at changed
      exact .inr ⟨front, before, after, same, changes, (Except.ok.inj changed).symm⟩

namespace Draft

/-! ## The current note -/

/-- The notes of a draft end with its current note. -/
structure EndsWith (draft : Draft τ) (earlier : Array (Note τ)) (last : Note τ) : Prop where
  notes : draft.notes = earlier.push last
  current : draft.current = some earlier.size

/-- The place of the last note, if there is one. -/
def lastPlace (notes : Array (Note τ)) : Option Nat :=
  if notes.isEmpty then none else some (notes.size - 1)

@[simp]
theorem lastPlace_empty : lastPlace (#[] : Array (Note τ)) = none := rfl

@[simp]
theorem lastPlace_push (earlier : Array (Note τ)) (last : Note τ) :
    lastPlace (earlier.push last) = some earlier.size := by
  simp [lastPlace]

/-- **A coherent draft:** its current note is its last one, and that note was not sustained
beyond the limit. -/
structure Coherent (rules : Rules τ) (draft : Draft τ) : Prop where
  current : draft.current = lastPlace draft.notes
  sustains : draft.sustains ≤ rules.sustainLimit

/-- The draft that begins empty is coherent. -/
theorem Coherent.start (rules : Rules τ) (clock : τ) : (start clock).Coherent rules where
  current := rfl
  sustains := UInt32.zero_le

/-- A coherent draft has no notes, or its notes end with the current one. -/
theorem Coherent.empty_or_endsWith {rules : Rules τ} {draft : Draft τ}
    (coherent : draft.Coherent rules) :
    (draft.notes = #[] ∧ draft.current = none) ∨ ∃ earlier last, draft.EndsWith earlier last := by
  have current := coherent.current
  by_cases noNotes : draft.notes = #[]
  · rw [noNotes, lastPlace_empty] at current
    exact .inl ⟨noNotes, current⟩
  · obtain ⟨earlier, last, notes⟩ := Array.exists_push_of_ne_empty noNotes
    rw [notes, lastPlace_push] at current
    exact .inr ⟨earlier, last, notes, current⟩

/-- Without a current note a coherent draft has no notes. -/
theorem Coherent.notes_of_none {rules : Rules τ} {draft : Draft τ}
    (coherent : draft.Coherent rules) (vacant : draft.current = none) : draft.notes = #[] := by
  rcases coherent.empty_or_endsWith with ⟨noNotes, -⟩ | ⟨earlier, last, ends⟩
  · exact noNotes
  · cases vacant.symm.trans ends.current

/-! ## Modifiers of the current note -/

theorem setIfInBounds_push_size {α : Type} (earlier : Array α) (last changed : α) :
    (earlier.push last).setIfInBounds earlier.size changed = earlier.push changed := by
  ext place _ _ <;> grind

theorem modify_push_size {α : Type} (earlier : Array α) (last : α) (change : α → α) :
    (earlier.push last).modify earlier.size change = earlier.push (change last) := by
  ext place _ _ <;> grind

theorem asksForNote_of_pitchChange? {rules : Rules τ} {command : Command}
    {change : Pitch → Except Overflow Pitch} (found : command.pitchChange? rules = some change)
    (draft : Draft τ) : draft.asksForNote rules command = false := by
  cases command <;> cases found <;> rfl

theorem changePitch_of_none {draft : Draft τ} (vacant : draft.current = none)
    (change : Pitch → Except Overflow Pitch) : draft.changePitch change = .ok draft := by
  simp only [changePitch, vacant]

namespace EndsWith

variable {draft : Draft τ} {earlier : Array (Note τ)} {last : Note τ}

theorem same (ends : draft.EndsWith earlier last) :
    { draft with notes := earlier.push last } = draft := by
  rw [← ends.notes]

theorem currentPitches (ends : draft.EndsWith earlier last) :
    draft.currentPitches = last.pitches := by
  simp only [Draft.currentPitches, ends.current, ends.notes, Option.bind_some,
    Array.getElem?_push_size]

/-- A change of a pitch is a change of the last note. -/
theorem changePitch (ends : draft.EndsWith earlier last)
    (change : Pitch → Except Overflow Pitch) :
    draft.changePitch change =
      (last.changeLast change).map fun changed => { draft with notes := earlier.push changed } := by
  simp only [Draft.changePitch, Note.changeLast, ends.current, ends.notes,
    Array.getElem?_push_size, setIfInBounds_push_size]
  cases last.pitches.getLast? with
  | none => simp only [Except.map, ← ends.current, ends.same]
  | some pitch =>
      dsimp only
      cases change pitch with
      | error operation => rfl
      | ok changed => rfl

theorem reattacks_eq (ends : draft.EndsWith earlier last) (rules : Rules τ) :
    draft.reattacks rules = decide (rules.sustainLimit ≤ draft.sustains) := by
  simp only [Draft.reattacks, ends.current, Option.isSome_some, Bool.true_and]

variable [Time τ] {rules : Rules τ}

theorem shorten (ends : draft.EndsWith earlier last) :
    draft.shorten rules = { draft with
      notes := earlier.push (last.shorten (stepFor rules last.duration))
      clock := draft.clock - stepFor rules last.duration } := by
  simp only [Draft.shorten, ends.current, ends.notes, Array.getElem?_push_size,
    setIfInBounds_push_size]

/-- Up to the limit, a sustain lengthens the last note and the clock alike. -/
theorem sustain_of_lt (ends : draft.EndsWith earlier last)
    (below : draft.sustains < rules.sustainLimit) :
    draft.sustain rules = .ok { draft with
      notes := earlier.push (last.lengthen rules.noteLength)
      sustains := draft.sustains + 1
      clock := draft.clock + rules.noteLength } := by
  have fits : draft.sustains.toNat + 1 < UInt32.size := by
    have := UInt32.lt_iff_toNat_lt.mp below
    have := rules.sustainLimit.toNat_lt_size
    omega
  have stays : ¬ rules.sustainLimit ≤ draft.sustains := UInt32.not_le.mpr below
  simp only [Draft.sustain, Checked.next, fits, if_true, ends.reattacks_eq, stays, decide_false,
    Bool.false_eq_true, if_false, ends.current, ends.notes, modify_push_size]
  rfl

/-- Beyond the limit, the last note is lengthened all the same and attacks again. -/
theorem sustain_of_le (ends : draft.EndsWith earlier last)
    (beyond : rules.sustainLimit ≤ draft.sustains)
    (fits : draft.sustains.toNat + 1 < UInt32.size) :
    draft.sustain rules = .ok { draft with
      notes := earlier.push (last.lengthen rules.noteLength)
      pending := last.pitches
      sustains := 0
      clock :=
        draft.clock + rules.noteLength - Time.times rules.rewindUnits rules.noteLength } := by
  simp only [Draft.sustain, Checked.next, fits, if_true, ends.reattacks_eq, beyond, decide_true,
    ends.currentPitches, ends.current, ends.notes, modify_push_size]
  rfl

/-- A sustain that is carried out had room in its counter. -/
theorem fits_of_sustain (ends : draft.EndsWith earlier last) {next : Draft τ}
    (done : draft.sustain rules = .ok next) : draft.sustains.toNat + 1 < UInt32.size := by
  simp only [Draft.sustain, ends.current, bind_eq_ok] at done
  obtain ⟨count, counted, -⟩ := done
  refine Decidable.byContradiction fun full => ?_
  simp only [Checked.next, if_neg full, reduceCtorEq] at counted

end EndsWith

/-! ## The first phase -/

section Performing

variable [Time τ]

/-- **What the first phase of a command leaves behind.** -/
inductive Performs (rules : Rules τ) (draft : Draft τ) : Command → Draft τ → Prop where
  | opens : Performs rules draft .chordStart { draft with chordOpen := true }
  | closes : Performs rules draft .chordEnd { draft with chordOpen := false }
  | collects (button : Button) :
      Performs rules draft (.press button)
        { draft with pending := draft.pending ++ [button.pitch] }
  | drops : Performs rules draft .pause { draft with pending := [] }
  | ignores (symbol : Char) : Performs rules draft (.ignored symbol) draft
  /-- A modifier finds no note. -/
  | misses {command : Command} (modifies : command.modifies = true)
      (vacant : draft.current = none) : Performs rules draft command draft
  | lengthens {earlier : Array (Note τ)} {last : Note τ} (ends : draft.EndsWith earlier last)
      (below : draft.sustains < rules.sustainLimit) :
      Performs rules draft .sustain { draft with
        notes := earlier.push (last.lengthen rules.noteLength)
        sustains := draft.sustains + 1
        clock := draft.clock + rules.noteLength }
  | rewinds {earlier : Array (Note τ)} {last : Note τ} (ends : draft.EndsWith earlier last)
      (beyond : rules.sustainLimit ≤ draft.sustains) :
      Performs rules draft .sustain { draft with
        notes := earlier.push (last.lengthen rules.noteLength)
        pending := last.pitches
        sustains := 0
        clock := draft.clock + rules.noteLength - Time.times rules.rewindUnits rules.noteLength }
  | shortens {earlier : Array (Note τ)} {last : Note τ} (ends : draft.EndsWith earlier last) :
      Performs rules draft .shorten { draft with
        notes := earlier.push (last.shorten (stepFor rules last.duration))
        clock := draft.clock - stepFor rules last.duration }
  /-- A command for pitches changes the last pitch of the last note. -/
  | alters {command : Command} {change : Pitch → Except Overflow Pitch}
      {earlier : Array (Note τ)} {last changed : Note τ} (ends : draft.EndsWith earlier last)
      (found : command.pitchChange? rules = some change)
      (done : last.changeLast change = .ok changed) :
      Performs rules draft command { draft with notes := earlier.push changed }

variable {rules : Rules τ} {draft performed next : Draft τ} {command : Command}

theorem perform_of_pitchChange? {change : Pitch → Except Overflow Pitch}
    (found : command.pitchChange? rules = some change) (draft : Draft τ) :
    draft.perform rules command = draft.changePitch change := by
  cases command <;> cases found <;> rfl

theorem Performs.of_changePitch (coherent : draft.Coherent rules)
    {change : Pitch → Except Overflow Pitch} (found : command.pitchChange? rules = some change)
    (done : draft.changePitch change = .ok performed) :
    draft.Performs rules command performed := by
  rcases coherent.empty_or_endsWith with ⟨-, vacant⟩ | ⟨earlier, last, ends⟩
  · rw [changePitch_of_none vacant] at done
    cases done
    exact .misses (Command.modifies_of_pitchChange? found) vacant
  · rw [ends.changePitch] at done
    cases changes : last.changeLast change with
    | error operation =>
        rw [changes] at done
        cases done
    | ok changed =>
        rw [changes] at done
        cases done
        exact .alters ends found changes

/-- **Every command that is carried out has one of the listed effects.** -/
theorem Performs.of_perform (coherent : draft.Coherent rules)
    (done : draft.perform rules command = .ok performed) :
    draft.Performs rules command performed := by
  cases command with
  | chordStart =>
      cases done
      exact .opens
  | chordEnd =>
      cases done
      exact .closes
  | press button =>
      cases done
      exact .collects button
  | pause =>
      cases done
      exact .drops
  | ignored symbol =>
      cases done
      exact .ignores symbol
  | sustain =>
      simp only [perform] at done
      rcases coherent.empty_or_endsWith with ⟨-, vacant⟩ | ⟨earlier, last, ends⟩
      · simp only [sustain, vacant] at done
        cases done
        exact .misses rfl vacant
      · rcases UInt32.lt_or_le draft.sustains rules.sustainLimit with below | beyond
        · rw [ends.sustain_of_lt below] at done
          cases done
          exact .lengthens ends below
        · rw [ends.sustain_of_le beyond (ends.fits_of_sustain done)] at done
          cases done
          exact .rewinds ends beyond
  | shorten =>
      simp only [perform] at done
      rcases coherent.empty_or_endsWith with ⟨-, vacant⟩ | ⟨earlier, last, ends⟩
      · simp only [shorten, vacant] at done
        cases done
        exact .misses rfl vacant
      · rw [ends.shorten] at done
        cases done
        exact .shortens ends
  | octaveUp => exact .of_changePitch coherent rfl done
  | octaveDown => exact .of_changePitch coherent rfl done
  | sharp => exact .of_changePitch coherent rfl done
  | flat => exact .of_changePitch coherent rfl done

/-! ## Both phases -/

/-- A command is carried out when its first phase is. -/
theorem advance_of_perform (done : draft.perform rules command = .ok performed) :
    draft.advance rules command =
      .ok (performed.settle rules (draft.asksForNote rules command)) := by
  simp only [advance, done]
  rfl

/-- A command that is carried out has performed its first phase. -/
theorem exists_perform_of_advance (advanced : draft.advance rules command = .ok next) :
    ∃ performed, draft.perform rules command = .ok performed ∧
      next = performed.settle rules (draft.asksForNote rules command) := by
  simp only [advance, bind_eq_ok] at advanced
  obtain ⟨performed, done, settled⟩ := advanced
  exact ⟨performed, done, (Except.ok.inj settled).symm⟩

theorem advance_shorten (rules : Rules τ) (draft : Draft τ) :
    draft.advance rules .shorten = .ok (draft.shorten rules) := rfl

/-- **A command is carried out in two phases,** and the first of them has a listed effect. -/
theorem advance_cases (coherent : draft.Coherent rules)
    (advanced : draft.advance rules command = .ok next) :
    ∃ performed, draft.Performs rules command performed ∧
      next = performed.settle rules (draft.asksForNote rules command) := by
  obtain ⟨performed, done, settled⟩ := exists_perform_of_advance advanced
  exact ⟨performed, .of_perform coherent done, settled⟩

theorem Coherent.performs (coherent : draft.Coherent rules)
    (performs : draft.Performs rules command performed) : performed.Coherent rules := by
  obtain ⟨current, sustains⟩ := coherent
  cases performs with
  | opens | closes | collects | drops | ignores | misses => exact ⟨current, sustains⟩
  | lengthens ends below =>
      refine ⟨by simp only [ends.current, lastPlace_push], UInt32.le_iff_toNat_le.mpr ?_⟩
      rw [Checked.toNat_succ_of_lt below]
      exact UInt32.lt_iff_toNat_lt.mp below
  | rewinds ends _ => exact ⟨by simp only [ends.current, lastPlace_push], UInt32.zero_le⟩
  | shortens ends => exact ⟨by simp only [ends.current, lastPlace_push], sustains⟩
  | alters ends _ _ => exact ⟨by simp only [ends.current, lastPlace_push], sustains⟩

/-- An added note is the last note and the current one. -/
theorem addNote_endsWith (rules : Rules τ) (draft : Draft τ) :
    (draft.addNote rules).EndsWith draft.notes ⟨draft.pending, draft.clock, rules.noteLength⟩ :=
  ⟨rfl, rfl⟩

/-- A command that asks for no note has only its first phase. -/
theorem settle_false (rules : Rules τ) (performed : Draft τ) :
    performed.settle rules false = performed := by
  simp only [settle, addsNote, Bool.false_and, Bool.false_eq_true, if_false]

/-- Outside of a chord a note is added when it is asked for. -/
theorem settle_true_of_closed (rules : Rules τ) {performed : Draft τ}
    (closed : performed.chordOpen = false) :
    performed.settle rules true = performed.addNote rules := by
  simp only [settle, addsNote, closed, Bool.not_false, Bool.and_self, if_true]

/-- Within a chord no note is added. -/
theorem settle_of_open (rules : Rules τ) {performed : Draft τ} (asked : Bool)
    (chordOpen : performed.chordOpen = true) : performed.settle rules asked = performed := by
  simp only [settle, addsNote, chordOpen, Bool.not_true, Bool.and_false, Bool.false_eq_true,
    if_false]

/-- A command for pitches asks for no note, so all of it is the change of a pitch. -/
theorem advance_of_pitchChange? {change : Pitch → Except Overflow Pitch}
    (found : command.pitchChange? rules = some change) (draft : Draft τ) :
    draft.advance rules command = draft.changePitch change := by
  simp only [advance, asksForNote_of_pitchChange? found, perform_of_pitchChange? found,
    settle_false, bind_pure]

theorem settle_cases (rules : Rules τ) (performed : Draft τ) (asked : Bool) :
    (performed.addsNote asked = false ∧ performed.settle rules asked = performed) ∨
      (performed.addsNote asked = true ∧
        performed.settle rules asked = performed.addNote rules) := by
  cases adds : performed.addsNote asked with
  | false => exact .inl ⟨rfl, by simp only [settle, adds, Bool.false_eq_true, if_false]⟩
  | true => exact .inr ⟨rfl, by simp only [settle, adds, if_true]⟩

theorem Coherent.settle (coherent : performed.Coherent rules) (asked : Bool) :
    (performed.settle rules asked).Coherent rules := by
  rcases settle_cases rules performed asked with ⟨-, same⟩ | ⟨-, added⟩
  · rwa [same]
  · rw [added]
    exact ⟨(lastPlace_push _ _).symm, UInt32.zero_le⟩

/-- **A command leaves a coherent draft coherent.** -/
theorem Coherent.advance (coherent : draft.Coherent rules)
    (advanced : draft.advance rules command = .ok next) : next.Coherent rules := by
  obtain ⟨performed, performs, rfl⟩ := advance_cases coherent advanced
  exact (coherent.performs performs).settle _

end Performing

end Draft

end ChatTune
