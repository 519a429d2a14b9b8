import ChatTune.Proofs.Score.Brackets
import ChatTune.Proofs.Score.Separation

/-!
# What a chord collects

Between its brackets a chord collects pitches, and nothing is added to the notes until it closes.
Buttons put their pitches to the others.  A pause drops what was collected, and a sustain beyond the
limit puts the pitches of the last note in its place; both begin the collection anew.  So only the
last of these commands counts, and the buttons behind it (`Draft.Collects`).

Modifiers within a chord are for the note before it.  They change what is collected only if a later
sustain copies that note.  When the chord closes, what was collected is one more note
(`Score.chord_collects_until_closed`).
-/

set_option autoImplicit false

namespace ChatTune

variable {τ : Type}

/-- The pitch that a command puts to a chord. -/
def Command.pitch? : Command → Option Pitch
  | .press button => some button.pitch
  | _ => none

theorem Command.pitch?_of_modifies {command : Command} (modifies : command.modifies = true) :
    command.pitch? = none := by
  cases command <;> cases modifies <;> rfl

namespace Draft

/-! ## Collecting -/

/-- Whether a command drops what was collected. -/
def collectsAnew (rules : Rules τ) (draft : Draft τ) : Command → Bool
  | .pause => true
  | .sustain => draft.reattacks rules
  | _ => false

theorem collectsAnew_of_modifies {rules : Rules τ} {command : Command}
    (modifies : command.modifies = true) (draft : Draft τ) :
    draft.collectsAnew rules command = draft.attacksAgain rules command := by
  cases command <;> cases modifies <;> rfl

/-- What a command that drops the collected pitches puts in their place: a pause nothing, and a
sustain the pitches of the last note. -/
def Replaces (draft : Draft τ) (command : Command) (base : List Pitch) : Prop :=
  command = .pause ∧ base = [] ∨
    command = .sustain ∧ ∃ note, draft.notes.back? = some note ∧ base = note.pitches

variable [Time τ] {rules : Rules τ} {draft performed next : Draft τ} {command : Command}
  {commands : List Command}

/-- Whether no command of a list drops what was collected. -/
def collectsOn (rules : Rules τ) (draft : Draft τ) (commands : List Command) : Bool :=
  (draft.steps rules commands).all fun step => !step.before.collectsAnew rules step.command

/-- **What commands collect,** beginning with what waits in a draft: the pitches of all buttons, or
those behind the last command that drops what was collected, after what it puts in their place. -/
inductive Collects (rules : Rules τ) (draft : Draft τ) (commands : List Command)
    (pitches : List Pitch) : Prop where
  | on (collects : draft.collectsOn rules commands = true)
      (all : pitches = draft.pending ++ commands.filterMap Command.pitch?)
  | anew (front : List Command) (reset : Command) (rest : List Command) (before after : Draft τ)
      (base : List Pitch) (split : commands = front ++ reset :: rest)
      (reached : draft.run rules front = .ok before)
      (resets : before.collectsAnew rules reset = true) (replaces : before.Replaces reset base)
      (advanced : before.advance rules reset = .ok after)
      (collects : after.collectsOn rules rest = true)
      (all : pitches = base ++ rest.filterMap Command.pitch?)

/-- The first phase of a command within a chord puts a pitch to the others, or begins anew. -/
theorem Performs.pending_cases (performs : draft.Performs rules command performed)
    (inside : command ≠ .chordEnd) :
    draft.collectsAnew rules command = false ∧
        performed.pending = draft.pending ++ [command].filterMap Command.pitch? ∨
      draft.collectsAnew rules command = true ∧ draft.Replaces command performed.pending := by
  have keeps (modifies : command.modifies = true)
      (still : draft.attacksAgain rules command = false) :
      draft.collectsAnew rules command = false ∧
        draft.pending = draft.pending ++ [command].filterMap Command.pitch? := by
    rw [collectsAnew_of_modifies modifies, List.filterMap_cons_none
      (Command.pitch?_of_modifies modifies), List.filterMap_nil, List.append_nil]
    exact ⟨still, rfl⟩
  cases performs with
  | closes => exact absurd rfl inside
  | opens | ignores => exact .inl ⟨rfl, (List.append_nil _).symm⟩
  | collects button => exact .inl ⟨rfl, rfl⟩
  | drops => exact .inr ⟨rfl, .inl ⟨rfl, rfl⟩⟩
  | misses modifies vacant => exact .inl (keeps modifies (attacksAgain_of_none vacant command))
  | lengthens ends below => exact .inl (keeps rfl (ends.attacksAgain_of_lt below))
  | rewinds ends beyond =>
      refine .inr ⟨ends.attacksAgain_of_le beyond, .inr ⟨rfl, _, ?_, rfl⟩⟩
      rw [ends.notes, Array.back?_push]
  | shortens ends => exact .inl (keeps rfl rfl)
  | alters ends found done =>
      exact .inl (keeps (Command.modifies_of_pitchChange? found)
        (attacksAgain_of_pitchChange? found draft))

/-- Within a chord a command has only its first phase, and the chord stays open. -/
theorem advance_within (coherent : draft.Coherent rules) (chordOpen : draft.chordOpen = true)
    (inside : command ≠ .chordEnd) (advanced : draft.advance rules command = .ok next) :
    draft.Performs rules command next ∧ next.chordOpen = true := by
  obtain ⟨performed, performs, rfl⟩ := advance_cases coherent advanced
  have stays : performed.chordOpen = true := by
    cases performs with
    | closes => exact absurd rfl inside
    | opens => rfl
    | _ => exact chordOpen
  rw [settle_of_open rules _ stays]
  exact ⟨performs, stays⟩

theorem collectsOn_cons {command : Command}
    (still : draft.collectsAnew rules command = false)
    (advanced : draft.advance rules command = .ok next)
    (collects : next.collectsOn rules commands = true) :
    draft.collectsOn rules (command :: commands) = true := by
  rw [collectsOn, steps_cons advanced, List.all_cons, still, Bool.not_false, Bool.true_and]
  exact collects

/-- What the commands behind a first one collect is part of what they all collect. -/
theorem Collects.cons (performs : draft.Performs rules command next)
    (inside : command ≠ .chordEnd) (advanced : draft.advance rules command = .ok next)
    {pitches : List Pitch} (collected : next.Collects rules commands pitches) :
    draft.Collects rules (command :: commands) pitches := by
  cases collected with
  | on collects all =>
      rcases performs.pending_cases inside with ⟨still, pending⟩ | ⟨resets, replaces⟩
      · refine .on (collectsOn_cons still advanced collects) ?_
        rw [all, pending, List.append_assoc, ← List.filterMap_append, List.singleton_append]
      · exact .anew [] command commands draft next _ rfl rfl resets replaces advanced collects all
  | anew front reset rest before after base split reached resets replaces advancedReset collects
      all =>
      refine .anew (command :: front) reset rest before after base ?_ ?_ resets replaces
        advancedReset collects all
      · rw [split, List.cons_append]
      · exact run_cons_eq_ok.mpr ⟨next, advanced, reached⟩

/-- **Within a chord commands add no note and collect pitches.** -/
theorem run_within (coherent : draft.Coherent rules) (chordOpen : draft.chordOpen = true)
    (inside : ∀ command ∈ commands, command ≠ .chordEnd)
    (ran : draft.run rules commands = .ok next) :
    next.chordOpen = true ∧ next.notes.size = draft.notes.size ∧
      draft.Collects rules commands next.pending := by
  induction commands generalizing draft with
  | nil =>
      cases ran
      exact ⟨chordOpen, rfl, .on rfl (List.append_nil _).symm⟩
  | cons command commands ih =>
      obtain ⟨middle, advanced, ran⟩ := run_cons_eq_ok.mp ran
      obtain ⟨notClosing, inside⟩ := List.forall_mem_cons.mp inside
      obtain ⟨performs, stays⟩ := advance_within coherent chordOpen notClosing advanced
      obtain ⟨nextOpen, size, collected⟩ := ih (coherent.advance advanced) stays inside ran
      exact ⟨nextOpen, size.trans performs.continues.1,
        collected.cons performs notClosing advanced⟩

/-! ## Modifiers of pitches -/

/-- **A draft with at most the last pitch of its last note changed,** and nothing else. -/
inductive Repitched (draft : Draft τ) : Draft τ → Prop where
  | same : Repitched draft draft
  | changed {earlier : Array (Note τ)} {last : Note τ} {front : List Pitch} {before : Pitch}
      (notes : draft.notes = earlier.push last) (pitches : last.pitches = front ++ [before])
      (after : Pitch) :
      Repitched draft { draft with notes := earlier.push { last with pitches := front ++ [after] } }

omit [Time τ] in
theorem Repitched.pending (repitched : draft.Repitched next) : next.pending = draft.pending := by
  cases repitched with
  | same => rfl
  | changed => rfl

theorem Repitched.of_changesPitch (coherent : draft.Coherent rules)
    (changes : command.changesPitch = true) (advanced : draft.advance rules command = .ok next) :
    draft.Repitched next := by
  obtain ⟨change, found⟩ := Command.exists_of_changesPitch rules changes
  rw [advance_of_pitchChange? found] at advanced
  rcases coherent.empty_or_endsWith with ⟨-, vacant⟩ | ⟨earlier, last, ends⟩
  · rw [changePitch_of_none vacant] at advanced
    cases advanced
    exact .same
  · rw [ends.changePitch_eq_ok] at advanced
    obtain ⟨changed, done, rfl⟩ := advanced
    rcases Note.changeLast_cases done with ⟨-, rfl⟩ | ⟨front, before, after, pitches, -, rfl⟩
    · rw [ends.same]
      exact .same
    · exact .changed ends.notes pitches after

end Draft

/-! ## The law of chords -/

namespace Score

variable [Time τ]

/-- **A chord collects until it closes.**  A chord is opened when none is open, and then commands
follow that do not close it.  None of them adds a note.  When the chord closes, one more note is
added, of the length of a note, with what the commands collected from nothing: the pitches of the
buttons behind the last pause or sustain beyond the limit, after the pitches of the last note if it
was a sustain.  Commands for pitches leave what is collected as it is; they change the last pitch of
the note before the chord. -/
theorem chord_collects_until_closed (rules : Rules τ) (start : τ) (front segment : List Command)
    {before opened : Draft τ} (reached : draft rules start front = .ok before)
    (closed : before.chordOpen = false) (inside : .chordEnd ∉ segment)
    (ran : draft rules start (front ++ .chordStart :: segment) = .ok opened) :
    (∀ part, part <+: segment → ∃ within,
      draft rules start (front ++ .chordStart :: part) = .ok within ∧
        within.notes.size = before.notes.size) ∧
    (∃ begun pitches, draft rules start (front ++ [.chordStart]) = .ok begun ∧
      begun.pending = [] ∧ begun.Collects rules segment pitches ∧
      compose rules start (front ++ .chordStart :: segment ++ [.chordEnd]) =
        .ok (opened.notes.push ⟨pitches, opened.clock, rules.noteLength⟩)) ∧
    ∀ part command rest, segment = part ++ command :: rest → command.changesPitch = true →
      ∃ within next, draft rules start (front ++ .chordStart :: part) = .ok within ∧
        within.advance rules command = .ok next ∧ next.pending = within.pending ∧
        within.Repitched next := by
  have begins :
      draft rules start (front ++ [.chordStart]) = .ok { before with chordOpen := true } :=
    draft_concat_eq_ok.mpr ⟨before, reached, rfl⟩
  have coherent := draft_coherent begins
  have notClosing : ∀ command ∈ segment, command ≠ .chordEnd :=
    fun command member closing => inside (closing ▸ member)
  have reaches (part : List Command) {within : Draft τ}
      (runs : ({ before with chordOpen := true } : Draft τ).run rules part = .ok within) :
      draft rules start (front ++ .chordStart :: part) = .ok within := by
    rw [List.append_cons]
    exact draft_append_eq_ok.mpr ⟨_, begins, runs⟩
  obtain ⟨begun, same, runs⟩ := draft_append_eq_ok.mp (List.append_cons _ _ _ ▸ ran)
  cases begins.symm.trans same
  refine ⟨?_, ?_, ?_⟩
  · rintro part ⟨rest, rfl⟩
    obtain ⟨within, runsPart, -⟩ := Draft.run_append_eq_ok.mp runs
    refine ⟨within, reaches part runsPart, ?_⟩
    exact (Draft.run_within coherent rfl
      (fun command member => notClosing command (List.mem_append_left rest member)) runsPart).2.1
  · obtain ⟨-, -, collected⟩ := Draft.run_within coherent rfl notClosing runs
    refine ⟨_, opened.pending, begins, (draft_follows reached).pending closed, collected, ?_⟩
    exact compose_eq_ok.mpr ⟨_, draft_concat_eq_ok.mpr ⟨opened, ran, rfl⟩, rfl⟩
  · rintro part command rest rfl changes
    obtain ⟨within, runsPart, runs⟩ := Draft.run_append_eq_ok.mp runs
    obtain ⟨next, advanced, -⟩ := Draft.run_cons_eq_ok.mp runs
    have repitched := Draft.Repitched.of_changesPitch (coherent.run runsPart) changes advanced
    exact ⟨within, next, reaches part runsPart, advanced, repitched.pending, repitched⟩

/-- A note that is raised within a chord and then attacks again is collected as it is by then; its
marks come too late, and what was collected before it is dropped. -/
theorem chord_of_raised_reattack :
    let segment := [.press .a, .octaveUp] ++ List.replicate 8 .sustain ++
      [.sharp, .chordStart, .press .f, .flat]
    let note : Note Rat := ⟨[⟨.d, 6, true, true⟩], 0, 27 / 10⟩
    (∃ before, draft .exactDefault 0 [.press .highD] = .ok before ∧ before.chordOpen = false) ∧
      .chordEnd ∉ segment ∧
      (∃ opened, draft .exactDefault 0 ([.press .highD] ++ .chordStart :: segment) = .ok opened ∧
        opened.notes = #[note]) ∧
      ∃ begun, draft .exactDefault 0 ([.press .highD] ++ [.chordStart]) = .ok begun ∧
        begun.Collects .exactDefault segment [.plain .d 6, .plain .f 4] ∧
        compose .exactDefault 0 ([.press .highD] ++ .chordStart :: segment ++ [.chordEnd]) =
          .ok #[note, ⟨[.plain .d 6, .plain .f 4], 3 / 5, 3 / 10⟩] := by
  intro segment note
  have ran : draft .exactDefault 0 ([.press .highD] ++ .chordStart :: segment) =
      .ok ⟨#[note], [.plain .d 6, .plain .f 4], some 0, 0, true, 3 / 5⟩ := by
    decide +kernel
  have whole : compose .exactDefault 0 ([.press .highD] ++ .chordStart :: segment ++ [.chordEnd]) =
      .ok #[note, ⟨[.plain .d 6, .plain .f 4], 3 / 5, 3 / 10⟩] := by
    decide +kernel
  have reached : ∃ before, draft .exactDefault 0 [.press .highD] = .ok before ∧
      before.chordOpen = false := ⟨_, rfl, rfl⟩
  have inside : .chordEnd ∉ segment := by decide
  obtain ⟨before, reachedBefore, closed⟩ := reached
  obtain ⟨-, ⟨begun, pitches, begins, -, collected, composed⟩, -⟩ :=
    chord_collects_until_closed .exactDefault 0 _ segment reachedBefore closed inside ran
  cases whole.symm.trans composed
  exact ⟨⟨before, reachedBefore, closed⟩, inside, ⟨_, ran, rfl⟩, begun, begins, collected, whole⟩

end Score

end ChatTune
