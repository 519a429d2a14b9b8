import ChatTune.Proofs.Score.Clock
import ChatTune.Proofs.Score.Likeness

/-!
# What depends on what

Which pitches a score has depends on its commands, the limit of sustains and the octaves, and on
no time at all, and so does whether composing it overflows (`Score.exists_compose`).  How long its
notes last depends on the commands, the limit of sustains, the lengths and the clamp, and not on the
octaves, nor on when the score starts or how far the clock goes back.  The commands for pitches are
a layer of their own: without them a score has the same notes at the same times, and the same
letters (`Score.compose_separates`).

All of it is said of any time values, since no law of arithmetic is used.
-/

set_option autoImplicit false

namespace ChatTune

variable {τ : Type}

/-- Whether a command changes the last pitch of the current note. -/
def Command.changesPitch : Command → Bool
  | .octaveUp | .octaveDown | .sharp | .flat => true
  | _ => false

theorem Command.changesPitch_eq_isSome (rules : Rules τ) (command : Command) :
    command.changesPitch = (command.pitchChange? rules).isSome := by
  cases command <;> rfl

/-- A command for pitches has a change of a pitch under all rules. -/
theorem Command.exists_of_changesPitch (rules : Rules τ) {command : Command}
    (changes : command.changesPitch = true) :
    ∃ change, command.pitchChange? rules = some change := by
  rw [command.changesPitch_eq_isSome rules] at changes
  exact Option.isSome_iff_exists.mp changes

/-- Under the same octaves, commands for pitches do the same. -/
theorem Command.pitchChange?_congr {rules other : Rules τ}
    (lowest : rules.lowestOctave = other.lowestOctave)
    (highest : rules.highestOctave = other.highestOctave) (command : Command) :
    command.pitchChange? rules = command.pitchChange? other := by
  cases command <;> simp only [pitchChange?, lowest, highest]

/-- Arrays with equal projections of their elements. -/
theorem map_eq_map_of_forall₂ {α β γ : Type} {first : α → γ} {second : β → γ} {left : Array α}
    {right : Array β}
    (alike : List.Forall₂ (fun one other => first one = second other) left.toList right.toList) :
    left.map first = right.map second := by
  refine Array.ext' ?_
  rw [Array.toList_map, Array.toList_map, ← List.forall₂_eq_eq_eq, List.forall₂_map_left_iff,
    List.forall₂_map_right_iff]
  exact alike

namespace Likeness

/-! ## Pitches -/

/-- Notes with the same pitches. -/
def inPitches : Likeness τ where
  notes note other := note.pitches = other.pitches
  pitches := Eq
  clocks _ _ := True

section Pitches

variable {rules other : Rules τ}

theorem respected_inPitches [Time τ] (limit : rules.sustainLimit = other.sustainLimit) :
    inPitches.Respected rules other where
  sustainLimit := limit
  nothing := rfl
  collects same pitch := congrArg (· ++ [pitch]) same
  adds same _ := same
  passes _ := trivial
  rewinds _ := trivial
  copies same := same
  lengthens same := same
  shortens same := same
  hastens _ _ := trivial

theorem respectedByPitches_inPitches (lowest : rules.lowestOctave = other.lowestOctave)
    (highest : rules.highestOctave = other.highestOctave) :
    inPitches.RespectedByPitches rules other := by
  intro command change otherChange note otherNote changed otherChanged found otherFound same done
    otherDone
  rw [command.pitchChange?_congr lowest highest, otherFound] at found
  cases found
  simp only [inPitches] at same ⊢
  rcases Note.changeLast_cases done with
    ⟨silent, rfl⟩ | ⟨front, before, after, pitches, changes, rfl⟩
  · rcases Note.changeLast_cases otherDone with ⟨-, rfl⟩ | ⟨_, _, _, otherPitches, -⟩
    · exact same
    · rw [same, otherPitches] at silent
      cases List.append_eq_nil_iff.mp silent |>.2
  · rcases Note.changeLast_cases otherDone with
      ⟨silent, rfl⟩ | ⟨otherFront, otherBefore, otherAfter, otherPitches, otherChanges, rfl⟩
    · rw [← same, pitches] at silent
      cases List.append_eq_nil_iff.mp silent |>.2
    · rw [pitches, otherPitches] at same
      obtain ⟨rfl, lasts⟩ := List.append_inj' same rfl
      cases lasts
      cases changes.symm.trans otherChanges
      rfl

end Pitches

/-! ## Durations -/

/-- Notes with the same durations. -/
def inDurations : Likeness τ where
  notes note other := note.duration = other.duration
  pitches _ _ := True
  clocks _ _ := True

section Durations

variable {rules other : Rules τ}

theorem respected_inDurations [Time τ] (limit : rules.sustainLimit = other.sustainLimit)
    (length : rules.noteLength = other.noteLength) (step : rules.shortenStep = other.shortenStep)
    (clamp : rules.clampShortening = other.clampShortening) :
    inDurations.Respected rules other where
  sustainLimit := limit
  nothing := trivial
  collects _ _ := trivial
  adds _ _ := length
  passes _ := trivial
  rewinds _ := trivial
  copies _ := trivial
  lengthens same := by simp only [inDurations, Note.lengthen] at same ⊢; rw [same, length]
  shortens same := by
    simp only [inDurations, Note.shorten, Draft.stepFor] at same ⊢
    rw [same, step, clamp]
  hastens _ _ := trivial

theorem respectedByPitches_inDurations : inDurations.RespectedByPitches rules other := by
  intro command change otherChange note otherNote changed otherChanged found otherFound same done
    otherDone
  exact (Note.duration_of_changeLast done).trans
    (same.trans (Note.duration_of_changeLast otherDone).symm)

end Durations

/-! ## Outlines -/

/-- Notes that are the same but for the octaves and the marks of their pitches. -/
def inOutline : Likeness τ where
  notes note other :=
    note.pitches.map Pitch.letter = other.pitches.map Pitch.letter ∧
      note.attack = other.attack ∧ note.duration = other.duration
  pitches pitches others := pitches.map Pitch.letter = others.map Pitch.letter
  clocks := Eq

section Outline

variable {rules : Rules τ}

theorem respected_inOutline [Time τ] (rules : Rules τ) : inOutline.Respected rules rules where
  sustainLimit := rfl
  nothing := rfl
  collects same pitch := by simp only [inOutline, List.map_append] at same ⊢; rw [same]
  adds same clocks := ⟨same, clocks, rfl⟩
  passes clocks := congrArg (· + _) clocks
  rewinds clocks := congrArg (· - _) clocks
  copies same := same.1
  lengthens same := ⟨same.1, same.2.1, congrArg (· + _) same.2.2⟩
  shortens same := by
    refine ⟨same.1, same.2.1, ?_⟩
    simp only [Note.shorten, same.2.2]
  hastens same clocks := by
    cases clocks
    simp only [same.2.2]
    exact rfl

/-- A command for pitches leaves the outline of a note. -/
theorem inOutline_changeLast {command : Command} {change : Pitch → Except Overflow Pitch}
    (found : command.pitchChange? rules = some change) {note changed other : Note τ}
    (same : inOutline.notes note other) (done : note.changeLast change = .ok changed) :
    inOutline.notes changed other := by
  have retouched := Note.Retouched.changeLast found done
  exact ⟨retouched.letters.trans same.1, retouched.attack.trans same.2.1,
    (Note.duration_of_changeLast done).trans same.2.2⟩

end Outline

end Likeness

/-- Whether a note can be changed depends on its pitches. -/
theorem Note.exists_changeLast {change : Pitch → Except Overflow Pitch}
    {note other changed : Note τ} (same : note.pitches = other.pitches)
    (done : note.changeLast change = .ok changed) :
    ∃ otherChanged, other.changeLast change = .ok otherChanged := by
  rcases changeLast_cases done with ⟨silent, -⟩ | ⟨front, before, after, pitches, changes, -⟩
  · rw [same] at silent
    exact ⟨other, by simp only [changeLast, silent, List.getLast?_nil]⟩
  · rw [same] at pitches
    exact ⟨_, by simp only [changeLast, pitches, List.getLast?_concat, changes]; rfl⟩

namespace Draft.Alike

open Likeness (inPitches inOutline respected_inPitches respectedByPitches_inPitches
  respected_inOutline)

variable [Time τ] {rules : Rules τ} {draft other next : Draft τ}

/-! ## Runs in pairs -/

section Pairs

variable {otherRules : Rules τ} (limit : rules.sustainLimit = otherRules.sustainLimit)
  (lowest : rules.lowestOctave = otherRules.lowestOctave)
  (highest : rules.highestOctave = otherRules.highestOctave)

include limit lowest highest

/-- Of two drafts with the same pitches a command is carried out on the one if it is on the
other. -/
theorem exists_advance {command : Command} (alike : Alike inPitches draft other)
    (coherent : draft.Coherent rules) (otherCoherent : other.Coherent otherRules)
    (advanced : draft.advance rules command = .ok next) :
    ∃ otherNext, other.advance otherRules command = .ok otherNext ∧
      Alike inPitches next otherNext := by
  cases found : command.pitchChange? rules with
  | none => exact alike.advance (respected_inPitches limit) coherent otherCoherent found advanced
  | some change =>
      have otherFound := (command.pitchChange?_congr lowest highest).symm.trans found
      have goesOn : ∃ otherNext, other.advance otherRules command = .ok otherNext := by
        rw [advance_of_pitchChange? found] at advanced
        rw [advance_of_pitchChange? otherFound]
        rcases coherent.empty_or_endsWith with ⟨-, vacant⟩ | ⟨earlier, last, ends⟩
        · exact ⟨other, changePitch_of_none (alike.current.symm.trans vacant) change⟩
        · obtain ⟨otherEarlier, otherLast, otherEnds, -, lasts⟩ :=
            alike.endsWith otherCoherent ends
          obtain ⟨changed, changes, -⟩ := ends.changePitch_eq_ok.mp advanced
          obtain ⟨otherChanged, otherChanges⟩ := Note.exists_changeLast lasts changes
          exact ⟨_, otherEnds.changePitch_eq_ok.mpr ⟨otherChanged, otherChanges, rfl⟩⟩
      obtain ⟨otherNext, otherAdvanced⟩ := goesOn
      exact ⟨otherNext, otherAdvanced, alike.advance_pitch
        (respectedByPitches_inPitches lowest highest) coherent otherCoherent found otherFound
        advanced otherAdvanced⟩

/-- **Whether a run overflows depends on no time:** of two drafts with the same pitches the run of
the one goes through if the run of the other does. -/
theorem exists_run {commands : List Command} (alike : Alike inPitches draft other)
    (coherent : draft.Coherent rules) (otherCoherent : other.Coherent otherRules)
    (ran : draft.run rules commands = .ok next) :
    ∃ otherNext, other.run otherRules commands = .ok otherNext := by
  induction commands generalizing draft other with
  | nil => exact ⟨other, rfl⟩
  | cons command commands ih =>
      obtain ⟨middle, advanced, ran⟩ := run_cons_eq_ok.mp ran
      obtain ⟨otherMiddle, otherAdvanced, middleAlike⟩ :=
        alike.exists_advance limit lowest highest coherent otherCoherent advanced
      obtain ⟨otherNext, otherRan⟩ :=
        ih middleAlike (coherent.advance advanced) (otherCoherent.advance otherAdvanced) ran
      exact ⟨otherNext, run_cons_eq_ok.mpr ⟨otherMiddle, otherAdvanced, otherRan⟩⟩

end Pairs

/-! ## Runs without commands for pitches -/

/-- A command for pitches on one of two drafts leaves the drafts alike in outline. -/
theorem advance_left {command : Command} {change : Pitch → Except Overflow Pitch}
    (alike : Alike inOutline draft other) (coherent : draft.Coherent rules)
    (otherCoherent : other.Coherent rules) (found : command.pitchChange? rules = some change)
    (advanced : draft.advance rules command = .ok next) : Alike inOutline next other := by
  rw [advance_of_pitchChange? found] at advanced
  rcases coherent.empty_or_endsWith with ⟨-, vacant⟩ | ⟨earlier, last, ends⟩
  · rw [changePitch_of_none vacant] at advanced
    cases advanced
    exact alike
  · obtain ⟨otherEarlier, otherLast, otherEnds, fronts, lasts⟩ := alike.endsWith otherCoherent ends
    obtain ⟨changed, changes, rfl⟩ := ends.changePitch_eq_ok.mp advanced
    refine { alike with notes := ?_ }
    rw [otherEnds.notes]
    exact notes_push fronts (Likeness.inOutline_changeLast found lasts changes)

/-- **Without its commands for pitches a run goes through as well,** and leaves a draft of the
same outline. -/
theorem run_without_pitches {commands : List Command} (alike : Alike inOutline draft other)
    (coherent : draft.Coherent rules) (otherCoherent : other.Coherent rules)
    (ran : draft.run rules commands = .ok next) :
    ∃ otherNext, other.run rules (commands.filter fun command => !command.changesPitch) =
        .ok otherNext ∧ Alike inOutline next otherNext := by
  induction commands generalizing draft other with
  | nil =>
      cases ran
      exact ⟨other, rfl, alike⟩
  | cons command commands ih =>
      obtain ⟨middle, advanced, ran⟩ := run_cons_eq_ok.mp ran
      have middleCoherent := coherent.advance advanced
      have isPitch := command.changesPitch_eq_isSome rules
      cases found : command.pitchChange? rules with
      | some change =>
          rw [found, Option.isSome_some] at isPitch
          rw [List.filter_cons_of_neg (by rw [isPitch]; decide)]
          exact ih (alike.advance_left coherent otherCoherent found advanced) middleCoherent
            otherCoherent ran
      | none =>
          rw [found, Option.isSome_none] at isPitch
          obtain ⟨otherMiddle, otherAdvanced, middleAlike⟩ :=
            alike.advance (respected_inOutline rules) coherent otherCoherent found advanced
          obtain ⟨otherNext, otherRan, nextAlike⟩ :=
            ih middleAlike middleCoherent (otherCoherent.advance otherAdvanced) ran
          rw [List.filter_cons_of_pos (by rw [isPitch]; decide), run_cons, otherAdvanced]
          exact ⟨otherNext, otherRan, nextAlike⟩

end Draft.Alike

namespace Score

variable [Time τ]

/-- Under the same limit of sustains and the same octaves, a list of commands composes at any times
if it composes at some. -/
theorem exists_compose {rules other : Rules τ} (limit : rules.sustainLimit = other.sustainLimit)
    (lowest : rules.lowestOctave = other.lowestOctave)
    (highest : rules.highestOctave = other.highestOctave) {start : τ} (otherStart : τ)
    {commands : List Command} {notes : Array (Note τ)}
    (composed : compose rules start commands = .ok notes) :
    ∃ others, compose other otherStart commands = .ok others := by
  obtain ⟨last, reached, -⟩ := compose_eq_ok.mp composed
  obtain ⟨otherLast, otherReached⟩ :=
    (Draft.Alike.start (Likeness.respected_inPitches limit) trivial).exists_run limit lowest highest
      (.start rules start) (.start other otherStart) reached
  exact ⟨otherLast.notes, compose_eq_ok.mpr ⟨otherLast, otherReached, rfl⟩⟩

/-- The sum of durations depends on the durations alone. -/
theorem summedDuration_eq_foldl (notes : Array (Note τ)) :
    summedDuration notes = (notes.map Note.duration).foldl (· + ·) Time.emptySum := by
  rw [summedDuration, Array.foldl_map]

/-- **Separation.**  Of two scores of the same commands: under the same limit of sustains and the
same octaves they have the same pitches, whatever the times are; under the same limit, lengths and
clamp they have the same durations and the same total, which is accepted or rejected alike,
whatever the start, the rewinding and the octaves are.  And without its commands for pitches a
list of commands still composes, to as many notes with the same attacks, durations and letters. -/
theorem compose_separates (commands : List Command) :
    (∀ (rules other : Rules τ) (start otherStart : τ) (notes others : Array (Note τ)),
      compose rules start commands = .ok notes → compose other otherStart commands = .ok others →
      (rules.sustainLimit = other.sustainLimit → rules.lowestOctave = other.lowestOctave →
        rules.highestOctave = other.highestOctave →
          notes.size = others.size ∧ notes.map Note.pitches = others.map Note.pitches) ∧
      (rules.sustainLimit = other.sustainLimit → rules.noteLength = other.noteLength →
        rules.shortenStep = other.shortenStep → rules.clampShortening = other.clampShortening →
          notes.map Note.duration = others.map Note.duration ∧
            summedDuration notes = summedDuration others ∧
            (rules.longestTotal = other.longestTotal →
              accept rules notes = accept other others))) ∧
    ∀ (rules : Rules τ) (start : τ) (notes : Array (Note τ)),
      compose rules start commands = .ok notes →
        ∃ plain, compose rules start (commands.filter fun command => !command.changesPitch) =
            .ok plain ∧
          notes.size = plain.size ∧
          notes.map Note.attack = plain.map Note.attack ∧
          notes.map Note.duration = plain.map Note.duration ∧
          notes.map (fun note => note.pitches.map Pitch.letter) =
            plain.map (fun note => note.pitches.map Pitch.letter) := by
  refine ⟨fun rules other start otherStart notes others composed otherComposed => ⟨?_, ?_⟩, ?_⟩
  · intro limit lowest highest
    have alike := compose_alike (Likeness.respected_inPitches limit)
      (Likeness.respectedByPitches_inPitches lowest highest) trivial composed otherComposed
    exact ⟨alike.length_eq, map_eq_map_of_forall₂ alike⟩
  · intro limit length step clamp
    have alike := compose_alike (Likeness.respected_inDurations limit length step clamp)
      Likeness.respectedByPitches_inDurations trivial composed otherComposed
    have durations : notes.map Note.duration = others.map Note.duration :=
      map_eq_map_of_forall₂ alike
    have totals : summedDuration notes = summedDuration others := by
      rw [summedDuration_eq_foldl, summedDuration_eq_foldl, durations]
    refine ⟨durations, totals, fun longest => ?_⟩
    simp only [accept, totals, longest]
  · intro rules start notes composed
    obtain ⟨last, reached, rfl⟩ := compose_eq_ok.mp composed
    have coherent := Draft.Coherent.start rules start
    obtain ⟨plain, plainReached, alike⟩ :=
      (Draft.Alike.start (Likeness.respected_inOutline rules) rfl).run_without_pitches coherent
        coherent reached
    have notes := alike.notes
    refine ⟨plain.notes, compose_eq_ok.mpr ⟨plain, plainReached, rfl⟩, notes.length_eq,
      map_eq_map_of_forall₂ ?_, map_eq_map_of_forall₂ ?_, map_eq_map_of_forall₂ ?_⟩
    · exact notes.imp fun _ _ same => same.2.1
    · exact notes.imp fun _ _ same => same.2.2
    · exact notes.imp fun _ _ same => same.1

/-- A note that attacks again has the same pitches when its length is no number at all, and the
same durations when other octaves and another rewinding apply; its modifiers can be left out. -/
theorem separated_reattack :
    let commands : List Command := [.press .d, .sharp, .octaveUp, .sustain, .sustain, .flat]
    let rules : Rules Float := { Rules.default with sustainLimit := 1 }
    let unmeasured : Rules Float := { rules with noteLength := 0.0 / 0.0, clampShortening := false }
    let low : Rules Float := { rules with highestOctave := 3, rewindUnits := 0 }
    ∃ notes unmeasuredNotes lowNotes plain,
      compose rules 100 commands = .ok notes ∧
      compose unmeasured (1.0 / 0.0) commands = .ok unmeasuredNotes ∧
      compose low 7 commands = .ok lowNotes ∧
      compose rules 100 [.press .d, .sustain, .sustain] = .ok plain ∧
      notes.map Note.pitches = unmeasuredNotes.map Note.pitches ∧
      notes.map Note.duration = lowNotes.map Note.duration ∧
      accept rules notes = accept low lowNotes ∧
      notes.map Note.attack = plain.map Note.attack := by
  intro commands rules unmeasured low
  have composed : ∃ notes, compose rules 100 commands = .ok notes := ⟨_, by rfl⟩
  have unmeasuredComposed : ∃ notes, compose unmeasured (1.0 / 0.0) commands = .ok notes :=
    ⟨_, by rfl⟩
  have lowComposed : ∃ notes, compose low 7 commands = .ok notes := ⟨_, by rfl⟩
  obtain ⟨notes, composed⟩ := composed
  obtain ⟨unmeasuredNotes, unmeasuredComposed⟩ := unmeasuredComposed
  obtain ⟨lowNotes, lowComposed⟩ := lowComposed
  obtain ⟨separated, withoutPitches⟩ := compose_separates (τ := Float) commands
  obtain ⟨-, pitches⟩ :=
    (separated _ _ _ _ _ _ composed unmeasuredComposed).1 rfl rfl rfl
  obtain ⟨durations, -, accepted⟩ :=
    (separated _ _ _ _ _ _ composed lowComposed).2 rfl rfl rfl rfl
  obtain ⟨plain, plainComposed, -, attacks, -⟩ := withoutPitches _ _ _ composed
  exact ⟨notes, unmeasuredNotes, lowNotes, plain, composed, unmeasuredComposed, lowComposed,
    plainComposed, pitches, durations, accepted rfl, attacks⟩

end Score

end ChatTune
