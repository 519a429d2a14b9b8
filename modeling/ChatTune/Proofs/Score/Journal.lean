import ChatTune.Journal.Event
import ChatTune.Proofs.Score.Brackets
import ChatTune.Proofs.Score.Spacing

/-!
# What the journal of a score tells

Events are written while a score is composed, and the notes that they tell of go on changing.  But
the attack of a note never changes, so the journal tells the attacks of the finished score, in their
order.  It tells every renewed attack and every ignored character where it happens.  All of this is
read off the report of one command, and a run reports what its commands do
(`Score.exists_reported`).

The event that can end a journal is about a score that was not composed: it comes exactly if one
more closing bracket would add a note with pitches, and it tells how many
(`Score.journal_accounts`).  The bracket always adds a note, and outside of a chord nothing waits
for it.
-/

set_option autoImplicit false

namespace ChatTune

variable {τ : Type}

/-! ## Kinds of events -/

namespace ScoreEvent

/-- The attack that a note is reported with. -/
def attack? : ScoreEvent τ → Option τ
  | .note attack _ => some attack
  | _ => none

/-- Whether an event tells that a note attacks again. -/
def isReattack : ScoreEvent τ → Bool
  | .reattack _ => true
  | _ => false

/-- The character of an event that passes over one. -/
def ignored? : ScoreEvent τ → Option Char
  | .ignored symbol => some symbol
  | _ => none

/-- Whether an event tells that an open chord is dropped. -/
def isChordDropped : ScoreEvent τ → Bool
  | .chordDropped _ => true
  | _ => false

end ScoreEvent

/-- The character that a command passes over. -/
def Command.ignored? : Command → Option Char
  | .ignored symbol => some symbol
  | _ => none

/-! ## The report of a command -/

namespace Draft

section Reports

variable (performed : Draft τ) (command : Command) (asked : Bool)

/-- The events of a command but for the note that is added behind it. -/
def ownReport : List (ScoreEvent τ) :=
  match command with
  | .ignored symbol => [.ignored symbol]
  | .sustain => if asked then [.reattack performed.clock] else []
  | _ => []

/-- The event of the note that is added behind a command, if one is. -/
def noteReport : List (ScoreEvent τ) :=
  if performed.addsNote asked then [.note performed.clock performed.pending] else []

theorem report_eq :
    performed.report command asked =
      performed.ownReport command asked ++ performed.noteReport asked := rfl

/-- A report tells of a note exactly if one is added, with the attack of that note. -/
theorem filterMap_attack?_report :
    (performed.report command asked).filterMap ScoreEvent.attack? =
      if performed.addsNote asked then [performed.clock] else [] := by
  have own : (performed.ownReport command asked).filterMap ScoreEvent.attack? = [] := by
    cases command <;> cases asked <;> rfl
  rw [report_eq, List.filterMap_append, own, List.nil_append, noteReport]
  split <;> rfl

/-- A report tells of a renewed attack exactly if a sustain asked for it. -/
theorem countP_isReattack_report :
    (performed.report command asked).countP ScoreEvent.isReattack =
      (decide (command = .sustain) && asked).toNat := by
  have own : (performed.ownReport command asked).countP ScoreEvent.isReattack =
      (decide (command = .sustain) && asked).toNat := by
    cases command <;> cases asked <;> rfl
  have added : (performed.noteReport asked).countP ScoreEvent.isReattack = 0 := by
    unfold noteReport
    split <;> rfl
  rw [report_eq, List.countP_append, own, added, Nat.add_zero]

/-- A report tells of the character that its command passes over. -/
theorem filterMap_ignored?_report :
    (performed.report command asked).filterMap ScoreEvent.ignored? =
      [command].filterMap Command.ignored? := by
  have own : (performed.ownReport command asked).filterMap ScoreEvent.ignored? =
      [command].filterMap Command.ignored? := by
    cases command <;> cases asked <;> rfl
  have added : (performed.noteReport asked).filterMap ScoreEvent.ignored? = [] := by
    unfold noteReport
    split <;> rfl
  rw [report_eq, List.filterMap_append, own, added, List.append_nil]

/-- No command reports that a chord is dropped. -/
theorem filter_isChordDropped_report :
    (performed.report command asked).filter ScoreEvent.isChordDropped = [] := by
  have own : (performed.ownReport command asked).filter ScoreEvent.isChordDropped = [] := by
    cases command <;> cases asked <;> rfl
  have added : (performed.noteReport asked).filter ScoreEvent.isChordDropped = [] := by
    unfold noteReport
    split <;> rfl
  rw [report_eq, List.filter_append, own, added, List.nil_append]

end Reports

variable [Time τ] {rules : Rules τ} {draft performed next : Draft τ} {command : Command}

/-- The journal of a list begins with the report of its first command. -/
theorem journal_cons (done : draft.perform rules command = .ok performed)
    (commands : List Command) :
    draft.journal rules (command :: commands) =
      performed.report command (draft.asksForNote rules command) ++
        (performed.settle rules (draft.asksForNote rules command)).journal rules commands := by
  simp only [journal, done]

/-- The second phase adds the attack of the note that it adds. -/
theorem attacksOf_settle (rules : Rules τ) (performed : Draft τ) (asked : Bool) :
    attacksOf (performed.settle rules asked).notes =
      attacksOf performed.notes ++ if performed.addsNote asked then [performed.clock] else [] := by
  rcases settle_cases rules performed asked with ⟨quiet, same⟩ | ⟨adds, added⟩
  · simp only [same, quiet, Bool.false_eq_true, if_false, List.append_nil]
  · simp only [added, adds, if_true, (performed.addNote_endsWith rules).notes, attacksOf_push]

omit [Time τ] in
/-- A sustain that asks for a note makes the last one attack again. -/
theorem attacksAgain_eq (rules : Rules τ) (draft : Draft τ) (command : Command) :
    draft.attacksAgain rules command =
      (decide (command = .sustain) && draft.asksForNote rules command) := by
  cases command <;> rfl

end Draft

/-! ## The journal of a run -/

namespace Score

variable [Time τ] {rules : Rules τ} {start : τ}

/-- **What was reported** by commands that leave a draft: the events with which every journal of a
longer list begins.  They tell the attacks of the notes, as many renewed attacks as there were and
the ignored characters, and no chord that is dropped. -/
structure Reported (rules : Rules τ) (start : τ) (commands : List Command) (last : Draft τ)
    (events : List (ScoreEvent τ)) : Prop where
  journal : ∀ rest, journal rules start (commands ++ rest) = events ++ last.journal rules rest
  notes : events.filterMap ScoreEvent.attack? = attacksOf last.notes
  reattacks : events.countP ScoreEvent.isReattack = reattackCount rules start commands
  ignored : events.filterMap ScoreEvent.ignored? = commands.filterMap Command.ignored?
  noneDropped : events.filter ScoreEvent.isChordDropped = []

/-- A command adds its report. -/
theorem Reported.concat {commands : List Command} {command : Command} {before : Draft τ}
    {events : List (ScoreEvent τ)} (reported : Reported rules start commands before events)
    (reached : draft rules start commands = .ok before) {performed : Draft τ}
    (done : before.perform rules command = .ok performed) :
    Reported rules start (commands ++ [command])
      (performed.settle rules (before.asksForNote rules command))
      (events ++ performed.report command (before.asksForNote rules command)) where
  journal rest := by
    rw [List.append_assoc, List.singleton_append, reported.journal, Draft.journal_cons done,
      List.append_assoc]
  notes := by
    have performs := Draft.Performs.of_perform (draft_coherent reached) done
    rw [List.filterMap_append, reported.notes, Draft.filterMap_attack?_report,
      Draft.attacksOf_settle, performs.attacksOf_eq]
  reattacks := by
    rw [List.countP_append, reported.reattacks, Draft.countP_isReattack_report,
      reattackCount_concat reached, Draft.attacksAgain_eq]
  ignored := by
    rw [List.filterMap_append, reported.ignored, Draft.filterMap_ignored?_report,
      List.filterMap_append]
  noneDropped := by
    rw [List.filter_append, reported.noneDropped, Draft.filter_isChordDropped_report,
      List.nil_append]

/-- **Every run reports what its commands do.** -/
theorem exists_reported {commands : List Command} {last : Draft τ}
    (reached : draft rules start commands = .ok last) :
    ∃ events, Reported rules start commands last events := by
  refine draft_induction (motive := fun commands last =>
    ∃ events, Reported rules start commands last events) ?_ ?_ reached
  · exact ⟨[], ⟨fun _ => rfl, rfl, rfl, rfl, rfl⟩⟩
  · rintro commands command before after reached ⟨events, reported⟩ advanced
    obtain ⟨performed, done, rfl⟩ := Draft.exists_perform_of_advance advanced
    exact ⟨_, reported.concat reached done⟩

/-- One more closing bracket adds what waits in a draft. -/
theorem compose_concat_chordEnd {commands : List Command} {last : Draft τ}
    (reached : draft rules start commands = .ok last) :
    compose rules start (commands ++ [.chordEnd]) =
      .ok (last.notes.push ⟨last.pending, last.clock, rules.noteLength⟩) :=
  compose_eq_ok.mpr ⟨_, draft_concat_eq_ok.mpr ⟨last, reached, rfl⟩, rfl⟩

/-- A chord is dropped exactly if one more closing bracket would sound it. -/
theorem closingReport_eq {commands : List Command} {last : Draft τ}
    (reached : draft rules start commands = .ok last) :
    last.closingReport =
      if last.pending.isEmpty then [] else [.chordDropped last.pending.length] := by
  unfold Draft.closingReport
  cases chordOpen : last.chordOpen with
  | false =>
      simp only [(draft_follows reached).pending chordOpen, List.isEmpty_nil, Bool.false_and,
        Bool.false_eq_true, if_false, if_true]
  | true => cases last.pending.isEmpty <;> rfl

/-- **A renewed attack in the journal.**  Behind the events of the commands before it, a sustain
that makes a note attack again reports this, and the note itself at once if no chord is open. -/
theorem journal_of_attacksAgain {front rest : List Command} {before last : Draft τ}
    (reached : draft rules start front = .ok before)
    (again : before.attacksAgain rules .sustain = true)
    (whole : draft rules start (front ++ .sustain :: rest) = .ok last) :
    ∃ (earlier : List (ScoreEvent τ)) (clock : τ) (later : List (ScoreEvent τ)),
      journal rules start (front ++ .sustain :: rest) = earlier ++ .reattack clock :: later ∧
        earlier.countP ScoreEvent.isReattack = reattackCount rules start front ∧
        (before.chordOpen = false → ∃ pitches more, later = .note clock pitches :: more) := by
  obtain ⟨middle, same, ran⟩ := draft_append_eq_ok.mp whole
  cases reached.symm.trans same
  obtain ⟨next, advanced, -⟩ := Draft.run_cons_eq_ok.mp ran
  obtain ⟨performed, done, rfl⟩ := Draft.exists_perform_of_advance advanced
  obtain ⟨earlier, reported⟩ := exists_reported reached
  have asks : before.asksForNote rules .sustain = true := again
  have events : journal rules start (front ++ .sustain :: rest) =
      earlier ++ .reattack performed.clock ::
        (performed.noteReport true ++ (performed.settle rules true).journal rules rest) := by
    rw [reported.journal, Draft.journal_cons done, asks]
    rfl
  refine ⟨earlier, performed.clock, _, events, reported.reattacks, fun closed => ?_⟩
  have performs := Draft.Performs.of_perform (draft_coherent reached) done
  have stillClosed : performed.chordOpen = false :=
    (performs.chordOpen_of_not_isBracket rfl).trans closed
  have note : performed.noteReport true = [.note performed.clock performed.pending] := by
    rw [Draft.noteReport, Draft.addsNote, stillClosed]
    rfl
  exact ⟨performed.pending, _, by rw [note, List.singleton_append]⟩

/-- **A journal accounts for its score.**  It tells the attacks of all notes, in their order, as
many renewed attacks as there are, and the ignored characters, in their order.  A sustain that makes
a note attack again is reported behind the renewed attacks before it, and if no chord is open, the
next event is the note that is added, at the same time.  The journal ends with the drop of a chord
exactly if one more closing bracket would end the score with a note that is no pause, and it tells
the number of its pitches; there is no such event before.

Events of notes and renewed attacks are for debugging, ignored characters are traced, and the drop
of a chord is a warning. -/
theorem journal_accounts :
    (∀ {τ : Type} [Time τ] (rules : Rules τ) (start : τ) (commands : List Command)
      (notes : Array (Note τ)), compose rules start commands = .ok notes →
      (journal rules start commands).filterMap ScoreEvent.attack? =
        notes.toList.map Note.attack ∧
      (journal rules start commands).countP ScoreEvent.isReattack =
        reattackCount rules start commands ∧
      (∀ front rest before, commands = front ++ .sustain :: rest →
        draft rules start front = .ok before → before.attacksAgain rules .sustain = true →
        ∃ (earlier : List (ScoreEvent τ)) (clock : τ) (later : List (ScoreEvent τ)),
          journal rules start commands = earlier ++ .reattack clock :: later ∧
          earlier.countP ScoreEvent.isReattack = reattackCount rules start front ∧
          (before.chordOpen = false → ∃ pitches more, later = .note clock pitches :: more)) ∧
      (journal rules start commands).filterMap ScoreEvent.ignored? =
        commands.filterMap Command.ignored? ∧
      ∃ (closed : Array (Note τ)) (final : Note τ) (events : List (ScoreEvent τ)),
        compose rules start (commands ++ [.chordEnd]) = .ok closed ∧
        closed.back? = some final ∧
        journal rules start commands =
          events ++ (if final.isSilent then [] else [.chordDropped final.pitches.length]) ∧
        ∀ event ∈ events, event.isChordDropped = false) ∧
    ∀ event : ScoreEvent Float,
      ((Event.score event).severity = .debug ↔
        event.attack?.isSome = true ∨ event.isReattack = true) ∧
      ((Event.score event).severity = .trace ↔ event.ignored?.isSome = true) ∧
      ((Event.score event).severity = .warn ↔ event.isChordDropped = true) := by
  refine ⟨?_, fun event => ?_⟩
  · intro τ _ rules start commands notes composed
    obtain ⟨last, reached, rfl⟩ := compose_eq_ok.mp composed
    obtain ⟨events, reported⟩ := exists_reported reached
    have ends : journal rules start commands = events ++
        (if last.pending.isEmpty then [] else [.chordDropped last.pending.length]) := by
      have whole := reported.journal []
      rwa [List.append_nil, Draft.journal, closingReport_eq reached] at whole
    have quiet {α : Type} (select : ScoreEvent τ → Option α)
        (never : ∀ pitches, select (.chordDropped pitches) = none) :
        (journal rules start commands).filterMap select = events.filterMap select := by
      rw [ends, List.filterMap_append]
      split
      · exact List.append_nil _
      · rw [List.filterMap_cons_none (never _), List.filterMap_nil, List.append_nil]
    refine ⟨?_, ?_, ?_, ?_, _, _, events, compose_concat_chordEnd reached, Array.back?_push, ends,
      ?_⟩
    · rw [quiet _ fun _ => rfl, reported.notes, attacksOf]
    · rw [ends, List.countP_append, reported.reattacks]
      split <;> rfl
    · rintro front rest before rfl reachedFront again
      exact journal_of_attacksAgain reachedFront again reached
    · rw [quiet _ fun _ => rfl, reported.ignored]
    · intro event member
      have notDropped := List.filter_eq_nil_iff.mp reported.noneDropped event member
      exact Bool.eq_false_iff.mpr notDropped
  · cases event <;> simp [Event.severity, ScoreEvent.attack?, ScoreEvent.isReattack,
      ScoreEvent.ignored?, ScoreEvent.isChordDropped]

/-- Outside of a chord a renewed attack has its note at once.  Within one its pitches wait, and the
chord that is dropped at the end is told with them. -/
theorem journal_of_dropped_reattack :
    let rules : Rules Rat := { Rules.exactDefault with sustainLimit := 0, rewindUnits := 1 }
    let commands : List Command := [.press .d, .sustain, .ignored 'ö', .chordStart, .sustain,
      .press .a]
    let events : List (ScoreEvent Rat) := [.note 0 [.plain .d 4], .reattack (3 / 10),
      .note (3 / 10) [.plain .d 4], .ignored 'ö', .reattack (3 / 5)]
    ∃ notes, compose rules 0 commands = .ok notes ∧ notes.toList.map Note.attack = [0, 3 / 10] ∧
      reattackCount rules 0 commands = 2 ∧
      journal rules 0 commands = events ++ [.chordDropped 2] ∧
      ∃ closed final, compose rules 0 (commands ++ [.chordEnd]) = .ok closed ∧
        closed.back? = some final ∧ final.pitches.length = 2 := by
  intro rules commands events
  have composed : compose rules 0 commands =
      .ok #[⟨[.plain .d 4], 0, 3 / 5⟩, ⟨[.plain .d 4], 3 / 10, 3 / 5⟩] := by
    decide +kernel
  have written : journal rules 0 commands = events ++ [.chordDropped 2] := by decide +kernel
  obtain ⟨attacks, reattacks, -, -, closed, final, front, composedClosed, ends, whole,
    noneDropped⟩ := journal_accounts.1 rules 0 commands _ composed
  rw [written] at attacks reattacks whole
  have sounds : final.isSilent = false := by
    refine Bool.eq_false_iff.mpr fun silent => ?_
    rw [if_pos silent, List.append_nil] at whole
    cases noneDropped (.chordDropped 2) (whole ▸ List.mem_concat_self)
  rw [sounds, if_neg Bool.false_ne_true] at whole
  have count := List.singleton_injective (List.append_inj_right' whole rfl)
  exact ⟨_, composed, attacks.symm, reattacks.symm, written, closed, final, composedClosed, ends,
    (ScoreEvent.chordDropped.inj count).symm⟩

end Score

end ChatTune
