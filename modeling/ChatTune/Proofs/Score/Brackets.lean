import ChatTune.Proofs.Score.Runs

/-!
# Brackets

Chords do not nest: a chord is open when the last bracket opened one, however many brackets came
before it.  Pitches wait for their note only while a chord is open, for outside of one every
command that makes pitches wait adds their note at once.  A draft with both properties follows
its commands (`Draft.Follows`), and every draft that a run leaves follows the commands of the run
(`Score.draft_follows`).

Together with coherence this is what is known of a draft whatever commands led to it, and it makes
stray brackets redundant in every context (`Score.draft_invariant`).  A closing bracket without a
chord has nothing to sound and is a pause; an opening bracket within a chord changes nothing.
-/

set_option autoImplicit false

namespace ChatTune

variable {τ : Type}

/-! ## The last bracket -/

namespace Command

/-- Whether a command opens or closes a chord. -/
def isBracket : Command → Bool
  | .chordStart | .chordEnd => true
  | _ => false

/-- The last bracket of a list of commands, if there is one. -/
def lastBracket? (commands : List Command) : Option Command :=
  (commands.filter isBracket).getLast?

theorem lastBracket?_concat_of_isBracket (commands : List Command) {command : Command}
    (bracket : command.isBracket = true) :
    lastBracket? (commands ++ [command]) = some command := by
  rw [lastBracket?, List.filter_append, List.filter_cons_of_pos bracket, List.filter_nil]
  exact List.getLast?_concat

theorem lastBracket?_concat_of_not_isBracket (commands : List Command) {command : Command}
    (other : command.isBracket = false) :
    lastBracket? (commands ++ [command]) = lastBracket? commands := by
  rw [lastBracket?, List.filter_append, List.filter_cons_of_neg (Bool.eq_false_iff.mp other),
    List.filter_nil, List.append_nil, lastBracket?]

theorem not_isBracket_of_modifies {command : Command} (modifies : command.modifies = true) :
    command.isBracket = false := by
  cases command <;> cases modifies <;> rfl

end Command

/-! ## Drafts that follow their commands -/

namespace Draft

open Command (lastBracket?)

/-- **A draft that follows its commands:** a chord is open when the last bracket opened one, and
without an open chord no pitches wait. -/
structure Follows (commands : List Command) (draft : Draft τ) : Prop where
  chordOpen : draft.chordOpen = true ↔ lastBracket? commands = some .chordStart
  pending : draft.chordOpen = false → draft.pending = []

theorem Follows.start (clock : τ) : (start clock).Follows [] where
  chordOpen := by simp only [Draft.start, lastBracket?, List.filter_nil, List.getLast?_nil,
    Bool.false_eq_true, reduceCtorEq]
  pending _ := rfl

variable [Time τ] {rules : Rules τ} {draft performed next : Draft τ} {command : Command}

/-- Only a bracket opens or closes a chord. -/
theorem Performs.chordOpen_of_not_isBracket (performs : draft.Performs rules command performed)
    (other : command.isBracket = false) : performed.chordOpen = draft.chordOpen := by
  cases performs with
  | opens | closes => cases other
  | collects | drops | ignores | misses | lengthens | rewinds | shortens | alters => rfl

/-- A command that asks for no note makes no pitches wait and closes no chord. -/
theorem Performs.of_quiet (performs : draft.Performs rules command performed)
    (quiet : draft.asksForNote rules command = false) :
    performed.pending = draft.pending ∧
      (performed.chordOpen = false → draft.chordOpen = false) := by
  cases performs with
  | opens => exact ⟨rfl, fun closed => (by cases closed)⟩
  | closes | collects | drops => cases quiet
  | ignores | misses | lengthens | shortens | alters => exact ⟨rfl, id⟩
  | rewinds ends beyond =>
      -- A sustain beyond the limit makes pitches wait, but it asks for their note.
      rw [asksForNote, ends.reattacks_eq, decide_eq_false_iff_not] at quiet
      exact absurd beyond quiet

theorem settle_chordOpen (rules : Rules τ) (performed : Draft τ) (asked : Bool) :
    (performed.settle rules asked).chordOpen = performed.chordOpen := by
  rcases settle_cases rules performed asked with ⟨-, same⟩ | ⟨-, added⟩
  · rw [same]
  · rw [added]
    rfl

/-- Pitches that wait for a note have it when no chord is open. -/
theorem settle_pending (rules : Rules τ) {performed : Draft τ}
    (closed : performed.chordOpen = false) : (performed.settle rules true).pending = [] := by
  rw [settle_true_of_closed rules closed]
  rfl

/-- **A command keeps a draft following,** with itself as the last command. -/
theorem Follows.advance {commands : List Command} (follows : draft.Follows commands)
    (coherent : draft.Coherent rules) (advanced : draft.advance rules command = .ok next) :
    next.Follows (commands ++ [command]) := by
  obtain ⟨performed, performs, rfl⟩ := advance_cases coherent advanced
  refine ⟨?_, fun closed => ?_⟩
  · rw [settle_chordOpen]
    cases bracket : command.isBracket with
    | true =>
        rw [Command.lastBracket?_concat_of_isBracket commands bracket, Option.some.injEq]
        cases performs with
        | opens => exact ⟨fun _ => rfl, fun _ => rfl⟩
        | closes => exact ⟨fun opened => (by cases opened), fun same => (by cases same)⟩
        | collects | drops | ignores | lengthens | rewinds | shortens => cases bracket
        | misses modifies =>
            rw [Command.not_isBracket_of_modifies modifies] at bracket
            cases bracket
        | alters ends found =>
            rw [Command.not_isBracket_of_modifies (Command.modifies_of_pitchChange? found)]
              at bracket
            cases bracket
    | false =>
        rw [Command.lastBracket?_concat_of_not_isBracket commands bracket,
          performs.chordOpen_of_not_isBracket bracket]
        exact follows.chordOpen
  · rw [settle_chordOpen] at closed
    cases asked : draft.asksForNote rules command with
    | true => exact settle_pending rules closed
    | false =>
        obtain ⟨same, before⟩ := performs.of_quiet asked
        rw [Draft.settle, addsNote, Bool.false_and, if_neg Bool.false_ne_true, same]
        exact follows.pending (before closed)

/-! ## Stray brackets -/

/-- An opening bracket within a chord changes nothing. -/
theorem advance_chordStart_of_open (chordOpen : draft.chordOpen = true) :
    draft.advance rules .chordStart = .ok draft := by
  have same : { draft with chordOpen := true } = draft := by rw [← chordOpen]
  simp only [advance, perform, same]
  rfl

/-- A closing bracket without a chord sounds what a pause sounds. -/
theorem advance_chordEnd_of_closed (closed : draft.chordOpen = false)
    (nothing : draft.pending = []) :
    draft.advance rules .chordEnd = draft.advance rules .pause := by
  have same : { draft with chordOpen := false } = { draft with pending := [] } := by
    rw [← closed, ← nothing]
  simp only [advance, perform, same]
  rfl

end Draft

/-! ## What a run leaves -/

namespace Score

open Command (lastBracket?)

variable [Time τ] {rules : Rules τ} {start : τ}

/-- **Every draft that a run leaves follows the commands of the run.** -/
theorem draft_follows {commands : List Command} {last : Draft τ}
    (reached : draft rules start commands = .ok last) : last.Follows commands := by
  refine draft_induction (motive := fun commands last => last.Follows commands)
    (.start start) ?_ reached
  intro commands command before after reached follows advanced
  exact follows.advance (draft_coherent reached) advanced

/-- What runs alike from the draft of a front composes alike behind the front. -/
theorem compose_append_congr {front : List Command} {first second : List Command}
    (alike : ∀ middle, draft rules start front = .ok middle →
      middle.run rules first = middle.run rules second) :
    compose rules start (front ++ first) = compose rules start (front ++ second) := by
  have same : draft rules start (front ++ first) = draft rules start (front ++ second) := by
    rw [draft, draft, Draft.run_append, Draft.run_append]
    cases ran : (Draft.start start).run rules front with
    | error operation => rfl
    | ok middle => exact alike middle ran
  rw [compose, compose, same]

/-- **What is known of a draft whatever commands led to it,** and what follows for stray brackets.
The current note is the last one, a chord is open when the last bracket opened one, pitches only
wait within a chord, and sustains are counted up to their limit.  So in every context a closing
bracket without a chord can be replaced by a pause, and an opening bracket within a chord can be
left out. -/
theorem draft_invariant (rules : Rules τ) (start : τ) :
    (∀ commands notes, compose rules start commands = .ok notes →
      ∀ front, front <+: commands → ∃ draft, Score.draft rules start front = .ok draft ∧
        (draft.current = none ↔ draft.notes = #[]) ∧
        (∀ place, draft.current = some place → place + 1 = draft.notes.size) ∧
        (draft.chordOpen = true ↔ lastBracket? front = some .chordStart) ∧
        (draft.chordOpen = false → draft.pending = []) ∧
        draft.sustains ≤ rules.sustainLimit) ∧
      (∀ front back, lastBracket? front ≠ some .chordStart →
        compose rules start (front ++ .chordEnd :: back) =
          compose rules start (front ++ .pause :: back)) ∧
      ∀ front back, lastBracket? front = some .chordStart →
        compose rules start (front ++ .chordStart :: back) =
          compose rules start (front ++ back) := by
  refine ⟨?_, fun front back closed => ?_, fun front back opened => ?_⟩
  · rintro commands notes composed front ⟨rest, rfl⟩
    obtain ⟨last, reachedLast, -⟩ := compose_eq_ok.mp composed
    obtain ⟨middle, reached, -⟩ := draft_append_eq_ok.mp reachedLast
    have coherent := draft_coherent reached
    have follows := draft_follows reached
    refine ⟨middle, reached, ?_, ?_, follows.chordOpen, follows.pending, coherent.sustains⟩
    · rcases coherent.empty_or_endsWith with ⟨noNotes, vacant⟩ | ⟨earlier, last, ends⟩
      · simp only [noNotes, vacant]
      · simp only [ends.current, ends.notes, reduceCtorEq, Array.push_ne_empty]
    · intro place current
      rcases coherent.empty_or_endsWith with ⟨-, vacant⟩ | ⟨earlier, last, ends⟩
      · cases vacant.symm.trans current
      · cases ends.current.symm.trans current
        rw [ends.notes, Array.size_push]
  · refine compose_append_congr fun middle reached => ?_
    have follows := draft_follows reached
    have noChord : middle.chordOpen = false :=
      Bool.eq_false_iff.mpr fun chordOpen => closed (follows.chordOpen.mp chordOpen)
    rw [Draft.run_cons, Draft.run_cons,
      Draft.advance_chordEnd_of_closed noChord (follows.pending noChord)]
  · refine compose_append_congr fun middle reached => ?_
    have chordOpen := (draft_follows reached).chordOpen.mpr opened
    rw [Draft.run_cons, Draft.advance_chordStart_of_open chordOpen]
    rfl

/-- A note that attacks again in an open chord waits there; brackets that are doubled around it
make no difference. -/
theorem compose_doubled_brackets :
    compose .exactDefault 100 (.press .d :: .chordStart :: .replicate 8 .sustain) =
        .ok #[⟨[.plain .d 4], 100, 27 / 10⟩] ∧
      (∃ draft, Score.draft .exactDefault 100 [.press .d, .chordStart] = .ok draft ∧
        draft.chordOpen = true) ∧
      compose .exactDefault 100
          ((.press .d :: .chordStart :: .replicate 8 .sustain) ++ [.chordStart, .chordEnd]) =
        compose .exactDefault 100
          ((.press .d :: .chordStart :: .replicate 8 .sustain) ++ [.chordEnd]) ∧
      compose .exactDefault 100
          ((.press .d :: .chordStart :: .chordEnd :: .replicate 8 .sustain) ++ [.chordEnd]) =
        compose .exactDefault 100
          ((.press .d :: .chordStart :: .chordEnd :: .replicate 8 .sustain) ++ [.pause]) := by
  have composed :
      compose .exactDefault 100 (.press .d :: .chordStart :: .replicate 8 .sustain) =
        .ok #[⟨[.plain .d 4], 100, 27 / 10⟩] := by
    decide +kernel
  obtain ⟨invariant, strayEnd, strayStart⟩ := draft_invariant .exactDefault 100
  obtain ⟨draft, reached, -, -, chordOpen, -⟩ :=
    invariant _ _ composed [.press .d, .chordStart] ⟨_, rfl⟩
  exact ⟨composed, ⟨draft, reached, chordOpen.mpr (by decide)⟩, strayStart _ _ (by decide),
    strayEnd _ _ (by decide)⟩

end Score

end ChatTune
