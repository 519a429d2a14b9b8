import ChatTune.Proofs.Score.Steps
import ChatTune.Score.Compose
import Mathlib.Data.List.Induction

/-!
# Runs of commands

A run of two lists of commands is a run of the first and then of the second
(`Draft.run_append`), so that a run is read from its front or from its last command.  What every
command of a list keeps is kept by their run (`Draft.run_induction`).  What holds of the empty draft
and is kept by every command holds of every draft that a run leaves (`Score.draft_induction`); all
of these drafts are coherent (`Score.draft_coherent`).

What is counted or asked of the single commands of a run is counted or asked of its steps, which are
listed once (`Draft.steps`).  The steps of two lists are those of the first and then those of the
second on what the first one leaves (`Draft.steps_append`).
-/

set_option autoImplicit false

namespace ChatTune

/-- The default rules in exact seconds. -/
def Rules.exactDefault : Rules Rat where
  noteLength := 3 / 10
  shortenStep := 2 / 25
  sustainLimit := 7
  rewindUnits := 7
  highestOctave := 7
  lowestOctave := 0
  longestTotal := 10
  clampShortening := true

variable {τ : Type} [Time τ] {rules : Rules τ}

namespace Draft

theorem run_cons (draft : Draft τ) (command : Command) (commands : List Command) :
    draft.run rules (command :: commands) =
      draft.advance rules command >>= fun next => next.run rules commands := by
  simp only [run, List.foldlM_cons]

theorem run_append (draft : Draft τ) (before after : List Command) :
    draft.run rules (before ++ after) =
      draft.run rules before >>= fun middle => middle.run rules after := by
  simp only [run, List.foldlM_append]

/-- A run succeeds when its first command does and the others do on what that one leaves. -/
theorem run_cons_eq_ok {draft next : Draft τ} {command : Command} {commands : List Command} :
    draft.run rules (command :: commands) = .ok next ↔
      ∃ middle, draft.advance rules command = .ok middle ∧
        middle.run rules commands = .ok next := by
  rw [run_cons, bind_eq_ok]

/-- A run of two lists succeeds when the second does on what the first one leaves. -/
theorem run_append_eq_ok {draft next : Draft τ} {before after : List Command} :
    draft.run rules (before ++ after) = .ok next ↔
      ∃ middle, draft.run rules before = .ok middle ∧ middle.run rules after = .ok next := by
  rw [run_append, bind_eq_ok]

/-- A run succeeds when it succeeds up to its last command and that one succeeds. -/
theorem run_concat_eq_ok {draft next : Draft τ} {commands : List Command} {command : Command} :
    draft.run rules (commands ++ [command]) = .ok next ↔
      ∃ middle, draft.run rules commands = .ok middle ∧
        middle.advance rules command = .ok next := by
  rw [run_append_eq_ok]
  simp only [run, List.foldlM_cons, List.foldlM_nil, bind_pure]

/-- **What every command of a list keeps, their run keeps.** -/
theorem run_induction {motive : Draft τ → Prop} {commands : List Command}
    (keeps : ∀ command ∈ commands, ∀ before after : Draft τ, motive before →
      before.advance rules command = .ok after → motive after)
    {draft next : Draft τ} (holds : motive draft)
    (ran : draft.run rules commands = .ok next) : motive next := by
  induction commands generalizing draft with
  | nil =>
      cases ran
      exact holds
  | cons command commands ih =>
      obtain ⟨middle, advanced, ran⟩ := run_cons_eq_ok.mp ran
      obtain ⟨first, others⟩ := List.forall_mem_cons.mp keeps
      exact ih others (first draft middle holds advanced) ran

/-- A run leaves a coherent draft coherent. -/
theorem Coherent.run {draft next : Draft τ} (coherent : draft.Coherent rules)
    {commands : List Command} (ran : draft.run rules commands = .ok next) :
    next.Coherent rules :=
  run_induction (fun _ _ _ _ before advanced => before.advance advanced) coherent ran

/-! ## The steps of a run -/

/-- **A step of a run:** the draft that a command finds, the command, and what comes of it. -/
structure Step (τ : Type) where
  before : Draft τ
  command : Command
  result : Except Overflow (Draft τ)

/-- **The steps of a run.**  A command that overflows makes the last one. -/
def steps (rules : Rules τ) (draft : Draft τ) : List Command → List (Step τ)
  | [] => []
  | command :: commands =>
    ⟨draft, command, draft.advance rules command⟩ ::
      match draft.advance rules command with
      | .error _ => []
      | .ok next => next.steps rules commands

theorem steps_cons {draft next : Draft τ} {command : Command}
    (advanced : draft.advance rules command = .ok next) (commands : List Command) :
    draft.steps rules (command :: commands) =
      ⟨draft, command, .ok next⟩ :: next.steps rules commands := by
  simp only [steps, advanced]

theorem steps_cons_of_error {draft : Draft τ} {command : Command} {operation : Overflow}
    (overflows : draft.advance rules command = .error operation) (commands : List Command) :
    draft.steps rules (command :: commands) = [⟨draft, command, .error operation⟩] := by
  simp only [steps, overflows]

theorem steps_singleton (draft : Draft τ) (command : Command) :
    draft.steps rules [command] = [⟨draft, command, draft.advance rules command⟩] := by
  cases advanced : draft.advance rules command with
  | error operation => exact steps_cons_of_error advanced []
  | ok next => exact steps_cons advanced []

/-- **The steps of two lists** are those of the first, and those of the second on what the first
one leaves. -/
theorem steps_append {draft middle : Draft τ} {front : List Command}
    (ran : draft.run rules front = .ok middle) (rest : List Command) :
    draft.steps rules (front ++ rest) = draft.steps rules front ++ middle.steps rules rest := by
  induction front generalizing draft with
  | nil =>
      cases ran
      rfl
  | cons command front ih =>
      obtain ⟨next, advanced, ran⟩ := run_cons_eq_ok.mp ran
      rw [List.cons_append, steps_cons advanced, steps_cons advanced, ih ran, List.cons_append]

theorem command_mem_of_mem_steps {draft : Draft τ} {commands : List Command} {step : Step τ}
    (member : step ∈ draft.steps rules commands) : step.command ∈ commands := by
  induction commands generalizing draft with
  | nil => cases member
  | cons command commands ih =>
      cases advanced : draft.advance rules command with
      | error operation =>
          rw [steps_cons_of_error advanced, List.mem_singleton] at member
          exact member ▸ List.mem_cons_self
      | ok next =>
          rw [steps_cons advanced] at member
          rcases List.mem_cons.mp member with rfl | later
          · exact List.mem_cons_self
          · exact List.mem_cons_of_mem _ (ih later)

end Draft

namespace Score

variable {start : τ}

/-- The draft of a longer list is reached over the draft of its front. -/
theorem draft_append_eq_ok {before after : List Command} {last : Draft τ} :
    draft rules start (before ++ after) = .ok last ↔
      ∃ middle, draft rules start before = .ok middle ∧ middle.run rules after = .ok last :=
  Draft.run_append_eq_ok

theorem draft_concat_eq_ok {commands : List Command} {command : Command} {next : Draft τ} :
    draft rules start (commands ++ [command]) = .ok next ↔
      ∃ middle, draft rules start commands = .ok middle ∧
        middle.advance rules command = .ok next :=
  Draft.run_concat_eq_ok

/-- A list of commands has the notes of the draft that it leaves. -/
theorem compose_eq_ok {commands : List Command} {notes : Array (Note τ)} :
    compose rules start commands = .ok notes ↔
      ∃ last, draft rules start commands = .ok last ∧ last.notes = notes := by
  rw [compose, bind_eq_ok]
  simp only [pure, Except.pure, Except.ok.injEq]

/-- A text has the notes of its commands, if they are not too long. -/
theorem ofBody_eq_ok {body : List Char} {notes : Array (Note τ)} :
    ofBody rules start body = .ok notes ↔
      ∃ commands, Notation.parse body = .ok commands ∧
        compose rules start commands = .ok notes ∧
        ¬ rules.longestTotal ≤ summedDuration notes := by
  unfold ofBody commandsOf
  cases Notation.parse body with
  | error fault => simp only [reduceCtorEq, false_and, exists_false]
  | ok commands =>
      dsimp only
      cases composed : compose rules start commands with
      | error operation =>
          simp only [reduceCtorEq, Except.ok.injEq, false_iff, not_exists]
          rintro _ ⟨rfl, same, -⟩
          cases composed.symm.trans same
      | ok found =>
          by_cases tooLong : rules.longestTotal ≤ summedDuration found
          · simp only [accept, if_pos tooLong, reduceCtorEq, false_iff, not_exists]
            rintro _ ⟨parsed, same, short⟩
            cases parsed
            cases composed.symm.trans same
            exact short tooLong
          · simp only [accept, if_neg tooLong, Except.ok.injEq]
            constructor
            · rintro rfl
              exact ⟨commands, rfl, composed, tooLong⟩
            · rintro ⟨_, rfl, same, -⟩
              exact Except.ok.inj (composed.symm.trans same)

/-- **Induction over a run.**  What holds of the empty draft, and after a command if it holds
before, holds of every draft that commands leave. -/
theorem draft_induction {motive : List Command → Draft τ → Prop}
    (empty : motive [] (Draft.start start))
    (step : ∀ commands command before after, draft rules start commands = .ok before →
      motive commands before → before.advance rules command = .ok after →
      motive (commands ++ [command]) after)
    {commands : List Command} {last : Draft τ}
    (reached : draft rules start commands = .ok last) : motive commands last := by
  induction commands using List.reverseRecOn generalizing last with
  | nil =>
      cases reached
      exact empty
  | append_singleton commands command ih =>
      obtain ⟨before, earlier, advanced⟩ := draft_concat_eq_ok.mp reached
      exact step commands command before last earlier (ih earlier) advanced

/-- **Every draft that a run leaves is coherent.** -/
theorem draft_coherent {commands : List Command} {last : Draft τ}
    (reached : draft rules start commands = .ok last) : last.Coherent rules :=
  (Draft.Coherent.start rules start).run reached

end Score

end ChatTune
