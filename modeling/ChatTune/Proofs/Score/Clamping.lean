import ChatTune.Proofs.Score.Separation
import Mathlib.Data.List.Infix

/-!
# With a clamp and without one

A clamp takes no more off a duration than the duration has.  So it takes off no more than is taken
off without a clamp, and as nothing else depends on it, a note under the clamp lasts at least as
long as the same note without it.  That stays so after the two have diverged: a sustain lengthens
both by as much, and a shortening takes no more off the longer one (`Likeness.outlasting`).

Where a duration has enough for the whole step, the clamp makes no difference to it.  A score whose
durations never fall below zero without a clamp, from its first command on, is therefore the same
under the clamp, with its attacks (`Score.draft_clamped`).  That its last durations are not below
zero is not enough, because a sustain can make up for what a clamp would have kept.
-/

set_option autoImplicit false

namespace ChatTune

/-- The same rules with a clamp. -/
def Rules.clamped {τ : Type} (rules : Rules τ) : Rules τ := { rules with clampShortening := true }

/-- The same rules without a clamp. -/
def Rules.unclamped {τ : Type} (rules : Rules τ) : Rules τ :=
  { rules with clampShortening := false }

variable {rules : Rules Rat}

/-! ## Steps -/

/-- A clamped step is the step that is set, but no more than there is above zero. -/
theorem Draft.stepFor_clamped (rules : Rules Rat) (duration : Rat) :
    stepFor rules.clamped duration = min rules.shortenStep (max 0 duration) := by
  rw [min_def_lt, max_def_lt]
  rfl

theorem Draft.stepFor_unclamped (rules : Rules Rat) (duration : Rat) :
    stepFor rules.unclamped duration = rules.shortenStep := rfl

/-- Where there is enough for the step, the clamp makes no difference. -/
theorem Draft.stepFor_clamped_of_le {duration : Rat} (enough : rules.shortenStep ≤ duration) :
    stepFor rules.clamped duration = stepFor rules.unclamped duration := by
  rw [stepFor_clamped, stepFor_unclamped]
  exact min_eq_left (le_max_of_le_right enough)

/-! ## Longer notes -/

namespace Likeness

/-- Notes of which the first lasts at least as long as the second. -/
def outlasting : Likeness Rat where
  notes longer shorter := shorter.duration ≤ longer.duration
  pitches _ _ := True
  clocks _ _ := True

theorem respected_outlasting (rules : Rules Rat) :
    outlasting.Respected rules.clamped rules.unclamped where
  sustainLimit := rfl
  nothing := trivial
  collects _ _ := trivial
  adds _ _ := le_refl rules.noteLength
  passes _ := trivial
  rewinds _ := trivial
  copies _ := trivial
  lengthens outlasts := add_le_add_left outlasts rules.noteLength
  shortens {note otherNote} outlasts := by
    refine sub_le_sub outlasts ?_
    rw [Draft.stepFor_clamped, Draft.stepFor_unclamped]
    exact min_le_left _ _
  hastens _ _ := trivial

theorem respectedByPitches_outlasting {other : Rules Rat} :
    outlasting.RespectedByPitches rules other := by
  intro command change otherChange note otherNote changed otherChanged found otherFound outlasts
    done otherDone
  simp only [outlasting] at outlasts ⊢
  rwa [Note.duration_of_changeLast done, Note.duration_of_changeLast otherDone]

end Likeness

/-- Notes that last longer last longer in total. -/
theorem summedDuration_le {longer shorter : Array (Note Rat)}
    (outlast : List.Forall₂ Likeness.outlasting.notes longer.toList shorter.toList) :
    summedDuration shorter ≤ summedDuration longer := by
  have adds : Relator.LiftFun (· ≤ ·)
      (Relator.LiftFun (flip Likeness.outlasting.notes) (· ≤ ·))
      (fun (total : Rat) (note : Note Rat) => total + note.duration)
      (fun (total : Rat) (note : Note Rat) => total + note.duration) :=
    fun _ _ totals _ _ outlasts => add_le_add totals outlasts
  have folded := List.rel_foldl adds (le_refl (Time.emptySum : Rat)) outlast.flip
  rwa [Array.foldl_toList, Array.foldl_toList] at folded

/-! ## Notes that are the same -/

namespace Draft

variable {draft next : Draft Rat} {command : Command}

/-- Only shortenings depend on the clamp. -/
theorem advance_clamped_of_ne (other : command ≠ .shorten) (draft : Draft Rat) :
    draft.advance rules.clamped command = draft.advance rules.unclamped command := by
  cases command with
  | shorten => exact absurd rfl other
  | _ => rfl

/-- **A command after which no duration is below zero** does the same under the clamp. -/
theorem advance_clamped (coherent : draft.Coherent rules.unclamped)
    (advanced : draft.advance rules.unclamped command = .ok next)
    (nonneg : ∀ note ∈ next.notes, 0 ≤ note.duration) :
    draft.advance rules.clamped command = .ok next := by
  by_cases shortens : command = .shorten
  · rw [shortens, advance_shorten] at advanced ⊢
    cases advanced
    rcases coherent.empty_or_endsWith with ⟨-, vacant⟩ | ⟨earlier, last, ends⟩
    · simp only [Draft.shorten, vacant]
    · rw [ends.shorten] at nonneg
      have enough : rules.shortenStep ≤ last.duration :=
        sub_nonneg.mp (Array.forall_mem_push.mp nonneg).1
      rw [ends.shorten, ends.shorten, stepFor_clamped_of_le enough]
  · rwa [advance_clamped_of_ne shortens]

end Draft

namespace Score

theorem accept_eq_ok {notes : Array (Note Rat)} :
    accept rules notes = .ok () ↔ ¬ rules.longestTotal ≤ summedDuration notes := by
  simp only [accept, ite_eq_right_iff, reduceCtorEq, imp_false]

/-- No front of the commands leaves a duration below zero. -/
def StaysNonneg (rules : Rules Rat) (start : Rat) (commands : List Command) : Prop :=
  ∀ front, front <+: commands → ∀ notes, compose rules start front = .ok notes →
    ∀ note ∈ notes, 0 ≤ note.duration

theorem staysNonneg_iff {start : Rat} {commands : List Command} :
    StaysNonneg rules start commands ↔
      ∀ front ∈ commands.inits, ∀ notes ∈ (compose rules start front).toOption,
        ∀ note ∈ notes, 0 ≤ note.duration := by
  simp only [StaysNonneg, List.mem_inits, Option.mem_def]
  refine forall₂_congr fun front first => forall_congr' fun notes => ?_
  cases compose rules start front with
  | error operation => simp only [Except.toOption, reduceCtorEq, false_implies]
  | ok composed => simp only [Except.toOption, Except.ok.injEq, Option.some.injEq]

instance (start : Rat) (commands : List Command) : Decidable (StaysNonneg rules start commands) :=
  decidable_of_iff _ staysNonneg_iff.symm

/-- **Commands that leave no duration below zero** leave the same draft under the clamp. -/
theorem draft_clamped {start : Rat} {commands : List Command} {last : Draft Rat}
    (reached : draft rules.unclamped start commands = .ok last)
    (nonneg : StaysNonneg rules.unclamped start commands) :
    draft rules.clamped start commands = .ok last := by
  refine draft_induction (motive := fun commands last =>
    StaysNonneg rules.unclamped start commands → draft rules.clamped start commands = .ok last)
    (fun _ => rfl) ?_ reached nonneg
  intro commands command before after reached kept advanced nonneg
  have earlier : StaysNonneg rules.unclamped start commands :=
    fun front first => nonneg front (first.trans (List.prefix_append _ _))
  have afterNonneg := nonneg _ (List.prefix_refl _) after.notes
    (compose_eq_ok.mpr ⟨after, draft_concat_eq_ok.mpr ⟨before, reached, advanced⟩, rfl⟩)
  exact draft_concat_eq_ok.mpr
    ⟨before, kept earlier, Draft.advance_clamped (draft_coherent reached) advanced afterNonneg⟩

/-- **A clamp only lengthens.**  A list of commands composes under a clamp exactly if it does
without one.  Both scores have as many notes, with the same pitches, and none lasts longer without
the clamp; so a score that is accepted under the clamp is accepted without it.  If no front of the
commands leaves a duration below zero without the clamp, both scores are the same. -/
theorem clamp_only_lengthens (rules : Rules Rat) (start : Rat) (commands : List Command) :
    ((∃ longer, compose rules.clamped start commands = .ok longer) ↔
      ∃ shorter, compose rules.unclamped start commands = .ok shorter) ∧
    ∀ longer shorter, compose rules.clamped start commands = .ok longer →
      compose rules.unclamped start commands = .ok shorter →
        longer.size = shorter.size ∧
        longer.map Note.pitches = shorter.map Note.pitches ∧
        (∀ (place : Nat) (long short : Note Rat), longer[place]? = some long →
          shorter[place]? = some short → short.duration ≤ long.duration) ∧
        (accept rules.clamped longer = .ok () → accept rules.unclamped shorter = .ok ()) ∧
        (StaysNonneg rules.unclamped start commands → longer = shorter) := by
  have limit : rules.clamped.sustainLimit = rules.unclamped.sustainLimit := rfl
  have lowest : rules.clamped.lowestOctave = rules.unclamped.lowestOctave := rfl
  have highest : rules.clamped.highestOctave = rules.unclamped.highestOctave := rfl
  refine ⟨⟨?_, ?_⟩, ?_⟩
  · rintro ⟨longer, composed⟩
    exact exists_compose limit lowest highest start composed
  · rintro ⟨shorter, composed⟩
    exact exists_compose limit.symm lowest.symm highest.symm start composed
  intro longer shorter composed unclampedComposed
  have samePitches := compose_alike (Likeness.respected_inPitches limit)
    (Likeness.respectedByPitches_inPitches lowest highest) trivial composed unclampedComposed
  have outlast := compose_alike (Likeness.respected_outlasting rules)
    Likeness.respectedByPitches_outlasting trivial composed unclampedComposed
  refine ⟨outlast.length_eq, map_eq_map_of_forall₂ samePitches, ?_, ?_, ?_⟩
  · intro place long short found foundShort
    obtain ⟨inside, rfl⟩ := Array.getElem?_eq_some_iff.mp found
    obtain ⟨insideShort, rfl⟩ := Array.getElem?_eq_some_iff.mp foundShort
    exact outlast.get inside insideShort
  · intro accepted
    have short : ¬ rules.longestTotal ≤ summedDuration longer := accept_eq_ok.mp accepted
    exact accept_eq_ok.mpr fun long => short (long.trans (summedDuration_le outlast))
  · intro nonneg
    obtain ⟨last, reached, rfl⟩ := compose_eq_ok.mp unclampedComposed
    exact Except.ok.inj (composed.symm.trans
      (compose_eq_ok.mpr ⟨last, draft_clamped reached nonneg, rfl⟩))

/-- Five shortenings take more off a note than it has, although a sustain makes up for it: under the
clamp it lasts longer.  Three shortenings do not. -/
theorem clamp_lengthens_emptied_note :
    let emptied : List Command := .press .d :: List.replicate 5 .shorten ++ [.sustain, .press .a]
    let spared : List Command := .press .d :: List.replicate 3 .shorten ++ [.sustain, .press .a]
    let clamped : Rules Rat := Rules.exactDefault.clamped
    let unclamped : Rules Rat := Rules.exactDefault.unclamped
    (∃ longer shorter, compose clamped 100 emptied = .ok longer ∧
      compose unclamped 100 emptied = .ok shorter ∧
      longer.map Note.duration = #[3 / 10, 3 / 10] ∧ shorter.map Note.duration = #[1 / 5, 3 / 10] ∧
      longer.map Note.pitches = shorter.map Note.pitches ∧ accept unclamped shorter = .ok ()) ∧
    ∃ longer shorter, compose clamped 100 spared = .ok longer ∧
      compose unclamped 100 spared = .ok shorter ∧ StaysNonneg unclamped 100 spared ∧
      longer = shorter := by
  intro emptied spared clamped unclamped
  constructor
  · have composed : compose clamped 100 emptied =
        .ok #[⟨[.plain .d 4], 100, 3 / 10⟩, ⟨[.plain .a 4], 1003 / 10, 3 / 10⟩] := by
      decide +kernel
    have unclampedComposed : compose unclamped 100 emptied =
        .ok #[⟨[.plain .d 4], 100, 1 / 5⟩, ⟨[.plain .a 4], 501 / 5, 3 / 10⟩] := by
      decide +kernel
    obtain ⟨-, pitches, -, accepted, -⟩ :=
      (clamp_only_lengthens .exactDefault 100 emptied).2 _ _ composed unclampedComposed
    exact ⟨_, _, composed, unclampedComposed, by decide +kernel, by decide +kernel, pitches,
      accepted (accept_eq_ok.mpr (by decide +kernel))⟩
  · have nonneg : StaysNonneg unclamped 100 spared := by decide +kernel
    obtain ⟨both, same⟩ := clamp_only_lengthens .exactDefault 100 spared
    obtain ⟨shorter, unclampedComposed⟩ : ∃ shorter, compose unclamped 100 spared = .ok shorter :=
      ⟨_, by rfl⟩
    obtain ⟨longer, composed⟩ := both.mpr ⟨shorter, unclampedComposed⟩
    obtain ⟨-, -, -, -, equal⟩ := same _ _ composed unclampedComposed
    exact ⟨longer, shorter, composed, unclampedComposed, nonneg, equal nonneg⟩

end Score

end ChatTune
