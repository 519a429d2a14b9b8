import ChatTune.Proofs.Score.Durations
import ChatTune.Proofs.Time.Floating
import ChatTune.Settings.Loading

/-!
# What the limit lets through

A score is refused when the limit is no more than its total.  In floating seconds this is not the
same as being accepted when the total is below the limit: a total that is no number is neither.

Durations themselves are always numbers, because the lengths that are added and the steps that are
taken off are finite (`Rules.keeps_numbers`).  But a duration can grow into an infinity, or be
shortened into the negative one, and a sum in which both of them meet is no number.  This is the
only way past the limit (`Score.below_limit_iff`), and a clamp closes it.  Without a clamp it is
open for settings that a player can load (`Score.not_every_total_below_limit`).
-/

set_option autoImplicit false

namespace ChatTune

variable {rules : Rules Float}

/-! ## Steps -/

/-- A clamped step is between zero and what there is. -/
theorem Draft.stepFor_between (clamped : rules.clampShortening = true)
    (step : 0 ≤ rules.shortenStep) {duration : Float} (nonneg : 0 ≤ duration) :
    0 ≤ stepFor rules duration ∧ stepFor rules duration ≤ duration := by
  rcases stepFor_cases rules duration with ⟨less, same⟩ | ⟨-, -, same⟩ | same <;> rw [same]
  · have less := (less clamped).resolve_right (Floating.not_lt_of_le step)
    exact ⟨step, Floating.le_of_lt less⟩
  · exact ⟨nonneg, Floating.le_refl (Floating.isNaN_of_le nonneg).2⟩
  · exact ⟨Floating.le_refl rfl, nonneg⟩

/-- From what is a number only finite steps are taken off. -/
theorem Draft.stepFor_isFinite (step : 0 ≤ rules.shortenStep)
    (finite : rules.shortenStep.isFinite = true) {duration : Float}
    (number : duration.isNaN = false) : (stepFor rules duration).isFinite = true := by
  rcases stepFor_cases rules duration with ⟨-, same⟩ | ⟨positive, more, same⟩ | same <;> rw [same]
  · exact finite
  · have le : duration ≤ rules.shortenStep :=
      (Floating.lt_or_le (Floating.isNaN_of_le step).2 number).resolve_left more
    exact Floating.isFinite_of_le (Floating.le_of_lt positive) le finite
  · rfl

/-! ## Durations -/

section Durations

variable (sound : rules.defect? = none) (step : rules.shortenStep.isFinite = true)

include sound step

/-- Whether there is a clamp or not, durations stay numbers. -/
theorem Rules.keeps_numbers (length : rules.noteLength.isFinite = true) :
    rules.Keeps fun duration => duration.isNaN = false where
  length := (Floating.isFinite_iff.mp length).1
  lengthens duration number := by
    rw [← Bool.not_eq_true, Floating.isNaN_add, number, (Floating.isFinite_iff.mp length).1,
      (Floating.isFinite_iff.mp length).2]
    simp
  shortens duration number := by
    have finite := Draft.stepFor_isFinite (rules.defect?_eq_none_iff.mp sound).2.1 step number
    rwa [← Bool.not_eq_true, Floating.isNaN_sub finite, Bool.not_eq_true]

/-- Under a clamp durations stay at zero or above. -/
theorem Rules.keeps_zero_or_above (clamped : rules.clampShortening = true) :
    rules.Keeps fun duration => 0 ≤ duration where
  length := Floating.le_of_lt (rules.defect?_eq_none_iff.mp sound).1
  lengthens duration nonneg :=
    Floating.add_nonneg nonneg (Floating.le_of_lt (rules.defect?_eq_none_iff.mp sound).1)
  shortens duration nonneg := by
    have positive := (rules.defect?_eq_none_iff.mp sound).2.1
    have finite := Draft.stepFor_isFinite positive step (Floating.isNaN_of_le nonneg).2
    obtain ⟨above, below⟩ := Draft.stepFor_between clamped positive nonneg
    exact Floating.sub_nonneg above finite below

end Durations

/-! ## Totals -/

/-- **Both infinities meet in a total:** the durations of the notes that come first add up to one of
them, and the next duration is the other one. -/
def InfinitiesMeet (notes : List (Note Float)) : Prop :=
  ∃ earlier next, earlier ++ [next] <+: notes ∧ (summedDuration earlier.toArray).isInf = true ∧
    next.duration.isInf = true ∧ summedDuration earlier.toArray ≠ next.duration

theorem infinitiesMeet_concat {earlier : List (Note Float)} {last : Note Float} :
    InfinitiesMeet (earlier ++ [last]) ↔ InfinitiesMeet earlier ∨
      (summedDuration earlier.toArray).isInf = true ∧ last.duration.isInf = true ∧
        summedDuration earlier.toArray ≠ last.duration := by
  constructor
  · rintro ⟨front, next, first, meet⟩
    rcases List.prefix_concat_iff.mp first with whole | inside
    · obtain ⟨rfl, rfl⟩ := List.append_singleton_inj.mp whole
      exact .inr meet
    · exact .inl ⟨front, next, inside, meet⟩
  · rintro (⟨front, next, first, meet⟩ | meet)
    · exact ⟨front, next, first.trans (List.prefix_append _ _), meet⟩
    · exact ⟨earlier, last, List.prefix_refl _, meet⟩

theorem summedDuration_concat (earlier : List (Note Float)) (last : Note Float) :
    summedDuration (earlier ++ [last]).toArray =
      summedDuration earlier.toArray + last.duration := by
  rw [← List.push_toArray, summedDuration_push]

/-- **A total of numbers is no number exactly if both infinities meet in it.** -/
theorem isNaN_summedDuration_iff {notes : List (Note Float)}
    (numbers : ∀ note ∈ notes, note.duration.isNaN = false) :
    (summedDuration notes.toArray).isNaN = true ↔ InfinitiesMeet notes := by
  induction notes using List.reverseRecOn with
  | nil =>
      refine iff_of_false (by decide) ?_
      rintro ⟨earlier, next, first, -⟩
      exact List.append_ne_nil_of_right_ne_nil _ (List.cons_ne_nil _ _) (List.prefix_nil.mp first)
  | append_singleton earlier last ih =>
      obtain ⟨others, number⟩ := List.forall_mem_append.mp numbers
      have number : last.duration.isNaN = false := number last (List.mem_singleton_self last)
      rw [summedDuration_concat, Floating.isNaN_add, ih others, infinitiesMeet_concat, number]
      simp only [Bool.false_eq_true, false_or]

/-- A total of durations at zero or above is there. -/
theorem summedDuration_nonneg {notes : List (Note Float)}
    (nonneg : ∀ note ∈ notes, 0 ≤ note.duration) : 0 ≤ summedDuration notes.toArray := by
  induction notes using List.reverseRecOn with
  | nil => decide
  | append_singleton earlier last ih =>
      obtain ⟨others, above⟩ := List.forall_mem_append.mp nonneg
      rw [summedDuration_concat]
      exact Floating.add_nonneg (ih others) (above last (List.mem_singleton_self last))

/-- Durations at zero or above never let both infinities meet. -/
theorem not_infinitiesMeet {notes : List (Note Float)}
    (nonneg : ∀ note ∈ notes, 0 ≤ note.duration) : ¬ InfinitiesMeet notes := by
  rintro ⟨earlier, next, first, left, right, differ⟩
  obtain ⟨before, also⟩ := List.forall_mem_append.mp
    fun note member => nonneg note (first.subset member)
  have above : 0 ≤ next.duration := also next (List.mem_singleton_self next)
  exact differ (Floating.parts_injective
    ((Floating.parts_of_isInf (summedDuration_nonneg before) left).trans
      (Floating.parts_of_isInf above right).symm))

/-! ## The limit -/

-- Loaded settings can then be compared with the ones that are meant.
deriving instance DecidableEq for Rules, Settings

/-- Rules without a clamp, under which two lengths already add up to an infinity. -/
def Rules.vast : Rules Float :=
  { Rules.default with noteLength := 1e308, shortenStep := 1e308, clampShortening := false }

namespace Score

/-- The first note is sustained into the infinity, the second shortened into the negative one. -/
theorem ofBody_vast : ofBody .vast 0 "a~a///".toList =
    .ok #[⟨[.plain .d 4], 0, 1 / 0⟩, ⟨[.plain .d 4], 1 / 0, -1 / 0⟩] := by
  decide +kernel

/-- **What the limit lets through.**  Under rules without a defect and with finite lengths, the
total of an accepted score is below the limit unless both infinities meet in it: then it is no
number, and the score is accepted all the same.  Under a clamp they never meet. -/
theorem below_limit_iff (rules : Rules Float) (start : Float) (sound : rules.defect? = none)
    (length : rules.noteLength.isFinite = true) (step : rules.shortenStep.isFinite = true)
    {body : List Char} {notes : Array (Note Float)}
    (accepted : ofBody rules start body = .ok notes) :
    (summedDuration notes < rules.longestTotal ↔ ¬ InfinitiesMeet notes.toList) ∧
      ((summedDuration notes).isNaN = true ↔ InfinitiesMeet notes.toList) ∧
      (rules.clampShortening = true → ¬ InfinitiesMeet notes.toList) := by
  obtain ⟨commands, -, composed, short⟩ := ofBody_eq_ok.mp accepted
  obtain ⟨last, reached, rfl⟩ := compose_eq_ok.mp composed
  have numbers := draft_durations (rules.keeps_numbers sound step length) reached
  have unordered : (summedDuration last.notes).isNaN = true ↔ InfinitiesMeet last.notes.toList :=
    isNaN_summedDuration_iff fun note member => numbers note (Array.mem_toList_iff.mp member)
  refine ⟨⟨fun below meet => ?_, fun apart => ?_⟩, unordered, fun clamped => ?_⟩
  · have number := (Floating.isNaN_of_le (Floating.le_of_lt below)).1
    exact absurd (unordered.mpr meet) (by rw [number]; exact Bool.false_ne_true)
  · have number : (summedDuration last.notes).isNaN = false :=
      Bool.not_eq_true _ ▸ unordered.not.mpr apart
    have positive := (rules.defect?_eq_none_iff.mp sound).2.2.1
    have limit := (Floating.isNaN_of_le (Floating.le_of_lt positive)).2
    exact (Floating.lt_or_le number limit).resolve_right short
  · have nonneg := draft_durations (rules.keeps_zero_or_above sound step clamped) reached
    exact not_infinitiesMeet fun note member => nonneg note (Array.mem_toList_iff.mp member)

/-- Both infinities meet in a score that is accepted. -/
theorem infinities_meet_in_accepted_score :
    (Rules.vast.defect? = none ∧ Rules.vast.noteLength.isFinite = true ∧
      Rules.vast.shortenStep.isFinite = true) ∧
    ∃ notes, ofBody .vast 0 "a~a///".toList = .ok notes ∧ InfinitiesMeet notes.toList ∧
      ¬ summedDuration notes < Rules.vast.longestTotal := by
  have sound : Rules.vast.defect? = none := by decide +kernel
  have length : Rules.vast.noteLength.isFinite = true := by decide +kernel
  have step : Rules.vast.shortenStep.isFinite = true := by decide +kernel
  obtain ⟨below, unordered, -⟩ := below_limit_iff .vast 0 sound length step ofBody_vast
  have meet := unordered.mp (by decide +kernel)
  exact ⟨⟨sound, length, step⟩, _, ofBody_vast, meet, fun less => below.mp less meet⟩

/-- **Not every total is below the limit:** the rules of that score can be loaded. -/
theorem not_every_total_below_limit :
    ¬ ∀ (source : Settings.Source) (settings : Settings) (start : Float) (body : List Char)
      (notes : Array (Note Float)), Settings.ofSource source = .ok settings →
      start.isFinite = true → ofBody settings.rules start body = .ok notes →
      summedDuration notes < settings.rules.longestTotal := by
  intro every
  have loaded : Settings.ofSource (.content
      ("\x7b\"sequencer\":\x7b\"note_length\":1e308,\"shorten_step\":1e308," ++
        "\"clamp_shortening\":false\x7d\x7d").toUTF8.data.toList) = .ok ⟨.vast, .default⟩ := by
    decide +kernel
  exact absurd (every _ _ 0 _ _ loaded rfl ofBody_vast) (by decide +kernel)

end Score

end ChatTune
