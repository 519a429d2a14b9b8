import ChatTune.Proofs.Score.Likeness
import ChatTune.Proofs.Score.Octaves

/-!
# Where octave commands move a pitch

A command for the octave moves the last pitch of the last note one octave on, but not beyond the
bound on this side.  A pitch that is beyond the bound already goes back to it, against the direction
of the command: `+` lowers a pitch exactly if it is above the highest octave, and `-` raises one
exactly if it is below the lowest octave.

Rules without a defect have bounds in order, but the octaves at which notes begin can be outside of
them.  So the direction is kept in every score exactly if the highest octave is the fifth or above,
and the lowest the fourth or below (`Score.octaves_move_in_direction_iff`).  Under other bounds that
can be set it is not (`Score.not_octaves_move_in_direction`).
-/

set_option autoImplicit false

namespace ChatTune

variable {τ : Type}

/-! ## Comparing scores pitch by pitch -/

/-- Notes whose pitches are related one by one to those of other notes. -/
def PitchesRelated (related : Pitch → Pitch → Prop) (notes others : Array (Note τ)) : Prop :=
  List.Forall₂ (fun note other => List.Forall₂ related note.pitches other.pitches)
    notes.toList others.toList

/-- The last pitch of the last note. -/
def lastPitch? (notes : Array (Note τ)) : Option Pitch :=
  notes.back?.bind fun note => note.pitches.getLast?

theorem lastPitch?_push (earlier : Array (Note τ)) (last : Note τ) :
    lastPitch? (earlier.push last) = last.pitches.getLast? := by
  simp only [lastPitch?, Array.back?_push, Option.bind_some]

theorem mem_of_lastPitch? {notes : Array (Note τ)} {pitch : Pitch}
    (found : lastPitch? notes = some pitch) : ∃ note ∈ notes, pitch ∈ note.pitches := by
  obtain ⟨note, foundNote, foundPitch⟩ := Option.bind_eq_some_iff.mp found
  exact ⟨note, Array.mem_of_back? foundNote, List.mem_of_getLast? foundPitch⟩

namespace PitchesRelated

variable {related : Pitch → Pitch → Prop}

theorem refl (reflexive : ∀ pitch, related pitch pitch) (notes : Array (Note τ)) :
    PitchesRelated related notes notes :=
  List.forall₂_same.mpr fun _ _ => List.forall₂_same.mpr fun pitch _ => reflexive pitch

/-- Notes that differ in their last pitch are related when the last pitches are. -/
theorem of_last_iff (reflexive : ∀ pitch, related pitch pitch) (earlier : Array (Note τ))
    (last : Note τ) {front : List Pitch} {before : Pitch}
    (pitches : last.pitches = front ++ [before]) (after : Pitch) :
    PitchesRelated related (earlier.push last)
      (earlier.push { last with pitches := front ++ [after] }) ↔ related before after := by
  unfold PitchesRelated
  rw [Array.toList_push, Array.toList_push, forall₂_concat_iff, pitches, forall₂_concat_iff]
  constructor
  · rintro ⟨-, -, lasts⟩
    exact lasts
  · intro lasts
    exact ⟨refl reflexive earlier, List.forall₂_same.mpr fun pitch _ => reflexive pitch, lasts⟩

end PitchesRelated

/-! ## One command for pitches -/

section Commands

variable [Time τ] {rules : Rules τ} {draft next : Draft τ} {command : Command}
  {change : Pitch → Except Overflow Pitch}

/-- **What a command for pitches does to the notes:** nothing if they have no last pitch, and
otherwise it relates them as it relates the last pitch to its change. -/
theorem Draft.Coherent.pitchesRelated_cases (coherent : draft.Coherent rules)
    (found : command.pitchChange? rules = some change)
    (advanced : draft.advance rules command = .ok next) :
    lastPitch? draft.notes = none ∧ next.notes = draft.notes ∨
      ∃ before after, lastPitch? draft.notes = some before ∧ change before = .ok after ∧
        ∀ related : Pitch → Pitch → Prop, (∀ pitch, related pitch pitch) →
          (PitchesRelated related draft.notes next.notes ↔ related before after) := by
  rw [Draft.advance_of_pitchChange? found] at advanced
  rcases coherent.empty_or_endsWith with ⟨noNotes, vacant⟩ | ⟨earlier, last, ends⟩
  · rw [Draft.changePitch_of_none vacant] at advanced
    cases advanced
    exact .inl ⟨by rw [noNotes]; rfl, rfl⟩
  · obtain ⟨changed, done, rfl⟩ := ends.changePitch_eq_ok.mp advanced
    rw [ends.notes, lastPitch?_push]
    rcases Note.changeLast_cases done with
      ⟨nothing, rfl⟩ | ⟨front, before, after, pitches, changes, rfl⟩
    · exact .inl ⟨by rw [nothing, List.getLast?_nil], rfl⟩
    · refine .inr ⟨before, after, by rw [pitches, List.getLast?_concat], changes, ?_⟩
      exact fun related reflexive => PitchesRelated.of_last_iff reflexive earlier last pitches after

/-- A pitch that is not raised against its direction is not above the highest octave. -/
theorem Pitch.le_of_raise_iff {highest : Int32} {before after : Pitch}
    (done : before.raise highest = .ok after) :
    before.octave ≤ after.octave ↔ before.octave ≤ highest := by
  rw [Int32.le_iff_toInt_le, Int32.le_iff_toInt_le, octave_of_raise done]
  omega

/-- A pitch that is not lowered against its direction is not below the lowest octave. -/
theorem Pitch.le_of_lower_iff {lowest : Int32} {before after : Pitch}
    (done : before.lower lowest = .ok after) :
    after.octave ≤ before.octave ↔ lowest ≤ before.octave := by
  rw [Int32.le_iff_toInt_le, Int32.le_iff_toInt_le, octave_of_lower done]
  omega

end Commands

/-! ## Appending a command for the octave -/

/-- No pitch is in a lower octave in the later notes. -/
def NowhereLowered (notes later : Array (Note τ)) : Prop :=
  PitchesRelated (fun before after => before.octave ≤ after.octave) notes later

/-- No pitch is in a higher octave in the later notes. -/
def NowhereRaised (notes later : Array (Note τ)) : Prop :=
  PitchesRelated (fun before after => after.octave ≤ before.octave) notes later

namespace Score

variable [Time τ] {rules : Rules τ} {start : τ} {commands : List Command} {command : Command}
  {change : Pitch → Except Overflow Pitch} {notes later : Array (Note τ)}

/-- A command for pitches behind a list relates all pitches exactly if the last one meets the
condition under which its change is related to it. -/
theorem pitchesRelated_concat_iff (found : command.pitchChange? rules = some change)
    {related : Pitch → Pitch → Prop} (reflexive : ∀ pitch, related pitch pitch)
    {condition : Pitch → Prop}
    (iff : ∀ {before after}, change before = .ok after → (related before after ↔ condition before))
    (composed : compose rules start commands = .ok notes)
    (appended : compose rules start (commands ++ [command]) = .ok later) :
    PitchesRelated related notes later ↔
      ∀ pitch, lastPitch? notes = some pitch → condition pitch := by
  obtain ⟨before, reached, rfl⟩ := compose_eq_ok.mp composed
  obtain ⟨after, reachedAfter, rfl⟩ := compose_eq_ok.mp appended
  obtain ⟨middle, same, advanced⟩ := draft_concat_eq_ok.mp reachedAfter
  cases reached.symm.trans same
  rcases (draft_coherent reached).pitchesRelated_cases found advanced with
    ⟨noPitch, unchanged⟩ | ⟨pitch, moved, last, done, lasts⟩
  · rw [noPitch, unchanged]
    exact iff_of_true (.refl reflexive _) fun _ last => by cases last
  · rw [lasts related reflexive, iff done, last]
    simp only [Option.some.injEq, forall_eq']

/-- **Moving up lowers no pitch** exactly if the last pitch is not above the highest octave. -/
theorem nowhereLowered_iff (composed : compose rules start commands = .ok notes)
    (appended : compose rules start (commands ++ [.octaveUp]) = .ok later) :
    NowhereLowered notes later ↔
      ∀ pitch, lastPitch? notes = some pitch → pitch.octave ≤ rules.highestOctave :=
  pitchesRelated_concat_iff rfl (fun _ => Int32.le_refl _) Pitch.le_of_raise_iff composed appended

/-- **Moving down raises no pitch** exactly if the last pitch is not below the lowest octave. -/
theorem nowhereRaised_iff (composed : compose rules start commands = .ok notes)
    (appended : compose rules start (commands ++ [.octaveDown]) = .ok later) :
    NowhereRaised notes later ↔
      ∀ pitch, lastPitch? notes = some pitch → rules.lowestOctave ≤ pitch.octave :=
  pitchesRelated_concat_iff rfl (fun _ => Int32.le_refl _) Pitch.le_of_lower_iff composed appended

/-- A single button is composed, and so is a change of its pitch that is carried out. -/
theorem exists_compose_button (found : command.pitchChange? rules = some change) (start : τ)
    (button : Button) (changes : ∃ changed, change button.pitch = .ok changed) :
    ∃ notes later, compose rules start [.press button] = .ok notes ∧
      compose rules start ([.press button] ++ [command]) = .ok later ∧
      lastPitch? notes = some button.pitch := by
  obtain ⟨single, reached, ends⟩ : ∃ single : Draft τ,
      draft rules start [.press button] = .ok single ∧
        single.EndsWith #[] ⟨[button.pitch], start, rules.noteLength⟩ := ⟨_, rfl, rfl, rfl⟩
  obtain ⟨next, changed⟩ := ends.exists_changePitch fun pitch member => by
    rw [List.mem_singleton.mp member]
    exact changes
  refine ⟨single.notes, next.notes, compose_eq_ok.mpr ⟨single, reached, rfl⟩,
    compose_eq_ok.mpr ⟨next, draft_concat_eq_ok.mpr ⟨single, reached, ?_⟩, rfl⟩, ?_⟩
  · rw [Draft.advance_of_pitchChange? found, changed]
  · rw [ends.notes, lastPitch?_push, List.getLast?_singleton]

/-- Under bounds in order the last pitch of a score is in reach. -/
theorem reaches_of_lastPitch? (ordered : rules.lowestOctave.toInt ≤ rules.highestOctave.toInt)
    (composed : compose rules start commands = .ok notes) {pitch : Pitch}
    (last : lastPitch? notes = some pitch) : rules.Reaches pitch := by
  obtain ⟨draft, reached, rfl⟩ := compose_eq_ok.mp composed
  obtain ⟨note, member, inside⟩ := mem_of_lastPitch? last
  exact (draft_reaches ordered reached).notes note member pitch inside

/-- **When octaves move in the direction of their command.**  A command for the octave moves some
pitch against its direction exactly if the last pitch of the last note is beyond the bound on this
side.  Under rules without a defect this happens behind no list of commands exactly if the octaves
at which notes begin are within the bounds: moving up never lowers a pitch if the highest octave is
at least the fifth, and moving down never raises one if the lowest is at most the fourth. -/
theorem octaves_move_in_direction_iff (rules : Rules τ) (start : τ)
    (sound : rules.defect? = none) :
    (∀ commands notes later, compose rules start commands = .ok notes →
      compose rules start (commands ++ [.octaveUp]) = .ok later →
        (NowhereLowered notes later ↔
          ∀ pitch, lastPitch? notes = some pitch → pitch.octave ≤ rules.highestOctave)) ∧
    (∀ commands notes later, compose rules start commands = .ok notes →
      compose rules start (commands ++ [.octaveDown]) = .ok later →
        (NowhereRaised notes later ↔
          ∀ pitch, lastPitch? notes = some pitch → rules.lowestOctave ≤ pitch.octave)) ∧
    ((∀ commands notes later, compose rules start commands = .ok notes →
      compose rules start (commands ++ [.octaveUp]) = .ok later → NowhereLowered notes later) ↔
        5 ≤ rules.highestOctave) ∧
    ((∀ commands notes later, compose rules start commands = .ok notes →
      compose rules start (commands ++ [.octaveDown]) = .ok later → NowhereRaised notes later) ↔
        rules.lowestOctave ≤ 4) := by
  have ordered : rules.lowestOctave.toInt ≤ rules.highestOctave.toInt :=
    Int32.le_iff_toInt_le.mp (Int32.not_lt.mp (rules.defect?_eq_none_iff.mp sound).2.2.2)
  have fourth : (4 : Int32).toInt = 4 := rfl
  have fifth : (5 : Int32).toInt = 5 := rfl
  refine ⟨fun _ _ _ => nowhereLowered_iff, fun _ _ _ => nowhereRaised_iff, ⟨?_, ?_⟩, ⟨?_, ?_⟩⟩
  · intro never
    obtain ⟨octave, raised, -⟩ :=
      Pitch.raise_of_lt rules.highestOctave Button.highD.pitch (by decide)
    have found : Command.octaveUp.pitchChange? rules = some (Pitch.raise rules.highestOctave) := rfl
    obtain ⟨notes, later, composed, appended, last⟩ :=
      exists_compose_button found start .highD ⟨_, raised⟩
    have begins : Button.highD.pitch.octave = 5 := by decide
    rw [← begins]
    exact (nowhereLowered_iff composed appended).mp (never _ _ _ composed appended) _ last
  · intro within commands notes later composed appended
    refine (nowhereLowered_iff composed appended).mpr fun pitch last => ?_
    have reaches := (reaches_of_lastPitch? ordered composed last).2
    rw [Int32.le_iff_toInt_le] at within ⊢
    omega
  · intro never
    obtain ⟨octave, lowered, -⟩ := Pitch.lower_of_lt rules.lowestOctave Button.d.pitch (by decide)
    have found : Command.octaveDown.pitchChange? rules = some (Pitch.lower rules.lowestOctave) :=
      rfl
    obtain ⟨notes, later, composed, appended, last⟩ :=
      exists_compose_button found start .d ⟨_, lowered⟩
    have begins : Button.d.pitch.octave = 4 := by decide
    rw [← begins]
    exact (nowhereRaised_iff composed appended).mp (never _ _ _ composed appended) _ last
  · intro within commands notes later composed appended
    refine (nowhereRaised_iff composed appended).mpr fun pitch last => ?_
    have reaches := (reaches_of_lastPitch? ordered composed last).1
    rw [Int32.le_iff_toInt_le] at within ⊢
    omega

/-- Under the default bounds no octave moves against its command; under a highest octave of four a
`+` lowers the high button, but not a low one. -/
theorem octaves_move_in_direction_by_default :
    let low : Rules Rat := { Rules.exactDefault with highestOctave := 4 }
    Rules.exactDefault.defect? = none ∧ low.defect? = none ∧
      (∀ commands notes later, compose .exactDefault 0 commands = .ok notes →
        compose .exactDefault 0 (commands ++ [.octaveUp]) = .ok later →
          NowhereLowered notes later) ∧
      ∃ notes later, compose low 0 [.press .d, .press .highD] = .ok notes ∧
        compose low 0 ([.press .d, .press .highD] ++ [.octaveUp]) = .ok later ∧
        ¬ NowhereLowered notes later := by
  intro low
  have sound : Rules.exactDefault.defect? = none := by decide +kernel
  have lowSound : low.defect? = none := by decide +kernel
  obtain ⟨-, -, up, -⟩ := octaves_move_in_direction_iff .exactDefault 0 sound
  obtain ⟨exactly, -⟩ := octaves_move_in_direction_iff low 0 lowSound
  have composed : compose low 0 [.press .d, .press .highD] =
      .ok #[⟨[.plain .d 4], 0, 3 / 10⟩, ⟨[.plain .d 5], 3 / 10, 3 / 10⟩] := by
    decide +kernel
  have appended : compose low 0 ([.press .d, .press .highD] ++ [.octaveUp]) =
      .ok #[⟨[.plain .d 4], 0, 3 / 10⟩, ⟨[.plain .d 4], 3 / 10, 3 / 10⟩] := by
    decide +kernel
  refine ⟨sound, lowSound, up.mpr (by decide), _, _, composed, appended, fun kept => ?_⟩
  exact absurd ((exactly _ _ _ composed appended).mp kept (.plain .d 5) rfl) (by decide)

/-- **Octaves can move against their command:** under a highest octave of three, `+` takes the low
button down to it. -/
theorem not_octaves_move_in_direction :
    ¬ ∀ (rules : Rules Float) (start : Float) (commands : List Command)
      (notes : Array (Note Float)), rules.defect? = none →
        compose rules start commands = .ok notes →
        (∀ later, compose rules start (commands ++ [.octaveUp]) = .ok later →
          NowhereLowered notes later) ∧
        ∀ later, compose rules start (commands ++ [.octaveDown]) = .ok later →
          NowhereRaised notes later := by
  intro always
  have composed : compose { Rules.default with highestOctave := 3 } 0 [.press .d] =
      .ok #[⟨[.plain .d 4], 0, 0.3⟩] := by
    decide +kernel
  have appended : compose { Rules.default with highestOctave := 3 } 0 ([.press .d] ++ [.octaveUp]) =
      .ok #[⟨[.plain .d 3], 0, 0.3⟩] := by
    decide +kernel
  have kept := (always _ 0 [.press .d] _ (by decide +kernel) composed).1 _ appended
  exact absurd ((nowhereLowered_iff composed appended).mp kept (.plain .d 4) rfl) (by decide)

end Score

end ChatTune
