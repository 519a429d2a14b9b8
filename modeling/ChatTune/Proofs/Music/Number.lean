import ChatTune.Music.Pitch

/-!
# Pitches that have a number

Numbering multiplies an octave by twelve, so most octaves have no number.  The product decides:
with the next octave after a pitch it has to fit, and at the greatest octave it leaves room for the
letters `D` and `F` only.  Marks never decide (`Pitch.exists_number_iff`).

A frequency goes down from the number to the tuning once more, and that costs five octaves at the
lower end (`Pitch.exists_frequency_iff`).  There the marks and letters do not decide either.
-/

set_option autoImplicit false

namespace ChatTune

/-- Every whole number within 32 bits is that of a number. -/
theorem Checked.exists_toInt_eq (value : Int) (least : -2147483648 ≤ value)
    (most : value ≤ 2147483647) : ∃ number : Int32, number.toInt = value :=
  ⟨Int32.ofInt value, Int32.toInt_ofInt_of_le least (Int.lt_add_one_of_le most)⟩

/-- A number has 32 bits. -/
theorem Checked.toInt_bounds (number : Int32) :
    -2147483648 ≤ number.toInt ∧ number.toInt ≤ 2147483647 :=
  ⟨number.minValue_le_toInt, number.toInt_le⟩

namespace Pitch

/-- The number of a pitch without any bound: twelve semitones for each octave from the one before
the zeroth, the semitones of the letter, and one up or down for a mark. -/
def exactNumber (pitch : Pitch) : Int :=
  12 * (pitch.octave.toInt + 1) + pitch.letter.semitone.toInt + pitch.sharp.toNat -
    pitch.flat.toNat

/-- The octaves of a range, and of the low letters the next one. -/
def InOctaves (least : Int) (pitch : Pitch) : Prop :=
  least ≤ pitch.octave.toInt ∧ pitch.octave.toInt ≤ 178956968 ∨
    pitch.octave.toInt = 178956969 ∧ (pitch.letter = .d ∨ pitch.letter = .f)

/-- A low letter is at most five semitones above the `C`, and the others are between nine and
eleven above it. -/
theorem semitone_cases (letter : Letter) :
    (letter = .d ∨ letter = .f) ∧ 2 ≤ letter.semitone.toInt ∧ letter.semitone.toInt ≤ 5 ∨
      ¬ (letter = .d ∨ letter = .f) ∧ 9 ≤ letter.semitone.toInt ∧ letter.semitone.toInt ≤ 11 := by
  cases letter <;> decide

/-- A mark counts as a semitone. -/
theorem toInt_mark (mark : Bool) : (if mark then 1 else 0 : Int32).toInt = mark.toNat := by
  cases mark <;> rfl

/-- **A number is reached in five steps,** each of which has to fit. -/
theorem number_eq_ok_iff {pitch : Pitch} {number : Int32} :
    pitch.number = .ok number ↔
      ∃ octave : Int32, octave.toInt = pitch.octave.toInt + 1 ∧
        ∃ start : Int32, start.toInt = 12 * octave.toInt ∧
          ∃ natural : Int32, natural.toInt = start.toInt + pitch.letter.semitone.toInt ∧
            ∃ raised : Int32, raised.toInt = natural.toInt + pitch.sharp.toNat ∧
              number.toInt = raised.toInt - pitch.flat.toNat := by
  have twelve : (12 : Int32).toInt = 12 := rfl
  simp only [Pitch.number, bind_eq_ok, Checked.add, Checked.multiply, Checked.subtract,
    Checked.fit_eq_ok_iff, toInt_mark, Int32.toInt_one, twelve]

/-- A pitch with a number has its exact number. -/
theorem toInt_number {pitch : Pitch} {number : Int32} (found : pitch.number = .ok number) :
    number.toInt = pitch.exactNumber := by
  obtain ⟨octave, next, start, product, natural, letter, raised, sharp, flat⟩ :=
    number_eq_ok_iff.mp found
  rw [exactNumber]
  omega

/-- The letters decide only in the last octave, and in every octave a pitch of the range leaves room
for its marks. -/
theorem inOctaves_iff {least : Int} {pitch : Pitch} (inside : least ≤ 178956968) :
    pitch.InOctaves least ↔
      12 * least ≤ 12 * pitch.octave.toInt ∧
        12 * (pitch.octave.toInt + 1) + pitch.letter.semitone.toInt ≤ 2147483647 := by
  unfold InOctaves
  obtain ⟨low, least, most⟩ | ⟨high, least, most⟩ := semitone_cases pitch.letter
  · simp only [low, and_true]
    omega
  · simp only [high, and_false, or_false]
    omega

/-- **A pitch has a number exactly in these octaves.** -/
theorem exists_number_iff (pitch : Pitch) :
    (∃ number, pitch.number = .ok number) ↔ pitch.InOctaves (-178956971) := by
  rw [inOctaves_iff (by decide)]
  have sharpBound := pitch.sharp.toNat_le
  have flatBound := pitch.flat.toNat_le
  have semitoneBounds := semitone_cases pitch.letter
  constructor
  · rintro ⟨number, found⟩
    obtain ⟨octave, next, start, product, natural, letter, -⟩ := number_eq_ok_iff.mp found
    have startBounds := Checked.toInt_bounds start
    have naturalBounds := Checked.toInt_bounds natural
    omega
  · rintro ⟨least, most⟩
    obtain ⟨octave, next⟩ :=
      Checked.exists_toInt_eq (pitch.octave.toInt + 1) (by omega) (by omega)
    obtain ⟨start, product⟩ :=
      Checked.exists_toInt_eq (12 * octave.toInt) (by omega) (by omega)
    obtain ⟨natural, letter⟩ :=
      Checked.exists_toInt_eq (start.toInt + pitch.letter.semitone.toInt)
        (by omega) (by omega)
    obtain ⟨raised, sharp⟩ :=
      Checked.exists_toInt_eq (natural.toInt + pitch.sharp.toNat) (by omega) (by omega)
    obtain ⟨number, flat⟩ :=
      Checked.exists_toInt_eq (raised.toInt - pitch.flat.toNat) (by omega) (by omega)
    exact ⟨number, number_eq_ok_iff.mpr
      ⟨octave, next, start, product, natural, letter, raised, sharp, flat⟩⟩

/-- A frequency is reached by going down from the number to the tuning. -/
theorem exists_frequency_iff_exists_subtract (pitch : Pitch) :
    (∃ frequency, pitch.frequency = .ok frequency) ↔
      ∃ number, pitch.number = .ok number ∧
        ∃ semitones : Int32, semitones.toInt = number.toInt - 69 := by
  have tuning : tuningNumber.toInt = 69 := rfl
  simp only [frequency, bind_eq_ok, pure, Except.pure, Except.ok.injEq,
    Checked.subtract, Checked.fit_eq_ok_iff, tuning]
  constructor
  · rintro ⟨frequency, number, found, semitones, down, -⟩
    exact ⟨number, found, semitones, down⟩
  · rintro ⟨number, found, semitones, down⟩
    exact ⟨_, number, found, semitones, down, rfl⟩

/-- **A pitch has a frequency exactly in these octaves.** -/
theorem exists_frequency_iff (pitch : Pitch) :
    (∃ frequency, pitch.frequency = .ok frequency) ↔ pitch.InOctaves (-178956966) := by
  rw [exists_frequency_iff_exists_subtract, inOctaves_iff (by decide)]
  have sharpBound := pitch.sharp.toNat_le
  have flatBound := pitch.flat.toNat_le
  have semitoneBounds := semitone_cases pitch.letter
  constructor
  · rintro ⟨number, found, semitones, down⟩
    have inside := (inOctaves_iff (by decide)).mp ((exists_number_iff pitch).mp ⟨number, found⟩)
    have value := toInt_number found
    have semitonesBounds := Checked.toInt_bounds semitones
    rw [exactNumber] at value
    omega
  · rintro ⟨least, most⟩
    obtain ⟨number, found⟩ := (exists_number_iff pitch).mpr
      ((inOctaves_iff (by decide)).mpr ⟨by omega, most⟩)
    have value := toInt_number found
    rw [exactNumber] at value
    obtain ⟨semitones, down⟩ :=
      Checked.exists_toInt_eq (number.toInt - 69) (by omega) (by omega)
    exact ⟨number, found, semitones, down⟩

end Pitch

end ChatTune
