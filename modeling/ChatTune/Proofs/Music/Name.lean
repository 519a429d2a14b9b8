import ChatTune.Decimal.Reading
import ChatTune.Music.Pitch
import ChatTune.Proofs.Decimal.Numeral
import Mathlib.Logic.Function.Basic

/-!
# Names of pitches

A name is a letter, a sharp if there is one, a flat if there is one, and an octave.  No octave
begins with a mark, so a name can be read from the front without looking ahead: what a pitch is
called is read as that pitch (`Pitch.ofName?_name`), and no two pitches have the same name.  The
letter `B` and a flat are told apart by their case and by their place.
-/

set_option autoImplicit false

namespace ChatTune

open Text (IsToken)

/-! ## Whole numbers -/

namespace Decimal

/-- A whole number as it is written. -/
def wholeText (number : Int) : List Char := (toString number).toList

theorem wholeText_ofNat (number : Nat) :
    wholeText (.ofNat number) = (DigitRun.natural number).chars :=
  Nat.toList_repr

theorem wholeText_negSucc (before : Nat) :
    wholeText (.negSucc before) = '-' :: (DigitRun.natural (before + 1)).chars := by
  have written : toString (Int.negSucc before) = "-" ++ (before + 1).repr := rfl
  rw [wholeText, written, String.toList_append, Nat.toList_repr]
  rfl

theorem isToken_wholeText (number : Int) : IsToken (wholeText number) := by
  cases number with
  | ofNat number =>
      rw [wholeText_ofNat]
      exact DigitRun.isToken _
  | negSucc before =>
      rw [wholeText_negSucc]
      exact .cons (by decide) (DigitRun.isToken _)

/-- A whole number begins with its sign or with a digit. -/
theorem head?_wholeText {number : Int} {mark : Char} (noSign : mark ≠ '-')
    (noDigit : mark.isDigit = false) : (wholeText number).head? ≠ some mark := fun begins => by
  have member := List.mem_of_head? begins
  cases number with
  | ofNat number =>
      rw [wholeText_ofNat] at member
      cases noDigit.symm.trans (DigitRun.isDigit _ mark member)
  | negSucc before =>
      rw [wholeText_negSucc] at begins
      exact noSign (Option.some.inj begins).symm

/-- Digits alone have no sign. -/
theorem signed_of_isDigit (run : DigitRun) : signed run.chars = (false, run.chars) := by
  obtain ⟨chars, -, isDigit⟩ := run
  dsimp only
  unfold signed
  split
  · cases isDigit '-' List.mem_cons_self
  · cases isDigit '+' List.mem_cons_self
  · rfl

theorem digitsValue_natural (number : Nat) : digitsValue (DigitRun.natural number).chars = number :=
  Nat.ofDigitChars_ten_toDigits

/-- **What is written as a whole number is read as that number.** -/
theorem readWhole?_wholeText (number : Int) : readWhole? (wholeText number) = some number := by
  have readable (run : DigitRun) : run.chars ≠ [] ∧ run.chars.all Char.isDigit = true :=
    ⟨run.ne_nil, List.all_eq_true.mpr run.isDigit⟩
  cases number with
  | ofNat number =>
      rw [wholeText_ofNat, readWhole?, signed_of_isDigit]
      dsimp only
      rw [if_pos (readable _), digitsValue_natural]
      rfl
  | negSucc before =>
      rw [wholeText_negSucc, readWhole?, signed]
      dsimp only
      rw [if_pos (readable _), digitsValue_natural]
      rfl

end Decimal

/-! ## Pitches -/

namespace Letter

/-- The character of a letter. -/
def symbol : Letter → Char
  | d => 'D'
  | f => 'F'
  | a => 'A'
  | b => 'B'

/-- The letter of a character. -/
def ofSymbol? : Char → Option Letter
  | 'D' => some d
  | 'F' => some f
  | 'A' => some a
  | 'B' => some b
  | _ => none

theorem ofSymbol?_symbol (letter : Letter) : ofSymbol? letter.symbol = some letter := by
  cases letter <;> rfl

theorem toList_name (letter : Letter) : letter.name.toList = [letter.symbol] := by
  cases letter <;> rfl

end Letter

namespace Pitch

/-- Whether a text begins with a mark, and what follows it. -/
def takeMark (mark : Char) : List Char → Bool × List Char
  | [] => (false, [])
  | char :: rest => if char = mark then (true, rest) else (false, char :: rest)

/-- **The pitch of a name:** its letter, its marks in their order, and an octave of 32 bits. -/
def ofName? : List Char → Option Pitch
  | [] => none
  | symbol :: rest => do
    let letter ← Letter.ofSymbol? symbol
    let (sharp, rest) := takeMark '#' rest
    let (flat, rest) := takeMark 'b' rest
    let octave ← Decimal.readWhole? rest
    if Int32.minValue.toInt ≤ octave ∧ octave ≤ Int32.maxValue.toInt then
      some ⟨letter, .ofInt octave, sharp, flat⟩
    else none

/-- A mark as it is written. -/
def markText (mark : Char) (set : Bool) : List Char := if set then [mark] else []

theorem takeMark_markText {mark : Char} {set : Bool} {rest : List Char}
    (other : rest.head? ≠ some mark) : takeMark mark (markText mark set ++ rest) = (set, rest) := by
  cases set with
  | true => exact if_pos rfl
  | false =>
      cases rest with
      | nil => rfl
      | cons char rest => exact if_neg fun same => other (congrArg some same)

theorem toList_name (pitch : Pitch) :
    pitch.name.toList = pitch.letter.symbol ::
      (markText '#' pitch.sharp ++ (markText 'b' pitch.flat ++
        Decimal.wholeText pitch.octave.toInt)) := by
  obtain ⟨letter, octave, sharp, flat⟩ := pitch
  have mark (text : String) (set : Bool) :
      (if set = true then text else "").toList = if set then text.toList else [] := by
    cases set <;> rfl
  simp only [name, String.toList_append, Letter.toList_name, mark, List.append_assoc]
  rfl

/-- Names are tokens. -/
theorem isToken_name (pitch : Pitch) : IsToken pitch.name.toList := by
  have letter : Text.inToken pitch.letter.symbol = true := by cases pitch.letter <;> decide
  have marks (mark : Char) (inside : Text.inToken mark = true) (set : Bool) :
      IsToken (markText mark set) := by
    cases set with
    | true => exact .cons inside .nil
    | false => exact .nil
  rw [toList_name]
  exact .cons letter ((marks '#' (by decide) _).append
    ((marks 'b' (by decide) _).append (Decimal.isToken_wholeText _)))

/-- **A name is read as the pitch that it names.** -/
theorem ofName?_name (pitch : Pitch) : ofName? pitch.name.toList = some pitch := by
  have noFlat : (Decimal.wholeText pitch.octave.toInt).head? ≠ some 'b' :=
    Decimal.head?_wholeText (by decide) rfl
  have noSharp : (markText 'b' pitch.flat ++ Decimal.wholeText pitch.octave.toInt).head? ≠
      some '#' := by
    cases pitch.flat with
    | true => exact fun same => absurd (Option.some.inj same) (by decide)
    | false => exact Decimal.head?_wholeText (by decide) rfl
  rw [toList_name, ofName?, Letter.ofSymbol?_symbol]
  simp only [Option.bind_eq_bind, Option.bind_some, takeMark_markText noSharp,
    takeMark_markText noFlat, Decimal.readWhole?_wholeText]
  rw [if_pos ⟨pitch.octave.minValue_le_toInt, pitch.octave.toInt_le⟩, Int32.ofInt_toInt]

/-- No two pitches have the same name. -/
theorem name_injective : Function.Injective name := fun left right same => by
  have read := ofName?_name left
  rw [same, ofName?_name] at read
  exact (Option.some.inj read).symm

/-- The letter `B` with a flat, far below. -/
example : ofName? "Bb-2147483648".toList = some ⟨.b, -2147483648, false, true⟩ := by decide

end Pitch

end ChatTune
