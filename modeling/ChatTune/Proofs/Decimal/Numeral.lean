import ChatTune.Decimal.Fixed
import ChatTune.Decimal.Layout
import ChatTune.Proofs.Decimal.Shortest
import ChatTune.Proofs.Text.Token
import Mathlib.Data.List.Basic

/-!
# Written numbers are numerals

A numeral has a whole part, perhaps a fraction, and perhaps an exponent; the whole part begins
with a zero only where it is that zero (`Numeral`).  A layout that signs its exponents writes
every finite number as a numeral (`Layout.exists_numeral_value`).  What could go wrong is a zero
in front: the zero that stands for a failed search would be written with zeros behind it, but no
search fails above the decimal point.

Numerals and numbers with a fixed number of decimals are tokens.
-/

set_option autoImplicit false

namespace ChatTune.Decimal

open Text (IsToken)

/-! ## Digits -/

/-- One or more decimal digits. -/
structure DigitRun where
  chars : List Char
  ne_nil : chars ≠ []
  isDigit : ∀ char ∈ chars, char.isDigit = true

namespace DigitRun

/-- The digits of a natural number. -/
def natural (number : Nat) : DigitRun where
  chars := naturalDigits number
  ne_nil := Nat.toDigits_ne_nil
  isDigit _ member := Nat.isDigit_of_mem_toDigits (by decide) (by decide) member

theorem isToken (run : DigitRun) : IsToken run.chars := .of_isDigit run.isDigit

theorem isDigit_of_mem_zeros {zeros : Nat} :
    ∀ char ∈ List.replicate zeros '0', char.isDigit = true := by
  intro char member
  rw [List.eq_of_mem_replicate member]
  rfl

/-- A run with zeros behind it. -/
def zerosBehind (run : DigitRun) (zeros : Nat) : DigitRun where
  chars := run.chars ++ List.replicate zeros '0'
  ne_nil := List.append_ne_nil_of_left_ne_nil run.ne_nil _
  isDigit := List.forall_mem_append.mpr ⟨run.isDigit, isDigit_of_mem_zeros⟩

/-- A run with zeros before it. -/
def zerosBefore (zeros : Nat) (run : DigitRun) : DigitRun where
  chars := List.replicate zeros '0' ++ run.chars
  ne_nil := List.append_ne_nil_of_right_ne_nil _ run.ne_nil
  isDigit := List.forall_mem_append.mpr ⟨isDigit_of_mem_zeros, run.isDigit⟩

/-- The first digits of a run, at least one. -/
def take (run : DigitRun) (count : Nat) (positive : 0 < count) : DigitRun where
  chars := run.chars.take count
  ne_nil empty := by
    rcases List.take_eq_nil_iff.mp empty with zero | nothing
    · omega
    · exact run.ne_nil nothing
  isDigit char member := run.isDigit char (List.mem_of_mem_take member)

/-- The last digits of a run, at least one. -/
def drop (run : DigitRun) (count : Nat) (fewer : count < run.chars.length) : DigitRun where
  chars := run.chars.drop count
  ne_nil empty := by
    have := List.drop_eq_nil_iff.mp empty
    omega
  isDigit char member := run.isDigit char (List.mem_of_mem_drop member)

end DigitRun

/-- Only zero is written with a zero in front. -/
theorem head?_naturalDigits {number : Nat} (positive : 0 < number) :
    (naturalDigits number).head? ≠ some '0' := by
  induction number using Nat.strongRecOn with
  | ind number ih =>
      unfold naturalDigits at ih ⊢
      by_cases small : number < 10
      · rw [Nat.toDigits_of_lt_base small]
        exact (by decide : ∀ digit < 10, 0 < digit → [digit.digitChar].head? ≠ some '0')
          number small positive
      · have front : 0 < number / 10 := Nat.div_pos (Nat.le_of_not_lt small) (by decide)
        have split := Nat.toDigits_append_toDigits (b := 10) (by decide) front
          (Nat.mod_lt number (by decide))
        rw [Nat.div_add_mod] at split
        rw [← split, List.head?_append_of_ne_nil _ Nat.toDigits_ne_nil]
        exact ih (number / 10) (Nat.div_lt_self positive (by decide)) front

/-! ## Numerals -/

/-- A decimal numeral without sign: its whole part, its fraction, and its exponent with whether
that is negative. -/
structure Numeral where
  whole : DigitRun
  lead : whole.chars.length = 1 ∨ whole.chars.head? ≠ some '0'
  fraction : Option DigitRun
  exponent : Option (Bool × DigitRun)

namespace Numeral

/-- The fraction with its point. -/
def fractionText : Option DigitRun → List Char
  | some digits => '.' :: digits.chars
  | none => []

/-- The exponent with its mark and its sign. -/
def exponentText : Option (Bool × DigitRun) → List Char
  | some (negative, digits) => 'e' :: (if negative then '-' else '+') :: digits.chars
  | none => []

/-- A numeral as text. -/
def text (numeral : Numeral) : List Char :=
  numeral.whole.chars ++ fractionText numeral.fraction ++ exponentText numeral.exponent

/-- A numeral with its sign. -/
def signed (negative : Bool) (numeral : Numeral) : List Char :=
  if negative then '-' :: numeral.text else numeral.text

theorem isToken_fractionText (fraction : Option DigitRun) : IsToken (fractionText fraction) := by
  cases fraction with
  | some digits => exact .cons (by decide) digits.isToken
  | none => exact .nil

theorem isToken_exponentText (exponent : Option (Bool × DigitRun)) :
    IsToken (exponentText exponent) := by
  cases exponent with
  | some part =>
      refine .cons (by decide) (.cons ?_ part.2.isToken)
      split <;> decide
  | none => exact .nil

theorem isToken_signed (negative : Bool) (numeral : Numeral) :
    IsToken (numeral.signed negative) := by
  have unsigned : IsToken numeral.text :=
    (numeral.whole.isToken.append (isToken_fractionText _)).append (isToken_exponentText _)
  unfold signed
  split
  · exact .cons (by decide) unsigned
  · exact unsigned

end Numeral

/-! ## Layouts -/

/-- Digits in their places make a numeral, unless a zero has zeros behind it. -/
theorem exists_numeral_placed (pointZero : Bool) (digits : DigitRun) {exponent : Int}
    (lead : digits.chars.head? = some '0' → digits.chars.length = 1 ∧ exponent ≤ 0) :
    ∃ numeral : Numeral, placed pointZero digits.chars exponent = numeral.text := by
  cases exponent with
  | ofNat zeros =>
      have whole : (digits.zerosBehind zeros).chars.length = 1 ∨
          (digits.zerosBehind zeros).chars.head? ≠ some '0' := by
        by_cases zero : digits.chars.head? = some '0'
        · obtain ⟨single, below⟩ := lead zero
          have zeros_eq : zeros = 0 := Nat.le_zero.mp (Int.ofNat_le.mp below)
          exact .inl (by rw [zeros_eq]; exact List.length_append.trans (by rw [single]; rfl))
        · exact .inr (by rwa [DigitRun.zerosBehind, List.head?_append_of_ne_nil _ digits.ne_nil])
      cases pointZero with
      | true =>
          exact ⟨⟨digits.zerosBehind zeros, whole, some (.natural 0), none⟩,
            (List.append_nil _).symm⟩
      | false =>
          exact ⟨⟨digits.zerosBehind zeros, whole, none, none⟩, (List.append_nil _).symm⟩
  | negSucc before =>
      rw [placed]
      split
      case isTrue inside =>
          have front : 0 < digits.chars.length - (before + 1) := by omega
          have first : (digits.take _ front).chars.head? = digits.chars.head? := by
            rw [DigitRun.take, List.head?_take, if_neg (Nat.ne_of_gt front)]
          have whole : (digits.take _ front).chars.head? ≠ some '0' := fun zero => by
            have single := (lead (first.symm.trans zero)).1
            omega
          exact ⟨⟨digits.take _ front, .inr whole, some (digits.drop _ (by omega)), none⟩,
            (List.append_nil _).symm⟩
      case isFalse =>
          exact ⟨⟨.natural 0, .inl rfl, some (.zerosBefore _ digits), none⟩,
            (List.append_nil _).symm⟩

/-- The parts of a written exponent. -/
def exponentPart (lead : Int) : Bool × DigitRun := (!decide (0 ≤ lead), .natural lead.natAbs)

theorem exponentText_exponentPart (lead : Int) :
    Numeral.exponentText (some (exponentPart lead)) =
      'e' :: (if 0 ≤ lead then "+".toList else ['-']) ++ naturalDigits lead.natAbs := by
  by_cases positive : 0 ≤ lead
  · rw [exponentPart, if_pos positive, decide_eq_true positive]
    rfl
  · rw [exponentPart, if_neg positive, decide_eq_false positive]
    rfl

/-- Digits with an exponent make a numeral. -/
theorem exists_numeral_scientific (digits : DigitRun) (exponent : Int) :
    ∃ numeral : Numeral, scientific "+" digits.chars exponent = numeral.text := by
  have single : (digits.take 1 Nat.one_pos).chars.length = 1 := by
    have positive := List.length_pos_of_ne_nil digits.ne_nil
    rw [DigitRun.take, List.length_take, Nat.min_eq_left positive]
  let written := exponentPart (exponent + (digits.chars.length - 1 : Nat))
  cases others : digits.chars.tail with
  | nil =>
      refine ⟨⟨digits.take 1 Nat.one_pos, .inl single, none, some written⟩, ?_⟩
      rw [Numeral.text, exponentText_exponentPart, scientific, others]
      exact List.append_assoc _ _ _
  | cons char rest =>
      have more : 1 < digits.chars.length := by
        have count := congrArg List.length others
        rw [List.length_tail, List.length_cons] at count
        omega
      have fraction : Numeral.fractionText (some (digits.drop 1 more)) = '.' :: char :: rest :=
        congrArg ('.' :: ·) (List.drop_one.trans others)
      refine ⟨⟨digits.take 1 Nat.one_pos, .inl single, some (digits.drop 1 more), some written⟩, ?_⟩
      rw [Numeral.text, exponentText_exponentPart, scientific, fraction, others]
      exact List.append_assoc _ _ _

namespace Layout

variable {layout : Layout}

/-- A layout that signs its exponents writes numerals. -/
theorem exists_numeral_digits (signs : layout.exponentPlus = "+") {number : Digits}
    (small : number.coefficient = 0 → number.exponent ≤ 0) :
    ∃ numeral : Numeral, layout.digits number = numeral.text := by
  have lead : (DigitRun.natural number.coefficient).chars.head? = some '0' →
      (DigitRun.natural number.coefficient).chars.length = 1 ∧ number.exponent ≤ 0 := fun zero => by
    have nothing : number.coefficient = 0 :=
      Nat.eq_zero_of_not_pos fun positive => head?_naturalDigits positive zero
    exact ⟨by rw [nothing]; rfl, small nothing⟩
  have places := exists_numeral_placed layout.pointZero _ lead
  unfold digits
  split
  · dsimp only
    split
    · exact places
    · rw [signs]
      exact exists_numeral_scientific (.natural number.coefficient) number.exponent
  · exact places

/-- **A finite number is written as a numeral.** -/
theorem exists_numeral_value (signs : layout.exponentPlus = "+") (negative : Bool)
    {magnitude : Magnitude} (inRange : magnitude.InRange) :
    ∃ numeral : Numeral,
      (layout.value (.finite negative magnitude)).toList = numeral.signed negative := by
  have small : (magnitude.shortest layout.tie).coefficient = 0 →
      (magnitude.shortest layout.tie).exponent ≤ 0 := inRange.shortest_exponent_le_zero
  obtain ⟨numeral, written⟩ := exists_numeral_digits signs small
  refine ⟨numeral, ?_⟩
  rw [value, String.toList_ofList, written]
  rfl

end Layout

/-! ## Stored numbers -/

/-- The magnitude of a stored number fits its format. -/
theorem Format.decode_eq_finite {format : Format} (exponents : 1 < format.largestExponent)
    {bits : Nat} {negative : Bool} {magnitude : Magnitude}
    (finite : format.decode bits = .finite negative magnitude) :
    magnitude.mantissa < 2 ^ (format.fractionBits + 1) ∧
      magnitude.exponent + format.offset < format.largestExponent := by
  have fraction : bits % 2 ^ format.fractionBits < 2 ^ format.fractionBits :=
    Nat.mod_lt _ (Nat.two_pow_pos _)
  have stored := Nat.mod_lt (bits >>> format.fractionBits) (Nat.two_pow_pos format.exponentBits)
  have largest : format.largestExponent = 2 ^ format.exponentBits - 1 := by
    rw [largestExponent, Nat.one_shiftLeft]
  unfold decode at finite
  simp only [Nat.one_shiftLeft] at finite
  split at finite
  case isTrue => split at finite <;> cases finite
  case isFalse other =>
      split at finite
      case isTrue =>
          cases finite
          refine ⟨?_, ?_⟩
          · rw [Nat.pow_succ]
            dsimp only
            omega
          · dsimp only
            omega
      case isFalse =>
          cases finite
          rw [beq_iff_eq] at other
          refine ⟨?_, ?_⟩
          · rw [Nat.pow_succ]
            dsimp only
            omega
          · dsimp only
            omega

/-- Numbers of 64 bits are in range. -/
theorem inRange_of_double {number : Float} {negative : Bool} {magnitude : Magnitude}
    (finite : ofDouble number = .finite negative magnitude) : magnitude.InRange := by
  obtain ⟨mantissa, exponent⟩ := Format.decode_eq_finite (by decide) finite
  have offset : Format.double.offset = 1075 := by decide
  have largest : Format.double.largestExponent = 2047 := by decide
  exact ⟨mantissa, by omega⟩

/-- Numbers of 32 bits are in range. -/
theorem inRange_of_single {number : Float32} {negative : Bool} {magnitude : Magnitude}
    (finite : ofSingle number = .finite negative magnitude) : magnitude.InRange := by
  obtain ⟨mantissa, exponent⟩ := Format.decode_eq_finite (by decide) finite
  have offset : Format.single.offset = 150 := by decide
  have largest : Format.single.largestExponent = 255 := by decide
  exact ⟨Nat.lt_trans mantissa (by decide), by omega⟩

/-! ## A fixed number of decimals -/

theorem isToken_withPoint (places units : Nat) : IsToken (withPoint places units) := by
  have padded := (DigitRun.zerosBefore (places + 1 - (naturalDigits units).length)
    (.natural units)).isToken
  refine IsToken.append (fun char member => padded char (List.mem_of_mem_take member)) ?_
  exact .cons (by decide) fun char member => padded char (List.mem_of_mem_drop member)

/-- **A number with a fixed number of decimals is a token,** also where it is a word. -/
theorem isToken_fixed (places : Nat) (number : Float) : IsToken (fixed places number).toList := by
  unfold fixed Value.fixed
  split
  · decide
  · split <;> decide
  · rw [String.toList_ofList]
    split
    · exact .cons (by decide) (isToken_withPoint _ _)
    · exact isToken_withPoint _ _

end ChatTune.Decimal
