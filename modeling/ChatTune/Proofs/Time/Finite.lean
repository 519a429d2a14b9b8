import ChatTune.Proofs.Time.Floating

/-!
# Whole numbers are finite

A number is infinite only if its exponent is out of range.  Rounding a mantissa raises the exponent
by no more than the mantissa has bits beyond those of a number, and storing keeps an exponent that
is in range (`below_stored`).  So whole numbers of 64 bits are far from being infinite, and the
opposite of a finite number is finite (`isFinite_ofNat`, `isFinite_ofInt`, `isFinite_neg`).
-/

set_option autoImplicit false

namespace ChatTune.Floating

open Float.Model (UnpackedFloat Format totalExponent)
open Float.Model.UnpackedFloat (Sign Accuracy ExtendedMantissa)

/-- What is finite and has no larger exponent than some limit. -/
def Below (limit : Int) : UnpackedFloat → Prop
  | .zero _ => True
  | .finite _ _ exponent _ => exponent ≤ limit
  | _ => False

variable {number : Float} {result : UnpackedFloat} {limit : Int}

theorem isFinite_of_below (below : Below limit (parts number)) : number.isFinite = true := by
  show (parts number).isFinite = true
  cases taken : parts number <;> rw [taken] at below <;> first | rfl | cases below

theorem Below.mono {larger : Int} (below : Below limit result) (le : limit ≤ larger) :
    Below larger result := by
  cases result with
  | zero => trivial
  | finite => exact Int.le_trans below le
  | notANumber | infinity => exact below

/-! ## Storing -/

/-- What has an exponent in range is finite, and its exponent is the least one or the one that it
has in bits. -/
theorem below_unpack {bits : BitVec 64}
    (room : @UnpackedFloat.unpackExponent .binary64 bits ≠ -1#11)
    (least : -1074 ≤ limit)
    (inside : ((@UnpackedFloat.unpackExponent .binary64 bits).toNat : Int) - 1075 ≤ limit) :
    Below limit (.unpack .binary64 bits) := by
  have bias : (Format.binary64.exponentBias : Int) = 1023 := rfl
  unfold UnpackedFloat.unpack
  simp only [bias, if_neg room]
  split
  case isTrue zero =>
    split
    · trivial
    · rw [zero]
      exact least
  case isFalse => exact inside

/-- An exponent that is not the last one is in range. -/
theorem exponent_le {exponent : BitVec 11} (room : exponent ≠ -1#11) :
    (exponent.toNat : Int) - 1075 ≤ 971 := by
  have notLast : exponent.toNat ≠ 2047 := fun full => room (BitVec.eq_of_toNat_eq full)
  have := exponent.isLt
  omega

/-- The exponent of a finite number is in range. -/
theorem below_parts (finite : number.isFinite = true) : Below 971 (parts number) := by
  have finite : (parts number).isFinite = true := finite
  have room : @UnpackedFloat.unpackExponent .binary64 number.toModel.toBits.toBitVec ≠
      -1#11 := by
    intro full
    unfold parts Float.Model.unpack UnpackedFloat.unpack at finite
    simp only [if_pos full] at finite
    split at finite <;> cases finite
  exact below_unpack room (by decide) (exponent_le room)

/-- The exponent that a number has in bits. -/
theorem below_unpack_packComponents (sign : Sign) {exponent : BitVec 11} (mantissa : BitVec 52)
    (room : exponent ≠ -1#11) (least : -1074 ≤ limit)
    (inside : (exponent.toNat : Int) - 1075 ≤ limit) :
    Below limit (.unpack .binary64
      (UnpackedFloat.packComponents .binary64 sign exponent mantissa)) := by
  refine below_unpack ?_ least ?_
  · rwa [UnpackedFloat.unpackExponent_packComponents]
  · rwa [UnpackedFloat.unpackExponent_packComponents]

/-- **Storing keeps an exponent in range.** -/
theorem below_stored (below : Below limit result) (least : -1074 ≤ limit) (most : limit ≤ 971) :
    Below limit (stored result) := by
  cases result with
  | notANumber | infinity => cases below
  | zero sign =>
      have same : stored (.zero sign) = .zero sign := UnpackedFloat.unpack_packedZero
      rw [same]
      trivial
  | finite sign mantissa exponent positive =>
      have inside : exponent ≤ limit := below
      unfold stored UnpackedFloat.pack
      simp only
      split
      case isTrue full =>
        have full : 2048 ≤ (exponent + 1023 + 52).toNat + 1 := full
        omega
      case isFalse room =>
        have room : (exponent + 1023 + 52).toNat + 1 < 2048 := Nat.not_le.mp room
        have bits : (BitVec.ofNat 11 (exponent + 1023 + 52).toNat).toNat =
            (exponent + 1023 + 52).toNat := by
          rw [BitVec.toNat_ofNat, Nat.mod_eq_of_lt (by omega)]
        split
        · refine below_unpack_packComponents sign _ (fun full => ?_) least ?_
          · have full := congrArg BitVec.toNat full
            have full : (exponent + 1023 + 52).toNat = 2047 := bits.symm.trans full
            omega
          · have bits : ((BitVec.ofNat 11 (exponent + 1023 + 52).toNat).toNat : Int) - 1075 ≤
                limit := by
              rw [bits]
              omega
            exact bits
        · exact below_unpack_packComponents sign _ (by decide) least (by
            have zero : ((0#11).toNat : Int) = 0 := rfl
            omega)

/-- The opposite of a finite number is finite. -/
theorem isFinite_neg (finite : number.isFinite = true) : (-number).isFinite = true := by
  have opposite : parts (-number) = stored (parts number).neg := rfl
  have below : Below 971 (parts number).neg := by
    have below := below_parts finite
    cases taken : parts number <;> rw [taken] at below <;> exact below
  exact isFinite_of_below (opposite ▸ below_stored below (by decide) (by decide))

/-! ## Rounding -/

theorem mantissa_shiftRight (extended : ExtendedMantissa) (amount : Nat) :
    (extended >>> amount).mantissa ≤ extended.mantissa := by
  induction amount with
  | zero => exact Nat.le_refl _
  | succ amount ih => exact (Nat.div_le_self _ 2).trans ih

theorem roundedMantissa_le (extended : ExtendedMantissa) :
    extended.roundedMantissa ≤ extended.mantissa + 1 := by
  unfold ExtendedMantissa.roundedMantissa
  cases extended.accuracy with
  | exact => exact Nat.le_succ _
  | inexact order =>
      cases order with
      | lt => exact Nat.le_succ _
      | eq => exact Nat.add_le_add_left (Nat.le_of_lt_succ (Nat.mod_lt _ (by decide))) _
      | gt => exact Nat.le_refl _

theorem mantissa_ofMantissaAndAccuracy (mantissa : Nat) (accuracy : Accuracy) :
    (ExtendedMantissa.ofMantissaAndAccuracy mantissa accuracy).mantissa = mantissa := by
  cases accuracy with
  | exact => rfl
  | inexact order => cases order <;> rfl

/-- One more takes at most one bit more. -/
theorem log2_le_of_le_succ {small large : Nat} (le : small ≤ large + 1) :
    small.log2 ≤ large.log2 + 1 := by
  rcases Nat.eq_zero_or_pos small with rfl | positive
  · exact Nat.zero_le _
  · refine Nat.le_of_lt_succ ((Nat.log2_lt positive.ne').mpr ?_)
    calc small ≤ large + 1 := le
      _ ≤ 2 ^ (large.log2 + 1) := Nat.lt_log2_self
      _ < 2 ^ (large.log2 + 1 + 1) := Nat.pow_lt_pow_right (by decide) (Nat.lt_succ_self _)

/-- Shifting a mantissa raises the exponent by no more than the mantissa has bits. -/
theorem shiftToTargetExponent_le (mantissa : Nat) {exponent : Int} (accuracy : Accuracy)
    (inside : exponent ≤ limit) (least : -1074 ≤ limit) :
    (UnpackedFloat.shiftToTargetExponent .binary64 mantissa exponent accuracy).1.mantissa ≤
        mantissa ∧
      (UnpackedFloat.shiftToTargetExponent .binary64 mantissa exponent accuracy).2 ≤
        limit + mantissa.log2 := by
  have target : Format.binary64.targetExponent (totalExponent mantissa exponent) =
      max (mantissa.log2 + 1 + exponent - 53) (-1074) := rfl
  unfold UnpackedFloat.shiftToTargetExponent UnpackedFloat.shiftToExponent
  simp only [target]
  constructor
  · exact (mantissa_shiftRight _ _).trans_eq (mantissa_ofMantissaAndAccuracy mantissa accuracy)
  · omega

theorem log2_le_of_lt {mantissa bits : Nat} (small : mantissa < 2 ^ bits) :
    mantissa.log2 ≤ bits := by
  rcases Nat.eq_zero_or_pos mantissa with rfl | positive
  · exact Nat.zero_le _
  · exact ((Nat.log2_lt positive.ne').mpr small).le

/-- **Rounding raises an exponent** by no more than the mantissa has bits, once for the mantissa
itself and once for what rounding makes of it. -/
theorem below_roundWithAccuracy (sign : Sign) {mantissa : Nat} (bits : Nat)
    (small : mantissa < 2 ^ bits) {exponent : Int} (accuracy : Accuracy)
    (inside : exponent ≤ limit) (least : -1074 ≤ limit) :
    Below (limit + 2 * bits + 1)
      (.roundWithAccuracy .binary64 sign mantissa exponent accuracy) := by
  have small := log2_le_of_lt small
  obtain ⟨less, first⟩ := shiftToTargetExponent_le mantissa accuracy inside least
  unfold UnpackedFloat.roundWithAccuracy
  generalize UnpackedFloat.shiftToTargetExponent .binary64 mantissa exponent accuracy = shifted
    at less first
  obtain ⟨extended, raised⟩ := shifted
  have rounded := (roundedMantissa_le extended).trans (Nat.succ_le_succ less)
  have more := log2_le_of_le_succ rounded
  obtain ⟨-, second⟩ := shiftToTargetExponent_le extended.roundedMantissa .exact first (by omega)
  simp only
  split
  · trivial
  · exact Int.le_trans second (by omega)

/-- A mantissa is made longer before it is rounded, by less than the bits of a number. -/
theorem below_round (sign : Sign) {mantissa bits : Nat} (small : mantissa < 2 ^ bits)
    {exponent : Int} (inside : exponent ≤ limit) (least : -1074 ≤ limit) :
    Below (limit + 2 * (bits + 52 : Nat) + 1) (.round .binary64 sign mantissa exponent) := by
  have target : Format.binary64.targetExponent (totalExponent mantissa exponent) =
      max (mantissa.log2 + 1 + exponent - 53) (-1074) := rfl
  unfold UnpackedFloat.round UnpackedFloat.decreaseExponent
  simp only [target]
  have amount : (exponent - max (mantissa.log2 + 1 + exponent - 53) (-1074)).toNat ≤ 52 := by
    omega
  have small : mantissa <<< (exponent - max (mantissa.log2 + 1 + exponent - 53) (-1074)).toNat <
      2 ^ (bits + 52) := by
    rw [Nat.shiftLeft_eq, Nat.pow_add]
    exact Nat.mul_lt_mul_of_lt_of_le small (Nat.pow_le_pow_right (by decide) amount) (by decide)
  exact below_roundWithAccuracy sign (bits + 52) small .exact (by omega) least

/-! ## Whole numbers -/

theorem below_normalize {whole bits : Nat} (small : whole < 2 ^ bits) :
    Below (2 * (bits + 52 : Nat) + 1) (.normalize .binary64 whole 0 .positive) := by
  unfold UnpackedFloat.normalize
  split
  case h_1 less => exact absurd (Int.compare_eq_lt.mp less) (Int.not_lt.mpr (Int.natCast_nonneg _))
  case h_2 => trivial
  case h_3 =>
    have below : Below (0 + 2 * (bits + 52 : Nat) + 1) _ :=
      below_round .positive small (Int.le_refl 0) (by decide)
    rwa [Int.zero_add] at below

/-- The smaller whole numbers are exact and are multiplied by one. -/
theorem parts_one :
    parts Float.exactlyRepresentablePowersOfTen[0] =
      .finite .positive (2 ^ 52) (-52) (by decide) := by
  rfl

theorem parts_toFloat (whole : UInt64) :
    parts whole.toFloat = stored (.normalize .binary64 whole.toNat 0 .positive) := rfl

/-- A product with one stays small. -/
theorem below_mul_one {left : UnpackedFloat} (below : Below limit left) (filled : Filled left)
    (least : -1000 ≤ limit) :
    Below (limit + 160)
      (.mul .binary64 left (.finite .positive (2 ^ 52) (-52) (by decide))) := by
  cases left with
  | notANumber | infinity => cases below
  | zero sign => trivial
  | finite sign mantissa exponent positive =>
      have inside : exponent + -52 ≤ limit - 52 := Int.sub_le_sub_right below 52
      have small : mantissa * 2 ^ 52 < 2 ^ 105 :=
        Nat.mul_lt_mul_of_pos_right filled.fits (by decide)
      exact (below_roundWithAccuracy _ 105 small .exact inside (by omega)).mono (by omega)

/-- The smaller whole numbers are found without rounding. -/
theorem isFinite_toFloat_mul_one {whole : UInt64} (short : whole.toNat < 2 ^ 53) :
    (whole.toFloat * Float.exactlyRepresentablePowersOfTen[0]).isFinite = true := by
  have below : Below 211 (parts whole.toFloat) := by
    rw [parts_toFloat]
    exact below_stored (below_normalize short) (by decide) (by decide)
  have product := below_mul_one below (filled_parts whole.toFloat) (by decide)
  rw [← parts_one] at product
  have parts_mul : parts (whole.toFloat * Float.exactlyRepresentablePowersOfTen[0]) =
      stored (.mul .binary64 (parts whole.toFloat)
        (parts Float.exactlyRepresentablePowersOfTen[0])) := rfl
  have below := below_stored product (by decide) (by decide)
  rw [← parts_mul] at below
  exact isFinite_of_below below

/-- The larger ones are rounded, and stay small. -/
theorem below_ofScientific {whole : Nat} (small : whole < 2 ^ 64) :
    Below (-53 + 2 * (117 : Nat) + 1) (.ofScientific .binary64 whole 0) := by
  have power : 10 ^ (0 : Int).toNat = 1 := rfl
  have bits : Format.binary64.mantissaBits = 53 := rfl
  have range : (2 : Int) ^ Format.binary64.exponentBits = 2048 := rfl
  unfold UnpackedFloat.ofScientific
  split
  case isTrue => trivial
  case isFalse =>
    have longer : whole <<< Format.binary64.mantissaBits * 10 ^ (0 : Int).toNat < 2 ^ 117 := by
      rw [bits, Nat.shiftLeft_eq, power, Nat.mul_one]
      exact Nat.mul_lt_mul_of_pos_right small (by decide)
    have inside : -(Format.binary64.mantissaBits : Int) + 0 ≤ -53 := by rw [bits]; decide
    rw [range, if_neg (by decide), if_neg (by omega), if_pos (by decide)]
    simp only [UnpackedFloat.mul]
    generalize whole <<< Format.binary64.mantissaBits * 10 ^ (0 : Int).toNat = mantissa at longer ⊢
    exact below_roundWithAccuracy _ 117 longer .exact inside (by decide)

/-- **A whole number of 64 bits is finite.** -/
theorem isFinite_ofNat {whole : Nat} (small : whole < 2 ^ 64) :
    (Float.ofNat whole).isFinite = true := by
  have unfolded : Float.ofNat whole = Float.ofScientific whole false 0 := rfl
  rw [unfolded]
  unfold Float.ofScientific
  split
  case isTrue fits =>
    have short : whole.toUInt64.toNat < 2 ^ 53 := (Nat.mod_le _ _).trans_lt fits.1
    exact isFinite_toFloat_mul_one short
  case isFalse rounded =>
    exact isFinite_of_below (below_stored (below_ofScientific small) (by decide) (by decide))

/-- **A whole number of 64 bits and a sign is finite.** -/
theorem isFinite_ofInt {whole : Int} (small : whole.natAbs < 2 ^ 64) :
    (Float.ofInt whole).isFinite = true := by
  cases whole with
  | ofNat whole => exact isFinite_ofNat small
  | negSucc before => exact isFinite_neg (isFinite_ofNat small)

end ChatTune.Floating
