import Mathlib

/-!
# Signs of floating numbers

Floating numbers round, overflow to infinities and may be no numbers at all, so sums of them obey
few laws.  What survives rounding is the sign: the rounded result of an operation has the sign of
the exact result, and it has no sign only if the exact result has none (`sign?_stored`).

From this follow the two facts that sums of lengths need.  A sum is no number only if a part of it
is none or if infinities of both signs meet in it (`isNaN_add`); and sums, and differences that
take no more than there is, stay at zero or above (`add_nonneg`, `sub_nonneg`).
-/

set_option autoImplicit false

namespace ChatTune.Floating

open Float.Model (UnpackedFloat Format)
open Float.Model.UnpackedFloat (Sign)

/-! ## Numbers taken apart -/

/-- A number taken apart. -/
def parts (number : Float) : UnpackedFloat := number.toModel.unpack

/-- What is left of an exact result when it is stored as a number. -/
def stored (result : UnpackedFloat) : UnpackedFloat :=
  UnpackedFloat.unpack .binary64 (UnpackedFloat.pack .binary64 result)

/-- The sign of what is a number. -/
def sign? : UnpackedFloat → Option Sign
  | .notANumber => none
  | .infinity sign => some sign
  | .zero sign => some sign
  | .finite sign _ _ _ => some sign

@[simp] theorem sign?_notANumber : sign? .notANumber = none := rfl

@[simp] theorem sign?_infinity (sign : Sign) : sign? (.infinity sign) = some sign := rfl

@[simp] theorem sign?_zero (sign : Sign) : sign? (.zero sign) = some sign := rfl

@[simp] theorem sign?_finite (sign : Sign) (mantissa : Nat) (exponent : Int)
    (positive : 0 < mantissa) : sign? (.finite sign mantissa exponent positive) = some sign := rfl

variable {first second : Float}

theorem parts_add :
    parts (first + second) = stored (.add .binary64 (parts first) (parts second)) := rfl

theorem parts_sub :
    parts (first - second) = stored (.sub .binary64 (parts first) (parts second)) := rfl

theorem parts_injective (same : parts first = parts second) : first = second := by
  obtain ⟨⟨firstBits, firstValid⟩⟩ := first
  obtain ⟨⟨secondBits, secondValid⟩⟩ := second
  have bits : firstBits = secondBits :=
    UInt64.toBitVec_inj.mp ((UnpackedFloat.unpack_inj_of_valid firstValid secondValid).mp same)
  subst bits
  rfl

theorem sign?_unpack_packComponents (sign : Sign) (mantissa : BitVec 52) {exponent : BitVec 11}
    (below : exponent ≠ -1#11) :
    sign? (.unpack .binary64 (UnpackedFloat.packComponents .binary64 sign exponent mantissa)) =
      some sign := by
  unfold UnpackedFloat.unpack
  simp only [UnpackedFloat.unpackSign_packComponents, UnpackedFloat.unpackExponent_packComponents,
    UnpackedFloat.unpackMantissa_packComponents, Sign.ofBitVec_toBitVec, if_neg below]
  split
  · split <;> rfl
  · rfl

/-- **Storing a result keeps its sign.** -/
theorem sign?_stored (result : UnpackedFloat) : sign? (stored result) = sign? result := by
  unfold stored
  cases result with
  | notANumber => rfl
  | infinity sign => cases sign <;> rfl
  | zero sign => cases sign <;> rfl
  | finite sign mantissa exponent positive =>
      unfold UnpackedFloat.pack
      simp only
      split
      case isTrue => cases sign <;> rfl
      case isFalse room =>
        have room : (exponent + 1023 + 52).toNat + 1 < 2048 := Nat.not_le.mp room
        have below : BitVec.ofNat 11 (exponent + 1023 + 52).toNat ≠ -1#11 := by
          intro full
          have full := congrArg BitVec.toNat full
          rw [BitVec.toNat_ofNat, Nat.mod_eq_of_lt (by omega)] at full
          have full : (exponent + 1023 + 52).toNat = 2047 := full
          omega
        split
        · exact sign?_unpack_packComponents sign _ below
        · exact sign?_unpack_packComponents sign _ (by decide)

theorem sign?_round (sign : Sign) (mantissa : Nat) (exponent : Int) :
    sign? (.round .binary64 sign mantissa exponent) = some sign := by
  unfold UnpackedFloat.round UnpackedFloat.roundWithAccuracy
  simp only
  split <;> rfl

/-- A whole number of units has its sign when it is rounded. -/
theorem sign?_normalize (mantissa exponent : Int) :
    sign? (.normalize .binary64 mantissa exponent .positive) =
      some (if mantissa < 0 then .negative else .positive) := by
  unfold UnpackedFloat.normalize
  split
  case h_1 less =>
    rw [if_pos (Int.compare_eq_lt.mp less)]
    exact sign?_round ..
  case h_2 same =>
    rw [if_neg (Int.not_lt.mpr (Int.compare_eq_eq.mp same).ge)]
    rfl
  case h_3 more =>
    rw [if_neg (Int.not_lt.mpr (Int.compare_eq_gt.mp more).le)]
    exact sign?_round ..

/-! ## Sums that are no numbers -/

theorem isNaN_iff : first.isNaN = true ↔ sign? (parts first) = none := by
  show (parts first).isNaN = true ↔ _
  cases parts first <;> simp [sign?, UnpackedFloat.isNaN]

theorem isInf_iff : first.isInf = true ↔ ∃ sign, parts first = .infinity sign := by
  show (parts first).isInf = true ↔ _
  cases parts first <;> simp [UnpackedFloat.isInf]

theorem isFinite_iff :
    first.isFinite = true ↔ first.isNaN = false ∧ first.isInf = false := by
  show (parts first).isFinite = true ↔ (parts first).isNaN = false ∧ (parts first).isInf = false
  cases parts first <;> simp [UnpackedFloat.isInf, UnpackedFloat.isNaN, UnpackedFloat.isFinite]

/-- A sum has no sign if a part of it has none or its parts are infinities of both signs. -/
theorem sign?_add_eq_none {left right : UnpackedFloat} :
    sign? (.add .binary64 left right) = none ↔
      sign? left = none ∨ sign? right = none ∨
        ∃ sign other, left = .infinity sign ∧ right = .infinity other ∧ sign ≠ other := by
  cases left <;> cases right <;> simp only [UnpackedFloat.add]
  case infinity.infinity sign other =>
    by_cases same : sign = other <;> simp [same]
  case zero.zero sign other =>
    by_cases same : sign = other <;> simp [same]
  case finite.finite => simp [sign?_normalize]
  all_goals simp

/-- **A sum is no number** if a part of it is none or the parts are the two infinities. -/
theorem isNaN_add : (first + second).isNaN = true ↔
    first.isNaN = true ∨ second.isNaN = true ∨
      first.isInf = true ∧ second.isInf = true ∧ first ≠ second := by
  rw [isNaN_iff, isNaN_iff, isNaN_iff, parts_add, sign?_stored, sign?_add_eq_none, isInf_iff,
    isInf_iff]
  constructor
  · rintro (left | right | ⟨sign, other, left, right, differ⟩)
    · exact .inl left
    · exact .inr (.inl right)
    · refine .inr (.inr ⟨⟨sign, left⟩, ⟨other, right⟩, ?_⟩)
      rintro rfl
      exact differ (UnpackedFloat.infinity.inj (left.symm.trans right))
  · rintro (left | right | ⟨⟨sign, left⟩, ⟨other, right⟩, differ⟩)
    · exact .inl left
    · exact .inr (.inl right)
    · refine .inr (.inr ⟨sign, other, left, right, ?_⟩)
      rintro rfl
      exact differ (parts_injective (left.trans right.symm))

/-- Taking a finite number away leaves a number if there was one. -/
theorem isNaN_sub (finite : second.isFinite = true) :
    (first - second).isNaN = true ↔ first.isNaN = true := by
  obtain ⟨number, bounded⟩ := isFinite_iff.mp finite
  rw [← Bool.not_eq_true, isNaN_iff] at number
  rw [← Bool.not_eq_true, isInf_iff] at bounded
  rw [isNaN_iff, isNaN_iff, parts_sub, sign?_stored]
  cases right : parts second with
  | notANumber => rw [right] at number; exact absurd rfl number
  | infinity sign => exact absurd ⟨sign, right⟩ bounded
  | zero other =>
      cases parts first <;> simp only [UnpackedFloat.sub]
      case zero sign => by_cases same : sign = -other <;> simp [same]
  | finite => cases parts first <;> simp [UnpackedFloat.sub, sign?_normalize]

/-! ## Order -/

theorem le_iff : first ≤ second ↔ (parts first).le (parts second) = true := decide_eq_true_iff

theorem lt_iff : first < second ↔ (parts first).lt (parts second) = true := decide_eq_true_iff

/-- Comparing the other way round turns the answer round. -/
theorem compare_swap (left right : UnpackedFloat) :
    right.compare left = (left.compare right).map Ordering.swap := by
  have turned (low high : Int) (small large : Nat) :
      (compare high low).then (compare large small) =
        ((compare low high).then (compare small large)).swap := by
    rw [Ordering.swap_then, Int.compare_swap, Nat.compare_swap]
  -- The signs are told apart too: of infinities and finite numbers they decide the comparison.
  rcases left with ⟨_ | _⟩ | _ | _ | ⟨_ | _, small, low, _⟩ <;>
    rcases right with ⟨_ | _⟩ | _ | _ | ⟨_ | _, large, high, _⟩
  case finite.negative.finite.negative =>
    exact congrArg (some ∘ Ordering.swap) (turned low high small large)
  case finite.positive.finite.positive => exact congrArg some (turned low high small large)
  all_goals rfl

theorem exists_compare {left right : UnpackedFloat} (first : sign? left ≠ none)
    (second : sign? right ≠ none) : ∃ order, left.compare right = some order := by
  rcases left with ⟨_ | _⟩ | _ | _ | ⟨_ | _, small, low, _⟩ <;>
    rcases right with ⟨_ | _⟩ | _ | _ | ⟨_ | _, large, high, _⟩
  all_goals first | exact ⟨_, rfl⟩ | exact absurd rfl first | exact absurd rfl second

/-- What can be compared is ordered one way or the other. -/
theorem lt_or_le (left : first.isNaN = false) (right : second.isNaN = false) :
    first < second ∨ second ≤ first := by
  rw [← Bool.not_eq_true, isNaN_iff] at left right
  obtain ⟨order, compared⟩ := exists_compare left right
  rw [lt_iff, le_iff, UnpackedFloat.lt, UnpackedFloat.le, compare_swap (parts first), compared]
  cases order <;> decide

theorem le_of_lt (less : first < second) : first ≤ second := by
  rw [lt_iff, UnpackedFloat.lt, beq_iff_eq] at less
  rw [le_iff, UnpackedFloat.le, less]
  rfl

theorem not_lt_of_le (ordered : first ≤ second) : ¬ second < first := by
  intro less
  rw [lt_iff, UnpackedFloat.lt, beq_iff_eq] at less
  rw [le_iff, UnpackedFloat.le, compare_swap, less] at ordered
  cases ordered

theorem le_refl (number : first.isNaN = false) : first ≤ first :=
  (lt_or_le number number).elim le_of_lt id

/-- Only numbers are ordered. -/
theorem isNaN_of_le (ordered : first ≤ second) : first.isNaN = false ∧ second.isNaN = false := by
  have shape {number : Float} (noNumber : number.isNaN = true) : parts number = .notANumber := by
    rw [isNaN_iff] at noNumber
    cases taken : parts number <;> rw [taken] at noNumber <;> first | rfl | cases noNumber
  rw [le_iff, UnpackedFloat.le] at ordered
  constructor <;> rw [← Bool.not_eq_true] <;> intro noNumber
  · rw [shape noNumber] at ordered
    cases ordered
  · rw [shape noNumber, compare_swap] at ordered
    cases ordered

/-- What is at zero or above; a zero may have either sign. -/
inductive IsNonneg : UnpackedFloat → Prop
  | zero (sign : Sign) : IsNonneg (.zero sign)
  | infinity : IsNonneg (.infinity .positive)
  | finite (mantissa : Nat) (exponent : Int) (positive : 0 < mantissa) :
      IsNonneg (.finite .positive mantissa exponent positive)

namespace IsNonneg

variable {left right : UnpackedFloat}

theorem of_sign {result : UnpackedFloat} (positive : sign? result = some .positive) :
    IsNonneg result := by
  cases result with
  | notANumber => cases positive
  | infinity => cases positive; exact .infinity
  | zero sign => exact .zero sign
  | finite => cases positive; exact .finite _ _ _

/-- A stored result is at zero or above if the exact one is. -/
protected theorem stored {result : UnpackedFloat} (nonneg : IsNonneg result) :
    IsNonneg (stored result) := by
  cases nonneg with
  | zero sign =>
      have same : Floating.stored (.zero sign) = .zero sign := UnpackedFloat.unpack_packedZero
      rw [same]
      exact .zero sign
  | infinity => exact of_sign (sign?_stored _)
  | finite => exact of_sign (sign?_stored _)

theorem normalize {mantissa : Int} (nonneg : 0 ≤ mantissa) (exponent : Int) :
    IsNonneg (.normalize .binary64 mantissa exponent .positive) :=
  of_sign (by rw [sign?_normalize, if_neg (Int.not_lt.mpr nonneg)])

protected theorem add (first : IsNonneg left) (second : IsNonneg right) :
    IsNonneg (.add .binary64 left right) := by
  cases first with
  | infinity => cases second <;> exact .infinity
  | zero sign =>
      cases second with
      | zero other =>
          rw [UnpackedFloat.add]
          split <;> exact .zero _
      | infinity => exact .infinity
      | finite => exact .finite _ _ _
  | finite =>
      cases second with
      | zero => exact .finite _ _ _
      | infinity => exact .infinity
      | finite => exact normalize (Int.add_nonneg (Int.natCast_nonneg _) (Int.natCast_nonneg _)) _

/-- What is not below something at zero or above is there too. -/
theorem of_le (first : IsNonneg left) (le : left.le right = true) : IsNonneg right := by
  cases right with
  | notANumber => cases first <;> cases le
  | zero sign => exact .zero sign
  | infinity sign =>
      cases sign with
      | positive => exact .infinity
      | negative => cases first <;> cases le
  | finite sign =>
      cases sign with
      | positive => exact .finite _ _ _
      | negative => cases first <;> cases le

end IsNonneg

theorem nonneg_iff : 0 ≤ first ↔ IsNonneg (parts first) := by
  rw [le_iff]
  constructor
  · exact IsNonneg.of_le (.zero .positive)
  · intro nonneg
    cases shape : parts first <;> rw [shape] at nonneg <;> cases nonneg <;> rfl

/-- There is one infinity above zero. -/
theorem parts_of_isInf (nonneg : 0 ≤ first) (infinite : first.isInf = true) :
    parts first = .infinity .positive := by
  obtain ⟨sign, taken⟩ := isInf_iff.mp infinite
  rw [nonneg_iff, taken] at nonneg
  cases nonneg
  exact taken

/-- What is between zero and a finite number is finite. -/
theorem isFinite_of_le (nonneg : 0 ≤ first) (le : first ≤ second)
    (finite : second.isFinite = true) : first.isFinite = true := by
  refine isFinite_iff.mpr ⟨(isNaN_of_le le).1, Bool.eq_false_iff.mpr fun infinite => ?_⟩
  have bounded := (isFinite_iff.mp finite).2
  rw [← Bool.not_eq_true, isInf_iff] at bounded
  rw [le_iff, parts_of_isInf nonneg infinite] at le
  have above := IsNonneg.infinity.of_le le
  generalize parts second = limit at *
  cases above with
  | infinity => exact bounded ⟨_, rfl⟩
  | zero => cases le
  | finite => cases le

/-- Sums of numbers at zero or above are there. -/
theorem add_nonneg (left : 0 ≤ first) (right : 0 ≤ second) : 0 ≤ first + second := by
  rw [nonneg_iff] at left right ⊢
  exact (left.add right).stored

/-! ## Differences -/

/-- **A mantissa as numbers have it:** it fits its bits and fills them, unless the exponent is the
least one. -/
structure Fills (mantissa : Nat) (exponent : Int) : Prop where
  fits : mantissa < 2 ^ 53
  fills : 2 ^ 52 ≤ mantissa ∨ exponent = -1074
  least : -1074 ≤ exponent

/-- What has a mantissa has one as numbers have it. -/
def Filled : UnpackedFloat → Prop
  | .finite _ mantissa exponent _ => Fills mantissa exponent
  | _ => True

theorem filled_parts (number : Float) : Filled (parts number) := by
  have bias : (Format.binary64.exponentBias : Int) = 1023 := rfl
  have below (low : BitVec 52) : low.toNat < 2 ^ 52 := low.isLt
  have whole (low : BitVec 52) : (1#1 ++ low).toNat = 2 ^ 52 + low.toNat := by
    rw [BitVec.toNat_append, ← Nat.shiftLeft_add_eq_or_of_lt low.isLt]
    rfl
  unfold parts Float.Model.unpack UnpackedFloat.unpack
  simp only
  split
  · split <;> trivial
  · split
    case isTrue least =>
      split
      · trivial
      · rw [least, bias]
        exact ⟨(below _).trans (by decide), .inr rfl, by decide⟩
    case isFalse more =>
      have nonzero : ¬ _ = 0 := fun zero => more (BitVec.eq_of_toNat_eq zero)
      rw [bias]
      refine ⟨(whole _).trans_lt (Nat.add_lt_add_left (below _) _), .inl ?_, by omega⟩
      exact (Nat.le_add_right _ _).trans_eq (whole _).symm

/-- With a common exponent, mantissas are ordered as the numbers are. -/
theorem Fills.decreaseExponent_le {small large : Nat} {low high : Int} (first : Fills small low)
    (second : Fills large high) (ordered : ((compare low high).then (compare small large)).isLE) :
    (UnpackedFloat.decreaseExponent small low (min high low)).1 ≤
      (UnpackedFloat.decreaseExponent large high (min high low)).1 := by
  simp only [UnpackedFloat.decreaseExponent, Nat.shiftLeft_eq]
  rcases Ordering.isLE_then_iff_or.mp ordered with less | ⟨same, below⟩
  · have less : low < high := Int.compare_eq_lt.mp less
    have filled : 2 ^ 52 ≤ large := by
      have := first.least
      rcases second.fills with filled | least
      · exact filled
      · omega
    obtain ⟨more, steps⟩ : ∃ more, (high - low).toNat = more + 1 :=
      ⟨(high - low).toNat - 1, by omega⟩
    rw [Int.min_eq_right less.le, Int.sub_self, steps]
    calc small * 2 ^ (0 : Int).toNat = small := Nat.mul_one small
      _ ≤ 2 ^ 52 * 2 := first.fits.le
      _ ≤ large * 2 ^ (more + 1) :=
        Nat.mul_le_mul filled (Nat.le_self_pow (Nat.succ_ne_zero more) 2)
  · have same : low = high := Int.compare_eq_eq.mp same
    have below : small ≤ large := Nat.isLE_compare.mp below
    subst same
    rw [Int.min_self, Int.sub_self]
    exact Nat.mul_le_mul_right _ below

protected theorem IsNonneg.sub {left right : UnpackedFloat} (nonneg : IsNonneg right)
    (bounded : right ≠ .infinity .positive) (le : right.le left = true) (filledLeft : Filled left)
    (filledRight : Filled right) : IsNonneg (.sub .binary64 left right) := by
  have whole := nonneg.of_le le
  cases nonneg with
  | infinity => exact absurd rfl bounded
  | zero sign =>
      cases whole with
      | zero other =>
          rw [UnpackedFloat.sub]
          split <;> exact .zero _
      | infinity => exact .infinity
      | finite => exact .finite _ _ _
  | finite small low =>
      cases whole with
      | zero => cases le
      | infinity => exact .infinity
      | finite large high =>
          have ordered := Fills.decreaseExponent_le filledRight filledLeft le
          exact normalize (Int.sub_nonneg.mpr (Int.ofNat_le.mpr ordered)) _

/-- Differences that take no more than there is are at zero or above. -/
theorem sub_nonneg (nonneg : 0 ≤ second) (finite : second.isFinite = true)
    (le : second ≤ first) : 0 ≤ first - second := by
  have bounded := (isFinite_iff.mp finite).2
  rw [← Bool.not_eq_true, isInf_iff] at bounded
  rw [nonneg_iff] at nonneg ⊢
  exact (nonneg.sub (fun infinite => bounded ⟨_, infinite⟩) (le_iff.mp le) (filled_parts first)
    (filled_parts second)).stored

end ChatTune.Floating
