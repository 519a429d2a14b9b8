import ChatTune.Json.Record

/-!
# Values of a type

Which values are written as what, told without a reader: a floating number is any number, a whole
number of 32 bits is one that has exactly its value, and truth values and texts are themselves.  A
reader finds a value of its type, and it finds nothing in what is none (`Node.toFloat_eq_ok_iff`,
`Node.toCount_eq_ok_iff`, `Node.toInt32_eq_ok_iff`, `Node.toBool_eq_ok_iff`,
`Node.toText_eq_ok_iff`).
-/

set_option autoImplicit false

namespace ChatTune.Json

namespace Node

/-- A number as a floating one. -/
inductive IsFloat : Node → Float → Prop
  | natural (value : Nat) : IsFloat (.number (.ok (.natural value))) (Float.ofNat value)
  | negative (value : Int) : IsFloat (.number (.ok (.negative value))) (Float.ofInt value)
  | floating (value : Float) : IsFloat (.number (.ok (.floating value))) value

/-- A whole number of 32 bits without a sign. -/
inductive IsCount : Node → UInt32 → Prop
  | intro (value : UInt32) : IsCount (.number (.ok (.natural value.toNat))) value

/-- A whole number of 32 bits. -/
inductive IsInt32 : Node → Int32 → Prop
  | natural {value : Int32} {whole : Nat} (same : value.toInt = whole) :
      IsInt32 (.number (.ok (.natural whole))) value
  | negative (value : Int32) : IsInt32 (.number (.ok (.negative value.toInt))) value

/-- A truth value. -/
inductive IsBool : Node → Bool → Prop
  | intro (value : Bool) : IsBool (.boolean value) value

/-- A text. -/
inductive IsText : Node → String → Prop
  | intro (value : String) : IsText (.text (.ok value)) value

/-- A mismatch is a fault. -/
theorem mismatch_ne_ok {α : Type} (node : Node) (expected : String) (value : α) :
    node.mismatch expected ≠ .ok value := by
  unfold mismatch
  cases node.description with
  | error fault => exact fun same => (by cases same)
  | ok found => exact fun same => (by cases same)

variable {node : Node}

theorem toFloat_eq_ok_iff {value : Float} : node.toFloat = .ok value ↔ IsFloat node value := by
  constructor
  · intro found
    unfold toFloat at found
    split at found
    case h_1 whole => exact Except.ok.inj found ▸ .natural whole
    case h_2 whole => exact Except.ok.inj found ▸ .negative whole
    case h_3 number => exact Except.ok.inj found ▸ .floating number
    case h_4 => exact absurd found (mismatch_ne_ok _ _ _)
  · rintro (_ | _ | _) <;> rfl

theorem toCount_eq_ok_iff {value : UInt32} : node.toCount = .ok value ↔ IsCount node value := by
  constructor
  · intro found
    unfold toCount at found
    split at found
    case h_1 whole =>
      split at found
      case isTrue small =>
        cases found
        have whole_eq : (UInt32.ofNat whole).toNat = whole := UInt32.toNat_ofNat_of_lt' small
        have read := IsCount.intro (UInt32.ofNat whole)
        rwa [whole_eq] at read
      case isFalse => cases found
    case h_2 => cases found
    case h_3 => exact absurd found (mismatch_ne_ok _ _ _)
  · rintro ⟨value⟩
    have value_eq : UInt32.ofNat value.toNat = value := UInt32.ofNat_toNat
    simp only [toCount, if_pos value.toNat_lt_size, value_eq]

/-- What fits into 32 bits is the value of a whole number. -/
theorem toInt_ofInt {whole : Int}
    (fits : Int32.minValue.toInt ≤ whole ∧ whole ≤ Int32.maxValue.toInt) :
    (Int32.ofInt whole).toInt = whole :=
  Int32.toInt_ofInt_of_le fits.1 (Int.lt_add_one_iff.mpr fits.2)

theorem fits_toInt (value : Int32) :
    Int32.minValue.toInt ≤ value.toInt ∧ value.toInt ≤ Int32.maxValue.toInt :=
  ⟨value.minValue_le_toInt, value.toInt_le⟩

theorem toInt32_eq_ok_iff {value : Int32} : node.toInt32 = .ok value ↔ IsInt32 node value := by
  constructor
  · intro found
    unfold toInt32 at found
    split at found
    case h_1 whole =>
      dsimp only at found
      split at found
      case isTrue fits =>
        cases found
        exact .natural (toInt_ofInt fits)
      case isFalse => cases found
    case h_2 whole =>
      dsimp only at found
      split at found
      case isTrue fits =>
        cases found
        have read := IsInt32.negative (Int32.ofInt whole)
        rwa [toInt_ofInt fits] at read
      case isFalse => cases found
    case h_3 => exact absurd found (mismatch_ne_ok _ _ _)
  · rintro (⟨same⟩ | _)
    · simp only [toInt32, ← same, if_pos (fits_toInt value), Int32.ofInt_toInt]
    · simp only [toInt32, if_pos (fits_toInt value), Int32.ofInt_toInt]

theorem toBool_eq_ok_iff {value : Bool} : node.toBool = .ok value ↔ IsBool node value := by
  constructor
  · intro found
    unfold toBool at found
    split at found
    case h_1 value => exact Except.ok.inj found ▸ .intro value
    case h_2 => exact absurd found (mismatch_ne_ok _ _ _)
  · rintro ⟨_⟩
    rfl

theorem toText_eq_ok_iff {value : String} : node.toText = .ok value ↔ IsText node value := by
  constructor
  · intro found
    unfold toText at found
    split at found
    case h_1 value => exact Except.ok.inj found ▸ .intro value
    case h_2 => exact absurd found (mismatch_ne_ok _ _ _)
  · rintro ⟨_⟩
    rfl

end Node

end ChatTune.Json
