import ChatTune.Proofs.Json.Values
import ChatTune.Proofs.Time.Finite

/-!
# Numbers that are read are finite

Digits are taken into 64 bits, and what does not fit there is computed in floating arithmetic and
refused where it is not finite.  So every number that is read is finite, however it is written
(`Literal.value_fits`), and so are all numbers inside a value that is read, even inside of one that
breaks off (`readDocument_fits`).  A finite number is found wherever one is wanted
(`Node.isFinite_toFloat`).
-/

set_option autoImplicit false

namespace ChatTune.Json

/-! ## Single numbers -/

/-- A whole number of 64 bits and a sign, or a finite one. -/
def Number.Fits : Number → Prop
  | .natural value => value < 2 ^ 64
  | .negative value => value.natAbs < 2 ^ 64
  | .floating value => value.isFinite = true

/-- Digits never go beyond the limit. -/
theorem gather_le {limit number : Nat} (le : number ≤ limit) (digits : List UInt8) :
    (gather limit number digits).1 ≤ limit := by
  induction digits generalizing number with
  | nil => exact le
  | cons byte rest ih =>
      rw [gather]
      split
      case isTrue next => exact ih next
      case isFalse => exact le

/-- Whatever is scaled is finite. -/
theorem isFinite_of_scale {steps : Nat} {number value : Float} {exponent : Int}
    (scaled : scale steps number exponent = .ok value) : value.isFinite = true := by
  induction steps generalizing number exponent with
  | zero => cases scaled
  | succ steps ih =>
      rw [scale] at scaled
      split at scaled
      · dsimp only at scaled
        split at scaled
        case h_1 found =>
          cases scaled
          exact finite?_eq_some found
        case h_2 => cases scaled
      · split at scaled
        · cases scaled
          decide +kernel
        · split at scaled
          · cases scaled
          · exact ih scaled

theorem fits_of_floating {negative : Bool} {significand : Nat} {exponent : Int} {number : Number}
    (found : floating negative significand exponent = .ok number) : number.Fits := by
  obtain ⟨value, scaled, found⟩ := bind_eq_ok.mp found
  cases found
  have finite := isFinite_of_scale scaled
  cases negative with
  | true => exact Floating.isFinite_neg finite
  | false => exact finite

theorem fits_of_wholeNumber {negative : Bool} {significand : Nat} {number : Number}
    (small : significand ≤ largestSignificand)
    (found : wholeNumber negative significand = .ok number) : number.Fits := by
  have small : significand < 2 ^ 64 := Nat.lt_succ_of_le small
  unfold wholeNumber at found
  split at found
  · cases found
    exact small
  · split at found
    · exact fits_of_floating found
    · cases found
      show (-(significand : Int)).natAbs < 2 ^ 64
      rwa [Int.natAbs_neg, Int.natAbs_natCast]

/-- **A number that is read fits,** however it is written. -/
theorem Literal.value_fits {literal : Literal} {number : Number}
    (found : literal.value = .ok number) : number.Fits := by
  have small := gather_le (Nat.zero_le largestSignificand) literal.whole
  unfold Literal.value at found
  dsimp only at found
  split at found
  · exact fits_of_wholeNumber small found
  · split at found
    · exact fits_of_floating found
    · split at found
      · exact fits_of_floating found
      · split at found
        · cases found
        · exact fits_of_floating found

/-! ## Numbers inside of values -/

mutual

/-- All numbers inside a value fit. -/
def Node.Fits : Node → Prop
  | .number value => ∀ number, value = .ok number → number.Fits
  | .list items => items.Fits
  | .object members => members.Fits
  | _ => True

/-- All numbers inside the rest of a list fit. -/
def Items.Fits : Items → Prop
  | .item node rest => node.Fits ∧ rest.Fits
  | _ => True

/-- All numbers inside the rest of an object fit. -/
def Members.Fits : Members → Prop
  | .member _ node rest => node.Fits ∧ rest.Fits
  | _ => True

end

/-- A floating number that is wanted is found finite. -/
theorem Node.isFinite_toFloat {node : Node} {value : Float} (fits : node.Fits)
    (found : node.toFloat = .ok value) : value.isFinite = true := by
  cases Node.toFloat_eq_ok_iff.mp found with
  | natural value => exact Floating.isFinite_ofNat (fits _ rfl)
  | negative value => exact Floating.isFinite_ofInt (fits _ rfl)
  | floating value => exact fits _ rfl

/-! ## Readers -/

section Readers

variable (bytes : List UInt8)

theorem readNamed_fits (wanted : List Char) {value : Node} (fits : value.Fits) :
    (readNamed wanted value bytes).1.Fits := by
  unfold readNamed
  split
  · exact fits
  · exact trivial

theorem readNumber_fits : (readNumber bytes).1.Fits := by
  unfold readNumber
  split
  · exact fun number found => Literal.value_fits found
  · exact trivial
  · exact trivial

theorem readTextNode_fits : (readTextNode bytes).1.Fits := by
  unfold readTextNode
  split <;> exact trivial

/-- What the readers of some fuel find fits. -/
structure ReadersFit (fuel : Nat) : Prop where
  node : ∀ bytes, (readNode fuel bytes).1.Fits
  items : ∀ first bytes, (readItems fuel first bytes).1.Fits
  item : ∀ bytes, (readItem fuel bytes).1.Fits
  members : ∀ first bytes, (readMembers fuel first bytes).1.Fits
  member : ∀ byte bytes, (readMember fuel byte bytes).1.Fits

namespace ReadersFit

variable {fuel : Nat} (fit : ReadersFit fuel)

include fit

theorem node_succ : (readNode (fuel + 1) bytes).1.Fits := by
  rw [readNode]
  split
  · exact trivial
  · split_ifs
    · exact readNamed_fits _ _ trivial
    · exact readNamed_fits _ _ trivial
    · exact readNamed_fits _ _ trivial
    · exact readTextNode_fits _
    · exact readNumber_fits _
    · exact fit.items _ _
    · exact fit.members _ _
    · exact trivial

theorem items_succ (first : Bool) : (readItems (fuel + 1) first bytes).1.Fits := by
  rw [readItems]
  split
  · exact trivial
  · split_ifs
    · exact trivial
    · exact fit.item _
    · split
      · exact trivial
      · split_ifs
        · exact trivial
        · exact fit.item _
    · exact trivial

theorem item_succ : (readItem (fuel + 1) bytes).1.Fits := by
  rw [readItem]
  exact ⟨fit.node _, fit.items _ _⟩

theorem members_succ (first : Bool) : (readMembers (fuel + 1) first bytes).1.Fits := by
  rw [readMembers]
  split
  · exact trivial
  · split_ifs
    · exact trivial
    · exact fit.member _ _
    · split
      · exact trivial
      · split_ifs
        · exact trivial
        · exact fit.member _ _
    · exact trivial

theorem member_succ (byte : UInt8) : (readMember (fuel + 1) byte bytes).1.Fits := by
  rw [readMember]
  split_ifs
  · split
    · exact trivial
    · split
      · exact trivial
      · split_ifs
        · exact ⟨fit.node _, fit.members _ _⟩
        · exact trivial
  · exact trivial

end ReadersFit

theorem readersFit (fuel : Nat) : ReadersFit fuel := by
  induction fuel with
  | zero =>
      exact ⟨fun _ => trivial, fun _ _ => trivial, fun _ => trivial, fun _ _ => trivial,
        fun _ _ => trivial⟩
  | succ fuel ih =>
      exact ⟨fun bytes => ih.node_succ bytes, fun first bytes => ih.items_succ bytes first,
        fun bytes => ih.item_succ bytes, fun first bytes => ih.members_succ bytes first,
        fun byte bytes => ih.member_succ bytes byte⟩

/-- **All numbers of a file fit.** -/
theorem readDocument_fits : (readDocument bytes).node.Fits :=
  (readersFit (3 * bytes.length + 3)).node bytes

end Readers

end ChatTune.Json
