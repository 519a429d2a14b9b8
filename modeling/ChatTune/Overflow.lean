/-!
# Arithmetic that stays in range

Octaves, note numbers and counters have 32 bits.  An operation whose exact result does not
fit is not carried out: it reports which operation it was, and whatever depends on it stops.
-/

set_option autoImplicit false

namespace ChatTune

/-- **A sequence of two computations succeeds** when both of them do, whatever can fail. -/
theorem bind_eq_ok {ε α β : Type} {first : Except ε α} {second : α → Except ε β} {result : β} :
    (first >>= second) = .ok result ↔
      ∃ middle, first = .ok middle ∧ second middle = .ok result := by
  cases first with
  | error failure => simp only [bind, Except.bind, reduceCtorEq, false_and, exists_false]
  | ok middle => simp only [bind, Except.bind, Except.ok.injEq, exists_eq_left']

/-- The operation whose exact result does not fit its type. -/
inductive Overflow where
  | add
  | subtract
  | multiply
  deriving DecidableEq

namespace Overflow

/-- The operation in a message. -/
def message : Overflow → String
  | add => "attempt to add with overflow"
  | subtract => "attempt to subtract with overflow"
  | multiply => "attempt to multiply with overflow"

end Overflow

namespace Checked

/-- A whole number as a number of 32 bits, or the given operation's overflow. -/
def fit (operation : Overflow) (result : Int) : Except Overflow Int32 :=
  if Int32.minValue.toInt ≤ result ∧ result ≤ Int32.maxValue.toInt then .ok (Int32.ofInt result)
  else .error operation

/-- A whole number fits exactly when a number of 32 bits has its value. -/
theorem fit_eq_ok_iff {operation : Overflow} {result : Int} {number : Int32} :
    fit operation result = .ok number ↔ number.toInt = result := by
  constructor
  · intro done
    by_cases inside : Int32.minValue.toInt ≤ result ∧ result ≤ Int32.maxValue.toInt
    · rw [fit, if_pos inside] at done
      cases done
      exact Int32.toInt_ofInt_of_le inside.1 (Int.lt_add_one_of_le inside.2)
    · rw [fit, if_neg inside] at done
      cases done
  · rintro rfl
    rw [fit, if_pos ⟨number.minValue_le_toInt, number.toInt_le⟩, Int32.ofInt_toInt]

theorem fit_eq_error {operation : Overflow} {result : Int}
    (outside : result < Int32.minValue.toInt ∨ Int32.maxValue.toInt < result) :
    fit operation result = .error operation := by
  rw [fit, if_neg (by omega)]

/-- A sum. -/
def add (left right : Int32) : Except Overflow Int32 := fit .add (left.toInt + right.toInt)

/-- A difference. -/
def subtract (left right : Int32) : Except Overflow Int32 :=
  fit .subtract (left.toInt - right.toInt)

/-- A product. -/
def multiply (left right : Int32) : Except Overflow Int32 :=
  fit .multiply (left.toInt * right.toInt)

/-- The next value of a counter. -/
def next (count : UInt32) : Except Overflow UInt32 :=
  if count.toNat + 1 < UInt32.size then .ok (count + 1) else .error .add

end Checked

end ChatTune
