/-!
# Names and numbers as tokens

Names of pitches and numbers are written with ASCII letters, digits and a few marks.  None of these
characters is a blank, a tab, the end of a line or a quotation mark, so what is put between such
characters can be taken apart at them (`IsToken.not_mem`).
-/

set_option autoImplicit false

namespace ChatTune.Text

/-- The marks that stand in names and numbers beside letters and digits. -/
def tokenMarks : List Char := ['#', '+', '-', '.', '_']

/-- Whether a character can stand in a name or a number. -/
def inToken (char : Char) : Bool := char.isAlphanum || char ∈ tokenMarks

/-- A text of characters that stand in names and numbers. -/
def IsToken (text : List Char) : Prop := ∀ char ∈ text, inToken char = true

instance (text : List Char) : Decidable (IsToken text) :=
  decidable_of_iff (text.all inToken = true) List.all_eq_true

theorem inToken_of_isDigit {char : Char} (digit : char.isDigit = true) : inToken char = true := by
  simp only [inToken, Char.isAlphanum, digit, Bool.or_true, Bool.true_or]

/-- Characters of tokens are ASCII characters. -/
theorem toNat_lt_of_inToken {char : Char} (inside : inToken char = true) : char.toNat < 128 := by
  have upTo {last : Char} (below : char.val ≤ last.val) (ascii : last.toNat < 128) :
      char.toNat < 128 := Nat.lt_of_le_of_lt (UInt32.le_iff_toNat_le.mp below) ascii
  rcases Bool.or_eq_true_iff.mp inside with alphanumeric | mark
  · rcases Bool.or_eq_true_iff.mp alphanumeric with letter | digit
    · rcases Bool.or_eq_true_iff.mp letter with upper | lower
      · have range : char.val ≥ 'A'.val ∧ char.val ≤ 'Z'.val := of_decide_eq_true upper
        exact upTo range.2 (by decide)
      · exact upTo (of_decide_eq_true (Bool.and_eq_true_iff.mp lower).2) (by decide)
    · exact upTo (of_decide_eq_true (Bool.and_eq_true_iff.mp digit).2) (by decide)
  · have marks : (tokenMarks.all fun char => char.toNat < 128) = true := by decide
    exact of_decide_eq_true (List.all_eq_true.mp marks char (of_decide_eq_true mark))

/-- What holds of the token characters up to `127` holds of all of them. -/
theorem forall_inToken {P : Char → Prop}
    (each : ∀ code < 128, inToken (Char.ofNat code) = true → P (Char.ofNat code)) {char : Char}
    (inside : inToken char = true) : P char := by
  have reached := each char.toNat (toNat_lt_of_inToken inside)
  rw [Char.ofNat_toNat] at reached
  exact reached inside

namespace IsToken

variable {first second : List Char}

theorem nil : IsToken [] := fun _ member => absurd member (List.not_mem_nil)

theorem cons {char : Char} (inside : inToken char = true) (token : IsToken first) :
    IsToken (char :: first) :=
  List.forall_mem_cons.mpr ⟨inside, token⟩

theorem append (left : IsToken first) (right : IsToken second) : IsToken (first ++ second) :=
  List.forall_mem_append.mpr ⟨left, right⟩

theorem of_isDigit (digits : ∀ char ∈ first, char.isDigit = true) : IsToken first :=
  fun char member => inToken_of_isDigit (digits char member)

/-- A character that stands in no token is not in a given one. -/
theorem not_mem (token : IsToken first) {char : Char} (outside : inToken char = false) :
    char ∉ first := fun member => by
  cases (token char member).symm.trans outside

end IsToken

/-- A mark that neither separates parts nor stands in one is nowhere between them. -/
theorem not_mem_intercalate {mark separator : Char} (other : mark ≠ separator)
    {parts : List (List Char)} (without : ∀ part ∈ parts, mark ∉ part) :
    mark ∉ [separator].intercalate parts := by
  induction parts with
  | nil => exact List.not_mem_nil
  | cons part parts ih =>
      obtain ⟨first, others⟩ := List.forall_mem_cons.mp without
      cases parts with
      | nil => rwa [List.intercalate_singleton]
      | cons next parts =>
          rw [List.intercalate_cons_cons]
          intro member
          rcases List.mem_append.mp member with front | later
          · rcases List.mem_append.mp front with inside | between
            · exact first inside
            · exact other (List.mem_singleton.mp between)
          · exact ih others later

end ChatTune.Text
