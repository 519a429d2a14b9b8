import ChatTune.Proofs.Decimal.Numeral
import ChatTune.Proofs.Json.Grammar

/-!
# Tokens obey the grammar

What is written by numerals and tokens obeys the grammar of JSON.  A numeral spells a number
(`spellsLiteral_signed`), and no comma or closing bracket could be a part of it.  A token between
quotation marks holds no quotation mark, no escape and no control character, so it spells a text
that is itself (`spellsPieces_token`, `textOf_token`).
-/

set_option autoImplicit false

namespace ChatTune.Json

open Decimal (DigitRun Numeral)
open Text (IsToken inToken)

/-! ## Bytes -/

/-- The bytes of a text. -/
def utf8 (text : List Char) : List UInt8 := text.flatMap String.utf8EncodeChar

theorem utf8_append (first second : List Char) :
    utf8 (first ++ second) = utf8 first ++ utf8 second :=
  List.flatMap_append

/-- A character of a token is one byte. -/
theorem utf8EncodeChar_of_inToken {char : Char} (inside : inToken char = true) :
    String.utf8EncodeChar char = [Byte.of char] :=
  if_pos (Nat.le_of_lt_succ (Text.toNat_lt_of_inToken inside))

theorem utf8_of_isToken {text : List Char} (token : IsToken text) :
    utf8 text = text.map Byte.of := by
  induction text with
  | nil => rfl
  | cons char rest ih =>
      obtain ⟨inside, others⟩ := List.forall_mem_cons.mp token
      rw [utf8, List.flatMap_cons, utf8EncodeChar_of_inToken inside]
      exact congrArg (Byte.of char :: ·) (ih others)

/-- The text of the bytes of a text is that text. -/
theorem textOfBytes_utf8 (text : List Char) :
    textOfBytes (utf8 text) = .ok (String.ofList text) := by
  have bytes : (⟨(utf8 text).toArray⟩ : ByteArray) = (String.ofList text).toByteArray := by
    rw [String.toByteArray_ofList, List.utf8Encode]
    exact ByteArray.ext List.data_toByteArray.symm
  rw [textOfBytes, bytes, String.fromUTF8?, dif_pos (String.ofList text).isValidUTF8]
  rfl

/-- The byte of a token character, and what it is not. -/
structure OfToken (char : Char) (byte : UInt8) : Prop where
  digit : char.isDigit = true → Byte.isDigit byte = true
  notQuote : byte ≠ Byte.quote
  notBackslash : byte ≠ Byte.backslash
  notControl : ¬ byte < 0x20
  zero : byte = Byte.zero → char = '0'

theorem ofToken_byteOf {char : Char} (inside : inToken char = true) :
    OfToken char (Byte.of char) := by
  obtain ⟨digit, notQuote, notBackslash, notControl, zero⟩ :=
    Text.forall_inToken (P := fun char =>
      (char.isDigit = true → Byte.isDigit (Byte.of char) = true) ∧ Byte.of char ≠ Byte.quote ∧
        Byte.of char ≠ Byte.backslash ∧ ¬ Byte.of char < 0x20 ∧
        (Byte.of char = Byte.zero → char = '0'))
      (by decide +kernel) inside
  exact ⟨digit, notQuote, notBackslash, notControl, zero⟩

/-! ## Numbers -/

/-- A run of digits is one in bytes. -/
theorem digits_utf8 (run : DigitRun) : Digits (utf8 run.chars) where
  ne_nil := by
    rw [utf8_of_isToken run.isToken]
    exact fun empty => run.ne_nil (List.map_eq_nil_iff.mp empty)
  isDigit := by
    rw [utf8_of_isToken run.isToken]
    refine List.forall_mem_map.mpr fun char member => ?_
    exact (ofToken_byteOf (run.isToken char member)).digit (run.isDigit char member)

/-- The parts of an exponent in bytes. -/
def exponentBytes : Option (Bool × DigitRun) → Option (Bool × List UInt8)
  | some (negative, digits) => some (negative, utf8 digits.chars)
  | none => none

/-- The parts of a numeral in bytes. -/
def Literal.ofNumeral (negative : Bool) (numeral : Numeral) : Literal where
  negative := negative
  whole := utf8 numeral.whole.chars
  fraction := utf8 (numeral.fraction.elim [] DigitRun.chars)
  exponent := exponentBytes numeral.exponent

theorem spellsFraction_text (fraction : Option DigitRun) :
    SpellsFraction (utf8 (fraction.elim [] DigitRun.chars))
      (utf8 (Numeral.fractionText fraction)) := by
  cases fraction with
  | some digits => exact .present (digits_utf8 digits)
  | none => exact .absent

theorem spellsExponent_text (exponent : Option (Bool × DigitRun)) :
    SpellsExponent (exponentBytes exponent) (utf8 (Numeral.exponentText exponent)) := by
  cases exponent with
  | some part =>
      obtain ⟨negative, digits⟩ := part
      cases negative with
      | true => exact .present (.inl rfl) .minus (digits_utf8 digits)
      | false => exact .present (.inl rfl) .plus (digits_utf8 digits)
  | none => exact .absent

/-- A whole part of several digits does not begin with the byte of zero. -/
theorem lead_utf8 (numeral : Numeral) :
    (utf8 numeral.whole.chars).length = 1 ∨
      (utf8 numeral.whole.chars).head? ≠ some Byte.zero := by
  rw [utf8_of_isToken numeral.whole.isToken, List.length_map, List.head?_map]
  refine numeral.lead.imp_right fun lead zero => lead ?_
  obtain ⟨char, first, byte⟩ := Option.map_eq_some_iff.mp zero
  have token := numeral.whole.isToken char (List.mem_of_head? first)
  rw [first, (ofToken_byteOf token).zero byte]

/-- **A numeral is a number.** -/
theorem spellsLiteral_signed (negative : Bool) (numeral : Numeral) :
    SpellsLiteral (.ofNumeral negative numeral) (utf8 (numeral.signed negative)) := by
  have parts : utf8 numeral.text = utf8 numeral.whole.chars ++
      (utf8 (Numeral.fractionText numeral.fraction) ++
        utf8 (Numeral.exponentText numeral.exponent)) := by
    rw [Numeral.text, utf8_append, utf8_append, List.append_assoc]
  have bytes : utf8 (numeral.signed negative) =
      (if negative then [Byte.minus] else []) ++ utf8 numeral.text := by
    cases negative <;> rfl
  rw [bytes, parts]
  exact .intro negative (digits_utf8 numeral.whole) (lead_utf8 numeral)
    (spellsFraction_text numeral.fraction) (spellsExponent_text numeral.exponent)

/-! ## Texts -/

/-- The pieces of a token are its bytes. -/
theorem spellsPieces_token {text : List Char} (token : IsToken text) :
    SpellsPieces ((utf8 text).map Piece.byte) (utf8 text) := by
  rw [utf8_of_isToken token]
  induction text with
  | nil => exact .nil
  | cons char text ih =>
      obtain ⟨inside, others⟩ := List.forall_mem_cons.mp token
      obtain ⟨-, notQuote, notBackslash, notControl, -⟩ := ofToken_byteOf inside
      exact .plain notQuote notBackslash notControl (ih others)

theorem decodePieces_map_byte (bytes : List UInt8) :
    decodePieces none (bytes.map Piece.byte) = .ok bytes := by
  induction bytes with
  | nil => rfl
  | cons byte bytes ih =>
      rw [List.map_cons, decodePieces, ih]
      rfl

/-- **A token between quotation marks stands for itself.** -/
theorem textOf_token (text : List Char) :
    textOf ((utf8 text).map Piece.byte) = .ok (String.ofList text) := by
  rw [textOf, decodePieces_map_byte]
  exact textOfBytes_utf8 text

end ChatTune.Json
