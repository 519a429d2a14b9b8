import ChatTune.Json.Layout
import ChatTune.Proofs.Json.Tokens
import Mathlib.Data.List.Forall2

/-!
# What is written is read back

A text is read as a value (`ReadAs`) when it is written as the grammar wants it, for then a reader
finds the value.  Numbers, words and tokens between quotation marks are read as themselves, and
lists and objects of such texts are read as the lists and objects of their values (`ReadAs.list`,
`ReadAs.object`).
-/

set_option autoImplicit false

namespace ChatTune.Json

open Decimal (Numeral)
open Text (IsToken)

/-! ## Values -/

/-- **A text on one line that is read as a value.** -/
structure ReadAs (text : List Char) (node : Node) : Prop where
  spells : Spells (.value node) (utf8 text)
  oneLine : '\n' ∉ text

/-- The marks of JSON are one byte each. -/
theorem utf8_mark {char : Char} {mark : UInt8} (single : utf8 [char] = [mark]) (text : List Char) :
    utf8 (char :: text) = mark :: utf8 text :=
  (utf8_append [char] text).trans (congrArg (· ++ utf8 text) single)

/-- The bytes of a text between two marks. -/
theorem utf8_enclosed {opening closing : Char} {first last : UInt8}
    (opens : utf8 [opening] = [first]) (closes : utf8 [closing] = [last]) (text : List Char) :
    utf8 (opening :: text ++ [closing]) = first :: (utf8 text ++ [last]) := by
  rw [utf8_append, utf8_mark opens, closes]
  rfl

theorem not_mem_enclosed {mark opening closing : Char} {text : List Char} (without : mark ∉ text)
    (other : mark ≠ opening ∧ mark ≠ closing) : mark ∉ opening :: text ++ [closing] := by
  intro member
  rcases List.mem_append.mp member with front | back
  · rcases List.mem_cons.mp front with same | inside
    · exact other.1 same
    · exact without inside
  · exact other.2 (List.mem_singleton.mp back)

namespace ReadAs

variable {text : List Char}

/-- The word for no number. -/
theorem null : ReadAs "null".toList .null where
  spells := .null
  oneLine := by decide

/-- A numeral is a number. -/
theorem numeral (negative : Bool) (numeral : Numeral) :
    ReadAs (numeral.signed negative) (.number (Literal.ofNumeral negative numeral).value) where
  spells := .number (spellsLiteral_signed negative numeral)
  oneLine := (numeral.isToken_signed negative).not_mem (by decide)

/-- A token between quotation marks is a text. -/
theorem token (token : IsToken text) :
    ReadAs ('"' :: text ++ ['"']) (.text (.ok (String.ofList text))) where
  spells := by
    have bytes : utf8 ('"' :: text ++ ['"']) = Byte.quote :: (utf8 text ++ [Byte.quote]) :=
      utf8_enclosed rfl rfl text
    rw [bytes, ← textOf_token]
    exact .text (spellsPieces_token token)
  oneLine := not_mem_enclosed (token.not_mem (by decide)) (by decide)

end ReadAs

/-! ## Parts between commas -/

/-- Parts that go on behind a first one, each with a comma before it. -/
def behind (parts : List (List Char)) : List Char := parts.flatMap (',' :: ·)

theorem intercalate_comma (part : List Char) (parts : List (List Char)) :
    [','].intercalate (part :: parts) = part ++ behind parts := by
  induction parts generalizing part with
  | nil => rw [List.intercalate_singleton, behind, List.flatMap_nil, List.append_nil]
  | cons next parts ih =>
      rw [List.intercalate_cons_cons, ih, behind, behind, List.flatMap_cons, List.append_assoc]
      rfl

theorem utf8_behind_cons (part : List Char) (parts : List (List Char)) :
    utf8 (behind (part :: parts)) = Byte.comma :: (utf8 part ++ utf8 (behind parts)) := by
  rw [behind, List.flatMap_cons, List.cons_append, utf8_mark rfl, utf8_append]
  rfl

/-! ## Lists -/

/-- What is left of a list. -/
theorem spells_items_behind {texts : List (List Char)} {nodes : List Node}
    (each : List.Forall₂ ReadAs texts nodes) :
    Spells (.items false nodes) (utf8 (behind texts) ++ [Byte.closeList]) := by
  induction each with
  | nil => exact .noItem false
  | @cons text node texts nodes read others ih =>
      rw [utf8_behind_cons, List.cons_append, List.append_assoc]
      exact .nextItem (.item read.spells ih)

/-- **A list of texts that are read as values is read as the list of these values.** -/
theorem ReadAs.list {texts : List (List Char)} {nodes : List Node}
    (each : List.Forall₂ ReadAs texts nodes) :
    ReadAs ('[' :: [','].intercalate texts ++ [']']) (.list (.of nodes)) := by
  have bytes : utf8 ('[' :: [','].intercalate texts ++ [']']) =
      Byte.openList :: (utf8 ([','].intercalate texts) ++ [Byte.closeList]) :=
    utf8_enclosed rfl rfl _
  have oneLine : ∀ text ∈ texts, '\n' ∉ text :=
    ((List.forall₂_and_left texts nodes).mp (each.imp fun _ _ read => ⟨read.oneLine, read⟩)).1
  refine ⟨?_, not_mem_enclosed (Text.not_mem_intercalate (by decide) oneLine) (by decide)⟩
  rw [bytes]
  cases each with
  | nil => exact .list (.noItem true)
  | @cons text node texts nodes read others =>
      rw [intercalate_comma, utf8_append, List.append_assoc]
      exact .list (.firstItem (.item read.spells (spells_items_behind others)))

/-! ## Objects -/

/-- A member of an object as it is written. -/
def memberText (name : String) (value : List Char) : List Char :=
  ('"' :: name.toList ++ ['"']) ++ ':' :: value

/-- A text that is read as a member of an object. -/
inductive MemberReadAs : List Char → String × Node → Prop
  | intro {name : String} {value : List Char} {node : Node} (token : IsToken name.toList)
      (read : ReadAs value node) : MemberReadAs (memberText name value) (name, node)

theorem utf8_memberText (name : String) (value : List Char) :
    utf8 (memberText name value) =
      Byte.quote :: (utf8 name.toList ++ Byte.quote :: Byte.colon :: utf8 value) := by
  rw [memberText, utf8_append, utf8_enclosed rfl rfl, utf8_mark rfl, List.cons_append,
    List.append_assoc]
  rfl

theorem MemberReadAs.oneLine {member : List Char} {entry : String × Node}
    (read : MemberReadAs member entry) : '\n' ∉ member := by
  obtain ⟨token, value⟩ := read
  intro inside
  rcases List.mem_append.mp inside with inName | behind
  · exact not_mem_enclosed (token.not_mem (by decide)) (by decide) inName
  · rcases List.mem_cons.mp behind with colon | inValue
    · exact absurd colon (by decide)
    · exact value.oneLine inValue

/-- A member, and what follows it. -/
theorem MemberReadAs.spells {text : List Char} {entry : String × Node}
    (read : MemberReadAs text entry) {members : List (String × Node)} {rest : List UInt8}
    (others : Spells (.members false members) rest) :
    Spells (.member (entry :: members)) (utf8 text ++ rest) := by
  cases read with
  | @intro name value node token read =>
      have named : textOf ((utf8 name.toList).map Piece.byte) = .ok name := by
        rw [textOf_token, String.ofList_toList]
      rw [utf8_memberText, List.cons_append, List.append_assoc]
      exact .member (spellsPieces_token token) named (.worth read.spells) others

/-- What is left of an object. -/
theorem spells_members_behind {texts : List (List Char)} {members : List (String × Node)}
    (each : List.Forall₂ MemberReadAs texts members) :
    Spells (.members false members) (utf8 (behind texts) ++ [Byte.closeObject]) := by
  induction each with
  | nil => exact .noMember false
  | @cons text member texts members first others ih =>
      rw [utf8_behind_cons, List.cons_append, List.append_assoc]
      exact .nextMember (first.spells ih)

/-- **An object whose members are read as members is read as the object of these.** -/
theorem ReadAs.object {texts : List (List Char)} {members : List (String × Node)}
    (each : List.Forall₂ MemberReadAs texts members) :
    ReadAs ('\x7b' :: [','].intercalate texts ++ ['\x7d']) (.object (.of members)) := by
  have bytes : utf8 ('\x7b' :: [','].intercalate texts ++ ['\x7d']) =
      Byte.openObject :: (utf8 ([','].intercalate texts) ++ [Byte.closeObject]) :=
    utf8_enclosed rfl rfl _
  have oneLine : ∀ text ∈ texts, '\n' ∉ text :=
    ((List.forall₂_and_left texts members).mp (each.imp fun _ _ read => ⟨read.oneLine, read⟩)).1
  refine ⟨?_, not_mem_enclosed (Text.not_mem_intercalate (by decide) oneLine) (by decide)⟩
  rw [bytes]
  cases each with
  | nil => exact .object (.noMember true)
  | @cons text member texts members first others =>
      rw [intercalate_comma, utf8_append, List.append_assoc]
      exact .object (.firstMember (first.spells (spells_members_behind others)))

/-! ## Floating numbers -/

/-- What a layout writes is a numeral, or the word for no number. -/
theorem exists_readAs_value {layout : Decimal.Layout} (signs : layout.exponentPlus = "+")
    (words : layout.notANumber = "null" ∧ layout.infinite = "null" ∧
      layout.negativeInfinite = "null") {value : Decimal.Value}
    (inRange : ∀ negative magnitude, value = .finite negative magnitude → magnitude.InRange) :
    ∃ node, ReadAs (layout.value value).toList node := by
  obtain ⟨notANumber, infinite, negativeInfinite⟩ := words
  cases value with
  | notANumber =>
      rw [Decimal.Layout.value, notANumber]
      exact ⟨_, .null⟩
  | infinite negative =>
      rw [Decimal.Layout.value, infinite, negativeInfinite, ite_self]
      exact ⟨_, .null⟩
  | finite negative magnitude =>
      obtain ⟨numeral, written⟩ :=
        Decimal.Layout.exists_numeral_value signs negative (inRange _ _ rfl)
      rw [written]
      exact ⟨_, .numeral negative numeral⟩

theorem exists_readAs_double (number : Float) :
    ∃ node, ReadAs (doubleLayout.double number).toList node :=
  exists_readAs_value rfl ⟨rfl, rfl, rfl⟩ fun _ _ finite => Decimal.inRange_of_double finite

theorem exists_readAs_single (number : Float32) :
    ∃ node, ReadAs (singleLayout.single number).toList node :=
  exists_readAs_value rfl ⟨rfl, rfl, rfl⟩ fun _ _ finite => Decimal.inRange_of_single finite

/-! ## Documents -/

/-- The bytes of a text that is read as a value hold it. -/
theorem ReadAs.holds {text : List Char} {node : Node} {file : List UInt8}
    (read : ReadAs text node) (bytes : utf8 text = file) : Holds file node := by
  have holds : Holds (utf8 text ++ []) node := .intro read.spells fun _ member => (by cases member)
  rwa [List.append_nil, bytes] at holds

/-- The value of a text that is one sound value and nothing else. -/
def valueOf? (text : List Char) : Option Node :=
  let document := readDocument (utf8 text)
  match document.trailing, document.node.skip with
  | false, .ok () => some document.node
  | _, _ => none

/-- **A whole text that is read as a value has that value.** -/
theorem ReadAs.valueOf? {text : List Char} {node : Node} (read : ReadAs text node) :
    valueOf? text = some node := by
  have holds := read.holds rfl
  simp only [Json.valueOf?, holds.document, holds.sound]

end ChatTune.Json
