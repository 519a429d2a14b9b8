import ChatTune.Json.Node
import Mathlib.Data.List.DropRight

/-!
# The grammar of JSON

Which bytes write which value (`Spells`), told without a reader: what follows an opening bracket,
an item and a key is a phrase of its own, and blanks may stand before every phrase.  A text is any
run of plain bytes and escapes, so a value can be well written although its text has no characters,
and a number can be well written although it is too large.  The key of a member has to be a text.

A reader finds what is written and stops right behind it.  A phrase takes one call more than its
parts (`Phrase.ReadFrom`), so that three calls for every byte are enough (`Spells.readFrom`).
Nothing wrong is found on the way (`Spells.sound`), and so a whole file has the value that it holds
(`Holds.document`).
-/

set_option autoImplicit false

namespace ChatTune.Json

/-! ## Numbers -/

/-- One or more digits. -/
structure Digits (bytes : List UInt8) : Prop where
  ne_nil : bytes ≠ []
  isDigit : ∀ byte ∈ bytes, Byte.isDigit byte = true

/-- The digits of a fraction, and how they are written. -/
inductive SpellsFraction : List UInt8 → List UInt8 → Prop
  | absent : SpellsFraction [] []
  | present {digits : List UInt8} (run : Digits digits) :
      SpellsFraction digits (Byte.point :: digits)

/-- Whether an exponent is negative. -/
inductive SpellsSign : Bool → List UInt8 → Prop
  | absent : SpellsSign false []
  | plus : SpellsSign false [Byte.plus]
  | minus : SpellsSign true [Byte.minus]

/-- The sign and the digits of an exponent. -/
inductive SpellsExponent : Option (Bool × List UInt8) → List UInt8 → Prop
  | absent : SpellsExponent none []
  | present {mark : UInt8} {negative : Bool} {sign digits : List UInt8}
      (begins : mark = Byte.of 'e' ∨ mark = Byte.of 'E') (signed : SpellsSign negative sign)
      (run : Digits digits) : SpellsExponent (some (negative, digits)) (mark :: (sign ++ digits))

/-- The parts of a number.  A whole part of several digits does not begin with a zero. -/
inductive SpellsLiteral : Literal → List UInt8 → Prop
  | intro (negative : Bool) {whole fraction point mark : List UInt8}
      {exponent : Option (Bool × List UInt8)} (run : Digits whole)
      (lead : whole.length = 1 ∨ whole.head? ≠ some Byte.zero)
      (fractional : SpellsFraction fraction point) (scaled : SpellsExponent exponent mark) :
      SpellsLiteral ⟨negative, whole, fraction, exponent⟩
        ((if negative then [Byte.minus] else []) ++ (whole ++ (point ++ mark)))

/-! ## Texts -/

/-- The pieces of a text between its quotation marks. -/
inductive SpellsPieces : List Piece → List UInt8 → Prop
  | nil : SpellsPieces [] []
  /-- A byte that stands for itself. -/
  | plain {pieces : List Piece} {bytes : List UInt8} {byte : UInt8}
      (notQuote : byte ≠ Byte.quote) (notBackslash : byte ≠ Byte.backslash)
      (notControl : ¬ byte < 0x20) (rest : SpellsPieces pieces bytes) :
      SpellsPieces (.byte byte :: pieces) (byte :: bytes)
  /-- An escape of one letter. -/
  | escape {pieces : List Piece} {bytes : List UInt8} {mark value : UInt8}
      (escapes : Byte.escaped? mark = some value) (rest : SpellsPieces pieces bytes) :
      SpellsPieces (.byte value :: pieces) (Byte.backslash :: mark :: bytes)
  /-- A unit of four hexadecimal digits. -/
  | unit {pieces : List Piece} {bytes : List UInt8} {first second third fourth : UInt8}
      {unit : Nat} (digits : unitOf? first second third fourth = some unit)
      (rest : SpellsPieces pieces bytes) :
      SpellsPieces (.unit unit :: pieces)
        (Byte.backslash :: Byte.of 'u' :: first :: second :: third :: fourth :: bytes)

/-- The text of some pieces. -/
def textOf (pieces : List Piece) : Except Fault String :=
  decodePieces none pieces >>= textOfBytes

/-! ## Values -/

/-- The items of a list that is complete. -/
def Items.of : List Node → Items
  | [] => .close
  | node :: nodes => .item node (.of nodes)

/-- The members of an object that is complete. -/
def Members.of : List (String × Node) → Members
  | [] => .close
  | (name, node) :: members => .member (.ok name) node (.of members)

/-- What can be written. -/
inductive Phrase where
  | value (node : Node)
  /-- What follows a bracket that opens a list, or else an item of one. -/
  | items (first : Bool) (nodes : List Node)
  /-- An item of a list, and what follows it. -/
  | item (nodes : List Node)
  /-- What follows a bracket that opens an object, or else a member of one. -/
  | members (first : Bool) (members : List (String × Node))
  /-- A member of an object, and what follows it. -/
  | member (members : List (String × Node))
  /-- What follows the key of a member: a colon and the value. -/
  | worth (node : Node)

/-- **What is written how.** -/
inductive Spells : Phrase → List UInt8 → Prop
  /-- Blanks may stand before everything. -/
  | blank {phrase : Phrase} {byte : UInt8} {bytes : List UInt8} (isBlank : Byte.isBlank byte = true)
      (rest : Spells phrase bytes) : Spells phrase (byte :: bytes)
  | null : Spells (.value .null) ("null".toList.map Byte.of)
  | boolean (value : Bool) :
      Spells (.value (.boolean value)) ((if value then "true" else "false").toList.map Byte.of)
  | number {literal : Literal} {bytes : List UInt8} (parts : SpellsLiteral literal bytes) :
      Spells (.value (.number literal.value)) bytes
  | text {pieces : List Piece} {bytes : List UInt8} (parts : SpellsPieces pieces bytes) :
      Spells (.value (.text (textOf pieces))) (Byte.quote :: (bytes ++ [Byte.quote]))
  | list {nodes : List Node} {bytes : List UInt8} (items : Spells (.items true nodes) bytes) :
      Spells (.value (.list (.of nodes))) (Byte.openList :: bytes)
  | object {members : List (String × Node)} {bytes : List UInt8}
      (parts : Spells (.members true members) bytes) :
      Spells (.value (.object (.of members))) (Byte.openObject :: bytes)
  | noItem (first : Bool) : Spells (.items first []) [Byte.closeList]
  | firstItem {nodes : List Node} {bytes : List UInt8} (item : Spells (.item nodes) bytes) :
      Spells (.items true nodes) bytes
  | nextItem {nodes : List Node} {bytes : List UInt8} (item : Spells (.item nodes) bytes) :
      Spells (.items false nodes) (Byte.comma :: bytes)
  | item {node : Node} {nodes : List Node} {bytes rest : List UInt8}
      (value : Spells (.value node) bytes) (others : Spells (.items false nodes) rest) :
      Spells (.item (node :: nodes)) (bytes ++ rest)
  | noMember (first : Bool) : Spells (.members first []) [Byte.closeObject]
  | firstMember {members : List (String × Node)} {bytes : List UInt8}
      (member : Spells (.member members) bytes) : Spells (.members true members) bytes
  | nextMember {members : List (String × Node)} {bytes : List UInt8}
      (member : Spells (.member members) bytes) :
      Spells (.members false members) (Byte.comma :: bytes)
  | member {pieces : List Piece} {name : String} {node : Node} {members : List (String × Node)}
      {key bytes rest : List UInt8} (written : SpellsPieces pieces key)
      (named : textOf pieces = .ok name) (worth : Spells (.worth node) bytes)
      (others : Spells (.members false members) rest) :
      Spells (.member ((name, node) :: members))
        (Byte.quote :: (key ++ Byte.quote :: (bytes ++ rest)))
  | worth {node : Node} {bytes : List UInt8} (value : Spells (.value node) bytes) :
      Spells (.worth node) (Byte.colon :: bytes)

/-- **A file that holds a value,** with nothing but blanks behind it. -/
inductive Holds : List UInt8 → Node → Prop
  | intro {node : Node} {bytes blanks : List UInt8} (value : Spells (.value node) bytes)
      (ends : ∀ byte ∈ blanks, Byte.isBlank byte = true) : Holds (bytes ++ blanks) node

/-! ## Numbers are read -/

/-- What follows the digits of a number is no digit. -/
def NoDigit (rest : List UInt8) : Prop := ∀ byte ∈ rest.head?, Byte.isDigit byte = false

/-- What follows the fraction of a number is neither a digit nor a point. -/
def NoFraction (rest : List UInt8) : Prop :=
  NoDigit rest ∧ ∀ byte ∈ rest.head?, byte ≠ Byte.point

/-- What follows a number could be no part of it. -/
def NoNumber (rest : List UInt8) : Prop :=
  NoFraction rest ∧ ∀ byte ∈ rest.head?, ¬ (byte = Byte.of 'e' ∨ byte = Byte.of 'E')

section Numbers

variable {digits bytes rest : List UInt8}

theorem Digits.exists_cons (run : Digits digits) :
    ∃ first others, digits = first :: others ∧ Byte.isDigit first = true := by
  obtain ⟨first, others, rfl⟩ := List.exists_cons_of_ne_nil run.ne_nil
  exact ⟨first, others, rfl, run.isDigit first List.mem_cons_self⟩

/-- **All digits of a run are read.** -/
theorem Digits.read (run : Digits digits) (stops : NoDigit rest) :
    readDigits (digits ++ rest) = .ok (digits, rest) := by
  have stopped : rest.takeWhile Byte.isDigit = [] ∧ rest.dropWhile Byte.isDigit = rest := by
    cases rest with
    | nil => exact ⟨rfl, rfl⟩
    | cons byte rest =>
        have other := Bool.eq_false_iff.mp (stops byte rfl)
        exact ⟨List.takeWhile_cons_of_neg other, List.dropWhile_cons_of_neg other⟩
  rw [readDigits, List.takeWhile_append_of_pos run.isDigit,
    List.dropWhile_append_of_pos run.isDigit, stopped.1, stopped.2, List.append_nil]
  obtain ⟨first, others, rfl, -⟩ := run.exists_cons
  rfl

theorem SpellsFraction.read {fraction : List UInt8} (spelled : SpellsFraction fraction bytes)
    (stops : NoFraction rest) : readFraction (bytes ++ rest) = .ok (fraction, rest) := by
  cases spelled with
  | present run => exact run.read stops.1
  | absent =>
      cases rest with
      | nil => rfl
      | cons byte rest => exact if_neg (stops.2 byte rfl)

theorem SpellsFraction.noDigit {fraction : List UInt8} (spelled : SpellsFraction fraction bytes)
    (stops : NoDigit rest) : NoDigit (bytes ++ rest) := by
  cases spelled with
  | present run => exact fun byte member => Option.some.inj member ▸ rfl
  | absent => exact stops

theorem SpellsSign.read {negative : Bool} {sign : List UInt8} (spelled : SpellsSign negative sign)
    (run : Digits digits) : readSign (sign ++ (digits ++ rest)) = (negative, digits ++ rest) := by
  cases spelled with
  | plus => rfl
  | minus => rfl
  | absent =>
      obtain ⟨first, others, rfl, digit⟩ := run.exists_cons
      have notMinus : first ≠ Byte.minus := fun same => absurd digit (same ▸ by decide)
      have notPlus : first ≠ Byte.plus := fun same => absurd digit (same ▸ by decide)
      simp only [List.nil_append, List.cons_append, readSign, if_neg notMinus, if_neg notPlus]

theorem SpellsExponent.read {exponent : Option (Bool × List UInt8)}
    (spelled : SpellsExponent exponent bytes) (stops : NoNumber rest) :
    readExponent (bytes ++ rest) = .ok (exponent, rest) := by
  cases spelled with
  | present begins signed run =>
      rw [List.cons_append, List.append_assoc, readExponent, if_pos begins, signed.read run]
      dsimp only
      rw [run.read stops.1.1]
      rfl
  | absent =>
      cases rest with
      | nil => rfl
      | cons byte rest => exact if_neg (stops.2 byte rfl)

theorem SpellsExponent.noFraction {exponent : Option (Bool × List UInt8)}
    (spelled : SpellsExponent exponent bytes) (stops : NoNumber rest) :
    NoFraction (bytes ++ rest) := by
  cases spelled with
  | present begins signed run =>
      rcases begins with rfl | rfl
      · exact ⟨fun byte member => Option.some.inj member ▸ rfl,
          fun byte member => Option.some.inj member ▸ (by decide : Byte.of 'e' ≠ Byte.point)⟩
      · exact ⟨fun byte member => Option.some.inj member ▸ rfl,
          fun byte member => Option.some.inj member ▸ (by decide : Byte.of 'E' ≠ Byte.point)⟩
  | absent => exact stops.1

/-- The parts of a number behind its sign. -/
def readParts (negative : Bool) (bytes : List UInt8) :
    Except (List UInt8) (Literal × List UInt8) := do
  let (whole, rest) ← readDigits bytes
  if whole.length ≠ 1 ∧ whole.head? = some Byte.zero then .error whole
  let (fraction, rest) ← readFraction rest
  let (exponent, rest) ← readExponent rest
  return (⟨negative, whole, fraction, exponent⟩, rest)

theorem readLiteral_minus (bytes : List UInt8) :
    readLiteral (Byte.minus :: bytes) = readParts true bytes := rfl

theorem readLiteral_of_ne_minus {byte : UInt8} (other : byte ≠ Byte.minus) (bytes : List UInt8) :
    readLiteral (byte :: bytes) = readParts false (byte :: bytes) := by
  unfold readLiteral
  dsimp only
  rw [if_neg other]
  rfl

/-- **A number is read as its parts.** -/
theorem SpellsLiteral.read {literal : Literal} (spelled : SpellsLiteral literal bytes)
    (stops : NoNumber rest) : readLiteral (bytes ++ rest) = .ok (literal, rest) := by
  obtain ⟨negative, run, lead, fractional, scaled⟩ := spelled
  rename_i whole fraction point mark exponent
  have behindFraction := scaled.noFraction stops
  have parts : readParts negative (whole ++ (point ++ (mark ++ rest))) =
      .ok (⟨negative, whole, fraction, exponent⟩, rest) := by
    rw [readParts, run.read (fractional.noDigit behindFraction.1)]
    simp only [bind, Except.bind]
    rw [if_neg (fun wrong => lead.elim wrong.1 fun first => first wrong.2),
      fractional.read behindFraction]
    dsimp only
    rw [scaled.read stops]
    rfl
  rw [List.append_assoc, List.append_assoc, List.append_assoc]
  cases negative with
  | true => exact (readLiteral_minus _).trans parts
  | false =>
      obtain ⟨first, others, rfl, digit⟩ := run.exists_cons
      have other : first ≠ Byte.minus := fun same => absurd digit (same ▸ by decide)
      exact (readLiteral_of_ne_minus other _).trans parts

/-- A number begins with its sign or with a digit. -/
theorem SpellsLiteral.exists_cons {literal : Literal} (spelled : SpellsLiteral literal bytes) :
    ∃ first others, bytes = first :: others ∧
      (first = Byte.minus ∨ Byte.isDigit first = true) := by
  obtain ⟨negative, run, lead, fractional, scaled⟩ := spelled
  obtain ⟨first, others, rfl, digit⟩ := run.exists_cons
  cases negative with
  | true => exact ⟨_, _, rfl, .inl rfl⟩
  | false => exact ⟨_, _, rfl, .inr digit⟩

end Numbers

/-! ## Texts are read -/

/-- **All pieces of a text are found.** -/
theorem SpellsPieces.read {found : List Piece} {bytes : List UInt8}
    (spelled : SpellsPieces found bytes) (rest : List UInt8) :
    pieces (bytes ++ Byte.quote :: rest) = (found, .ok rest) := by
  induction spelled with
  | nil =>
      rw [List.nil_append, pieces.eq_def]
      exact if_pos rfl
  | plain notQuote notBackslash notControl _ ih =>
      rw [List.cons_append, pieces.eq_def]
      dsimp only
      rw [if_neg notQuote, if_neg notBackslash, if_neg notControl, ih]
  | escape escapes _ ih =>
      rw [List.cons_append, List.cons_append, pieces.eq_def]
      dsimp only
      rw [if_neg (by decide), if_pos rfl, escapes, ih]
  | unit digits _ ih =>
      simp only [List.cons_append]
      rw [pieces.eq_def]
      dsimp only
      rw [if_neg (by decide), if_pos rfl, (by decide : Byte.escaped? (Byte.of 'u') = none)]
      dsimp only
      rw [if_pos rfl, digits, ih]

theorem SpellsPieces.readText {found : List Piece} {bytes : List UInt8}
    (spelled : SpellsPieces found bytes) (rest : List UInt8) :
    readText (bytes ++ Byte.quote :: rest) = ⟨textOf found, .ok rest⟩ := by
  rw [Json.readText, spelled.read]
  rfl

/-! ## Values are read -/

section Values

variable {byte : UInt8} {bytes rest : List UInt8} {fuel : Nat}

theorem skipBlanks_blank (isBlank : Byte.isBlank byte = true) (bytes : List UInt8) :
    skipBlanks (byte :: bytes) = skipBlanks bytes :=
  List.dropWhile_cons_of_pos isBlank

/-- Without a blank in front there is nothing to skip. -/
theorem skipBlanks_cons (visible : Byte.isBlank byte = false) (rest : List UInt8) :
    skipBlanks (byte :: rest) = byte :: rest :=
  List.dropWhile_cons_of_neg (Bool.eq_false_iff.mp visible)

theorem skipBlanks_skipBlanks (bytes : List UInt8) :
    skipBlanks (skipBlanks bytes) = skipBlanks bytes :=
  List.dropWhile_idempotent _ _

/-- Readers see what follows the blanks. -/
theorem readNode_congr {other : List UInt8} (same : skipBlanks bytes = skipBlanks other) :
    readNode fuel bytes = readNode fuel other := by
  cases fuel with
  | zero => rfl
  | succ fuel => rw [readNode, readNode, same]

theorem readItems_congr {first : Bool} {other : List UInt8}
    (same : skipBlanks bytes = skipBlanks other) :
    readItems fuel first bytes = readItems fuel first other := by
  cases fuel with
  | zero => rfl
  | succ fuel => rw [readItems, readItems, same]

theorem readMembers_congr {first : Bool} {other : List UInt8}
    (same : skipBlanks bytes = skipBlanks other) :
    readMembers fuel first bytes = readMembers fuel first other := by
  cases fuel with
  | zero => rfl
  | succ fuel => rw [readMembers, readMembers, same]

/-! ### Single calls of the readers -/

theorem readNode_null (fuel : Nat) (rest : List UInt8) :
    readNode (fuel + 1) ("null".toList.map Byte.of ++ rest) = (.null, rest) := by
  rw [readNode]
  rfl

theorem readNode_boolean (fuel : Nat) (value : Bool) (rest : List UInt8) :
    readNode (fuel + 1) ((if value then "true" else "false").toList.map Byte.of ++ rest) =
      (.boolean value, rest) := by
  rw [readNode]
  cases value with
  | true => rfl
  | false => rfl

theorem readNode_quote (fuel : Nat) (rest : List UInt8) :
    readNode (fuel + 1) (Byte.quote :: rest) = readTextNode rest := by
  rw [readNode]
  rfl

theorem readNode_openList (fuel : Nat) (rest : List UInt8) :
    readNode (fuel + 1) (Byte.openList :: rest) =
      (.list (readItems fuel true rest).1, (readItems fuel true rest).2) := by
  rw [readNode]
  rfl

theorem readNode_openObject (fuel : Nat) (rest : List UInt8) :
    readNode (fuel + 1) (Byte.openObject :: rest) =
      (.object (readMembers fuel true rest).1, (readMembers fuel true rest).2) := by
  rw [readNode]
  rfl

theorem readItems_closeList (fuel : Nat) (first : Bool) (rest : List UInt8) :
    readItems (fuel + 1) first (Byte.closeList :: rest) = (.close, rest) := by
  rw [readItems]
  rfl

theorem readItems_first (fuel : Nat) {others : List UInt8}
    (found : skipBlanks bytes = byte :: others) (inside : byte ≠ Byte.closeList) :
    readItems (fuel + 1) true bytes = readItem fuel (byte :: others) := by
  rw [readItems, found]
  dsimp only
  rw [if_neg inside, if_pos rfl]

theorem readItems_comma (fuel : Nat) {others : List UInt8}
    (found : skipBlanks bytes = byte :: others) (inside : byte ≠ Byte.closeList) :
    readItems (fuel + 1) false (Byte.comma :: bytes) = readItem fuel (byte :: others) := by
  have comma : Byte.comma ≠ Byte.closeList := by decide
  rw [readItems, skipBlanks_cons (by decide)]
  dsimp only
  rw [if_neg comma, if_neg Bool.false_ne_true, if_pos rfl, found]
  dsimp only
  rw [if_neg inside]

theorem readItem_eq {node : Node} {tail : List UInt8} {items : Items}
    (value : readNode fuel bytes = (node, tail))
    (others : readItems fuel false tail = (items, rest)) :
    readItem (fuel + 1) bytes = (.item node items, rest) := by
  rw [readItem, value]
  dsimp only
  rw [others]

theorem readMembers_closeObject (fuel : Nat) (first : Bool) (rest : List UInt8) :
    readMembers (fuel + 1) first (Byte.closeObject :: rest) = (.close, rest) := by
  rw [readMembers]
  rfl

theorem readMembers_first (fuel : Nat) {others : List UInt8}
    (found : skipBlanks bytes = Byte.quote :: others) :
    readMembers (fuel + 1) true bytes = readMember fuel Byte.quote others := by
  rw [readMembers, found]
  rfl

theorem readMembers_comma (fuel : Nat) {others : List UInt8}
    (found : skipBlanks bytes = Byte.quote :: others) :
    readMembers (fuel + 1) false (Byte.comma :: bytes) = readMember fuel Byte.quote others := by
  have comma : Byte.comma ≠ Byte.closeObject := by decide
  rw [readMembers, skipBlanks_cons (by decide)]
  dsimp only
  rw [if_neg comma, if_neg Bool.false_ne_true, if_pos rfl, found]
  rfl

theorem readMember_quote {pieces : List Piece} {key behind tail : List UInt8} {node : Node}
    {members : Members} (written : SpellsPieces pieces key)
    (found : skipBlanks bytes = Byte.colon :: behind)
    (value : readNode fuel behind = (node, tail))
    (others : readMembers fuel false tail = (members, rest)) :
    readMember (fuel + 1) Byte.quote (key ++ Byte.quote :: bytes) =
      (.member (textOf pieces) node members, rest) := by
  rw [readMember, if_pos rfl, written.readText]
  dsimp only
  rw [found]
  dsimp only
  rw [if_pos rfl, value]
  dsimp only
  rw [others]

/-! ### Numbers among values -/

/-- The first byte of a number is none of the marks that begin something else. -/
theorem ne_of_number {byte mark : UInt8} (starts : byte = Byte.minus ∨ Byte.isDigit byte = true)
    (other : ¬ (mark = Byte.minus ∨ Byte.isDigit mark = true)) : byte ≠ mark :=
  fun same => other (same ▸ starts)

theorem isBlank_of_number {byte : UInt8}
    (starts : byte = Byte.minus ∨ Byte.isDigit byte = true) : Byte.isBlank byte = false := by
  refine Bool.eq_false_iff.mpr fun blank => ?_
  simp only [Byte.isBlank, Bool.or_eq_true, beq_iff_eq] at blank
  rcases blank with ((space | newline) | tab) | back
  · exact ne_of_number starts (by decide) space
  · exact ne_of_number starts (by decide) newline
  · exact ne_of_number starts (by decide) tab
  · exact ne_of_number starts (by decide) back

theorem readNode_number (fuel : Nat) {byte : UInt8}
    (starts : byte = Byte.minus ∨ Byte.isDigit byte = true) (rest : List UInt8) :
    readNode (fuel + 1) (byte :: rest) = readNumber (byte :: rest) := by
  rw [readNode, skipBlanks_cons (isBlank_of_number starts)]
  dsimp only
  rw [if_neg (ne_of_number starts (by decide)), if_neg (ne_of_number starts (by decide)),
    if_neg (ne_of_number starts (by decide)), if_neg (ne_of_number starts (by decide)),
    if_pos starts]

theorem NoNumber.nil : NoNumber [] :=
  ⟨⟨fun _ head => (by cases head), fun _ head => (by cases head)⟩, fun _ head => (by cases head)⟩

theorem NoNumber.cons (other : Byte.isDigit byte = false ∧ byte ≠ Byte.point ∧
    ¬ (byte = Byte.of 'e' ∨ byte = Byte.of 'E')) (rest : List UInt8) : NoNumber (byte :: rest) :=
  ⟨⟨fun _ head => Option.some.inj head ▸ other.1, fun _ head => Option.some.inj head ▸ other.2.1⟩,
    fun _ head => Option.some.inj head ▸ other.2.2⟩

theorem NoNumber.blank (isBlank : Byte.isBlank byte = true) (rest : List UInt8) :
    NoNumber (byte :: rest) := by
  simp only [Byte.isBlank, Bool.or_eq_true, beq_iff_eq] at isBlank
  rcases isBlank with ((rfl | rfl) | rfl) | rfl
  · exact .cons (by decide) rest
  · exact .cons (by decide) rest
  · exact .cons (by decide) rest
  · exact .cons (by decide) rest

/-- What follows an item is no part of a number. -/
theorem Spells.noNumber_items {nodes : List Node} (spelled : Spells (.items false nodes) bytes)
    (rest : List UInt8) : NoNumber (bytes ++ rest) := by
  cases spelled with
  | blank isBlank _ => exact .blank isBlank _
  | noItem | nextItem => exact .cons (by decide) _

/-- What follows a member is no part of a number. -/
theorem Spells.noNumber_members {members : List (String × Node)}
    (spelled : Spells (.members false members) bytes) (rest : List UInt8) :
    NoNumber (bytes ++ rest) := by
  cases spelled with
  | blank isBlank _ => exact .blank isBlank _
  | noMember | nextMember => exact .cons (by decide) _

/-! ### Phrases -/

/-- **How a phrase is read** with some fuel, before whatever follows it.  A value needs that nothing
follows which a number would go on with, and does not begin like the end of a list. -/
def Phrase.ReadFrom (bytes : List UInt8) (fuel : Nat) (rest : List UInt8) : Phrase → Prop
  | .value node =>
    (∃ first others, skipBlanks (bytes ++ rest) = first :: others ∧ first ≠ Byte.closeList) ∧
      (NoNumber rest → readNode fuel (bytes ++ rest) = (node, rest))
  | .items first nodes => readItems fuel first (bytes ++ rest) = (.of nodes, rest)
  | .item nodes =>
    ∃ first others, skipBlanks (bytes ++ rest) = first :: others ∧
      first ≠ Byte.closeList ∧ readItem fuel (first :: others) = (.of nodes, rest)
  | .members first entries => readMembers fuel first (bytes ++ rest) = (.of entries, rest)
  | .member entries =>
    ∃ others, skipBlanks (bytes ++ rest) = Byte.quote :: others ∧
      readMember fuel Byte.quote others = (.of entries, rest)
  | .worth node =>
    NoNumber rest → ∃ others, skipBlanks (bytes ++ rest) = Byte.colon :: others ∧
      readNode fuel others = (node, rest)

namespace Phrase.ReadFrom

theorem blank {phrase : Phrase} (isBlank : Byte.isBlank byte = true)
    (read : phrase.ReadFrom bytes fuel rest) : phrase.ReadFrom (byte :: bytes) fuel rest := by
  have same : skipBlanks (byte :: bytes ++ rest) = skipBlanks (bytes ++ rest) :=
    skipBlanks_blank isBlank _
  cases phrase with
  | value node => exact ⟨same ▸ read.1, fun stops => (readNode_congr same).trans (read.2 stops)⟩
  | items first nodes => exact (readItems_congr same).trans read
  | members first members => exact (readMembers_congr same).trans read
  | item nodes =>
      obtain ⟨first, others, found, read⟩ := read
      exact ⟨first, others, same.trans found, read⟩
  | member members =>
      obtain ⟨others, found, read⟩ := read
      exact ⟨others, same.trans found, read⟩
  | worth node => exact fun stops => same ▸ read stops

theorem null (fuel : Nat) (rest : List UInt8) :
    (value .null).ReadFrom ("null".toList.map Byte.of) (fuel + 1) rest :=
  ⟨⟨_, _, rfl, by decide⟩, fun _ => readNode_null fuel rest⟩

theorem boolean (fuel : Nat) (truth : Bool) (rest : List UInt8) :
    (value (.boolean truth)).ReadFrom ((if truth then "true" else "false").toList.map Byte.of)
      (fuel + 1) rest := by
  refine ⟨?_, fun _ => readNode_boolean fuel truth rest⟩
  cases truth with
  | true => exact ⟨_, _, rfl, by decide⟩
  | false => exact ⟨_, _, rfl, by decide⟩

theorem number {literal : Literal} (parts : SpellsLiteral literal bytes) (fuel : Nat)
    (rest : List UInt8) : (value (.number literal.value)).ReadFrom bytes (fuel + 1) rest := by
  obtain ⟨first, others, rfl, starts⟩ := parts.exists_cons
  refine ⟨⟨_, _, skipBlanks_cons (isBlank_of_number starts) _, ne_of_number starts (by decide)⟩,
    fun stops => ?_⟩
  rw [List.cons_append, readNode_number fuel starts, readNumber, ← List.cons_append,
    parts.read stops]

theorem text {pieces : List Piece} (parts : SpellsPieces pieces bytes) (fuel : Nat)
    (rest : List UInt8) :
    (value (.text (textOf pieces))).ReadFrom (Byte.quote :: (bytes ++ [Byte.quote])) (fuel + 1)
      rest := by
  refine ⟨⟨_, _, rfl, by decide⟩, fun _ => ?_⟩
  rw [List.cons_append, readNode_quote, List.append_assoc, List.singleton_append, readTextNode,
    parts.readText]

theorem list {nodes : List Node} (read : (items true nodes).ReadFrom bytes fuel rest) :
    (value (.list (.of nodes))).ReadFrom (Byte.openList :: bytes) (fuel + 1) rest := by
  have inner : readItems fuel true (bytes ++ rest) = (.of nodes, rest) := read
  refine ⟨⟨_, _, rfl, by decide⟩, fun _ => ?_⟩
  rw [List.cons_append, readNode_openList, inner]

theorem object {entries : List (String × Node)}
    (read : (members true entries).ReadFrom bytes fuel rest) :
    (value (.object (.of entries))).ReadFrom (Byte.openObject :: bytes) (fuel + 1) rest := by
  have inner : readMembers fuel true (bytes ++ rest) = (.of entries, rest) := read
  refine ⟨⟨_, _, rfl, by decide⟩, fun _ => ?_⟩
  rw [List.cons_append, readNode_openObject, inner]

theorem firstItem {nodes : List Node} (read : (Phrase.item nodes).ReadFrom bytes fuel rest) :
    (items true nodes).ReadFrom bytes (fuel + 1) rest := by
  obtain ⟨first, others, found, inside, read⟩ := read
  exact (readItems_first fuel found inside).trans read

theorem nextItem {nodes : List Node} (read : (Phrase.item nodes).ReadFrom bytes fuel rest) :
    (items false nodes).ReadFrom (Byte.comma :: bytes) (fuel + 1) rest := by
  obtain ⟨first, others, found, inside, read⟩ := read
  exact (readItems_comma fuel found inside).trans read

theorem item {node : Node} {nodes : List Node} {tail : List UInt8}
    (first : (value node).ReadFrom bytes fuel (tail ++ rest)) (stops : NoNumber (tail ++ rest))
    (others : (items false nodes).ReadFrom tail fuel rest) :
    (Phrase.item (node :: nodes)).ReadFrom (bytes ++ tail) (fuel + 1) rest := by
  obtain ⟨⟨byte, behind, found, inside⟩, read⟩ := first
  have same : skipBlanks (byte :: behind) = skipBlanks (bytes ++ (tail ++ rest)) :=
    (congrArg skipBlanks found.symm).trans (skipBlanks_skipBlanks _)
  refine ⟨byte, behind, (congrArg skipBlanks (List.append_assoc ..)).trans found, inside, ?_⟩
  exact readItem_eq ((readNode_congr same).trans (read stops)) others

theorem firstMember {entries : List (String × Node)}
    (read : (Phrase.member entries).ReadFrom bytes fuel rest) :
    (members true entries).ReadFrom bytes (fuel + 1) rest := by
  obtain ⟨others, found, read⟩ := read
  exact (readMembers_first fuel found).trans read

theorem nextMember {entries : List (String × Node)}
    (read : (Phrase.member entries).ReadFrom bytes fuel rest) :
    (members false entries).ReadFrom (Byte.comma :: bytes) (fuel + 1) rest := by
  obtain ⟨others, found, read⟩ := read
  exact (readMembers_comma fuel found).trans read

theorem member {pieces : List Piece} {name : String} {node : Node}
    {entries : List (String × Node)} {key tail : List UInt8} (written : SpellsPieces pieces key)
    (named : textOf pieces = .ok name) (stops : NoNumber (tail ++ rest))
    (first : (worth node).ReadFrom bytes fuel (tail ++ rest))
    (others : (members false entries).ReadFrom tail fuel rest) :
    (Phrase.member ((name, node) :: entries)).ReadFrom
      (Byte.quote :: (key ++ Byte.quote :: (bytes ++ tail))) (fuel + 1) rest := by
  obtain ⟨behind, found, read⟩ := first stops
  refine ⟨_, skipBlanks_cons (by decide) _, ?_⟩
  rw [List.append_eq, List.append_assoc, List.cons_append, List.append_assoc,
    readMember_quote written found read others, named]
  rfl

theorem colon {node : Node} (read : (value node).ReadFrom bytes fuel rest) :
    (worth node).ReadFrom (Byte.colon :: bytes) fuel rest :=
  fun stops => ⟨_, skipBlanks_cons (by decide) _, read.2 stops⟩

end Phrase.ReadFrom

/-- Nothing is written without bytes. -/
theorem Spells.exists_cons {phrase : Phrase} (spelled : Spells phrase bytes) :
    ∃ byte others, bytes = byte :: others := by
  induction spelled with
  | number parts =>
      obtain ⟨first, others, same, -⟩ := parts.exists_cons
      exact ⟨first, others, same⟩
  | boolean value => cases value <;> exact ⟨_, _, rfl⟩
  | firstItem _ ih | firstMember _ ih => exact ih
  | item _ _ ih _ =>
      obtain ⟨first, others, rfl⟩ := ih
      exact ⟨_, _, rfl⟩
  | _ => exact ⟨_, _, rfl⟩

theorem Spells.ne_nil {phrase : Phrase} (spelled : Spells phrase bytes) : bytes ≠ [] := by
  obtain ⟨byte, others, rfl⟩ := spelled.exists_cons
  exact List.cons_ne_nil byte others

/-- How many of the calls for its first byte are made before a phrase is read. -/
@[grind =]
def Phrase.callsBefore : Phrase → Nat
  | .item _ | .member _ => 1
  | _ => 0

/-- With three calls for every byte there is fuel for the first one. -/
theorem Spells.readFrom_of_call {phrase : Phrase} (spelled : Spells phrase bytes)
    (enough : 3 * bytes.length ≤ fuel + phrase.callsBefore)
    (read : ∀ less, 3 * bytes.length ≤ less + 1 + phrase.callsBefore →
      phrase.ReadFrom bytes (less + 1) rest) : phrase.ReadFrom bytes fuel rest := by
  have written := List.length_pos_iff.mpr spelled.ne_nil
  have before : phrase.callsBefore ≤ 1 := by cases phrase <;> simp [Phrase.callsBefore]
  obtain ⟨less, rfl⟩ : ∃ less, fuel = less + 1 := ⟨fuel - 1, by omega⟩
  exact read less enough

/-- **What is written is read,** with three calls for every byte. -/
theorem Spells.readFrom {phrase : Phrase} (spelled : Spells phrase bytes) (fuel : Nat)
    (rest : List UInt8) (enough : 3 * bytes.length ≤ fuel + phrase.callsBefore) :
    phrase.ReadFrom bytes fuel rest := by
  induction spelled generalizing fuel rest with
  | blank isBlank _ ih => exact (ih fuel rest (by grind)).blank isBlank
  | null => exact null.readFrom_of_call enough fun less _ => .null less rest
  | boolean value =>
      exact (boolean value).readFrom_of_call enough fun less _ => .boolean less value rest
  | number parts =>
      exact (number parts).readFrom_of_call enough fun less _ => .number parts less rest
  | text parts => exact (text parts).readFrom_of_call enough fun less _ => .text parts less rest
  | list items ih =>
      exact (list items).readFrom_of_call enough fun less enough =>
        (ih less rest (by grind)).list
  | object parts ih =>
      exact (object parts).readFrom_of_call enough fun less enough =>
        (ih less rest (by grind)).object
  | noItem first =>
      exact (noItem first).readFrom_of_call enough fun less _ =>
        readItems_closeList less first rest
  | firstItem item ih =>
      exact (firstItem item).readFrom_of_call enough fun less enough =>
        (ih less rest (by grind)).firstItem
  | nextItem item ih =>
      exact (nextItem item).readFrom_of_call enough fun less enough =>
        (ih less rest (by grind)).nextItem
  | item value others valueRead othersRead =>
      refine (item value others).readFrom_of_call enough fun less enough => ?_
      -- Both parts take bytes, so each of them leaves calls to the other.
      have written := List.length_pos_iff.mpr value.ne_nil
      have more := List.length_pos_iff.mpr others.ne_nil
      exact .item (valueRead less _ (by grind)) (others.noNumber_items rest)
        (othersRead less rest (by grind))
  | noMember first =>
      exact (noMember first).readFrom_of_call enough fun less _ =>
        readMembers_closeObject less first rest
  | firstMember member ih =>
      exact (firstMember member).readFrom_of_call enough fun less enough =>
        (ih less rest (by grind)).firstMember
  | nextMember member ih =>
      exact (nextMember member).readFrom_of_call enough fun less enough =>
        (ih less rest (by grind)).nextMember
  | member written named worth others worthRead othersRead =>
      refine (member written named worth others).readFrom_of_call enough fun less enough => ?_
      exact .member written named (others.noNumber_members rest)
        (worthRead less _ (by grind))
        (othersRead less rest (by grind))
  | worth value ih => exact (ih fuel rest (by grind)).colon

end Values

/-! ## Nothing wrong is found -/

/-- A list of sound values is sound. -/
theorem Items.skip_of {nodes : List Node} (sound : ∀ node ∈ nodes, node.skip = .ok ()) :
    (Items.of nodes).skip = .ok () := by
  induction nodes with
  | nil => rfl
  | cons node nodes ih =>
      obtain ⟨first, others⟩ := List.forall_mem_cons.mp sound
      rw [of, skip, first]
      exact ih others

/-- An object is sound if its values are. -/
theorem Members.skip_of_eq_ok {members : List (String × Node)} :
    (Members.of members).skip = .ok () ↔ ∀ member ∈ members, member.2.skip = .ok () := by
  induction members with
  | nil => exact ⟨fun _ _ member => (by cases member), fun _ => rfl⟩
  | cons member members ih =>
      rw [of, skip, List.forall_mem_cons, ← ih]
      cases member.2.skip with
      | ok => exact ⟨fun behind => ⟨rfl, behind⟩, And.right⟩
      | error fault => exact ⟨fun wrong => (by cases wrong), fun wrong => (by cases wrong.1)⟩

/-- Whether a phrase breaks the grammar nowhere. -/
def Phrase.Sound : Phrase → Prop
  | .value node | .worth node => node.skip = .ok ()
  | .items _ nodes | .item nodes => ∀ node ∈ nodes, node.skip = .ok ()
  | .members _ entries | .member entries => ∀ entry ∈ entries, entry.2.skip = .ok ()

/-- **What is written is sound.** -/
theorem Spells.sound {phrase : Phrase} {bytes : List UInt8} (spelled : Spells phrase bytes) :
    phrase.Sound := by
  induction spelled with
  | null | boolean _ | number _ | text _ => rfl
  | list _ ih => exact Items.skip_of ih
  | object _ ih => exact Members.skip_of_eq_ok.mpr ih
  | noItem _ | noMember _ => exact fun _ member => (by cases member)
  | blank _ _ ih | firstItem _ ih | nextItem _ ih | firstMember _ ih | nextMember _ ih
  | worth _ ih => exact ih
  | item _ _ ih others => exact List.forall_mem_cons.mpr ⟨ih, others⟩
  | member _ _ _ _ ih others => exact List.forall_mem_cons.mpr ⟨ih, others⟩

/-! ## Files -/

section Files

variable {file : List UInt8} {node : Node}

/-- **A file is read as the value that it holds.** -/
theorem Holds.document (holds : Holds file node) : readDocument file = ⟨node, false⟩ := by
  obtain ⟨value, ends⟩ := holds
  rename_i bytes blanks
  have stops : NoNumber blanks := by
    cases blanks with
    | nil => exact .nil
    | cons byte rest => exact .blank (ends byte List.mem_cons_self) rest
  have enough : 3 * bytes.length ≤ 3 * (bytes ++ blanks).length + 3 := by
    rw [List.length_append]
    omega
  have nothing : skipBlanks blanks = [] := List.dropWhile_eq_nil_iff.mpr ends
  rw [readDocument, (value.readFrom _ blanks enough).2 stops]
  dsimp only
  rw [nothing]
  rfl

/-- A value that a file holds is sound. -/
theorem Holds.sound (holds : Holds file node) : node.skip = .ok () := by
  obtain ⟨value, -⟩ := holds
  exact value.sound

end Files

end ChatTune.Json
