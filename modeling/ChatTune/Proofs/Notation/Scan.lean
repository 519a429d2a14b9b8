import ChatTune.Notation.Scan

/-!
# Scans never get stuck

All readers of the notation take a single character and decide by a table what it stands for
(`ReadsBy`).  Alternatives of such readers decide by the first of their tables that knows the
character, and the last alternative of a command knows every character.  So every character is a
command of its own (`Command.ofSymbol`), and a scan of a text reads the commands of its characters
and leaves nothing (`scan_eq_ok`).
-/

set_option autoImplicit false

namespace ChatTune

/-- The command that a character writes. -/
def Command.ofSymbol (symbol : Char) : Command :=
  if symbol = '[' then .chordStart
  else if symbol = ']' then .chordEnd
  else if symbol = ' ' then .pause
  else match Button.ofSymbol? symbol with
    | some button => .press button
    | none =>
      if symbol = '~' then .sustain
      else if symbol = '/' then .shorten
      else if symbol = '+' then .octaveUp
      else if symbol = '-' then .octaveDown
      else if symbol = '#' then .sharp
      else if symbol = 'b' then .flat
      else .ignored symbol

namespace Notation

/-! ## Readers of single characters -/

section Tables

variable {α β : Type}

/-- **A reader that takes a single character,** for what a table says, and fails on a character
that the table does not know. -/
structure ReadsBy (table : Char → Option α) (reader : Reader α) : Prop where
  nil : ∃ fault, reader [] = .error fault
  known : ∀ char rest value, table char = some value →
    reader (char :: rest) = .ok (.first value char rest)
  unknown : ∀ char rest, table char = none → ∃ fault, reader (char :: rest) = .error fault

namespace ReadsBy

theorem congr {table other : Char → Option α} {reader : Reader α} (reads : ReadsBy table reader)
    (same : ∀ char, table char = other char) : ReadsBy other reader :=
  funext same ▸ reads

theorem anyCharacter : ReadsBy some anyCharacter where
  nil := ⟨_, rfl⟩
  known _ _ _ found := by
    cases found
    rfl
  unknown _ _ missing := by cases missing

theorem symbol (wanted : Char) (value : α) :
    ReadsBy (fun char => if char = wanted then some value else none) (symbol wanted value) where
  nil := ⟨_, rfl⟩
  known char rest stands found := by
    split at found
    case isTrue same =>
        cases found
        rw [Notation.symbol, if_pos same]
    case isFalse => cases found
  unknown char rest missing := by
    split at missing
    case isTrue => cases missing
    case isFalse other => exact ⟨_, by rw [Notation.symbol, if_neg other]⟩

theorem oneOf (table : Char → Option α) : ReadsBy table (oneOf table) where
  nil := ⟨_, rfl⟩
  known char rest value found := by simp only [Notation.oneOf, found]
  unknown char rest missing := ⟨_, by simp only [Notation.oneOf, missing]; rfl⟩

theorem mapped {table : Char → Option α} {reader : Reader α} (reads : ReadsBy table reader)
    (change : α → β) : ReadsBy (fun char => (table char).map change) (mapped change reader) where
  nil := by
    obtain ⟨fault, fails⟩ := reads.nil
    exact ⟨fault, by simp only [Notation.mapped, fails]⟩
  known char rest value found := by
    obtain ⟨before, known, rfl⟩ := Option.map_eq_some_iff.mp found
    simp only [Notation.mapped, reads.known char rest before known]
    rfl
  unknown char rest missing := by
    obtain ⟨fault, fails⟩ := reads.unknown char rest (Option.map_eq_none_iff.mp missing)
    exact ⟨fault, by simp only [Notation.mapped, fails]⟩

theorem firstOf_nil : ReadsBy (fun _ => none) (firstOf ([] : List (Reader α))) where
  nil := ⟨_, rfl⟩
  known _ _ _ found := by cases found
  unknown _ _ _ := ⟨_, rfl⟩

/-- The first alternative that knows a character reads it. -/
theorem firstOf_cons {table others : Char → Option α} {reader : Reader α}
    {readers : List (Reader α)} (reads : ReadsBy table reader)
    (readOthers : ReadsBy others (firstOf readers)) :
    ReadsBy (fun char => (table char).or (others char)) (firstOf (reader :: readers)) where
  nil := by
    obtain ⟨fault, fails⟩ := reads.nil
    simp only [firstOf, fails]
    exact readOthers.nil
  known char rest value found := by
    cases here : table char with
    | some first =>
        rw [here, Option.some_or] at found
        cases found
        simp only [firstOf, reads.known char rest _ here]
    | none =>
        rw [here, Option.none_or] at found
        obtain ⟨fault, fails⟩ := reads.unknown char rest here
        simp only [firstOf, fails]
        exact readOthers.known char rest value found
  unknown char rest missing := by
    obtain ⟨here, later⟩ := Option.or_eq_none_iff.mp missing
    obtain ⟨fault, fails⟩ := reads.unknown char rest here
    simp only [firstOf, fails]
    exact readOthers.unknown char rest later

end ReadsBy

/-- A reader that knows every character, repeated, reads the whole text. -/
theorem many_eq_of_readsBy {value : Char → α} {reader : Reader α}
    (reads : ReadsBy (fun char => some (value char)) reader) (text : List Char) :
    many reader text = (text.map value, []) := by
  induction text with
  | nil =>
      obtain ⟨fault, fails⟩ := reads.nil
      rw [many, fails, List.map_nil]
  | cons char rest ih =>
      rw [many, reads.known char rest _ rfl, Taken.first]
      simp only [ih, List.map_cons]

end Tables

/-! ## Commands -/

theorem ite_or {α : Type} (known : Prop) [Decidable known] (value : α) (here others : Option α) :
    (if known then some value else here).or others =
      if known then some value else here.or others := by
  split
  · exact Option.some_or
  · rfl

theorem readsBy_button : ReadsBy (fun char => (Button.ofSymbol? char).map Command.press) button :=
  (ReadsBy.oneOf Button.ofSymbol?).mapped Command.press

theorem readsBy_modifier :
    ReadsBy (fun char => (if char = '~' then some Command.sustain else none).or <|
      (if char = '/' then some Command.shorten else none).or <|
      (if char = '+' then some Command.octaveUp else none).or <|
      (if char = '-' then some Command.octaveDown else none).or <|
      (if char = '#' then some Command.sharp else none).or <|
      (if char = 'b' then some Command.flat else none).or none) modifier :=
  .firstOf_cons (.symbol _ _) <| .firstOf_cons (.symbol _ _) <| .firstOf_cons (.symbol _ _) <|
  .firstOf_cons (.symbol _ _) <| .firstOf_cons (.symbol _ _) <| .firstOf_cons (.symbol _ _)
  .firstOf_nil

theorem readsBy_command : ReadsBy (fun char => some (Command.ofSymbol char)) command := by
  have alternatives :=
    ReadsBy.firstOf_cons (.symbol '[' Command.chordStart) <|
    .firstOf_cons (.symbol ']' Command.chordEnd) <| .firstOf_cons (.symbol ' ' Command.pause) <|
    .firstOf_cons readsBy_button <| .firstOf_cons readsBy_modifier <|
    .firstOf_cons (ReadsBy.anyCharacter.mapped Command.ignored) .firstOf_nil
  -- The alternatives in their order are the cases of the table in theirs.
  refine alternatives.congr fun char => ?_
  rw [Command.ofSymbol]
  cases Button.ofSymbol? char with
  | none => simp only [ite_or, apply_ite some, Option.map_none, Option.map_some, Option.none_or,
      Option.some_or]
  | some button => simp only [ite_or, apply_ite some, Option.map_some, Option.none_or,
      Option.some_or]

/-- **A scan reads the command of every character** and leaves nothing of the text. -/
theorem scan_eq_ok (text : List Char) : scan text = .ok (text.map Command.ofSymbol, []) := by
  rw [scan, many_eq_of_readsBy readsBy_command, complete]

/-- A text in any case is read as its lower case is scanned. -/
theorem parse_eq_ok (body : List Char) :
    parse body = .ok ((Text.lowercase body).map Command.ofSymbol) := by
  simp only [parse, scan_eq_ok]

end Notation

end ChatTune
