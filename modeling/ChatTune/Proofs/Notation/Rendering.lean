import ChatTune.Proofs.Notation.Scan

/-!
# Scanning and rendering undo each other

A command writes one character, and a character reads as one command.  Whatever character is
read, its command writes it again (`Command.symbol_ofSymbol`).  A command is read back from what
it writes unless it ignores a character that the notation gives a meaning to
(`Command.ofSymbol_symbol`), and reading never makes such a command (`Command.isPlain_ofSymbol`).

So scanning is a bijection between all texts and the lists of plain commands, and rendering is its
inverse (`Notation.scan_bijective`).
-/

set_option autoImplicit false

namespace ChatTune

namespace Command

/-- Whether a command stands for a character that is passed over. -/
def isIgnored : Command → Bool
  | ignored _ => true
  | _ => false

/-- A command that ignores no character of the notation. -/
def IsPlain : Command → Prop
  | ignored symbol => symbol ∉ alphabet
  | _ => True

theorem isPlain_of_not_isIgnored {command : Command} (heeded : command.isIgnored = false) :
    command.IsPlain := by
  cases command with
  | ignored symbol => cases heeded
  | _ => exact trivial

/-- A command is plain when it is no ignored character of the notation. -/
theorem isPlain_iff {command : Command} :
    command.IsPlain ↔ ∀ symbol, command = ignored symbol → symbol ∉ alphabet := by
  constructor
  · rintro plain symbol rfl
    exact plain
  · intro outside
    cases command with
    | ignored symbol => exact outside symbol rfl
    | _ => exact trivial

/-! ## Reading a character -/

/-- The characters of the notation are commands that write them. -/
theorem ofSymbol_of_mem : ∀ symbol ∈ alphabet,
    (ofSymbol symbol).symbol = symbol ∧ (ofSymbol symbol).isIgnored = false := by
  have all : (alphabet.all fun symbol =>
      (ofSymbol symbol).symbol = symbol ∧ (ofSymbol symbol).isIgnored = false) = true := by decide
  simpa only [List.all_eq_true, decide_eq_true_eq] using all

/-- Every other character is ignored. -/
theorem ofSymbol_of_not_mem {symbol : Char} (outside : symbol ∉ alphabet) :
    ofSymbol symbol = ignored symbol := by
  simp only [alphabet, List.mem_cons, List.not_mem_nil, or_false, not_or] at outside
  obtain ⟨opens, closes, pause, d, b, a, f, highD, sustain, shorten, up, down, sharp, flat⟩ :=
    outside
  have noButton : Button.ofSymbol? symbol = none := by
    simp only [Button.ofSymbol?, if_neg d, if_neg b, if_neg a, if_neg f, if_neg highD]
  simp only [ofSymbol, noButton, if_neg opens, if_neg closes, if_neg pause, if_neg sustain,
    if_neg shorten, if_neg up, if_neg down, if_neg sharp, if_neg flat]

/-- A character is ignored exactly when it is outside the notation. -/
theorem isIgnored_ofSymbol (symbol : Char) :
    (ofSymbol symbol).isIgnored = !decide (symbol ∈ alphabet) := by
  by_cases inside : symbol ∈ alphabet
  · rw [(ofSymbol_of_mem symbol inside).2, decide_eq_true inside, Bool.not_true]
  · rw [ofSymbol_of_not_mem inside, isIgnored, decide_eq_false inside, Bool.not_false]

/-- **The command of a character writes this character.** -/
theorem symbol_ofSymbol (symbol : Char) : (ofSymbol symbol).symbol = symbol := by
  by_cases inside : symbol ∈ alphabet
  · exact (ofSymbol_of_mem symbol inside).1
  · rw [ofSymbol_of_not_mem inside, Command.symbol]

theorem isPlain_ofSymbol (symbol : Char) : (ofSymbol symbol).IsPlain := by
  by_cases inside : symbol ∈ alphabet
  · exact isPlain_of_not_isIgnored (ofSymbol_of_mem symbol inside).2
  · rw [ofSymbol_of_not_mem inside]
    exact inside

/-- **A plain command is read back** from the character that it writes. -/
theorem ofSymbol_symbol {command : Command} (plain : command.IsPlain) :
    ofSymbol command.symbol = command := by
  cases command with
  | ignored symbol => exact ofSymbol_of_not_mem plain
  | press button => cases button <;> rfl
  | _ => rfl

end Command

/-! ## Reading a text -/

namespace Notation

open Command (ofSymbol render alphabet)

theorem render_map_ofSymbol (text : List Char) : render (text.map ofSymbol) = text := by
  have same : Command.symbol ∘ ofSymbol = id := funext Command.symbol_ofSymbol
  rw [render, List.map_map, same, List.map_id]

theorem map_ofSymbol_render {commands : List Command}
    (plain : ∀ command ∈ commands, command.IsPlain) :
    (render commands).map ofSymbol = commands := by
  rw [render, List.map_map]
  calc commands.map (ofSymbol ∘ Command.symbol)
      = commands.map id :=
        List.map_congr_left fun command member => Command.ofSymbol_symbol (plain command member)
    _ = commands := List.map_id _

/-- **Scanning is a bijection.**  Every text is scanned to its end, whatever characters it has.
There is one command for each of its characters, the commands render the text, and none of them
ignores a character of the notation.  And any commands of that kind are scanned from the text that
they render. -/
theorem scan_bijective :
    (∀ text : List Char, ∃ commands, scan text = .ok (commands, []) ∧
      commands.length = text.length ∧ render commands = text ∧
      ∀ symbol, .ignored symbol ∈ commands → symbol ∉ alphabet) ∧
    ∀ commands : List Command, (∀ symbol, .ignored symbol ∈ commands → symbol ∉ alphabet) →
      scan (render commands) = .ok (commands, []) := by
  refine ⟨fun text => ⟨_, scan_eq_ok text, List.length_map _, render_map_ofSymbol text, ?_⟩, ?_⟩
  · intro symbol member
    obtain ⟨char, -, same⟩ := List.mem_map.mp member
    exact Command.isPlain_iff.mp (Command.isPlain_ofSymbol char) symbol same
  · intro commands outside
    rw [scan_eq_ok, map_ofSymbol_render]
    intro command member
    refine Command.isPlain_iff.mpr fun symbol same => ?_
    exact outside symbol (same ▸ member)

/-- A capital is outside the notation, and is ignored among its commands. -/
theorem scan_of_ignored_capital :
    let commands : List Command := [.chordStart, .press .highD, .ignored 'A', .chordEnd, .flat]
    (∀ symbol, .ignored symbol ∈ commands → symbol ∉ alphabet) ∧
      render commands = "[^A]b".toList ∧ scan "[^A]b".toList = .ok (commands, []) := by
  intro commands
  have outside : ∀ symbol, .ignored symbol ∈ commands → symbol ∉ alphabet := by
    intro symbol member
    simp only [commands, List.mem_cons, Command.ignored.injEq, reduceCtorEq, List.not_mem_nil,
      or_false, false_or] at member
    rw [member]
    decide
  have rendered : render commands = "[^A]b".toList := by decide
  exact ⟨outside, rendered, rendered ▸ scan_bijective.2 commands outside⟩

end Notation

end ChatTune
