import ChatTune.CommandLine.Program
import Mathlib.Data.List.Basic

/-!
# Inputs typed line by line

The program takes the same inputs from its arguments as it takes from standard input when each of
them is typed on a line of its own (`work_typed`).  The lines are cut at line feeds, before the
bytes are known to be a text, so what has to be shown is about bytes: a byte below 128 is a
character by itself and never a part of another one (`eq_of_mem_utf8EncodeChar`).  Hence the bytes
of a text hold a line feed only where the text does, and they end with a carriage return only if
the text does.

An input with a line feed in it would come back as several inputs, and one with a carriage return at
its end would come back without it; `IsLine` leaves both out.
-/

set_option autoImplicit false

namespace ChatTune.CommandLine

/-! ## Bytes of a line -/

/-- The bytes of a text. -/
def bytesOf (text : String) : List UInt8 := text.toUTF8.data.toList

/-- A character beyond ASCII has no byte below 128. -/
theorem le_toNat_of_mem_utf8EncodeChar {char : Char} (beyond : ¬ char.val.toNat ≤ 127)
    {byte : UInt8} (inside : byte ∈ String.utf8EncodeChar char) : 128 ≤ byte.toNat := by
  -- Each byte has the form of a remainder with 128, 192, 224 or 240 added to it.
  have marked (code base room : Nat) (bit : 128 ≤ base) (fits : base + room ≤ 256)
      (positive : 0 < room) : 128 ≤ (UInt8.ofNat (code % room + base)).toNat := by
    have below : code % room < room := Nat.mod_lt _ positive
    rw [UInt8.toNat_ofNat', Nat.mod_eq_of_lt (by omega)]
    omega
  simp only [String.utf8EncodeChar, if_neg beyond] at inside
  split at inside
  case isTrue =>
    simp only [List.mem_cons, List.not_mem_nil, or_false] at inside
    obtain rfl | rfl := inside <;> exact marked _ _ _ (by decide) (by decide) (by decide)
  case isFalse =>
    split at inside <;> simp only [List.mem_cons, List.not_mem_nil, or_false] at inside
    case isTrue =>
      obtain rfl | rfl | rfl := inside <;> exact marked _ _ _ (by decide) (by decide) (by decide)
    case isFalse =>
      obtain rfl | rfl | rfl | rfl := inside <;>
        exact marked _ _ _ (by decide) (by decide) (by decide)

/-- The byte of an ASCII character is in the bytes of no other character. -/
theorem eq_of_mem_utf8EncodeChar {mark char : Char} (ascii : mark.val.toNat ≤ 127)
    (inside : UInt8.ofNat mark.val.toNat ∈ String.utf8EncodeChar char) : char = mark := by
  have byte {code : Nat} (small : code ≤ 127) : (UInt8.ofNat code).toNat = code := by
    rw [UInt8.toNat_ofNat', Nat.mod_eq_of_lt (by omega)]
  by_cases small : char.val.toNat ≤ 127
  · rw [String.utf8EncodeChar, if_pos small, List.mem_singleton] at inside
    have same := congrArg UInt8.toNat inside
    rw [byte ascii, byte small] at same
    exact (Char.ext (UInt32.toNat_inj.mp same)).symm
  · have large := le_toNat_of_mem_utf8EncodeChar small inside
    rw [byte ascii] at large
    omega

/-- The bytes of a text are those of its characters, one after another. -/
theorem bytesOf_eq (text : String) : bytesOf text = text.toList.flatMap String.utf8EncodeChar := by
  rw [bytesOf, String.toUTF8_eq_toByteArray, ← String.utf8Encode_toList, List.utf8Encode,
    List.data_toByteArray]

/-- A text is read from its bytes. -/
theorem inputOfBytes_bytesOf (text : String) : inputOfBytes (bytesOf text) = .ok text.toList := by
  have whole : String.fromUTF8? ⟨(bytesOf text).toArray⟩ = some text :=
    dif_pos text.isValidUTF8
  rw [inputOfBytes, whole]

/-- **A line:** a text without a line feed and without a carriage return at its end. -/
def IsLine (text : String) : Prop := '\n' ∉ text.toList ∧ text.toList.getLast? ≠ some '\r'

instance (text : String) : Decidable (IsLine text) := inferInstanceAs (Decidable (_ ∧ _))

theorem IsLine.lineFeed_not_mem {text : String} (line : IsLine text) : 0x0A ∉ bytesOf text := by
  intro inside
  rw [bytesOf_eq] at inside
  obtain ⟨char, member, byte⟩ := List.mem_flatMap.mp inside
  have feed : char = '\n' := eq_of_mem_utf8EncodeChar (by decide) byte
  exact line.1 (feed ▸ member)

theorem IsLine.getLast?_ne {text : String} (line : IsLine text) :
    (bytesOf text).getLast? ≠ some 0x0D := by
  intro last
  rw [bytesOf_eq] at last
  rcases List.eq_nil_or_concat text.toList with empty | ⟨front, char, split⟩
  · rw [empty] at last
    cases last
  · rw [split, List.concat_eq_append, List.flatMap_append, List.flatMap_singleton,
      List.getLast?_append_of_ne_nil _ String.utf8EncodeChar_ne_nil] at last
    have returned : char = '\r' :=
      eq_of_mem_utf8EncodeChar (by decide) (List.mem_of_getLast? last)
    exact line.2 (by rw [split, returned, List.concat_eq_append, List.getLast?_concat])

/-! ## Lines of standard input -/

/-- Up to a line feed everything is one line. -/
theorem linesFrom_append_lineFeed {text : List UInt8} (plain : 0x0A ∉ text)
    (line rest : List UInt8) :
    linesFrom line (text ++ 0x0A :: rest) =
      withoutReturn (line.reverse ++ text) :: linesFrom [] rest := by
  induction text generalizing line with
  | nil => rw [List.nil_append, linesFrom, if_pos rfl, List.append_nil]
  | cons byte text ih =>
      obtain ⟨other, others⟩ := List.ne_and_not_mem_of_not_mem_cons plain
      rw [List.cons_append, linesFrom, if_neg (Ne.symm other), ih others, List.reverse_cons,
        List.append_assoc, List.singleton_append]

/-- Inputs as they are typed, with a line feed behind each of them. -/
def typed (inputs : List String) : List UInt8 :=
  inputs.flatMap fun input => bytesOf input ++ [0x0A]

/-- **Typed lines are read back,** each as the input that it was. -/
theorem inputsOfStream_typed {inputs : List String} (lines : ∀ input ∈ inputs, IsLine input) :
    inputsOfStream (typed inputs) = inputs.map fun input => .ok input.toList := by
  unfold inputsOfStream typed
  induction inputs with
  | nil => rfl
  | cons input inputs ih =>
      obtain ⟨first, others⟩ := List.forall_mem_cons.mp lines
      rw [List.flatMap_cons, List.append_assoc, List.singleton_append,
        linesFrom_append_lineFeed first.lineFeed_not_mem, List.map_cons, ih others,
        List.reverse_nil, List.nil_append, withoutReturn, if_neg first.getLast?_ne,
        inputOfBytes_bytesOf, List.map_cons]

example : inputsOfStream (typed ["a\r", "b\nc"]) = [.ok ['a'], .ok ['b'], .ok ['c']] := by
  decide +kernel

/-! ## Work -/

/-- Work on given inputs does not look at the inputs among the options. -/
theorem workOnAll_withoutInputs (options : Options) (settings : Settings) (outlet : Outlet)
    (inputs : List Input) :
    workOnAll { options with inputs := [] } settings outlet inputs =
      workOnAll options settings outlet inputs := by
  induction inputs generalizing outlet with
  | nil => rfl
  | cons input inputs ih =>
      cases input with
      | error problem => rfl
      | ok text =>
          simp only [workOnAll, ih]
          rfl

/-- **Inputs given as arguments and inputs typed come to the same.**  For all options with inputs,
each of which is a line, and wherever the settings come from, the work on the arguments is the work
on what is typed when no input is given: the same outlet with the same output, the same result,
whether all goes well, a problem ends the work or it overflows, and the same reports. -/
theorem work_typed (options : Options) (source : Option Settings.Source)
    (standardInput : List UInt8) (nonempty : options.inputs ≠ [])
    (lines : ∀ input ∈ options.inputs, IsLine input) :
    work options source standardInput =
      work { options with inputs := [] } source (typed options.inputs) := by
  have given : options.allInputs standardInput = options.inputs.map fun input => .ok input.toList :=
    if_neg (List.isEmpty_iff.not.mpr nonempty)
  have read : ({ options with inputs := [] } : Options).allInputs (typed options.inputs) =
      options.inputs.map fun input => .ok input.toList :=
    inputsOfStream_typed lines
  unfold work
  simp only [given, read, workOnAll_withoutInputs]

/-- Among the inputs are a letter of two bytes, an empty input and, between two tunes that are
played, one that is refused. -/
theorem work_typed_with_refusal :
    let inputs := ["é^", "", String.ofList (List.replicate 34 'a'), "ν<"]
    (inputs ≠ [] ∧ ∀ input ∈ inputs, IsLine input) ∧
      work ⟨none, .text, 0, false, inputs⟩ none [] =
        work ⟨none, .text, 0, false, []⟩ none (typed inputs) ∧
      (work ⟨none, .text, 0, false, inputs⟩ none []).outcome.outlet.stream.written =
        "0.000\t0.300\tD5\nYour notes are too powerful traveller.\n0.000\t0.300\tB4\n".toUTF8 := by
  intro inputs
  have nonempty : inputs ≠ [] := List.cons_ne_nil _ _
  have lines : ∀ input ∈ inputs, IsLine input := by decide +kernel
  exact ⟨⟨nonempty, lines⟩,
    work_typed ⟨none, .text, 0, false, inputs⟩ none [] nonempty lines, by decide +kernel⟩

end ChatTune.CommandLine
