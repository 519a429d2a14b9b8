import ChatTune.Proofs.Chat
import ChatTune.Proofs.Notation.Rendering
import ChatTune.Proofs.Score.Runs

/-!
# The essence of a text

Of the characters of a text only those count that the notation gives a meaning to, and the
capitals of its three letters.  The essence of a text has these characters alone, with small
letters (`Notation.essence`).

Lower case makes no other character one of the notation.  A capital of a run has one small form,
so for each character of the notation there is at most one capital to look at, and for no run but
the first is there any (`caseRuns_all_foreign`).  The sigma rule decides between two characters
that are both outside the notation, and so does not matter.  A character outside the notation is a
command that does nothing.  So a text and its essence become the same score, or fail in the same
way (`Score.ofBody_essence`).
-/

set_option autoImplicit false

namespace ChatTune

open Command (alphabet ofSymbol)

namespace Notation

/-- The capitals of the letters of the notation. -/
def capitals : List Char := ['A', 'V', 'B']

/-- The small form of a capital of the notation; other characters stay. -/
def smallLetter (char : Char) : Char :=
  if char = 'A' then 'a' else if char = 'V' then 'v' else if char = 'B' then 'b' else char

/-- Whether a character belongs to the notation, in any case. -/
def belongs (char : Char) : Bool := char ∈ alphabet ++ capitals

/-- **The essence of a text:** its characters that belong to the notation, as small letters. -/
def essence (text : List Char) : List Char := (text.filter belongs).map smallLetter

theorem belongs_iff {char : Char} : belongs char = true ↔ char ∈ alphabet ++ capitals :=
  decide_eq_true_iff

/-! ## Characters that belong -/

/-- What belongs to the notation is lowered to a character of the notation. -/
theorem lowerChar_of_mem : ∀ char ∈ alphabet ++ capitals,
    Text.lowerChar char = [smallLetter char] ∧ smallLetter char ∈ alphabet ∧ char ≠ 'Σ' := by
  have all : ((alphabet ++ capitals).all fun char =>
      Text.lowerChar char = [smallLetter char] ∧ smallLetter char ∈ alphabet ∧ char ≠ 'Σ') = true :=
    by decide +kernel
  simpa only [List.all_eq_true, decide_eq_true_eq] using all

theorem smallLetter_of_mem_alphabet : ∀ char ∈ alphabet, smallLetter char = char := by
  have all : (alphabet.all fun char => smallLetter char = char) = true := by decide
  simpa only [List.all_eq_true, decide_eq_true_eq] using all

theorem toNat_ne_zero_of_mem_alphabet : ∀ char ∈ alphabet, char.toNat ≠ 0 := by
  have all : (alphabet.all fun char => char.toNat ≠ 0) = true := by decide
  simpa only [List.all_eq_true, decide_eq_true_eq] using all

theorem essence_of_subset {text : List Char} (inside : ∀ char ∈ text, char ∈ alphabet) :
    essence text = text := by
  have all : ∀ char ∈ text, belongs char = true := fun char member =>
    belongs_iff.mpr (List.mem_append_left _ (inside char member))
  rw [essence, List.filter_eq_self.mpr all]
  calc text.map smallLetter
      = text.map id :=
        List.map_congr_left fun char member => smallLetter_of_mem_alphabet char (inside char member)
    _ = text := List.map_id _

theorem mem_alphabet_of_mem_essence {text : List Char} {char : Char}
    (member : char ∈ essence text) : char ∈ alphabet := by
  obtain ⟨before, kept, rfl⟩ := List.mem_map.mp member
  exact (lowerChar_of_mem before (belongs_iff.mp (List.mem_filter.mp kept).2)).2.1

/-! ## Characters that do not -/

/-- The capitals of no run are lowered into the notation, but for those that belong to it.  Only
the capital at the right distance in the run has to be looked at. -/
theorem caseRuns_all_foreign :
    (Text.caseRuns.all fun run => alphabet.all fun char =>
      let capital := run.first + (char.toNat - run.small)
      char.toNat.blt run.small || !run.covers capital || belongs (Char.ofNat capital)) = true := by
  decide +kernel

theorem belongs_of_lower {run : Text.CaseRun} (member : run ∈ Text.caseRuns) {code : Nat}
    (covered : run.covers code = true) {char : Char} (inside : char ∈ alphabet)
    (lowered : run.lower code = char.toNat) : belongs (Char.ofNat code) = true := by
  obtain ⟨⟨atLeast, -⟩, -⟩ := Text.CaseRun.covers_iff.mp covered
  have foreign :=
    List.all_eq_true.mp (List.all_eq_true.mp caseRuns_all_foreign run member) char inside
  rw [Text.CaseRun.lower] at lowered
  have capital : run.first + (char.toNat - run.small) = code := by omega
  have reached : char.toNat.blt run.small = false := by
    refine Bool.eq_false_iff.mpr fun before => ?_
    have := Nat.blt_eq.mp before
    omega
  simpa only [capital, reached, covered, Bool.not_true, Bool.false_or] using foreign

/-- The character of a code point, or the character zero. -/
theorem toNat_ofNat_or (code : Nat) :
    (Char.ofNat code).toNat = code ∨ (Char.ofNat code).toNat = 0 := by
  by_cases valid : code.isValidChar
  · rw [Char.ofNat, dif_pos valid]
    exact .inl rfl
  · rw [Char.ofNat, dif_neg valid]
    exact .inr rfl

/-- **Only what belongs to the notation is lowered into it.** -/
theorem belongs_of_mem_lowerChar {char small : Char} (member : small ∈ Text.lowerChar char)
    (inside : small ∈ alphabet) : belongs char = true := by
  unfold Text.lowerChar at member
  split at member
  case isTrue dotted =>
      rcases List.mem_cons.mp member with rfl | isDot
      · exact absurd inside (by decide)
      · rw [List.mem_singleton.mp isDot] at inside
        exact absurd inside (by decide)
  case isFalse =>
      have same := List.mem_singleton.mp member
      have lowered : small.toNat = Text.lowerCode char.toNat := by
        rcases toNat_ofNat_or (Text.lowerCode char.toNat) with reached | zero
        · rw [same, reached]
        · rw [← same] at zero
          exact absurd zero (toNat_ne_zero_of_mem_alphabet small inside)
      unfold Text.lowerCode at lowered
      cases found : Text.caseRuns.find? (·.covers char.toNat) with
      | some run =>
          rw [found] at lowered
          have covered := List.find?_some found
          have belonging := belongs_of_lower (List.mem_of_find?_eq_some found) covered inside
            lowered.symm
          rwa [Char.ofNat_toNat] at belonging
      | none =>
          rw [found] at lowered
          rw [← Char.toNat_inj.mp lowered]
          exact belongs_iff.mpr (List.mem_append_left _ inside)

theorem lowerSigma_not_mem (afterCased : Bool) (rest : List Char) :
    Text.lowerSigma afterCased rest ∉ alphabet := by
  unfold Text.lowerSigma
  split
  · decide
  · decide

/-! ## Texts -/

theorem filter_lowerFrom (afterCased : Bool) (text : List Char) :
    (Text.lowerFrom afterCased text).filter (· ∈ alphabet) = essence text := by
  induction text generalizing afterCased with
  | nil => rfl
  | cons char rest ih =>
      rw [Text.lowerFrom, List.filter_append, ih]
      cases belonging : belongs char with
      | true =>
          obtain ⟨lowered, inside, notSigma⟩ := lowerChar_of_mem char (belongs_iff.mp belonging)
          have kept : [smallLetter char].filter (· ∈ alphabet) = [smallLetter char] :=
            List.filter_cons_of_pos (decide_eq_true inside)
          rw [if_neg notSigma, lowered, kept, essence, essence, List.filter_cons_of_pos belonging]
          rfl
      | false =>
          have nothing : (if char = 'Σ' then [Text.lowerSigma afterCased rest]
              else Text.lowerChar char).filter (· ∈ alphabet) = [] := by
            refine List.filter_eq_nil_iff.mpr fun small member => ?_
            refine fun inside => ?_
            split at member
            · rw [List.mem_singleton.mp member] at inside
              exact lowerSigma_not_mem afterCased rest (of_decide_eq_true inside)
            · cases belonging.symm.trans
                (belongs_of_mem_lowerChar member (of_decide_eq_true inside))
          rw [nothing, List.nil_append, essence, essence,
            List.filter_cons_of_neg (by rw [belonging]; decide)]

/-- **What lower case leaves of a text within the notation is its essence.** -/
theorem filter_lowercase (text : List Char) :
    (Text.lowercase text).filter (· ∈ alphabet) = essence text :=
  filter_lowerFrom false text

/-- The commands of a text that are heeded are those of its essence. -/
theorem filter_map_ofSymbol (text : List Char) :
    ((Text.lowercase text).map ofSymbol).filter (fun command => !command.isIgnored) =
      (essence text).map ofSymbol := by
  rw [List.filter_map, ← filter_lowercase]
  congr 1
  refine List.filter_congr fun char _ => ?_
  simp only [Function.comp_apply, Command.isIgnored_ofSymbol, Bool.not_not]

end Notation

/-! ## Scores -/

variable {τ : Type} [Time τ] {rules : Rules τ}

/-- A character outside the notation does nothing. -/
theorem Draft.advance_of_isIgnored (draft : Draft τ) {command : Command}
    (ignored : command.isIgnored = true) : draft.advance rules command = .ok draft := by
  cases command with
  | ignored symbol => rfl
  | _ => cases ignored

/-- **Ignored commands can be left out of a run.** -/
theorem Draft.run_filter_isIgnored (draft : Draft τ) (commands : List Command) :
    draft.run rules (commands.filter fun command => !command.isIgnored) =
      draft.run rules commands := by
  induction commands generalizing draft with
  | nil => rfl
  | cons command commands ih =>
      rw [run_cons]
      cases ignored : command.isIgnored with
      | true =>
          rw [List.filter_cons_of_neg (by rw [ignored]; decide), ih,
            draft.advance_of_isIgnored ignored]
          rfl
      | false =>
          rw [List.filter_cons_of_pos (by rw [ignored]; decide), run_cons]
          exact congrArg (draft.advance rules command >>= ·) (funext ih)

namespace Score

open Notation (essence essence_of_subset mem_alphabet_of_mem_essence filter_map_ofSymbol)

theorem compose_filter_isIgnored (rules : Rules τ) (start : τ) (commands : List Command) :
    compose rules start (commands.filter fun command => !command.isIgnored) =
      compose rules start commands := by
  rw [compose, compose, draft, draft, Draft.run_filter_isIgnored]

/-- A text is composed as the commands of its essence are. -/
theorem compose_essence (rules : Rules τ) (start : τ) (body : List Char) :
    compose rules start ((Text.lowercase body).map ofSymbol) =
      compose rules start ((essence body).map ofSymbol) := by
  rw [← compose_filter_isIgnored, filter_map_ofSymbol]

/-- **Only the characters of the notation matter.**  A text becomes what its essence becomes: the
same notes, the same total that is too long, or the same overflow. -/
theorem ofBody_essence (rules : Rules τ) (start : τ) (body : List Char) :
    ofBody rules start (essence body) = ofBody rules start body := by
  have settled : essence (essence body) = essence body :=
    essence_of_subset fun _ member => mem_alphabet_of_mem_essence member
  rw [ofBody_eq, ofBody_eq, compose_essence, compose_essence rules start body, settled]

/-- The Kelvin sign, a final sigma and the dotted capital `I` leave no trace. -/
example : essence "Aς\u212AΣ V\u0130#".toList = "a v#".toList := by decide

end Score

end ChatTune
