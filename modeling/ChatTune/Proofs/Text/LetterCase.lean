import ChatTune.Text.LetterCase
import Mathlib.Data.Nat.ModEq

/-!
# Lower case, once and in parts

What lower case writes is in lower case: no small form is a capital of any run, nor the dotted
capital `İ`, nor a capital sigma (`smallForm_of_mem_lowercase`).  Characters of that kind are left
as they are wherever they stand, so lower case has no effect on any part that is cut off the end
of a lowered text, although the sigma rule looks at the letters around a sigma
(`lowercase_of_suffix`).

The sigma rule looks no further than to the first character that is not looked through.  So a
character that is neither looked through nor a letter with a case is a boundary: the text before
it and the text behind it are lowered each on its own (`lowercase_append_boundary`).
-/

set_option autoImplicit false

namespace ChatTune.Text

/-! ## Runs that are apart -/

namespace CaseRun

/-- A sufficient test that no small form of a run is a capital of another one: their ranges are
disjoint, or the small forms all leave one residue that the capitals do not leave. -/
def isApart (run other : CaseRun) : Bool :=
  (run.lower run.last).blt other.first || other.last.blt run.small ||
    ((run.first == run.last || run.stride % other.stride == 0) &&
      run.small % other.stride != other.first % other.stride)

theorem covers_iff {run : CaseRun} {code : Nat} :
    run.covers code = true ↔
      (run.first ≤ code ∧ code ≤ run.last) ∧ (code - run.first) % run.stride = 0 := by
  simp only [covers, Bool.and_eq_true, decide_eq_true_eq, beq_iff_eq]

theorem covers_lower_of_isApart {run other : CaseRun} (apart : run.isApart other = true)
    {code : Nat}
    (covered : run.covers code = true) : other.covers (run.lower code) = false := by
  obtain ⟨⟨atLeast, atMost⟩, onRun⟩ := covers_iff.mp covered
  refine Bool.eq_false_iff.mpr fun coveredAgain => ?_
  obtain ⟨⟨atLeastOther, atMostOther⟩, onOther⟩ := covers_iff.mp coveredAgain
  simp only [isApart, Bool.or_eq_true, Bool.and_eq_true, Nat.blt_eq, beq_iff_eq, bne_iff_ne]
    at apart
  simp only [lower] at apart atLeastOther atMostOther onOther
  rcases apart with (before | behind) | ⟨strides, residues⟩
  · omega
  · omega
  · have whole : other.stride ∣ code - run.first := by
      rcases strides with single | strides
      · have only : code - run.first = 0 := by omega
        rw [only]
        exact Nat.dvd_zero _
      · exact (Nat.dvd_of_mod_eq_zero strides).trans (Nat.dvd_of_mod_eq_zero onRun)
    have same : run.small + (code - run.first) ≡ other.first [MOD other.stride] :=
      ((Nat.modEq_iff_dvd' atLeastOther).mpr (Nat.dvd_of_mod_eq_zero onOther)).symm
    refine residues (Nat.ModEq.trans ?_ same)
    exact (Nat.modEq_iff_dvd' (Nat.le_add_right _ _)).mpr (by rwa [Nat.add_sub_cancel_left])

end CaseRun

/-! ## Small forms -/

/-- The runs of capitals, with the dotted capital `I` as a run of its own. -/
def capitalRuns : List CaseRun := ⟨0x130, 0x130, 1, 0x69⟩ :: caseRuns

/-- No small form of a run is a capital. -/
theorem caseRuns_all_isApart : (caseRuns.all fun run => capitalRuns.all run.isApart) = true := by
  decide +kernel

/-- Whether a code point is no capital. -/
def IsSmall (code : Nat) : Prop := ∀ run ∈ capitalRuns, run.covers code = false

theorem IsSmall.find? {code : Nat} (small : IsSmall code) :
    caseRuns.find? (·.covers code) = none :=
  List.find?_eq_none.mpr fun run member =>
    Bool.eq_false_iff.mp (small run (List.mem_cons_of_mem _ member))

theorem IsSmall.ne_dotted {code : Nat} (small : IsSmall code) : code ≠ 0x130 := by
  rintro rfl
  exact absurd (small _ List.mem_cons_self) (by decide)

theorem IsSmall.ne_sigma {code : Nat} (small : IsSmall code) : code ≠ 'Σ'.toNat := by
  rintro rfl
  cases small.find?.symm.trans (show _ = some ⟨0x3A3, 0x3AB, 1, 0x3C3⟩ by decide)

theorem isSmall_lowerCode {code : Nat} (notDotted : code ≠ 0x130) : IsSmall (lowerCode code) := by
  unfold lowerCode
  cases found : caseRuns.find? (·.covers code) with
  | some run =>
      intro other member
      have covered := List.find?_some found
      have fromRun :=
        List.all_eq_true.mp caseRuns_all_isApart run (List.mem_of_find?_eq_some found)
      have apart := List.all_eq_true.mp fromRun other member
      exact CaseRun.covers_lower_of_isApart apart covered
  | none =>
      intro other member
      rcases List.mem_cons.mp member with rfl | inRuns
      · refine Bool.eq_false_iff.mpr fun covered => notDotted ?_
        obtain ⟨⟨atLeast, atMost⟩, -⟩ := CaseRun.covers_iff.mp covered
        exact Nat.le_antisymm atMost atLeast
      · exact Bool.eq_false_iff.mpr (List.find?_eq_none.mp found other inRuns)

/-- A character that lower case leaves as it is, whatever stands around it. -/
structure SmallForm (char : Char) : Prop where
  lowerChar : lowerChar char = [char]
  notSigma : char ≠ 'Σ'

theorem SmallForm.of_isSmall {char : Char} (small : IsSmall char.toNat) : SmallForm char where
  lowerChar := by
    have notDotted : char ≠ dottedCapitalI := fun same => small.ne_dotted (by rw [same]; rfl)
    simp only [Text.lowerChar, if_neg notDotted, lowerCode, small.find?, Char.ofNat_toNat]
  notSigma same := small.ne_sigma (by rw [same])

/-- What is written for a character away from the sigma rule is small. -/
theorem smallForm_of_mem_lowerChar {char small : Char} (member : small ∈ lowerChar char) :
    SmallForm small := by
  unfold lowerChar at member
  split at member
  case isTrue dotted =>
      rcases List.mem_cons.mp member with rfl | isDot
      · exact ⟨by decide, by decide⟩
      · rw [List.mem_singleton.mp isDot]
        exact ⟨by decide, by decide⟩
  case isFalse notDotted =>
      rw [List.mem_singleton.mp member]
      have settled : IsSmall (lowerCode char.toNat) := isSmall_lowerCode fun same =>
        notDotted (Char.toNat_inj.mp same)
      refine .of_isSmall ?_
      -- A code point without a character is written as the character zero.
      by_cases valid : (lowerCode char.toNat).isValidChar
      · rw [Char.ofNat, dif_pos valid]
        exact settled
      · rw [Char.ofNat, dif_neg valid]
        exact (by decide +kernel : ∀ run ∈ capitalRuns, run.covers 0 = false)

theorem smallForm_lowerSigma (afterCased : Bool) (rest : List Char) :
    SmallForm (lowerSigma afterCased rest) := by
  unfold lowerSigma
  split
  · exact ⟨by decide, by decide⟩
  · exact ⟨by decide, by decide⟩

theorem smallForm_of_mem_lowerFrom {afterCased : Bool} {text : List Char} {small : Char}
    (member : small ∈ lowerFrom afterCased text) : SmallForm small := by
  induction text generalizing afterCased with
  | nil => cases member
  | cons char rest ih =>
      rw [lowerFrom] at member
      rcases List.mem_append.mp member with first | later
      · split at first
        · rw [List.mem_singleton.mp first]
          exact smallForm_lowerSigma afterCased rest
        · exact smallForm_of_mem_lowerChar first
      · exact ih later

/-- **What lower case writes is in lower case.** -/
theorem smallForm_of_mem_lowercase {text : List Char} {small : Char}
    (member : small ∈ lowercase text) : SmallForm small :=
  smallForm_of_mem_lowerFrom member

/-! ## Texts in lower case -/

theorem lowerFrom_of_smallForm {text : List Char} (small : ∀ char ∈ text, SmallForm char)
    (afterCased : Bool) : lowerFrom afterCased text = text := by
  induction text generalizing afterCased with
  | nil => rfl
  | cons char rest ih =>
      obtain ⟨first, later⟩ := List.forall_mem_cons.mp small
      rw [lowerFrom, if_neg first.notSigma, first.lowerChar, ih later, List.singleton_append]

/-- **Lower case leaves the end of a lowered text as it is,** wherever it was cut. -/
theorem lowercase_of_suffix {text rest : List Char} (suffix : rest <:+ lowercase text) :
    lowercase rest = rest :=
  lowerFrom_of_smallForm (fun _ member => smallForm_of_mem_lowercase (suffix.mem member)) false

/-- Lower case is lowered once. -/
theorem lowercase_lowercase (text : List Char) : lowercase (lowercase text) = lowercase text :=
  lowercase_of_suffix (List.suffix_refl _)

/-! ## Boundaries -/

/-- A character at which the sigma rule stops. -/
structure Boundary (char : Char) : Prop where
  notCased : isCased char = false
  notIgnorable : isCaseIgnorable char = false

theorem boundary_space : Boundary ' ' := ⟨by decide, by decide⟩

namespace Boundary

variable {char : Char}

theorem ne_sigma (boundary : Boundary char) : char ≠ 'Σ' := by
  rintro rfl
  cases boundary.notCased.symm.trans (show isCased 'Σ' = true by decide)

/-- What stands behind a boundary does not count as the letter that follows. -/
theorem startsCased_append (boundary : Boundary char) (text rest : List Char) :
    startsCased (text ++ char :: rest) = startsCased text := by
  induction text with
  | nil =>
      rw [List.nil_append, startsCased, List.dropWhile_cons_of_neg
        (Bool.eq_false_iff.mp boundary.notIgnorable)]
      exact boundary.notCased
  | cons first text ih =>
      unfold startsCased at ih ⊢
      rw [List.cons_append]
      cases ignorable : isCaseIgnorable first with
      | true => rwa [List.dropWhile_cons_of_pos ignorable, List.dropWhile_cons_of_pos ignorable]
      | false =>
          rw [List.dropWhile_cons_of_neg (Bool.eq_false_iff.mp ignorable),
            List.dropWhile_cons_of_neg (Bool.eq_false_iff.mp ignorable)]

/-- Behind a boundary lower case begins anew. -/
theorem lowerFrom_cons (boundary : Boundary char) (afterCased : Bool) (rest : List Char) :
    lowerFrom afterCased (char :: rest) = lowerChar char ++ lowercase rest := by
  rw [lowerFrom, if_neg boundary.ne_sigma, boundary.notIgnorable, boundary.notCased,
    if_neg Bool.false_ne_true, lowercase]

theorem lowerFrom_append (boundary : Boundary char) (afterCased : Bool) (text rest : List Char) :
    lowerFrom afterCased (text ++ char :: rest) =
      lowerFrom afterCased text ++ lowerChar char ++ lowercase rest := by
  induction text generalizing afterCased with
  | nil => rw [List.nil_append, boundary.lowerFrom_cons, lowerFrom, List.nil_append]
  | cons first text ih =>
      rw [List.cons_append, lowerFrom, lowerFrom, lowerSigma, lowerSigma,
        boundary.startsCased_append, ih]
      simp only [List.append_assoc]

end Boundary

/-- **A boundary parts a text:** what stands before it and what stands behind it are lowered each
on its own. -/
theorem lowercase_append_boundary {char : Char} (boundary : Boundary char)
    (text rest : List Char) :
    lowercase (text ++ char :: rest) = lowercase text ++ lowerChar char ++ lowercase rest :=
  boundary.lowerFrom_append false text rest

end ChatTune.Text
