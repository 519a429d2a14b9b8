import ChatTune.Proofs.Text.LetterCase

/-!
# Lower case of a text that goes on

Lower case writes every character by itself but for a capital sigma, which looks at the letters
around it.  So a text that is continued is lowered as it is by itself, unless it ends in a sigma
that looks beyond its end: a capital sigma behind a letter with a case, with nothing but
characters after it that are looked through (`OpenSigma`).  By itself such a sigma ends its word
and is written `ς`; when a letter with a case follows, it does not and is written `σ`.

Both cases are decided.  A text whose sigma stays as it is keeps its lower case in front of any
continuation (`lowercase_append_of_settled`), and a text whose sigma turns has not its lower case
in front of the lowered continuation (`not_prefix_lowercase_append`).
-/

set_option autoImplicit false

namespace ChatTune.Text

/-! ## The letters before a place -/

/-- Whether the last character that counts is a letter with a case; `afterCased` says it of what
stands before the text. -/
def endsCased (afterCased : Bool) (text : List Char) : Bool :=
  text.foldl (fun afterCased char => if isCaseIgnorable char then afterCased else isCased char)
    afterCased

/-- **A text with an open sigma:** it ends in a capital sigma behind a letter with a case, but for
characters that are looked through.  `afterCased` says whether a letter with a case stands before
the text. -/
def OpenSigma (afterCased : Bool) (text : List Char) : Prop :=
  ∃ front marks, text = front ++ 'Σ' :: marks ∧ endsCased afterCased front = true ∧
    ∀ mark ∈ marks, isCaseIgnorable mark = true

theorem OpenSigma.cons {afterCased : Bool} {char : Char} {text : List Char}
    (later : OpenSigma (if isCaseIgnorable char then afterCased else isCased char) text) :
    OpenSigma afterCased (char :: text) := by
  obtain ⟨front, marks, rfl, cased, ignorable⟩ := later
  exact ⟨char :: front, marks, rfl, cased, ignorable⟩

theorem not_isCaseIgnorable_sigma : isCaseIgnorable 'Σ' = false := by decide

/-! ## The letters behind a place -/

/-- Marks that are looked through do not hide the letter that follows. -/
theorem startsCased_append_of_ignorable {marks : List Char}
    (ignorable : ∀ mark ∈ marks, isCaseIgnorable mark = true) (rest : List Char) :
    startsCased (marks ++ rest) = startsCased rest := by
  induction marks with
  | nil => rfl
  | cons mark marks ih =>
      obtain ⟨first, later⟩ := List.forall_mem_cons.mp ignorable
      rw [← ih later, List.cons_append]
      simp only [startsCased, List.dropWhile_cons_of_pos first]

/-- A text that is looked through shows no letter. -/
theorem startsCased_of_ignorable {marks : List Char}
    (ignorable : ∀ mark ∈ marks, isCaseIgnorable mark = true) : startsCased marks = false := by
  rw [← List.append_nil marks, startsCased_append_of_ignorable ignorable]
  rfl

/-- A character that counts hides what follows it. -/
theorem startsCased_append_of_mem {text : List Char} {char : Char} (member : char ∈ text)
    (counts : isCaseIgnorable char = false) (rest : List Char) :
    startsCased (text ++ rest) = startsCased text := by
  induction text with
  | nil => cases member
  | cons first text ih =>
      rw [List.cons_append]
      cases ignorable : isCaseIgnorable first with
      | true =>
          have later : char ∈ text := by
            rcases List.mem_cons.mp member with rfl | later
            · cases counts.symm.trans ignorable
            · exact later
          simp only [startsCased, List.dropWhile_cons_of_pos ignorable]
          exact ih later
      | false =>
          have stops : ¬ isCaseIgnorable first = true := Bool.eq_false_iff.mp ignorable
          simp only [startsCased, List.dropWhile_cons_of_neg stops]

/-- What follows a text is of no matter to a sigma before it, unless the text is looked through
and a letter with a case follows. -/
theorem startsCased_append_cases (text rest : List Char) :
    startsCased (text ++ rest) = startsCased text ∨
      (∀ mark ∈ text, isCaseIgnorable mark = true) ∧ startsCased rest = true := by
  by_cases ignorable : ∀ mark ∈ text, isCaseIgnorable mark = true
  · rw [startsCased_append_of_ignorable ignorable, startsCased_of_ignorable ignorable]
    cases startsCased rest with
    | false => exact .inl rfl
    | true => exact .inr ⟨ignorable, rfl⟩
  · simp only [not_forall, Bool.not_eq_true] at ignorable
    obtain ⟨char, member, counts⟩ := ignorable
    exact .inl (startsCased_append_of_mem member counts rest)

/-! ## Continued texts -/

/-- What is written for the first character of a text. -/
def lowerFirst (afterCased : Bool) (char : Char) (rest : List Char) : List Char :=
  if char = 'Σ' then [lowerSigma afterCased rest] else lowerChar char

theorem lowerFrom_cons (afterCased : Bool) (char : Char) (rest : List Char) :
    lowerFrom afterCased (char :: rest) = lowerFirst afterCased char rest ++
      lowerFrom (if isCaseIgnorable char then afterCased else isCased char) rest := rfl

theorem lowerFirst_append_of_startsCased {afterCased : Bool} {char : Char} {text rest : List Char}
    (same : startsCased (text ++ rest) = startsCased text) :
    lowerFirst afterCased char (text ++ rest) = lowerFirst afterCased char text := by
  simp only [lowerFirst, lowerSigma, same]

/-- **A text keeps its lower case when it goes on,** unless its sigma is open and a letter with a
case follows. -/
theorem lowerFrom_append_of_settled {afterCased : Bool} {text rest : List Char}
    (settled : ¬ (OpenSigma afterCased text ∧ startsCased rest = true)) :
    lowerFrom afterCased (text ++ rest) =
      lowerFrom afterCased text ++ lowerFrom (endsCased afterCased text) rest := by
  induction text generalizing afterCased with
  | nil => rfl
  | cons char text ih =>
      have first : lowerFirst afterCased char (text ++ rest) = lowerFirst afterCased char text := by
        rcases startsCased_append_cases text rest with same | ⟨ignorable, follows⟩
        · exact lowerFirst_append_of_startsCased same
        · -- Only a sigma looks behind itself, and this one would be open.
          unfold lowerFirst
          split
          case isFalse => rfl
          case isTrue sigma =>
              subst sigma
              cases cased : afterCased with
              | false => simp only [lowerSigma, Bool.false_and]
              | true => exact absurd ⟨⟨[], text, rfl, cased, ignorable⟩, follows⟩ settled
      rw [List.cons_append, lowerFrom_cons, lowerFrom_cons, first,
        ih fun opened => settled ⟨opened.1.cons, opened.2⟩, List.append_assoc]
      rfl

/-- A sigma that is open turns when a letter with a case follows. -/
theorem OpenSigma.turns {afterCased : Bool} {text rest : List Char}
    (opened : OpenSigma afterCased text) (follows : startsCased rest = true) :
    ∃ front behind later, lowerFrom afterCased text = front ++ 'ς' :: behind ∧
      lowerFrom afterCased (text ++ rest) = front ++ 'σ' :: later := by
  obtain ⟨before, marks, rfl, cased, ignorable⟩ := opened
  induction before generalizing afterCased with
  | nil =>
      have behindCased : afterCased = true := cased
      have final : lowerFirst afterCased 'Σ' marks = ['ς'] := by
        rw [lowerFirst, if_pos rfl, lowerSigma, behindCased, startsCased_of_ignorable ignorable]
        rfl
      have turned : lowerFirst afterCased 'Σ' (marks ++ rest) = ['σ'] := by
        rw [lowerFirst, if_pos rfl, lowerSigma, startsCased_append_of_ignorable ignorable, follows,
          Bool.not_true, Bool.and_false]
        rfl
      refine ⟨[], lowerFrom (isCased 'Σ') marks, lowerFrom (isCased 'Σ') (marks ++ rest), ?_, ?_⟩
      · rw [List.nil_append, lowerFrom_cons, final, not_isCaseIgnorable_sigma]
        rfl
      · rw [List.nil_append, List.cons_append, lowerFrom_cons, turned, not_isCaseIgnorable_sigma]
        rfl
  | cons char before ih =>
      have inside : 'Σ' ∈ before ++ 'Σ' :: marks :=
        List.mem_append_right before List.mem_cons_self
      have same := startsCased_append_of_mem inside not_isCaseIgnorable_sigma rest
      obtain ⟨front, behind, later, alone, continued⟩ := ih cased
      refine ⟨lowerFirst afterCased char (before ++ 'Σ' :: marks) ++ front, behind, later, ?_, ?_⟩
      · rw [List.cons_append, lowerFrom_cons, alone, List.append_assoc]
      · rw [List.cons_append, List.cons_append, lowerFrom_cons, continued,
          lowerFirst_append_of_startsCased same, List.append_assoc]

/-- A text whose sigma is not open, or is not followed by a letter with a case, is lowered in
front of what follows as it is by itself. -/
theorem lowercase_append_of_settled {text rest : List Char}
    (settled : ¬ (OpenSigma false text ∧ startsCased rest = true)) :
    lowercase (text ++ rest) = lowercase text ++ lowerFrom (endsCased false text) rest :=
  lowerFrom_append_of_settled settled

/-- **A sigma that turns changes the lower case of its text:** the continued text does not start
with it any more. -/
theorem not_prefix_lowercase_append {text rest : List Char} (opened : OpenSigma false text)
    (follows : startsCased rest = true) : ¬ lowercase text <+: lowercase (text ++ rest) := by
  obtain ⟨front, behind, later, alone, continued⟩ := opened.turns follows
  rw [lowercase, lowercase, alone, continued]
  intro starts
  rw [List.prefix_append_right_inj, List.cons_prefix_cons] at starts
  exact absurd starts.1 (by decide)

end ChatTune.Text
