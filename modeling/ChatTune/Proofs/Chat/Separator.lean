import ChatTune.Proofs.Notation.Essence
import ChatTune.Proofs.Text.OpenSigma

/-!
# The separator behind the trigger

One character separates the trigger from the tune, whatever it is.  The trigger is lowered by
itself and the message as a whole, so this holds as far as lower case does not look beyond the end
of the trigger.  Only an open sigma does (`Text.OpenSigma`): a message whose trigger ends in one
that the separator and the tune make turn is not recognized, and nobody answers it
(`Chat.not_every_separator_dropped`).  Every other message with the trigger, a separator and a tune
is answered as the score of the tune (`Chat.reply_behind_separator`).

Neither a separator of two small characters nor a sigma of the tune matters.  They leave other
characters in front of the tune or in it than the tune by itself has, but none of the notation: the
essence of the tune stays.
-/

set_option autoImplicit false

namespace ChatTune

namespace Score

variable {τ : Type} [Time τ]

/-- Texts of one essence are one score. -/
theorem ofBody_eq_of_essence_eq (rules : Rules τ) (start : τ) {left right : List Char}
    (same : Notation.essence left = Notation.essence right) :
    ofBody rules start left = ofBody rules start right := by
  rw [← ofBody_essence, same, ofBody_essence]

end Score

namespace Chat

open Command (alphabet)
open Text (OpenSigma startsCased lowerFirst lowerFrom lowercase)

/-! ## What a separator leaves -/

/-- A character is lowered to a first one, and to nothing more that the notation knows. -/
theorem exists_lowerFirst_eq_cons (afterCased : Bool) (char : Char) (rest : List Char) :
    ∃ small extra, lowerFirst afterCased char rest = small :: extra ∧
      extra.filter (· ∈ alphabet) = [] := by
  unfold lowerFirst Text.lowerChar
  split
  case isTrue sigma => exact ⟨_, [], rfl, rfl⟩
  case isFalse other =>
      split
      case isTrue dotted => exact ⟨'i', [Text.combiningDot], rfl, by decide⟩
      case isFalse plain => exact ⟨_, [], rfl, rfl⟩

/-- What follows a separator in a lowered message has the essence of the tune. -/
theorem exists_tune (afterCased : Bool) (separator : Char) (body : List Char) :
    ∃ small tune, lowerFrom afterCased (separator :: body) = small :: tune ∧
      tune.filter (· ∈ alphabet) = Notation.essence body := by
  obtain ⟨small, extra, first, foreign⟩ := exists_lowerFirst_eq_cons afterCased separator body
  refine ⟨small, extra ++ lowerFrom
    (if Text.isCaseIgnorable separator then afterCased else Text.isCased separator) body, ?_, ?_⟩
  · rw [Text.lowerFrom_cons, first, List.cons_append]
  · rw [List.filter_append, foreign, List.nil_append, Notation.filter_lowerFrom]

/-- A message whose trigger keeps its lower case is answered as the score of its tune. -/
theorem reply_of_settled (settings : Settings) (now : Float) {separator : Char}
    {body : List Char}
    (settled : ¬ (OpenSigma false settings.chat.trigger.toList ∧
      startsCased (separator :: body) = true)) :
    reply settings now (settings.chat.trigger.toList ++ separator :: body) =
      answerTo settings (Score.ofBody settings.rules now body) := by
  obtain ⟨small, tune, lowered, kept⟩ :=
    exists_tune (Text.endsCased false settings.chat.trigger.toList) separator body
  have split : lowercase (settings.chat.trigger.toList ++ separator :: body) =
      lowercase settings.chat.trigger.toList ++ small :: tune := by
    rw [Text.lowercase_append_of_settled settled, lowered]
  have essence : Notation.essence tune = Notation.essence body := by
    rw [← Notation.filter_lowercase, lowercase_tune split, kept]
  rw [reply_of_tune now split, Score.ofBody_eq_of_essence_eq _ _ essence]

/-- A message whose trigger ends in a sigma that turns is answered by nobody. -/
theorem reply_of_turned (settings : Settings) (now : Float) {separator : Char} {body : List Char}
    (opened : OpenSigma false settings.chat.trigger.toList)
    (follows : startsCased (separator :: body) = true) :
    reply settings now (settings.chat.trigger.toList ++ separator :: body) = .ok none :=
  reply_of_unaddressed now (Text.not_prefix_lowercase_append opened follows)

/-- The answer to a score is never silence and never help. -/
theorem answerTo_cases (settings : Settings) (now : Float) (body : List Char) :
    answerTo settings (Score.ofBody settings.rules now body) ≠ .ok none ∧
      ∀ text, answerTo settings (Score.ofBody settings.rules now body) ≠
        .ok (some (.help text)) := by
  rcases Score.ofBody_cases settings.rules now body with
    ⟨operation, scored⟩ | ⟨total, scored⟩ | ⟨notes, scored⟩
  all_goals
    rw [scored]
    exact ⟨nofun, fun _ => nofun⟩

/-- **The separator is dropped whatever it is,** under all settings and for every tune: the trigger,
a separator and a tune are answered as the score of the tune, by playing it or by the refusal, and
an overflow is handed on.  The exception is a trigger that ends in an open sigma, where the
separator and the tune start with a letter that has a case: such a message is not answered, and no
other is left without an answer.  None of these messages is answered by the help. -/
theorem reply_behind_separator (settings : Settings) (now : Float) (separator : Char)
    (body : List Char) :
    let trigger := settings.chat.trigger.toList
    let answer := reply settings now (trigger ++ separator :: body)
    (answer = .ok none ↔ OpenSigma false trigger ∧ startsCased (separator :: body) = true) ∧
      (¬ (OpenSigma false trigger ∧ startsCased (separator :: body) = true) →
        (∀ notes, Score.ofBody settings.rules now body = .ok notes →
            answer = .ok (some (.play notes))) ∧
          (∀ total, Score.ofBody settings.rules now body = .error (.problem (.tooLong total)) →
            answer = .ok (some (.refuse settings.chat.refusal))) ∧
          ∀ operation, Score.ofBody settings.rules now body = .error (.overflow operation) →
            answer = .error (.overflow operation)) ∧
      ∀ text, answer ≠ .ok (some (.help text)) := by
  intro trigger answer
  by_cases turns : OpenSigma false trigger ∧ startsCased (separator :: body) = true
  · have silent : answer = .ok none := reply_of_turned settings now turns.1 turns.2
    rw [silent]
    exact ⟨⟨fun _ => turns, fun _ => rfl⟩, fun settled => absurd turns settled, fun _ => nofun⟩
  · have answered : answer = answerTo settings (Score.ofBody settings.rules now body) :=
      reply_of_settled settings now turns
    obtain ⟨notSilent, notHelp⟩ := answerTo_cases settings now body
    rw [answered]
    refine ⟨⟨fun silent => absurd silent notSilent, fun turned => absurd turned turns⟩, fun _ =>
      ⟨fun notes scored => ?_, fun total scored => ?_, fun operation scored => ?_⟩, notHelp⟩
    · rw [scored]
      rfl
    · rw [scored]
      rfl
    · rw [scored]
      rfl

/-- Settings with another trigger. -/
def addressedBy (trigger : String) : Settings :=
  { Settings.default with chat := { ChatTexts.default with trigger } }

/-- A separator that the sigma rule looks through leaves an open sigma as it is, and one that is
lowered to two characters leaves the tune as it is, also where a sigma of the tune turns. -/
theorem reply_behind_mark_and_dotted_capital :
    reply (addressedBy "ΟΔΟΣ") 0 ("ΟΔΟΣ".toList ++ '\'' :: "^".toList) =
        .ok (some (.play #[⟨[.plain .d 5], 0, 0.3⟩])) ∧
      reply (addressedBy "!") 0 ("!".toList ++ '\u0130' :: "Σ^".toList) =
        .ok (some (.play #[⟨[.plain .d 5], 0, 0.3⟩])) := by
  constructor
  · obtain ⟨-, answers, -⟩ := reply_behind_separator (addressedBy "ΟΔΟΣ") 0 '\'' "^".toList
    refine (answers ?_).1 _ (by decide +kernel)
    rintro ⟨-, follows⟩
    exact absurd follows (by decide)
  · obtain ⟨-, answers, -⟩ := reply_behind_separator (addressedBy "!") 0 '\u0130' "Σ^".toList
    refine (answers ?_).1 _ (by decide +kernel)
    rintro ⟨⟨front, marks, same, -⟩, -⟩
    have inside : 'Σ' ∈ "!".toList := same ▸ List.mem_append_right front List.mem_cons_self
    exact absurd inside (by decide)

/-- **Not every separator is dropped.**  The trigger `ΟΔΟΣ` is lowered to `οδος` by itself and to
`οδοσ` in front of a letter, and the message that starts with it is not answered. -/
theorem not_every_separator_dropped :
    ¬ ∀ (settings : Settings) (now : Float) (separator : Char) (body : List Char),
      settings.examine = .ok () →
        let answer := reply settings now (settings.chat.trigger.toList ++ separator :: body)
        (∀ notes, Score.ofBody settings.rules now body = .ok notes →
            answer = .ok (some (.play notes))) ∧
          (∀ total, Score.ofBody settings.rules now body = .error (.problem (.tooLong total)) →
            answer = .ok (some (.refuse settings.chat.refusal))) ∧
          answer ≠ .ok none ∧ ∀ text, answer ≠ .ok (some (.help text)) := by
  intro dropped
  have silent : reply (addressedBy "ΟΔΟΣ") 0 ("ΟΔΟΣ".toList ++ 'a' :: "^".toList) = .ok none :=
    reply_of_turned (addressedBy "ΟΔΟΣ") 0 ⟨"ΟΔΟ".toList, [], rfl, by decide, nofun⟩ (by decide)
  exact (dropped (addressedBy "ΟΔΟΣ") 0 'a' "^".toList (by decide +kernel)).2.2.1 silent

end Chat

end ChatTune
