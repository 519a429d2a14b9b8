import ChatTune.Chat
import ChatTune.Proofs.Notation.Scan
import ChatTune.Proofs.Text.LetterCase

/-!
# The decision about a message

A message is lowered as a whole and its tune is lowered again before it is read.  The second time
makes no difference, for the tune is the end of a lowered text.  So a reply is decided by the
lowered message alone: help for the trigger itself, nothing for a message that does not start with
the trigger, and otherwise the score of what follows the trigger and one separator, played or
refused (`Chat.reply_decided`).

Reading never fails and accepting only finds scores too long, which is answered by a refusal.  So
what is left to go wrong is an overflow in composing.
-/

set_option autoImplicit false

namespace ChatTune

namespace Score

variable {τ : Type} [Time τ]

/-- A score is accepted, or it is too long. -/
theorem accept_cases (rules : Rules τ) (notes : Array (Note τ)) :
    accept rules notes = .ok () ∨
      accept rules notes = .error (.tooLong (summedDuration notes)) := by
  unfold accept
  by_cases tooLong : rules.longestTotal ≤ summedDuration notes
  · exact .inr (if_pos tooLong)
  · exact .inl (if_neg tooLong)

/-- A text is composed from the commands of its lower case, since reading never fails. -/
theorem ofBody_eq (rules : Rules τ) (start : τ) (body : List Char) :
    ofBody rules start body =
      match compose rules start ((Text.lowercase body).map Command.ofSymbol) with
      | .error operation => .error (.overflow operation)
      | .ok notes =>
        match accept rules notes with
        | .error problem => .error (.problem problem)
        | .ok () => .ok notes := by
  cases composed : compose rules start ((Text.lowercase body).map Command.ofSymbol) with
  | error operation => simp only [ofBody, commandsOf, Notation.parse_eq_ok, composed]
  | ok notes =>
      cases accepted : accept rules notes <;>
        simp only [ofBody, commandsOf, Notation.parse_eq_ok, composed, accepted]

/-- **What a text becomes:** an overflow, a score that is too long, or an accepted score. -/
theorem ofBody_cases (rules : Rules τ) (start : τ) (body : List Char) :
    (∃ operation, ofBody rules start body = .error (.overflow operation)) ∨
      (∃ total, ofBody rules start body = .error (.problem (.tooLong total))) ∨
      ∃ notes, ofBody rules start body = .ok notes := by
  rw [ofBody_eq]
  cases compose rules start ((Text.lowercase body).map Command.ofSymbol) with
  | error operation => exact .inl ⟨operation, rfl⟩
  | ok notes =>
      rcases accept_cases rules notes with accepted | tooLong
      · exact .inr (.inr ⟨notes, by simp only [accepted]⟩)
      · exact .inr (.inl ⟨summedDuration notes, by simp only [tooLong]⟩)

end Score

namespace Chat

/-! ## The tune of a message -/

/-- The tune is what follows the trigger and one separator. -/
theorem tune?_append_cons (trigger : List Char) (separator : Char) (body : List Char) :
    tune? trigger (trigger ++ separator :: body) = some body := by
  have starts : trigger.isPrefixOf (trigger ++ separator :: body) = true :=
    List.isPrefixOf_iff_prefix.mpr (List.prefix_append _ _)
  rw [tune?, if_pos starts, ← List.drop_drop, List.drop_left, List.drop_one, List.tail_cons]

theorem tune?_of_not_prefix {trigger message : List Char} (other : ¬ trigger <+: message) :
    tune? trigger message = none :=
  if_neg fun starts => other (List.isPrefixOf_iff_prefix.mp starts)

/-- A message that goes on after the trigger goes on with a separator and a tune. -/
theorem exists_eq_append_cons {trigger message : List Char} (starts : trigger <+: message)
    (more : message ≠ trigger) :
    ∃ separator body, message = trigger ++ separator :: body := by
  obtain ⟨rest, rfl⟩ := starts
  cases rest with
  | nil => exact absurd (List.append_nil trigger) more
  | cons separator body => exact ⟨separator, body, rfl⟩

/-! ## Replies -/

/-- The answer that a score gets. -/
def answerTo (settings : Settings) :
    Except (Failure Float) (Array (Note Float)) → Except (Failure Float) (Option Reply)
  | .ok notes => .ok (some (.play notes))
  | .error (.problem (.tooLong _)) => .ok (some (.refuse settings.chat.refusal))
  | .error failure => .error failure

variable {settings : Settings} (now : Float) {message : List Char}

theorem reply_of_trigger
    (same : Text.lowercase message = Text.lowercase settings.chat.trigger.toList) :
    reply settings now message = .ok (some (.help settings.chat.help)) := by
  simp only [reply, if_pos same]

theorem reply_of_unaddressed
    (other : ¬ Text.lowercase settings.chat.trigger.toList <+: Text.lowercase message) :
    reply settings now message = .ok none := by
  have more : Text.lowercase message ≠ Text.lowercase settings.chat.trigger.toList :=
    fun same => other (same ▸ List.prefix_refl _)
  simp only [reply, if_neg more, tune?_of_not_prefix other]

/-- A message with a tune is answered as the score of the tune. -/
theorem reply_of_tune {separator : Char} {body : List Char}
    (split : Text.lowercase message =
      Text.lowercase settings.chat.trigger.toList ++ separator :: body) :
    reply settings now message = answerTo settings (Score.ofBody settings.rules now body) := by
  have more : Text.lowercase settings.chat.trigger.toList ++ separator :: body ≠
      Text.lowercase settings.chat.trigger.toList := by
    intro same
    cases List.append_right_eq_self.mp same
  simp only [reply, split, if_neg more, tune?_append_cons]
  rfl

/-- A message with a tune is played, refused, or overflows. -/
theorem reply_of_tune_cases {separator : Char} {body : List Char}
    (split : Text.lowercase message =
      Text.lowercase settings.chat.trigger.toList ++ separator :: body) :
    (∃ operation, reply settings now message = .error (.overflow operation)) ∨
      reply settings now message = .ok (some (.refuse settings.chat.refusal)) ∨
      ∃ notes, reply settings now message = .ok (some (.play notes)) := by
  rw [reply_of_tune now split]
  rcases Score.ofBody_cases settings.rules now body with
    ⟨operation, overflows⟩ | ⟨total, tooLong⟩ | ⟨notes, accepted⟩
  · rw [overflows]
    exact .inl ⟨operation, rfl⟩
  · rw [tooLong]
    exact .inr (.inl rfl)
  · rw [accepted]
    exact .inr (.inr ⟨notes, rfl⟩)

/-- The tune of a lowered message is in lower case already. -/
theorem lowercase_tune {trigger : List Char} {separator : Char} {body : List Char}
    (split : Text.lowercase message = trigger ++ separator :: body) :
    Text.lowercase body = body := by
  have suffix : body <:+ Text.lowercase message := by
    rw [split, List.append_cons]
    exact List.suffix_append _ _
  exact Text.lowercase_of_suffix suffix

/-- **The three kinds of messages:** the trigger, a message that does not start with it, and the
trigger with a tune. -/
theorem message_cases (trigger message : List Char) :
    message = trigger ∨ ¬ trigger <+: message ∨
      ∃ separator body, message = trigger ++ separator :: body := by
  by_cases same : message = trigger
  · exact .inl same
  by_cases starts : trigger <+: message
  · exact .inr (.inr (exists_eq_append_cons starts same))
  · exact .inr (.inl starts)

/-- Help is for the trigger alone. -/
theorem reply_eq_help_iff :
    reply settings now message = .ok (some (.help settings.chat.help)) ↔
      Text.lowercase message = Text.lowercase settings.chat.trigger.toList := by
  refine ⟨fun help => ?_, reply_of_trigger now⟩
  rcases message_cases (Text.lowercase settings.chat.trigger.toList) (Text.lowercase message) with
    same | other | ⟨separator, body, split⟩
  · exact same
  · cases (reply_of_unaddressed now other).symm.trans help
  · rcases reply_of_tune_cases now split with ⟨operation, other⟩ | other | ⟨notes, other⟩ <;>
      cases other.symm.trans help

/-- A message is not answered when it does not start with the trigger. -/
theorem reply_eq_none_iff :
    reply settings now message = .ok none ↔
      ¬ Text.lowercase settings.chat.trigger.toList <+: Text.lowercase message := by
  refine ⟨fun silent => ?_, reply_of_unaddressed now⟩
  rcases message_cases (Text.lowercase settings.chat.trigger.toList) (Text.lowercase message) with
    same | other | ⟨separator, body, split⟩
  · cases (reply_of_trigger now same).symm.trans silent
  · exact other
  · rcases reply_of_tune_cases now split with ⟨operation, other⟩ | other | ⟨notes, other⟩ <;>
      cases other.symm.trans silent

/-- Nothing but an overflow goes wrong in answering. -/
theorem reply_ne_problem (problem : Problem Float) :
    reply settings now message ≠ .error (.problem problem) := by
  intro failed
  rcases message_cases (Text.lowercase settings.chat.trigger.toList) (Text.lowercase message) with
    same | other | ⟨separator, body, split⟩
  · cases (reply_of_trigger now same).symm.trans failed
  · cases (reply_of_unaddressed now other).symm.trans failed
  · rcases reply_of_tune_cases now split with ⟨operation, other⟩ | other | ⟨notes, other⟩ <;>
      cases other.symm.trans failed

/-- **The decision about a message.**  A message that is the trigger in lower case is answered by
the help; any other message that does not start with the trigger in lower case is not answered;
and the lower case of any other one is the trigger, one separator and a tune in lower case.  The
notes of the tune, as it is scanned without lowering it again, are played if they are accepted and
refused if they are not.  No problem is ever handed on: only composing can fail, by an overflow. -/
theorem reply_decided (settings : Settings) (now : Float) (message : List Char) :
    let lowered := Text.lowercase message
    let trigger := Text.lowercase settings.chat.trigger.toList
    (reply settings now message = .ok (some (.help settings.chat.help)) ↔ lowered = trigger) ∧
      (lowered ≠ trigger → (reply settings now message = .ok none ↔ ¬ trigger <+: lowered)) ∧
      (lowered ≠ trigger → trigger <+: lowered → ∃ separator body commands,
        lowered = trigger ++ separator :: body ∧ Text.lowercase body = body ∧
          Notation.scan body = .ok (commands, []) ∧
          (∀ operation, Score.compose settings.rules now commands = .error operation →
            reply settings now message = .error (.overflow operation)) ∧
          ∀ notes, Score.compose settings.rules now commands = .ok notes →
            (Score.accept settings.rules notes = .ok () →
              reply settings now message = .ok (some (.play notes))) ∧
            ∀ problem, Score.accept settings.rules notes = .error problem →
              reply settings now message = .ok (some (.refuse settings.chat.refusal))) ∧
      ∀ problem, reply settings now message ≠ .error (.problem problem) := by
  intro lowered trigger
  refine ⟨reply_eq_help_iff now, fun _ => reply_eq_none_iff now, fun more starts => ?_,
    reply_ne_problem now⟩
  obtain ⟨separator, body, split⟩ := exists_eq_append_cons starts more
  have settled : Text.lowercase body = body := lowercase_tune split
  have answered := reply_of_tune now split
  rw [Score.ofBody_eq, settled] at answered
  refine ⟨separator, body, _, split, settled, Notation.scan_eq_ok body,
    fun operation overflows => ?_, fun notes composed => ⟨fun accepted => ?_,
      fun problem rejected => ?_⟩⟩
  · rw [answered, overflows]
    rfl
  · rw [answered, composed]
    simp only [accepted]
    rfl
  · rcases Score.accept_cases settings.rules notes with accepted | tooLong
    · cases accepted.symm.trans rejected
    · rw [answered, composed]
      simp only [tooLong]
      rfl

/-- A sigma that ends a word of the message is final, and still is in the tune that is cut off. -/
theorem reply_to_final_sigma :
    Text.lowercase "!OCARINA ΟΔΟΣ^".toList = "!ocarina οδος^".toList ∧
      reply .default 0 "!OCARINA ΟΔΟΣ^".toList =
        .ok (some (.play #[⟨[.plain .d 5], 0, 0.3⟩])) := by
  have lowered : Text.lowercase "!OCARINA ΟΔΟΣ^".toList =
      "!ocarina".toList ++ ' ' :: "οδος^".toList := by
    decide +kernel
  have trigger : Text.lowercase Settings.default.chat.trigger.toList = "!ocarina".toList := by
    decide +kernel
  obtain ⟨-, -, decides, -⟩ := reply_decided .default 0 "!OCARINA ΟΔΟΣ^".toList
  rw [lowered, trigger] at decides
  obtain ⟨separator, body, commands, split, -, scanned, -, plays⟩ :=
    decides (by decide) (List.prefix_append _ _)
  cases List.append_cancel_left split
  cases (Notation.scan_eq_ok _).symm.trans scanned
  exact ⟨lowered, (plays _ (by decide +kernel)).1 (by decide +kernel)⟩

end Chat

end ChatTune
