import ChatTune.CommandLine.Program
import ChatTune.Proofs.Chat
import ChatTune.Proofs.Playback.Decoding

/-!
# Tunes and messages that carry them

An input can be a tune or a chat message, and the two are worked on in different ways: a message
is lowered as a whole, the trigger is compared and the tune cut off, while a tune is read at once.
A space between the trigger and the tune is a boundary of lower case, so the tune that is cut off
is the lower case of the tune that was put in, whatever the trigger is.  On an unlimited outlet both
ways therefore write the same lines, write the same refusal or overflow in the same operation
(`workOn_message_eq_workOn_tune`).
-/

set_option autoImplicit false

namespace ChatTune

/-- A tune is composed the same when it was lowered before. -/
theorem Score.ofBody_lowercase {τ : Type} [Time τ] (rules : Rules τ) (start : τ)
    (body : List Char) : ofBody rules start (Text.lowercase body) = ofBody rules start body := by
  rw [ofBody_eq, ofBody_eq, Text.lowercase_lowercase]

/-- **A message with the trigger, a space and a tune** is answered as the score of the tune. -/
theorem Chat.reply_of_trigger_append_space (settings : Settings) (now : Float)
    (body : List Char) :
    reply settings now (settings.chat.trigger.toList ++ ' ' :: body) =
      answerTo settings (Score.ofBody settings.rules now body) := by
  have space : Text.lowerChar ' ' = [' '] := by decide
  have split : Text.lowercase (settings.chat.trigger.toList ++ ' ' :: body) =
      Text.lowercase settings.chat.trigger.toList ++ ' ' :: Text.lowercase body := by
    rw [Text.lowercase_append_boundary Text.boundary_space, space, List.append_assoc,
      List.singleton_append]
  rw [reply_of_tune now split, Score.ofBody_lowercase]

namespace CommandLine

/-- What becomes of an outlet on which a score is worked. -/
def outcomeOf (settings : Settings) (outlet : Outlet) :
    Except (Failure Float) (Array (Note Float)) → Outcome
  | .ok notes => outlet.playAll notes.toList
  | .error (.problem (.tooLong _)) => post outlet settings.chat.refusal
  | .error failure => ⟨outlet, .error failure⟩

variable (settings : Settings) (outlet : Outlet) (start : Float) (body : List Char)

theorem playTune_outcome :
    (playTune settings outlet start body).outcome =
      outcomeOf settings outlet (Score.ofBody settings.rules start body) := by
  unfold playTune
  rcases Score.ofBody_cases settings.rules start body with
    ⟨operation, scored⟩ | ⟨total, scored⟩ | ⟨notes, scored⟩
  all_goals
    simp only [scored]
    rfl

theorem answerMessage_outcome :
    (answerMessage settings outlet ⟨settings.chat.trigger.toList ++ ' ' :: body, start⟩).outcome =
      outcomeOf settings outlet (Score.ofBody settings.rules start body) := by
  unfold answerMessage Session.answer
  rw [Chat.reply_of_trigger_append_space]
  rcases Score.ofBody_cases settings.rules start body with
    ⟨operation, scored⟩ | ⟨total, scored⟩ | ⟨notes, scored⟩
  all_goals
    rw [scored]
    rfl

/-! ## What is left on an unlimited outlet -/

/-- **A tune that was played** on an unlimited outlet.  Where lines are written and no frequency
overflows, the lines of the tune are behind what was written before, and all goes well.  A silent
outlet counts the notes that sound. -/
structure Played (outlet : Outlet) (notes : List (Note Float)) (outcome : Outcome) : Prop where
  whole : outcome = outlet.playAll notes
  loud : outlet.form ≠ .silent → (∀ note ∈ notes, Playback.Sounds outlet.form note) →
    outcome = ⟨{ outlet with
      stream := ⟨outlet.stream.written ++ Playback.lines outlet.form notes, none⟩ }, .ok ()⟩
  silent : outlet.form = .silent →
    outcome = ⟨{ outlet with
      count := outlet.count + (notes.filter fun note => !note.isSilent).length }, .ok ()⟩

theorem Played.playAll {outlet : Outlet} (unlimited : outlet.stream.room = none)
    (notes : List (Note Float)) : Played outlet notes (outlet.playAll notes) where
  whole := rfl
  loud loud sounds := by
    obtain ⟨left, good⟩ := Outlet.playAll_writes loud sounds
    have result : (outlet.playAll notes).result = .ok () :=
      good.mpr (Stream.fits_of_unlimited unlimited _)
    have stream : outlet.stream.write (Playback.lines outlet.form notes) =
        ⟨outlet.stream.written ++ Playback.lines outlet.form notes, none⟩ :=
      Stream.write_of_unlimited unlimited _
    rw [← stream, ← left, ← result]
  silent mute := Outlet.playAll_of_silent mute notes

/-- **A text that is posted** on an unlimited outlet is behind what was written before, in a line
of its own, and nothing else becomes of the outlet. -/
theorem post_of_unlimited {outlet : Outlet} (unlimited : outlet.stream.room = none)
    (text : String) :
    post outlet text =
      ⟨{ outlet with
          stream := ⟨outlet.stream.written ++ (text ++ "\n").toUTF8, none⟩ }, .ok ()⟩ := by
  rw [post, Stream.print, Stream.write_of_unlimited unlimited]

/-! ## Tunes and messages -/

/-- **Tunes and messages that carry them come to the same.**  Under all settings, whatever the
trigger is, and for every start, tune and outlet without a limit, the trigger with a space and the
tune, worked on as a chat message, leaves the same outlet and the same result as the tune by itself.
Both play the same notes, both write the refusal in a line of its own and go well, or both overflow
before anything sounds. -/
theorem workOn_message_eq_workOn_tune (options : Options) (settings : Settings) (outlet : Outlet)
    (body : List Char) (unlimited : outlet.stream.room = none) :
    let message := (workOn { options with chat := true } settings outlet
      (settings.chat.trigger.toList ++ ' ' :: body)).outcome
    let tune := (workOn { options with chat := false } settings outlet body).outcome
    let refused : Outcome :=
      ⟨{ outlet with
          stream := ⟨outlet.stream.written ++ (settings.chat.refusal ++ "\n").toUTF8, none⟩ },
        .ok ()⟩
    message = tune ∧
      ((∃ notes, Score.ofBody settings.rules options.start body = .ok notes ∧
          Played outlet notes.toList message ∧ Played outlet notes.toList tune) ∨
        (∃ total, Score.ofBody settings.rules options.start body =
            .error (.problem (.tooLong total)) ∧
          message = refused ∧ tune = refused) ∨
        ∃ operation, Score.ofBody settings.rules options.start body =
            .error (.overflow operation) ∧
          message = ⟨outlet, .error (.overflow operation)⟩ ∧
          tune = ⟨outlet, .error (.overflow operation)⟩) := by
  intro message tune refused
  have ofMessage : message =
      outcomeOf settings outlet (Score.ofBody settings.rules options.start body) :=
    answerMessage_outcome settings outlet options.start body
  have ofTune : tune =
      outcomeOf settings outlet (Score.ofBody settings.rules options.start body) :=
    playTune_outcome settings outlet options.start body
  have same : message = tune := ofMessage.trans ofTune.symm
  refine ⟨same, ?_⟩
  rw [same]
  rcases Score.ofBody_cases settings.rules options.start body with
    ⟨operation, overflows⟩ | ⟨total, tooLong⟩ | ⟨notes, accepted⟩
  · rw [overflows] at ofTune
    exact .inr (.inr ⟨operation, overflows, ofTune, ofTune⟩)
  · rw [tooLong] at ofTune
    have posted : tune = refused :=
      ofTune.trans (post_of_unlimited unlimited settings.chat.refusal)
    exact .inr (.inl ⟨total, tooLong, posted, posted⟩)
  · rw [accepted] at ofTune
    have played : Played outlet notes.toList tune := ofTune ▸ .playAll unlimited notes.toList
    exact .inl ⟨notes, accepted, played, played⟩

/-- The trigger ends with a sigma, and the refusal of a tune goes behind a line that was written
before. -/
theorem refused_behind_line :
    let chat := { Settings.default.chat with trigger := "ΟΔΟΣ" }
    let settings := { Settings.default with chat }
    let options : Options := ⟨none, .text, 0, false, []⟩
    let outlet : Outlet := ⟨.text, ⟨"0.000\t0.300\tD5\n".toUTF8, none⟩, 0⟩
    let body := List.replicate 34 'a'
    let message := (workOn { options with chat := true } settings outlet
      ("ΟΔΟΣ".toList ++ ' ' :: body)).outcome
    let tune := (workOn { options with chat := false } settings outlet body).outcome
    outlet.stream.room = none ∧ message = tune ∧ tune.result = .ok () ∧
      tune.outlet.stream.written =
        "0.000\t0.300\tD5\nYour notes are too powerful traveller.\n".toUTF8 := by
  intro chat settings options outlet body message tune
  have unlimited : outlet.stream.room = none := rfl
  obtain ⟨same, becomes⟩ := workOn_message_eq_workOn_tune options settings outlet body unlimited
  have notPlayed : (Score.ofBody settings.rules options.start body).isOk = false := by
    decide +kernel
  have good : tune.result.isOk = true := by decide +kernel
  rcases becomes with ⟨notes, accepted, -⟩ | ⟨-, -, -, refused⟩ | ⟨operation, -, -, broken⟩
  · rw [accepted] at notPlayed
    cases notPlayed
  · have written := congrArg (fun outcome => outcome.outlet.stream.written) refused
    exact ⟨unlimited, same, congrArg Outcome.result refused, written.trans (by decide +kernel)⟩
  · cases good.symm.trans (congrArg (fun outcome => outcome.result.isOk) broken)

end CommandLine

end ChatTune
