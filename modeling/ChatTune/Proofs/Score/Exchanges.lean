import ChatTune.Proofs.Score.Brackets
import ChatTune.Proofs.Score.Separation

/-!
# Commands that can be exchanged

Two commands next to each other can be exchanged where neither of them looks at what the other one
changes.  A command for pitches changes the last pitch of the last note, a shortening its duration
and the clock, a bracket and what is collected in a chord are kept beside the notes, and an ignored
character changes nothing.  Among the commands for pitches only the marks can be exchanged with
each other and with the octaves, for up and down stop at different bounds.

Changes of a pitch compose (`Draft.Coherent.changePitch_bind`), and everything else that is said
here is that one effect goes through another one.  As the exchanged commands leave the same draft or
overflow in the same operation, what follows them makes no difference (`Score.compose_exchanged`).
-/

set_option autoImplicit false

namespace ChatTune

variable {τ : Type}

namespace Command

/-- Whether a command sets a mark of the last pitch of the current note. -/
def setsMark : Command → Bool
  | .sharp | .flat => true
  | _ => false

/-- Whether a command adds no note in any draft, and looks at no pitch and changes none. -/
def passesPitches : Command → Bool
  | .shorten | .chordStart | .ignored _ => true
  | _ => false

/-- Whether a command changes what an open chord collects, whatever the notes are. -/
def fillsChord : Command → Bool
  | .press _ | .pause => true
  | _ => false

end Command

/-! ## Marks beside octaves -/

namespace Pitch

/-- A setting of marks that does not depend on the octave, nor on the marks that are set. -/
structure Marking (marked : Pitch → Pitch) : Prop where
  octave : ∀ (pitch : Pitch) (octave : Int32),
    marked { pitch with octave } = { marked pitch with octave }
  sharpened : ∀ pitch : Pitch, marked pitch.sharpened = (marked pitch).sharpened
  flattened : ∀ pitch : Pitch, marked pitch.flattened = (marked pitch).flattened

theorem marking_sharpened : Marking sharpened := ⟨fun _ _ => rfl, fun _ => rfl, fun _ => rfl⟩

theorem marking_flattened : Marking flattened := ⟨fun _ _ => rfl, fun _ => rfl, fun _ => rfl⟩

namespace Marking

variable {marked : Pitch → Pitch}

theorem same_octave (marking : Marking marked) (pitch : Pitch) :
    (marked pitch).octave = pitch.octave := by
  have same : marked pitch = { marked pitch with octave := pitch.octave } :=
    marking.octave pitch pitch.octave
  rw [same]

theorem raise (marking : Marking marked) (highest : Int32) (pitch : Pitch) :
    (marked pitch).raise highest = (pitch.raise highest).map marked := by
  simp only [Pitch.raise, marking.same_octave]
  cases Checked.add pitch.octave 1 with
  | error operation => rfl
  | ok octave => exact congrArg Except.ok (marking.octave pitch _).symm

theorem lower (marking : Marking marked) (lowest : Int32) (pitch : Pitch) :
    (marked pitch).lower lowest = (pitch.lower lowest).map marked := by
  simp only [Pitch.lower, marking.same_octave]
  cases Checked.subtract pitch.octave 1 with
  | error operation => rfl
  | ok octave => exact congrArg Except.ok (marking.octave pitch _).symm

/-- **Marks are set alike before a command for pitches and after it.** -/
theorem change {rules : Rules τ} (marking : Marking marked) {command : Command}
    {change : Pitch → Except Overflow Pitch} (found : command.pitchChange? rules = some change)
    (pitch : Pitch) : change (marked pitch) = (change pitch).map marked := by
  cases command <;> cases found
  case octaveUp => exact marking.raise rules.highestOctave pitch
  case octaveDown => exact marking.lower rules.lowestOctave pitch
  case sharp => exact congrArg Except.ok (marking.sharpened pitch).symm
  case flat => exact congrArg Except.ok (marking.flattened pitch).symm

end Marking

end Pitch

/-- A command that sets a mark is a setting of marks, and a second one makes no difference. -/
theorem Command.exists_marking (rules : Rules τ) {mark : Command} (marks : mark.setsMark = true) :
    ∃ marked, mark.pitchChange? rules = some (fun pitch => .ok (marked pitch)) ∧
      Pitch.Marking marked ∧ ∀ pitch, marked (marked pitch) = marked pitch := by
  cases mark <;> cases marks
  case sharp => exact ⟨_, rfl, Pitch.marking_sharpened, fun _ => rfl⟩
  case flat => exact ⟨_, rfl, Pitch.marking_flattened, fun _ => rfl⟩

/-! ## Changes of the last note -/

/-- Two changes of the last pitch are one. -/
theorem Note.changeLast_bind (first second : Pitch → Except Overflow Pitch) (note : Note τ) :
    (note.changeLast first >>= fun changed => changed.changeLast second) =
      note.changeLast fun pitch => first pitch >>= second := by
  unfold Note.changeLast
  cases found : note.pitches.getLast? with
  | none => simp only [bind, Except.bind, found]
  | some pitch =>
      dsimp only
      cases first pitch with
      | error operation => rfl
      | ok changed =>
          simp only [bind, Except.bind, pure, Except.pure, List.getLast?_concat,
            List.dropLast_concat]

/-- A change of the last pitch goes through a shortening. -/
theorem Note.changeLast_shorten [Time τ] (change : Pitch → Except Overflow Pitch) (note : Note τ)
    (step : τ) :
    (note.shorten step).changeLast change = (note.changeLast change).map (·.shorten step) := by
  simp only [Note.changeLast, Note.shorten]
  cases note.pitches.getLast? with
  | none => rfl
  | some pitch =>
      dsimp only
      cases change pitch with
      | error operation => rfl
      | ok changed => rfl

namespace Draft

/-- Two changes of a pitch are one. -/
theorem Coherent.changePitch_bind {rules : Rules τ} {draft : Draft τ}
    (coherent : draft.Coherent rules) (first second : Pitch → Except Overflow Pitch) :
    (draft.changePitch first >>= fun next => next.changePitch second) =
      draft.changePitch fun pitch => first pitch >>= second := by
  rcases coherent.empty_or_endsWith with ⟨-, vacant⟩ | ⟨earlier, last, ends⟩
  · rw [changePitch_of_none vacant, changePitch_of_none vacant]
    exact changePitch_of_none vacant second
  · rw [ends.changePitch, ends.changePitch, ← Note.changeLast_bind]
    cases last.changeLast first with
    | error operation => rfl
    | ok changed =>
        have nextEnds : EndsWith { draft with notes := earlier.push changed } earlier changed :=
          ⟨rfl, ends.current⟩
        exact nextEnds.changePitch second

/-! ## Effects beside the notes -/

/-- **An update beside the notes:** it keeps the current note, and goes through every change of the
notes and the clock. -/
structure Beside (update : Draft τ → Draft τ) : Prop where
  current : ∀ draft, (update draft).current = draft.current
  setNotes : ∀ (draft : Draft τ) (notes : Array (Note τ)),
    update { draft with notes } = { update draft with notes }
  setClock : ∀ (draft : Draft τ) (clock : τ),
    update { draft with clock } = { update draft with clock }

namespace Beside

variable {update : Draft τ → Draft τ}

theorem notes (beside : Beside update) (draft : Draft τ) :
    (update draft).notes = draft.notes := by
  have same : update draft = { update draft with notes := draft.notes } :=
    beside.setNotes draft draft.notes
  rw [same]

theorem clock (beside : Beside update) (draft : Draft τ) :
    (update draft).clock = draft.clock := by
  have same : update draft = { update draft with clock := draft.clock } :=
    beside.setClock draft draft.clock
  rw [same]

theorem endsWith (beside : Beside update) {draft : Draft τ} {earlier : Array (Note τ)}
    {last : Note τ} (ends : draft.EndsWith earlier last) : (update draft).EndsWith earlier last :=
  ⟨(beside.notes draft).trans ends.notes, (beside.current draft).trans ends.current⟩

/-- A change of a pitch goes through an update beside the notes. -/
theorem changePitch (beside : Beside update) {rules : Rules τ} {draft : Draft τ}
    (coherent : draft.Coherent rules) (change : Pitch → Except Overflow Pitch) :
    (update draft).changePitch change = (draft.changePitch change).map update := by
  rcases coherent.empty_or_endsWith with ⟨-, vacant⟩ | ⟨earlier, last, ends⟩
  · rw [changePitch_of_none vacant, changePitch_of_none ((beside.current draft).trans vacant)]
    rfl
  · rw [ends.changePitch, (beside.endsWith ends).changePitch]
    cases last.changeLast change with
    | error operation => rfl
    | ok changed => exact congrArg Except.ok (beside.setNotes draft (earlier.push changed)).symm

/-- A shortening goes through an update beside the notes. -/
theorem shorten [Time τ] (beside : Beside update) {rules : Rules τ} {draft : Draft τ}
    (coherent : draft.Coherent rules) :
    (update draft).shorten rules = update (draft.shorten rules) := by
  rcases coherent.empty_or_endsWith with ⟨-, vacant⟩ | ⟨earlier, last, ends⟩
  · simp only [Draft.shorten, vacant, beside.current]
  · rw [ends.shorten, (beside.endsWith ends).shorten, beside.clock]
    have moved := beside.setNotes { draft with clock := draft.clock - stepFor rules last.duration }
      (earlier.push (last.shorten (stepFor rules last.duration)))
    rw [beside.setClock] at moved
    exact moved.symm

end Beside

/-! ## Exchanges on a draft -/

variable [Time τ] {rules : Rules τ} {draft next : Draft τ} {first second command : Command}

/-- A change of a pitch goes through a shortening. -/
theorem Coherent.changePitch_shorten (coherent : draft.Coherent rules)
    (change : Pitch → Except Overflow Pitch) :
    (draft.shorten rules).changePitch change =
      (draft.changePitch change).map (·.shorten rules) := by
  rcases coherent.empty_or_endsWith with ⟨-, vacant⟩ | ⟨earlier, last, ends⟩
  · simp only [Draft.shorten, vacant, changePitch_of_none vacant, Except.map]
  · have shortEnds : (draft.shorten rules).EndsWith earlier
        (last.shorten (stepFor rules last.duration)) := by
      rw [ends.shorten]
      exact ⟨rfl, ends.current⟩
    rw [shortEnds.changePitch, ends.changePitch, Note.changeLast_shorten, ends.shorten]
    cases changes : last.changeLast change with
    | error operation => rfl
    | ok changed =>
        have nextEnds : EndsWith { draft with notes := earlier.push changed } earlier changed :=
          ⟨rfl, ends.current⟩
        simp only [Except.map, nextEnds.shorten, Note.duration_of_changeLast changes]

/-- **Commands that can be exchanged on a draft:** in both orders they leave the same draft, or
overflow in the same operation. -/
def Exchanges (rules : Rules τ) (draft : Draft τ) (first second : Command) : Prop :=
  (draft.advance rules first >>= fun next => next.advance rules second) =
    (draft.advance rules second >>= fun next => next.advance rules first)

/-- A mark and another command for pitches. -/
theorem Coherent.exchanges_mark (coherent : draft.Coherent rules) (marks : first.setsMark = true)
    (changes : second.changesPitch = true) : draft.Exchanges rules first second := by
  obtain ⟨marked, found, marking, -⟩ := Command.exists_marking rules marks
  obtain ⟨change, foundChange⟩ := Command.exists_of_changesPitch rules changes
  unfold Exchanges
  simp only [advance_of_pitchChange? found, advance_of_pitchChange? foundChange]
  rw [coherent.changePitch_bind, coherent.changePitch_bind]
  refine congrArg draft.changePitch (funext fun pitch => ?_)
  exact marking.change foundChange pitch

/-- A command for pitches and a shortening. -/
theorem Coherent.exchanges_shorten (coherent : draft.Coherent rules)
    (changes : first.changesPitch = true) : draft.Exchanges rules first .shorten := by
  obtain ⟨change, found⟩ := Command.exists_of_changesPitch rules changes
  unfold Exchanges
  simp only [advance_of_pitchChange? found, advance_shorten]
  exact (coherent.changePitch_shorten change).symm

/-- A command for the last note goes through an update beside the notes. -/
theorem Beside.advance {update : Draft τ → Draft τ} (beside : Beside update)
    (coherent : draft.Coherent rules)
    (touches : command.changesPitch = true ∨ command = .shorten) :
    (update draft).advance rules command = (draft.advance rules command).map update := by
  rcases touches with changes | rfl
  · obtain ⟨change, found⟩ := Command.exists_of_changesPitch rules changes
    simp only [advance_of_pitchChange? found]
    exact beside.changePitch coherent change
  · simp only [advance_shorten]
    exact congrArg Except.ok (beside.shorten coherent)

/-- A command for the last note and a command that is an update beside the notes. -/
theorem Coherent.exchanges_beside (coherent : draft.Coherent rules)
    (touches : first.changesPitch = true ∨ first = .shorten) (update : Draft τ → Draft τ)
    (beside : Beside update) (here : draft.advance rules second = .ok (update draft))
    (behind : ∀ next, draft.advance rules first = .ok next →
      next.advance rules second = .ok (update next)) :
    draft.Exchanges rules first second :=
  calc (draft.advance rules first >>= fun next => next.advance rules second)
      = (draft.advance rules first).map update := by
        cases advanced : draft.advance rules first with
        | error operation => rfl
        | ok next => exact behind next advanced
    _ = (update draft).advance rules first := (beside.advance coherent touches).symm
    _ = (draft.advance rules second >>= fun next => next.advance rules first) := by
        rw [here]
        rfl

/-- A command for pitches and a command that passes them. -/
theorem Coherent.exchanges_passing (coherent : draft.Coherent rules)
    (changes : first.changesPitch = true) (passes : second.passesPitches = true) :
    draft.Exchanges rules first second := by
  cases second <;> cases passes
  case shorten => exact coherent.exchanges_shorten changes
  case chordStart =>
      exact coherent.exchanges_beside (.inl changes)
        (fun draft => { draft with chordOpen := true })
        ⟨fun _ => rfl, fun _ _ => rfl, fun _ _ => rfl⟩ rfl fun _ _ => rfl
  case ignored symbol =>
      exact coherent.exchanges_beside (.inl changes) id
        ⟨fun _ => rfl, fun _ _ => rfl, fun _ _ => rfl⟩ rfl fun _ _ => rfl

/-- Within a chord a command for the last note and a command that fills the chord. -/
theorem Coherent.exchanges_within (coherent : draft.Coherent rules)
    (chordOpen : draft.chordOpen = true)
    (touches : first.changesPitch = true ∨ first = .shorten) (fills : second.fillsChord = true) :
    draft.Exchanges rules first second := by
  have notBracket : first.isBracket = false := by
    rcases touches with changes | rfl
    · cases first <;> cases changes <;> rfl
    · rfl
  have stays (next : Draft τ) (advanced : draft.advance rules first = .ok next) :
      next.chordOpen = true := by
    obtain ⟨performed, performs, rfl⟩ := advance_cases coherent advanced
    rw [settle_chordOpen, performs.chordOpen_of_not_isBracket notBracket, chordOpen]
  cases second <;> cases fills
  case press button =>
      have collects {draft : Draft τ} (chordOpen : draft.chordOpen = true) :
          draft.advance rules (.press button) =
            .ok { draft with pending := draft.pending ++ [button.pitch] } := by
        rw [advance_of_perform rfl]
        exact congrArg Except.ok (settle_of_open rules _ chordOpen)
      exact coherent.exchanges_beside touches
        (fun draft => { draft with pending := draft.pending ++ [button.pitch] })
        ⟨fun _ => rfl, fun _ _ => rfl, fun _ _ => rfl⟩ (collects chordOpen)
        fun next advanced => collects (stays next advanced)
  case pause =>
      have drops {draft : Draft τ} (chordOpen : draft.chordOpen = true) :
          draft.advance rules .pause = .ok { draft with pending := [] } := by
        rw [advance_of_perform rfl]
        exact congrArg Except.ok (settle_of_open rules _ chordOpen)
      exact coherent.exchanges_beside touches (fun draft => { draft with pending := [] })
        ⟨fun _ => rfl, fun _ _ => rfl, fun _ _ => rfl⟩ (drops chordOpen)
        fun next advanced => drops (stays next advanced)

/-- A mark that is set twice is set once. -/
theorem Coherent.advance_setsMark_twice (coherent : draft.Coherent rules)
    (marks : command.setsMark = true) :
    (draft.advance rules command >>= fun next => next.advance rules command) =
      draft.advance rules command := by
  obtain ⟨marked, found, -, again⟩ := Command.exists_marking rules marks
  simp only [advance_of_pitchChange? found]
  rw [coherent.changePitch_bind]
  refine congrArg draft.changePitch (funext fun pitch => ?_)
  exact congrArg Except.ok (again pitch)

end Draft

/-! ## Exchanges in a list -/

namespace Score

variable [Time τ] {rules : Rules τ} {start : τ}

/-- Commands that can be exchanged on the draft of a front can be exchanged behind the front,
whatever follows. -/
theorem compose_append_of_exchanges {front : List Command} {first second : Command}
    (exchanges : ∀ middle, draft rules start front = .ok middle →
      middle.Exchanges rules first second) (back : List Command) :
    compose rules start (front ++ first :: second :: back) =
      compose rules start (front ++ second :: first :: back) := by
  refine compose_append_congr fun middle reached => ?_
  simp only [Draft.run_cons, ← bind_assoc]
  exact congrArg (· >>= fun next => next.run rules back) (exchanges middle reached)

/-- **Commands that can be exchanged in a list.**  In every context a mark can be exchanged with
every command for pitches, and a command for pitches with a shortening, an opening bracket and an
ignored character.  Where a chord is open, commands for pitches and shortenings can also be
exchanged with buttons and pauses.  The list then composes to the same notes or overflows in the
same operation; and so it does when a mark that is set twice is set once. -/
theorem compose_exchanged (rules : Rules τ) (start : τ) (front back : List Command) :
    (∀ first second : Command,
      first.setsMark = true ∧ second.changesPitch = true ∨
        first.changesPitch = true ∧ second.passesPitches = true →
      compose rules start (front ++ first :: second :: back) =
        compose rules start (front ++ second :: first :: back)) ∧
    ((∀ middle, draft rules start front = .ok middle → middle.chordOpen = true) →
      ∀ first second : Command, (first.changesPitch = true ∨ first = .shorten) →
        second.fillsChord = true →
        compose rules start (front ++ first :: second :: back) =
          compose rules start (front ++ second :: first :: back)) ∧
    ∀ mark : Command, mark.setsMark = true →
      compose rules start (front ++ mark :: mark :: back) =
        compose rules start (front ++ mark :: back) := by
  refine ⟨?_, ?_, ?_⟩
  · rintro first second (⟨marks, changes⟩ | ⟨changes, passes⟩)
    · exact compose_append_of_exchanges
        (fun middle reached => (draft_coherent reached).exchanges_mark marks changes) back
    · exact compose_append_of_exchanges
        (fun middle reached => (draft_coherent reached).exchanges_passing changes passes) back
  · intro within first second touches fills
    exact compose_append_of_exchanges (fun middle reached =>
      (draft_coherent reached).exchanges_within (within middle reached) touches fills) back
  · intro mark marks
    refine compose_append_congr fun middle reached => ?_
    simp only [Draft.run_cons, ← bind_assoc]
    rw [(draft_coherent reached).advance_setsMark_twice marks]

/-- Within a chord, before sustains that copy the changed note. -/
theorem exchanges_before_reattack :
    let front : List Command := [.press .d, .chordStart]
    let back : List Command := .replicate 8 .sustain ++ [.chordEnd]
    let composed (commands : List Command) := compose .exactDefault 0 (front ++ commands ++ back)
    (∃ middle, draft .exactDefault 0 front = .ok middle ∧ middle.chordOpen = true) ∧
      composed [.sharp, .octaveUp] = composed [.octaveUp, .sharp] ∧
      composed [.octaveUp, .shorten] = composed [.shorten, .octaveUp] ∧
      composed [.octaveUp, .press .a] = composed [.press .a, .octaveUp] ∧
      composed [.flat, .flat] = composed [.flat] ∧
      composed [.sharp, .octaveUp] = .ok #[⟨[⟨.d, 5, true, false⟩], 0, 27 / 10⟩,
        ⟨[⟨.d, 5, true, false⟩], 3 / 5, 3 / 10⟩] := by
  intro front back composed
  have reached : ∃ middle, draft .exactDefault 0 front = .ok middle ∧ middle.chordOpen = true :=
    ⟨_, rfl, rfl⟩
  obtain ⟨middle, same, chordOpen⟩ := reached
  have within : ∀ middle, draft .exactDefault 0 front = .ok middle → middle.chordOpen = true := by
    intro other reachedOther
    cases same.symm.trans reachedOther
    exact chordOpen
  obtain ⟨anywhere, inChord, twice⟩ := compose_exchanged .exactDefault 0 front back
  exact ⟨⟨middle, same, chordOpen⟩, anywhere _ _ (.inl ⟨rfl, rfl⟩), anywhere _ _ (.inr ⟨rfl, rfl⟩),
    inChord within _ _ (.inl rfl) rfl, twice _ rfl, by decide +kernel⟩

/-- Up and down cannot be exchanged at the highest octave. -/
example :
    compose .exactDefault 0 (.press .d :: .replicate 3 .octaveUp ++ [.octaveUp, .octaveDown]) ≠
      compose .exactDefault 0
        (.press .d :: .replicate 3 .octaveUp ++ [.octaveDown, .octaveUp]) := by
  decide +kernel

end Score

end ChatTune
