import ChatTune.Proofs.Json.Records
import ChatTune.Proofs.Json.Written
import ChatTune.Settings.Loading

/-!
# Settings from a file

A file may give some parts of the settings and leave out others, in any order and among members
that are no settings.  It then asks for the standard settings with just these parts replaced
(`Overridden`), and these are what is read, as each field sets the part of its name and leaves the
others alone (`Settings.describes`).  What is asked for depends neither on the order of members nor
on those of unknown names, be it outside or inside of the rules and the texts
(`Settings.overridden_iff_of_rearranged`).

Settings that are read are examined, and accepted exactly if they are `Acceptable`.  No comparison
refuses an infinite length.  But no number in a file is infinite, so that none gets into the rules
(`Settings.finite_of_ofDocument`).
-/

set_option autoImplicit false

namespace ChatTune

open Json

/-! ## The parts of settings -/

/-- The rules: their names, the types of their values, and where they are kept. -/
def Rules.parts : List (RecordPart (Rules Float)) := [
  ⟨"note_length", Node.IsFloat, Rules.noteLength⟩,
  ⟨"shorten_step", Node.IsFloat, Rules.shortenStep⟩,
  ⟨"sustain_limit", Node.IsCount, Rules.sustainLimit⟩,
  ⟨"sustain_rewind_units", Node.IsCount, Rules.rewindUnits⟩,
  ⟨"max_octave", Node.IsInt32, Rules.highestOctave⟩,
  ⟨"min_octave", Node.IsInt32, Rules.lowestOctave⟩,
  ⟨"max_total_length", Node.IsFloat, Rules.longestTotal⟩,
  ⟨"clamp_shortening", Node.IsBool, Rules.clampShortening⟩]

/-- The texts in the same way. -/
def ChatTexts.parts : List (RecordPart ChatTexts) := [
  ⟨"trigger", Node.IsText, ChatTexts.trigger⟩,
  ⟨"help", Node.IsText, ChatTexts.help⟩,
  ⟨"refusal", Node.IsText, ChatTexts.refusal⟩]

/-- The two parts of settings, both of them given as objects. -/
def Settings.parts : List (RecordPart Settings) := [
  ⟨"sequencer", OfObject Rules.parts Rules.default, Settings.rules⟩,
  ⟨"chat", OfObject ChatTexts.parts ChatTexts.default, Settings.chat⟩]

/-- **The rules are what their fields set.** -/
theorem Rules.describes : Describes Rules.parts Rules.fields where
  named := rfl
  sets := by
    simp +decide [parts, fields, setBy_of_iff, Node.toFloat_eq_ok_iff, Node.toCount_eq_ok_iff,
      Node.toInt32_eq_ok_iff, Node.toBool_eq_ok_iff]
  leaves := by simp +decide [parts, fields, leftBy_of]
  ext := by
    rintro ⟨⟩ ⟨⟩
    simp +contextual [parts]

/-- **The texts are what their fields set.** -/
theorem ChatTexts.describes : Describes ChatTexts.parts ChatTexts.fields where
  named := rfl
  sets := by simp +decide [parts, fields, setBy_of_iff, Node.toText_eq_ok_iff]
  leaves := by simp +decide [parts, fields, leftBy_of]
  ext := by
    rintro ⟨⟩ ⟨⟩
    simp +contextual [parts]

namespace Settings

/-- **The settings are what their fields set,** where these are given as objects. -/
theorem describes : Describes parts fields where
  named := rfl
  sets := by
    have rules : (⟨"sequencer", OfObject Rules.parts Rules.default, Settings.rules⟩ :
        RecordPart Settings).SetBy
          (.of "sequencer" Rules.ofNode fun settings value => { settings with rules := value }) :=
      setBy_ofObject Rules.describes _ (fun _ => rfl) fun _ _ => rfl
    have chat : (⟨"chat", OfObject ChatTexts.parts ChatTexts.default, Settings.chat⟩ :
        RecordPart Settings).SetBy
          (.of "chat" ChatTexts.ofNode fun settings value => { settings with chat := value }) :=
      setBy_ofObject ChatTexts.describes _ (fun _ => rfl) fun _ _ => rfl
    simp +decide [parts, fields, rules, chat]
  leaves := by simp +decide [parts, fields, leftBy_of]
  ext := by
    rintro ⟨⟩ ⟨⟩
    simp +contextual [parts]

/-! ## What a file asks for -/

/-- **Members of their types:** nothing is given twice, and the rules and the texts are objects with
members of their types in turn. -/
structure WellTyped (members : List (String × Node)) : Prop where
  once : AtMostOnce (names parts) members
  rules : ∀ node, ("sequencer", node) ∈ members →
    ∃ inner, node = .object (.of inner) ∧ Typed Rules.parts inner
  chat : ∀ node, ("chat", node) ∈ members →
    ∃ inner, node = .object (.of inner) ∧ Typed ChatTexts.parts inner

/-- What accepted settings are like. -/
structure Acceptable (settings : Settings) : Prop where
  noteLength : 0 < settings.rules.noteLength
  shortenStep : 0 ≤ settings.rules.shortenStep
  longestTotal : 0 < settings.rules.longestTotal
  octaves : settings.rules.lowestOctave ≤ settings.rules.highestOctave
  trigger : settings.chat.trigger ≠ ""

/-- One change of the order of members, or one member of an unknown name more, outside or inside of
the rules and the texts. -/
inductive RearrangesWithin : List (String × Node) → List (String × Node) → Prop
  | outside {left right : List (String × Node)} (rearranges : Rearranges (names parts) left right) :
      RearrangesWithin left right
  | rules {left right : List (String × Node)}
      (rearranges : Rearranges (names Rules.parts) left right) (members : List (String × Node)) :
      RearrangesWithin (("sequencer", .object (.of left)) :: members)
        (("sequencer", .object (.of right)) :: members)
  | chat {left right : List (String × Node)}
      (rearranges : Rearranges (names ChatTexts.parts) left right)
      (members : List (String × Node)) :
      RearrangesWithin (("chat", .object (.of left)) :: members)
        (("chat", .object (.of right)) :: members)

variable {file : List UInt8} {members : List (String × Node)} {settings : Settings}

/-- Something is asked for by members of their types. -/
theorem WellTyped.exists_overridden (typed : WellTyped members)
    (sound : ∀ member ∈ members, member.2.skip = .ok ()) :
    ∃ settings, Overridden parts default members settings := by
  refine describes.exists_overridden ⟨typed.once, ?_⟩ sound
  have inside {ρ : Type} {known : List (RecordPart ρ)} {set : List (RecordField ρ)} {standard : ρ}
      (describes : Describes known set) {name : String} {node : Node}
      (member : (name, node) ∈ members)
      (given : ∃ inner, node = .object (.of inner) ∧ Typed known inner) :
      ∃ record, OfObject known standard node record := by
    obtain ⟨inner, rfl, typed⟩ := given
    obtain ⟨record, overridden⟩ :=
      describes.exists_overridden typed (Members.skip_of_eq_ok.mp (sound _ member))
    exact ⟨record, .intro overridden⟩
  simp only [parts, List.forall_mem_cons]
  exact ⟨fun node member => inside Rules.describes member (typed.rules node member),
    fun node member => inside ChatTexts.describes member (typed.chat node member),
    fun _ found => (by cases found)⟩

/-- Members that ask for something are of their types. -/
theorem WellTyped.of_overridden (overridden : Overridden parts default members settings) :
    WellTyped members where
  once := overridden.once
  rules node member := by
    have given : OfObject Rules.parts Rules.default node settings.rules :=
      (overridden.gives _ List.mem_cons_self).read overridden.once (by decide) member
    obtain ⟨overridden⟩ := given
    exact ⟨_, rfl, overridden.typed⟩
  chat node member := by
    have given : OfObject ChatTexts.parts ChatTexts.default node settings.chat :=
      (overridden.gives _ (List.mem_cons_of_mem _ List.mem_cons_self)).read overridden.once
        (by decide) member
    obtain ⟨overridden⟩ := given
    exact ⟨_, rfl, overridden.typed⟩

/-- Rearranged members ask for the same. -/
theorem RearrangesWithin.overridden_iff {left right : List (String × Node)}
    (rearranges : RearrangesWithin left right) :
    Overridden parts default left settings ↔ Overridden parts default right settings := by
  cases rearranges with
  | outside rearranges => exact rearranges.overridden_iff
  | rules rearranges members =>
      refine overridden_cons_iff ?_
      simp +decide [parts, ofObject_iff, rearranges.overridden_iff]
  | chat rearranges members =>
      refine overridden_cons_iff ?_
      simp +decide [parts, ofObject_iff, rearranges.overridden_iff]

/-- Members ask for the same after any number of rearrangements, forwards and backwards. -/
theorem overridden_iff_of_rearranged {left right : List (String × Node)}
    (related : Relation.EqvGen RearrangesWithin left right) :
    Overridden parts default left settings ↔ Overridden parts default right settings := by
  induction related with
  | rel _ _ rearranges => exact rearranges.overridden_iff
  | refl _ => exact Iff.rfl
  | symm _ _ _ ih => exact ih.symm
  | trans _ _ _ _ _ first second => exact first.trans second

/-- **Settings that are asked for are read.** -/
theorem ofDocument_of_overridden (holds : Holds file (.object (.of members)))
    (overridden : Overridden parts default members settings) :
    ofDocument (readDocument file) = .ok settings := by
  have read := describes.toRecord "struct Config" overridden
    (Members.skip_of_eq_ok.mp holds.sound)
  rw [ofDocument, Document.toRecord, holds.document, read]
  rfl

/-! ## Examination -/

theorem examine_eq_ok_iff : settings.examine = .ok () ↔ settings.Acceptable := by
  have rules := settings.rules.defect?_eq_none_iff
  unfold examine defect?
  cases found : settings.rules.defect? with
  | some defect =>
      refine ⟨fun wrong => (by cases wrong), fun acceptable => ?_⟩
      obtain ⟨noteLength, shortenStep, longestTotal, octaves, -⟩ := acceptable
      cases found.symm.trans
        (rules.mpr ⟨noteLength, shortenStep, longestTotal, Int32.not_lt.mpr octaves⟩)
  | none =>
      obtain ⟨noteLength, shortenStep, longestTotal, octaves⟩ := rules.mp found
      have octaves := Int32.not_lt.mp octaves
      by_cases empty : settings.chat.trigger = ""
      · simp only [String.isEmpty_iff.mpr empty, if_true, reduceCtorEq, false_iff]
        exact fun acceptable => acceptable.trigger empty
      · simp only [String.isEmpty_iff, if_neg empty, true_iff]
        exact ⟨noteLength, shortenStep, longestTotal, octaves, empty⟩

theorem examine_eq_ok_or_error :
    settings.examine = .ok () ∨ ∃ reason, settings.examine = .error (.settings reason) := by
  unfold examine
  cases settings.defect? with
  | none => exact .inl rfl
  | some reason => exact .inr ⟨reason, rfl⟩

end Settings

/-- All lengths of the rules are finite. -/
structure Rules.LengthsFinite (rules : Rules Float) : Prop where
  noteLength : rules.noteLength.isFinite = true
  shortenStep : rules.shortenStep.isFinite = true
  longestTotal : rules.longestTotal.isFinite = true

theorem Rules.finite_default : Rules.default.LengthsFinite := by
  constructor <;> decide +kernel

/-- A length that is read is finite, and the other fields leave the lengths alone. -/
theorem Rules.keeps_finite : FieldsKeep Rules.fields Rules.LengthsFinite := by
  have length {name : String} {put : Rules Float → Float → Rules Float}
      (stays : ∀ rules value, value.isFinite = true → rules.LengthsFinite →
        (put rules value).LengthsFinite) :
      (RecordField.of name Node.toFloat put).Keeps Rules.LengthsFinite :=
    keeps_of fun rules _ value fits found finite =>
      stays rules value (Node.isFinite_toFloat fits found) finite
  have other {α : Type} {name : String} {read : Node → Except Fault α}
      {put : Rules Float → α → Rules Float}
      (stays : ∀ rules value, rules.LengthsFinite → (put rules value).LengthsFinite) :
      (RecordField.of name read put).Keeps Rules.LengthsFinite :=
    keeps_of fun rules _ value _ _ finite => stays rules value finite
  simp only [FieldsKeep, fields, List.forall_mem_cons]
  exact ⟨length fun _ _ finite old => { old with noteLength := finite },
    length fun _ _ finite old => { old with shortenStep := finite },
    other fun _ _ old => { old with }, other fun _ _ old => { old with },
    other fun _ _ old => { old with }, other fun _ _ old => { old with },
    length fun _ _ finite old => { old with longestTotal := finite },
    other fun _ _ old => { old with }, fun _ found => (by cases found)⟩

namespace Settings

theorem keeps_finite : FieldsKeep fields fun settings => settings.rules.LengthsFinite := by
  refine List.forall_mem_cons.mpr ⟨?_, List.forall_mem_singleton.mpr ?_⟩
  · exact keeps_of fun _ _ _ fits found _ =>
      Rules.keeps_finite.toRecord fits Rules.finite_default found
  · exact keeps_of fun _ _ _ _ _ finite => finite

/-- **Whatever is read has finite lengths.** -/
theorem finite_of_ofDocument {bytes : List UInt8} {settings : Settings}
    (found : ofDocument (readDocument bytes) = .ok settings) : settings.rules.LengthsFinite := by
  obtain ⟨record, read, found⟩ := bind_eq_ok.mp found
  split at found
  · cases found
  · cases found
    exact keeps_finite.toRecord (readDocument_fits bytes) Rules.finite_default read

/-! ## Loading -/

section Loading

variable {file : List UInt8} {members : List (String × Node)} {settings : Settings}

theorem ofSource_of_ofDocument (read : ofDocument (readDocument file) = .ok settings) :
    (settings.Acceptable → ofSource (.content file) = .ok settings) ∧
      (¬ settings.Acceptable → ∃ reason, ofSource (.content file) = .error (.settings reason)) := by
  constructor
  · intro acceptable
    simp only [ofSource, read, examine_eq_ok_iff.mpr acceptable]
  · intro refused
    rcases examine_eq_ok_or_error with fine | ⟨reason, wrong⟩
    · exact absurd (examine_eq_ok_iff.mp fine) refused
    · exact ⟨reason, by simp only [ofSource, read, wrong]⟩

/-- Settings are loaded from bytes, and examined. -/
theorem exists_of_ofSource {source : Source} (loaded : ofSource source = .ok settings) :
    ∃ bytes, ofDocument (readDocument bytes) = .ok settings ∧ settings.examine = .ok () := by
  cases source with
  | unopened reason | unreadable reason => cases loaded
  | content bytes =>
      cases read : ofDocument (readDocument bytes) with
      | error fault =>
          simp only [ofSource, read] at loaded
          cases loaded
      | ok record =>
          cases examined : record.examine with
          | error problem =>
              simp only [ofSource, read, examined] at loaded
              cases loaded
          | ok =>
              simp only [ofSource, read, examined] at loaded
              cases loaded
              exact ⟨bytes, read, examined⟩

/-- **Loading overrides the standard settings part by part.**  Let a file hold an object with
members of their types, in any order and among members of other names.  Then it asks for settings:
the standard ones with just the given parts replaced.  Loading ends with these settings if they are
acceptable and with a refusal otherwise, and it ends alike for every file that holds rearranged
members.  Whatever a file holds, settings that are loaded pass the examination, and their lengths
are finite. -/
theorem loading_overrides_defaults :
    (∀ file members, Holds file (.object (.of members)) → WellTyped members →
      (∃! settings, Overridden parts default members settings) ∧
      (∀ settings, Overridden parts default members settings →
        (settings.Acceptable → ofSource (.content file) = .ok settings) ∧
        (¬ settings.Acceptable →
          ∃ reason, ofSource (.content file) = .error (.settings reason))) ∧
      ∀ other rearranged, Holds other (.object (.of rearranged)) →
        Relation.EqvGen RearrangesWithin members rearranged →
        ofSource (.content other) = ofSource (.content file)) ∧
    ∀ source settings, ofSource source = .ok settings →
      settings.examine = .ok () ∧ settings.rules.LengthsFinite := by
  refine ⟨fun file members holds typed => ?_, fun source settings loaded => ?_⟩
  · obtain ⟨asked, overridden⟩ := typed.exists_overridden (Members.skip_of_eq_ok.mp holds.sound)
    have read := ofDocument_of_overridden holds overridden
    refine ⟨⟨asked, overridden, fun settings given => ?unique⟩, fun settings given => ?loaded,
      fun other rearranged otherHolds related => ?rearranged⟩
    case unique =>
      exact Except.ok.inj ((ofDocument_of_overridden holds given).symm.trans read)
    case loaded => exact ofSource_of_ofDocument (ofDocument_of_overridden holds given)
    case rearranged =>
      have same := (overridden_iff_of_rearranged related).mp overridden
      simp only [ofSource, read, ofDocument_of_overridden otherHolds same]
  · obtain ⟨bytes, read, examined⟩ := exists_of_ofSource loaded
    exact ⟨examined, finite_of_ofDocument read⟩

end Loading

/-! ## Two files -/

/-- A trigger, as a member of settings. -/
def fluteMember : String × Node := ("chat", .object (.of [("trigger", .text (.ok "flute"))]))

/-- A lowest octave, as a member of settings. -/
def octaveMember : String × Node :=
  ("sequencer", .object (.of [("min_octave", .number (.ok (.natural 1)))]))

/-- A member of an unknown name. -/
def volumeMember : String × Node := ("volume", .list (.of [.null]))

/-- A file that begins with the member of an unknown name. -/
def fluteFile : List UInt8 :=
  utf8 ("\x7b\"volume\":[null],\"chat\":\x7b\"trigger\":\"flute\"\x7d," ++
    "\"sequencer\":\x7b\"min_octave\":1\x7d\x7d").toList

/-- A file without that member, in the other order. -/
def octaveFile : List UInt8 :=
  utf8 ("\x7b\"sequencer\":\x7b\"min_octave\":1\x7d," ++
    "\"chat\":\x7b\"trigger\":\"flute\"\x7d\x7d").toList

/-- The standard settings with that trigger and that octave. -/
def fluteSettings : Settings where
  rules := { Rules.default with lowestOctave := 1 }
  chat := { ChatTexts.default with trigger := "flute" }

theorem holds_files :
    Holds fluteFile (.object (.of [volumeMember, fluteMember, octaveMember])) ∧
      Holds octaveFile (.object (.of [octaveMember, fluteMember])) := by
  have flute : ReadAs _ (.text (.ok "flute")) :=
    @ReadAs.token ['f', 'l', 'u', 't', 'e'] (by decide)
  have one : ReadAs _ (.number (.ok (.natural 1))) :=
    .numeral false ⟨.natural 1, .inl rfl, none, none⟩
  have volume : MemberReadAs _ volumeMember := .intro (by decide) (.list (.cons .null .nil))
  have chat : MemberReadAs _ fluteMember :=
    .intro (by decide) (.object (.cons (.intro (by decide) flute) .nil))
  have sequencer : MemberReadAs _ octaveMember :=
    .intro (by decide) (.object (.cons (.intro (by decide) one) .nil))
  have both := ReadAs.object (.cons volume (.cons chat (.cons sequencer .nil)))
  have other := ReadAs.object (.cons sequencer (.cons chat .nil))
  exact ⟨both.holds (by decide +kernel), other.holds (by decide +kernel)⟩

theorem overridden_flute :
    Overridden parts default [volumeMember, fluteMember, octaveMember] fluteSettings := by
  have texts : OfObject ChatTexts.parts ChatTexts.default fluteMember.2 fluteSettings.chat := by
    refine .intro ⟨by decide, ?_⟩
    simp only [ChatTexts.parts, List.forall_mem_cons]
    exact ⟨.present List.mem_cons_self (.intro _), .missing (by decide), .missing (by decide),
      fun _ found => (by cases found)⟩
  have rules : OfObject Rules.parts Rules.default octaveMember.2 fluteSettings.rules := by
    refine .intro ⟨by decide, ?_⟩
    simp only [Rules.parts, List.forall_mem_cons]
    exact ⟨.missing (by decide), .missing (by decide), .missing (by decide), .missing (by decide),
      .missing (by decide), .present List.mem_cons_self (.natural rfl), .missing (by decide),
      .missing (by decide), fun _ found => (by cases found)⟩
  refine ⟨by decide, ?_⟩
  simp only [parts, List.forall_mem_cons]
  exact ⟨.present (.tail _ (.tail _ (.head _))) rules, .present (.tail _ (.head _)) texts,
    fun _ found => (by cases found)⟩

theorem acceptable_flute : fluteSettings.Acceptable := by
  constructor <;> decide +kernel

theorem rearranged_flute : Relation.EqvGen RearrangesWithin
    [volumeMember, fluteMember, octaveMember] [octaveMember, fluteMember] := by
  have removed : Relation.EqvGen RearrangesWithin [fluteMember, octaveMember]
      [volumeMember, fluteMember, octaveMember] :=
    .rel _ _ (.outside (.adds (by decide) _ _))
  exact removed.symm.trans _ _ _ (.rel _ _ (.outside (.permutes (.swap _ _ _))))

/-- Both files are loaded alike, with two values replaced. -/
theorem flute_loaded :
    Holds fluteFile (.object (.of [volumeMember, fluteMember, octaveMember])) ∧
      WellTyped [volumeMember, fluteMember, octaveMember] ∧
      Overridden parts default [volumeMember, fluteMember, octaveMember] fluteSettings ∧
      fluteSettings.Acceptable ∧ ofSource (.content fluteFile) = .ok fluteSettings ∧
      ofSource (.content octaveFile) = ofSource (.content fluteFile) ∧
      fluteSettings.examine = .ok () ∧ fluteSettings.rules.LengthsFinite := by
  have typed := WellTyped.of_overridden overridden_flute
  obtain ⟨overrides, sound⟩ := loading_overrides_defaults
  obtain ⟨-, loads, alike⟩ := overrides fluteFile _ holds_files.1 typed
  have loaded := (loads _ overridden_flute).1 acceptable_flute
  obtain ⟨examined, finite⟩ := sound _ _ loaded
  exact ⟨holds_files.1, typed, overridden_flute, acceptable_flute, loaded,
    alike octaveFile _ holds_files.2 rearranged_flute, examined, finite⟩

end Settings

end ChatTune
