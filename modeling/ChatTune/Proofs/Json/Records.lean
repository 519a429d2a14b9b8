import ChatTune.Proofs.Json.Bounds
import ChatTune.Proofs.Json.Grammar

/-!
# Records from members

The members of an object give a record its parts: each part is what the member of its name is read
as, or the standard value where there is no such member (`Gives`, `Overridden`).  This says nothing
of an order, so rearranged members give the same (`Rearranges.overridden_iff`).

A reader goes through the members in their order, sets the field of each name it knows, and passes
over the others.  If each field sets the part of its name and no other one (`Describes`), then it
ends with the record that the members override (`Describes.toRecord`).  What the fields keep as long
as the numbers in a value fit, the whole record keeps, whatever the value is
(`FieldsKeep.toRecord`).
-/

set_option autoImplicit false

namespace ChatTune.Json

/-! ## What members give -/

section Members

variable {α : Type} {members : List (String × Node)} {name : String} {reads : Node → α → Prop}
  {standard value : α}

/-- **The value that members give to a field:** the one that the field's member is read as, or the
standard value if there is no such member. -/
inductive Gives (members : List (String × Node)) (name : String) (reads : Node → α → Prop)
    (standard : α) : α → Prop
  | missing (absent : name ∉ members.map Prod.fst) : Gives members name reads standard standard
  | present {node : Node} {value : α} (member : (name, node) ∈ members) (read : reads node value) :
      Gives members name reads standard value

/-- No more than one member has any of some names. -/
def AtMostOnce (names : List String) (members : List (String × Node)) : Prop :=
  ∀ name ∈ names, (members.map Prod.fst).count name ≤ 1

instance (names : List String) (members : List (String × Node)) :
    Decidable (AtMostOnce names members) :=
  inferInstanceAs (Decidable (∀ name ∈ names, _ ≤ 1))

/-- Behind its member a name does not occur again. -/
theorem AtMostOnce.not_mem {names : List String} {node : Node}
    (once : AtMostOnce names ((name, node) :: members)) (known : name ∈ names) :
    name ∉ members.map Prod.fst := by
  intro again
  have positive := List.count_pos_iff.mpr again
  have most := once name known
  rw [List.map_cons, List.count_cons_self] at most
  omega

theorem AtMostOnce.tail {names : List String} {first : String × Node}
    (once : AtMostOnce names (first :: members)) : AtMostOnce names members :=
  fun name known => (List.count_le_count_cons).trans (once name known)

/-- A name has one node. -/
theorem AtMostOnce.eq_of_mem {names : List String} (once : AtMostOnce names members)
    (known : name ∈ names) {first second : Node} (left : (name, first) ∈ members)
    (right : (name, second) ∈ members) : first = second := by
  induction members with
  | nil => cases left
  | cons member members ih =>
      rcases List.mem_cons.mp left with rfl | leftBehind
      · rcases List.mem_cons.mp right with same | rightBehind
        · exact (congrArg Prod.snd same).symm
        · exact absurd (List.mem_map_of_mem rightBehind) (once.not_mem known)
      · rcases List.mem_cons.mp right with rfl | rightBehind
        · exact absurd (List.mem_map_of_mem leftBehind) (once.not_mem known)
        · exact ih once.tail leftBehind rightBehind

/-- The only member of a name is read as what it gives. -/
theorem Gives.read {names : List String} (gives : Gives members name reads standard value)
    (once : AtMostOnce names members) (known : name ∈ names) {node : Node}
    (member : (name, node) ∈ members) : reads node value := by
  cases gives with
  | missing absent => exact absurd (List.mem_map_of_mem member) absent
  | present other read => exact once.eq_of_mem known other member ▸ read

/-- Without a member the standard value remains. -/
theorem Gives.eq_standard (gives : Gives members name reads standard value)
    (absent : name ∉ members.map Prod.fst) : standard = value := by
  cases gives with
  | missing => rfl
  | present member => exact absurd (List.mem_map_of_mem member) absent

/-- A member of another name in front gives nothing. -/
theorem Gives.cons_of_ne {other : String} {node : Node} (different : other ≠ name)
    (gives : Gives members name reads standard value) :
    Gives ((other, node) :: members) name reads standard value := by
  cases gives with
  | missing absent =>
      refine .missing fun inside => ?_
      rcases List.mem_cons.mp inside with same | behind
      · exact different same.symm
      · exact absent behind
  | present member read => exact .present (List.mem_cons_of_mem _ member) read

/-! ## Members in another order -/

/-- Members in another order, or with one more in front that has none of some names. -/
inductive Rearranges (names : List String) : List (String × Node) → List (String × Node) → Prop
  | permutes {left right : List (String × Node)} (permutation : left.Perm right) :
      Rearranges names left right
  | adds {name : String} (unknown : name ∉ names) (node : Node) (members : List (String × Node)) :
      Rearranges names members ((name, node) :: members)

section Rearranging

variable {names : List String} {left right : List (String × Node)}

theorem Rearranges.atMostOnce_iff (rearranges : Rearranges names left right) :
    AtMostOnce names left ↔ AtMostOnce names right := by
  cases rearranges with
  | permutes permutation =>
      have same (name : String) := (permutation.map Prod.fst).count_eq name
      simp only [AtMostOnce, same]
  | @adds other unknown node =>
      refine forall₂_congr fun name known => ?_
      have different : other ≠ name := fun same => unknown (same ▸ known)
      rw [List.map_cons, List.count_cons_of_ne different]

theorem Gives.of_permutation (gives : Gives left name reads standard value)
    (permutation : left.Perm right) : Gives right name reads standard value := by
  cases gives with
  | missing absent =>
      exact .missing fun inside => absent ((permutation.map Prod.fst).mem_iff.mpr inside)
  | present member read => exact .present (permutation.mem_iff.mp member) read

theorem Gives.of_cons {other : String} {node : Node} (different : other ≠ name)
    (gives : Gives ((other, node) :: members) name reads standard value) :
    Gives members name reads standard value := by
  cases gives with
  | missing absent => exact .missing fun inside => absent (List.mem_cons_of_mem _ inside)
  | present member read =>
      rcases List.mem_cons.mp member with same | behind
      · exact absurd (congrArg Prod.fst same).symm different
      · exact .present behind read

/-- **Rearranged members give the same.** -/
theorem Rearranges.gives_iff (rearranges : Rearranges names left right) (known : name ∈ names) :
    Gives left name reads standard value ↔ Gives right name reads standard value := by
  cases rearranges with
  | permutes permutation =>
      exact ⟨fun gives => gives.of_permutation permutation,
        fun gives => gives.of_permutation permutation.symm⟩
  | @adds other unknown node =>
      have different : other ≠ name := fun same => unknown (same ▸ known)
      exact ⟨.cons_of_ne different, .of_cons different⟩

/-- A member may be exchanged for one that is read alike. -/
theorem Gives.exchange {other : String} {first second : Node}
    (alike : other = name → ∀ value, reads first value → reads second value)
    (gives : Gives ((other, first) :: members) name reads standard value) :
    Gives ((other, second) :: members) name reads standard value := by
  cases gives with
  | missing absent => exact .missing absent
  | present member read =>
      rcases List.mem_cons.mp member with same | behind
      · cases same
        exact .present List.mem_cons_self (alike rfl _ read)
      · exact .present (List.mem_cons_of_mem _ behind) read

end Rearranging

end Members

/-! ## Setting fields -/

section Fields

variable {ρ : Type} {fields : List (RecordField ρ)} {members : List (String × Node)}
  {record result : ρ} {seen : List String}

theorem set_of_eq_ok {α : Type} {name : String} {read : Node → Except Fault α} {put : ρ → α → ρ}
    {node : Node} :
    (RecordField.of name read put).set record node = .ok result ↔
      ∃ value, read node = .ok value ∧ put record value = result := by
  constructor
  · intro done
    obtain ⟨value, found, set⟩ := bind_eq_ok.mp done
    exact ⟨value, found, Except.ok.inj set⟩
  · rintro ⟨value, found, rfl⟩
    simp only [RecordField.of, found]
    rfl

/-- The field that is found for a name. -/
theorem mem_of_find? {name : String} {field : RecordField ρ}
    (found : fields.find? (·.name = name) = some field) : field ∈ fields ∧ field.name = name :=
  ⟨List.mem_of_find?_eq_some found, by simpa using List.find?_some found⟩

/-- A member of no field is passed over. -/
theorem setMembers_of_unknown {name : String} {node : Node}
    (unknown : fields.find? (·.name = name) = none) (sound : node.skip = .ok ()) :
    setMembers fields seen record (.of ((name, node) :: members)) =
      setMembers fields seen record (.of members) := by
  simp only [Members.of, setMembers, unknown, sound, bind, Except.bind]

/-- A member of a field that was not set before sets it. -/
theorem setMembers_of_known {name : String} {node : Node} {field : RecordField ρ} {next : ρ}
    (known : fields.find? (·.name = name) = some field) (fresh : name ∉ seen)
    (set : field.set record node = .ok next) :
    setMembers fields seen record (.of ((name, node) :: members)) =
      setMembers fields (name :: seen) next (.of members) := by
  simp only [Members.of, setMembers, known, if_neg fresh, set, bind, Except.bind]

/-! ## Records that members override -/

/-- A part of a record: the name of its member, what the member is read as, and where the record
has it. -/
structure RecordPart (ρ : Type) where
  {Value : Type}
  name : String
  reads : Node → Value → Prop
  get : ρ → Value

/-- The names of some parts. -/
def names (parts : List (RecordPart ρ)) : List String := parts.map RecordPart.name

/-- **A record that members override:** no part has two members, and each part is what its member
gives. -/
structure Overridden (parts : List (RecordPart ρ)) (standard : ρ) (members : List (String × Node))
    (record : ρ) : Prop where
  once : AtMostOnce (names parts) members
  gives : ∀ part ∈ parts,
    Gives members part.name part.reads (part.get standard) (part.get record)

/-- **Members of their types:** no part has two members, and what is given for a part can be read
as one. -/
structure Typed (parts : List (RecordPart ρ)) (members : List (String × Node)) : Prop where
  once : AtMostOnce (names parts) members
  reads : ∀ part ∈ parts, ∀ node, (part.name, node) ∈ members → ∃ value, part.reads node value

/-- Members that override a record are of their types. -/
theorem Overridden.typed {parts : List (RecordPart ρ)} {standard : ρ}
    (overridden : Overridden parts standard members record) : Typed parts members where
  once := overridden.once
  reads part inside _ member :=
    ⟨_, (overridden.gives part inside).read overridden.once (List.mem_map_of_mem inside) member⟩

/-- A field sets a part to what is read. -/
def RecordPart.SetBy (part : RecordPart ρ) (field : RecordField ρ) : Prop :=
  ∀ record node value, part.reads node value → node.skip = .ok () →
    ∃ next, field.set record node = .ok next ∧ part.get next = value

/-- A field leaves a part alone. -/
def RecordPart.LeftBy (part : RecordPart ρ) (field : RecordField ρ) : Prop :=
  ∀ record node next, field.set record node = .ok next → part.get next = part.get record

/-- **Parts that fields set:** each field sets the part of its name and no other one, and the parts
make up the record. -/
structure Describes (parts : List (RecordPart ρ)) (fields : List (RecordField ρ)) : Prop where
  named : names parts = fields.map RecordField.name
  sets : ∀ part ∈ parts, ∀ field ∈ fields, field.name = part.name → part.SetBy field
  leaves : ∀ part ∈ parts, ∀ field ∈ fields, field.name ≠ part.name → part.LeftBy field
  ext : ∀ left right : ρ, (∀ part ∈ parts, part.get left = part.get right) → left = right

section Described

variable {parts : List (RecordPart ρ)} {standard : ρ}

theorem Describes.known {field : RecordField ρ} (describes : Describes parts fields)
    (inside : field ∈ fields) : field.name ∈ names parts :=
  describes.named ▸ List.mem_map_of_mem inside

/-- A name that no field has is the name of no part. -/
theorem Describes.ne_of_unknown {name : String} {part : RecordPart ρ}
    (describes : Describes parts fields) (unknown : fields.find? (·.name = name) = none)
    (inside : part ∈ parts) : name ≠ part.name := by
  rintro rfl
  have known : part.name ∈ fields.map RecordField.name :=
    describes.named ▸ List.mem_map_of_mem inside
  obtain ⟨field, fieldInside, same⟩ := List.mem_map.mp known
  exact List.find?_eq_none.mp unknown field fieldInside (decide_eq_true same)

/-- **The member of a field** sets the part of its name to what is read and leaves the others
alone. -/
theorem Describes.exists_set {field : RecordField ρ} {node : Node}
    (describes : Describes parts fields) (inside : field ∈ fields) (sound : node.skip = .ok ())
    (typed : ∀ part ∈ parts, part.name = field.name → ∃ value, part.reads node value)
    (record : ρ) :
    ∃ next, field.set record node = .ok next ∧ ∀ part ∈ parts,
      (part.name = field.name → ∀ value, part.reads node value → part.get next = value) ∧
      (part.name ≠ field.name → part.get next = part.get record) := by
  obtain ⟨own, ownInside, named⟩ := List.mem_map.mp (describes.known inside)
  obtain ⟨value, read⟩ := typed own ownInside named
  obtain ⟨next, set, -⟩ :=
    describes.sets own ownInside field inside named.symm record node value read sound
  refine ⟨next, set, fun part partInside => ⟨fun same value read => ?_, fun different => ?_⟩⟩
  · obtain ⟨again, setAgain, got⟩ :=
      describes.sets part partInside field inside same.symm record node value read sound
    exact Except.ok.inj (set.symm.trans setAgain) ▸ got
  · exact describes.leaves part partInside field inside different.symm record node next set

/-- **Members are set to what they give,** whatever was set before them. -/
theorem Describes.setMembers (describes : Describes parts fields)
    (once : AtMostOnce (names parts) members)
    (gives : ∀ part ∈ parts,
      Gives members part.name part.reads (part.get record) (part.get result))
    (sound : ∀ member ∈ members, member.2.skip = .ok ())
    (fresh : ∀ name ∈ seen, name ∉ members.map Prod.fst) :
    Json.setMembers fields seen record (.of members) = .ok result := by
  induction members generalizing seen record with
  | nil =>
      have same : record = result := describes.ext record result fun part inside =>
        (gives part inside).eq_standard List.not_mem_nil
      exact congrArg Except.ok same
  | cons member members ih =>
      obtain ⟨name, node⟩ := member
      obtain ⟨first, others⟩ := List.forall_mem_cons.mp sound
      have freshBehind : ∀ name ∈ seen, name ∉ members.map Prod.fst :=
        fun other old behind => fresh other old (List.mem_cons_of_mem _ behind)
      cases found : fields.find? (·.name = name) with
      | none =>
          rw [setMembers_of_unknown found first]
          exact ih once.tail (fun part inside =>
            (gives part inside).of_cons (describes.ne_of_unknown found inside)) others freshBehind
      | some field =>
          obtain ⟨inside, rfl⟩ := mem_of_find? found
          have read : ∀ part ∈ parts, part.name = field.name →
              part.reads node (part.get result) := fun part partInside same =>
            (gives part partInside).read once (List.mem_map_of_mem partInside)
              (same ▸ List.mem_cons_self)
          obtain ⟨next, set, got⟩ := describes.exists_set inside first
            (fun part partInside same => ⟨_, read part partInside same⟩) record
          -- Behind its member a name is missing, so what was set stays.
          have behind := once.not_mem (describes.known inside)
          rw [setMembers_of_known found (fun old => fresh _ old List.mem_cons_self) set]
          refine ih once.tail (fun part partInside => ?_) others
            (List.forall_mem_cons.mpr ⟨behind, freshBehind⟩)
          by_cases same : part.name = field.name
          · rw [(got part partInside).1 same _ (read part partInside same)]
            exact .missing (same ▸ behind)
          · rw [(got part partInside).2 same]
            exact (gives part partInside).of_cons (Ne.symm same)

/-- **An object is read as the record that its members override.** -/
theorem Describes.toRecord (describes : Describes parts fields) (expected : String)
    (overridden : Overridden parts standard members record)
    (sound : ∀ member ∈ members, member.2.skip = .ok ()) :
    (Node.object (.of members)).toRecord fields expected standard = .ok record :=
  describes.setMembers overridden.once overridden.gives sound fun _ old => (by cases old)

/-- **Members of their types override a record.** -/
theorem Describes.exists_overridden (describes : Describes parts fields)
    (typed : Typed parts members) (sound : ∀ member ∈ members, member.2.skip = .ok ()) :
    ∃ record, Overridden parts standard members record := by
  -- Built from the last member: one that stands before others is not theirs, so it can be set last.
  obtain ⟨once, typed⟩ := typed
  induction members with
  | nil => exact ⟨standard, once, fun part _ => .missing List.not_mem_nil⟩
  | cons member members ih =>
      obtain ⟨name, node⟩ := member
      obtain ⟨first, others⟩ := List.forall_mem_cons.mp sound
      obtain ⟨record, -, gives⟩ := ih others once.tail fun part inside node behind =>
        typed part inside node (List.mem_cons_of_mem _ behind)
      cases found : fields.find? (·.name = name) with
      | none =>
          exact ⟨record, once, fun part inside =>
            (gives part inside).cons_of_ne (describes.ne_of_unknown found inside)⟩
      | some field =>
          obtain ⟨inside, rfl⟩ := mem_of_find? found
          have read : ∀ part ∈ parts, part.name = field.name → ∃ value, part.reads node value :=
            fun part partInside same => typed part partInside node (same ▸ List.mem_cons_self)
          obtain ⟨next, -, got⟩ := describes.exists_set inside first read record
          refine ⟨next, once, fun part partInside => ?_⟩
          by_cases same : part.name = field.name
          · obtain ⟨value, read⟩ := read part partInside same
            rw [(got part partInside).1 same value read]
            exact .present (same ▸ List.mem_cons_self) read
          · rw [(got part partInside).2 same]
            exact (gives part partInside).cons_of_ne (Ne.symm same)

end Described

/-! ## Objects inside of objects -/

/-- A record that the members of an object override. -/
inductive OfObject (parts : List (RecordPart ρ)) (standard : ρ) : Node → ρ → Prop
  | intro {members : List (String × Node)} {record : ρ}
      (overridden : Overridden parts standard members record) :
      OfObject parts standard (.object (.of members)) record

/-- **An object inside of another one** is read as what its members override. -/
theorem Describes.toRecord_of_ofObject {parts : List (RecordPart ρ)} {standard : ρ} {node : Node}
    (describes : Describes parts fields) (expected : String)
    (given : OfObject parts standard node record) (sound : node.skip = .ok ()) :
    node.toRecord fields expected standard = .ok record := by
  cases given with
  | intro overridden =>
      exact describes.toRecord expected overridden (Members.skip_of_eq_ok.mp sound)

section Rearranging

variable {parts : List (RecordPart ρ)} {standard : ρ} {left right : List (String × Node)}

/-- **Rearranged members override the same.** -/
theorem Rearranges.overridden_iff (rearranges : Rearranges (names parts) left right) :
    Overridden parts standard left record ↔ Overridden parts standard right record := by
  have gives_iff : ∀ part ∈ parts,
      (Gives left part.name part.reads (part.get standard) (part.get record) ↔
        Gives right part.name part.reads (part.get standard) (part.get record)) :=
    fun part inside => rearranges.gives_iff (List.mem_map_of_mem inside)
  exact ⟨fun ⟨once, gives⟩ => ⟨rearranges.atMostOnce_iff.mp once, fun part inside =>
      (gives_iff part inside).mp (gives part inside)⟩,
    fun ⟨once, gives⟩ => ⟨rearranges.atMostOnce_iff.mpr once, fun part inside =>
      (gives_iff part inside).mpr (gives part inside)⟩⟩

/-- A member may be exchanged for one that is read alike. -/
theorem overridden_cons_iff {name : String} {first second : Node}
    (alike : ∀ part ∈ parts, name = part.name →
      ∀ value, part.reads first value ↔ part.reads second value) :
    Overridden parts standard ((name, first) :: members) record ↔
      Overridden parts standard ((name, second) :: members) record :=
  ⟨fun ⟨once, gives⟩ => ⟨once, fun part inside =>
      (gives part inside).exchange fun same value => (alike part inside same value).mp⟩,
    fun ⟨once, gives⟩ => ⟨once, fun part inside =>
      (gives part inside).exchange fun same value => (alike part inside same value).mpr⟩⟩

theorem Members.of_injective {left right : List (String × Node)}
    (same : Members.of left = Members.of right) : left = right := by
  induction left generalizing right with
  | nil =>
      cases right with
      | nil => rfl
      | cons => cases same
  | cons member members ih =>
      cases right with
      | nil => cases same
      | cons other others =>
          obtain ⟨named, worth, behind⟩ := Members.member.inj same
          exact congrArg₂ List.cons (Prod.ext (Except.ok.inj named) worth) (ih behind)

/-- Objects override what their members do. -/
theorem ofObject_iff :
    OfObject parts standard (.object (.of members)) record ↔
      Overridden parts standard members record := by
  refine ⟨fun given => ?_, .intro⟩
  generalize same : Node.object (.of members) = node at given
  cases given with
  | intro overridden => exact Members.of_injective (Node.object.inj same) ▸ overridden

end Rearranging

/-! ## Single fields -/

section Single

variable {α β : Type} {name : String} {read : Node → Except Fault β} {put : ρ → β → ρ}

/-- A field sets its part to what it puts there. -/
theorem setBy_of {reads : Node → β → Prop} {get : ρ → β}
    (gets : ∀ record value, get (put record value) = value)
    (found : ∀ node value, reads node value → node.skip = .ok () → read node = .ok value) :
    (⟨name, reads, get⟩ : RecordPart ρ).SetBy (.of name read put) :=
  fun record node value reads sound =>
    ⟨put record value, set_of_eq_ok.mpr ⟨value, found node value reads sound, rfl⟩,
      gets record value⟩

theorem setBy_of_iff {reads : Node → β → Prop} {get : ρ → β}
    (gets : ∀ record value, get (put record value) = value)
    (found : ∀ node value, read node = .ok value ↔ reads node value) :
    (⟨name, reads, get⟩ : RecordPart ρ).SetBy (.of name read put) :=
  setBy_of gets fun node value given _ => (found node value).mpr given

theorem setBy_ofObject {known : List (RecordPart β)} {set : List (RecordField β)} {standard : β}
    {get : ρ → β} (describes : Describes known set) (expected : String)
    (reads : ∀ node, read node = node.toRecord set expected standard)
    (gets : ∀ record value, get (put record value) = value) :
    (⟨name, OfObject known standard, get⟩ : RecordPart ρ).SetBy (.of name read put) :=
  setBy_of gets fun node _ given sound =>
    (reads node).trans (describes.toRecord_of_ofObject expected given sound)

/-- A field leaves the parts alone that it puts nothing to. -/
theorem leftBy_of {other : String} {reads : Node → α → Prop} {get : ρ → α}
    (alone : ∀ record value, get (put record value) = get record) :
    (⟨other, reads, get⟩ : RecordPart ρ).LeftBy (.of name read put) := by
  intro record node next set
  obtain ⟨value, -, rfl⟩ := set_of_eq_ok.mp set
  exact alone record value

end Single

/-! ## What fields keep -/

/-- A property that a field keeps as long as numbers fit. -/
def RecordField.Keeps (field : RecordField ρ) (property : ρ → Prop) : Prop :=
  ∀ record node next, node.Fits → property record → field.set record node = .ok next →
    property next

/-- A property that fields keep as long as numbers fit. -/
def FieldsKeep (fields : List (RecordField ρ)) (property : ρ → Prop) : Prop :=
  ∀ field ∈ fields, field.Keeps property

variable {property : ρ → Prop}

theorem keeps_of {α : Type} {name : String} {read : Node → Except Fault α} {put : ρ → α → ρ}
    (stays : ∀ record node value, node.Fits → read node = .ok value → property record →
      property (put record value)) : (RecordField.of name read put).Keeps property := by
  intro record node next fits holds set
  obtain ⟨value, found, rfl⟩ := set_of_eq_ok.mp set
  exact stays record node value fits found holds

theorem FieldsKeep.setMembers (keeps : FieldsKeep fields property) :
    ∀ {members : Members} {seen : List String} {record : ρ}, members.Fits → property record →
      Json.setMembers fields seen record members = .ok result → property result
  | .close, _, _, _, holds, done => by
      cases done
      exact holds
  | .broken .., _, _, _, _, done => by cases done
  | .keyOnly key fault, seen, record, _, _, done => by
      obtain ⟨name, -, done⟩ := bind_eq_ok.mp done
      split at done <;> cases done
  | .member key node rest, seen, record, fits, holds, done => by
      obtain ⟨name, -, done⟩ := bind_eq_ok.mp done
      split at done
      case h_1 unknown =>
        obtain ⟨-, -, done⟩ := bind_eq_ok.mp done
        exact keeps.setMembers fits.2 holds done
      case h_2 field found =>
        split at done
        · cases done
        · obtain ⟨next, set, done⟩ := bind_eq_ok.mp done
          have kept := keeps field (mem_of_find? found).1 record node next fits.1 holds set
          exact keeps.setMembers fits.2 kept done

theorem FieldsKeep.setItems (keeps : FieldsKeep fields property) {items : Items}
    (fits : items.Fits) (holds : property record)
    (done : Json.setItems record fields items = .ok result) : property result := by
  induction fields generalizing items record with
  | nil =>
      obtain ⟨-, -, done⟩ := bind_eq_ok.mp done
      cases done
      exact holds
  | cons field fields ih =>
      obtain ⟨first, others⟩ := List.forall_mem_cons.mp keeps
      cases items with
      | close =>
          cases done
          exact holds
      | broken => cases done
      | item node rest =>
          obtain ⟨next, set, done⟩ := bind_eq_ok.mp done
          exact ih others fits.2 (first record node next fits.1 holds set) done

/-- **A record has what its fields keep** and its values at the start have. -/
theorem FieldsKeep.toRecord (keeps : FieldsKeep fields property) {node : Node} {expected : String}
    (fits : node.Fits) (holds : property record)
    (done : node.toRecord fields expected record = .ok result) : property result := by
  cases node with
  | object members => exact keeps.setMembers fits holds done
  | list items => exact keeps.setItems fits holds done
  | null | boolean | number | text | broken => exact absurd done (Node.mismatch_ne_ok _ _ _)

end Fields

end ChatTune.Json
