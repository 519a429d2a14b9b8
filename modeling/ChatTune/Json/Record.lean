import ChatTune.Json.Layout
import ChatTune.Json.Node
import ChatTune.Text.Quoted

/-!
# Records in JSON

A record has named fields, each with a value from the start.  An object sets fields by name,
each at most once, and names of no field are passed over; a list sets them in their order and
may end early.  A value that does not fit its field is a fault, as is a value that is no
record at all.

Faults are met in the order of the text.  A field that is set twice is one as soon as its
name was read for the second time.
-/

set_option autoImplicit false

namespace ChatTune.Json

/-! ## Values that do not fit -/

/-- A number as it is described where it does not fit. -/
def Number.description : Number → String
  | .natural value => "integer \x60" ++ toString value ++ "\x60"
  | .negative value => "integer \x60" ++ toString value ++ "\x60"
  | .floating value => "floating point \x60" ++ doubleLayout.double value ++ "\x60"

/-- What a value that does not fit is, unless it cannot be read at all. -/
def Node.description : Node → Except Fault String
  | .null => .ok "null"
  | .boolean value => .ok ("boolean \x60" ++ (if value then "true" else "false") ++ "\x60")
  | .number value => do return (← value).description
  | .text value => do return "string " ++ String.ofList (Text.quoted (← value).toList)
  | .list _ => .ok "sequence"
  | .object _ => .ok "map"
  | .broken read _ => .error read

/-- The fault of a value where another one was expected. -/
def Node.mismatch {α : Type} (node : Node) (expected : String) : Except Fault α := do
  throw (.mismatch (← node.description) expected)

/-! ## Single values -/

/-- A floating number; whole numbers are taken as well. -/
def Node.toFloat (node : Node) : Except Fault Float :=
  match node with
  | .number (.ok (.natural value)) => .ok (Float.ofNat value)
  | .number (.ok (.negative value)) => .ok (Float.ofInt value)
  | .number (.ok (.floating value)) => .ok value
  | _ => node.mismatch "f64"

/-- A count of 32 bits. -/
def Node.toCount (node : Node) : Except Fault UInt32 :=
  match node with
  | .number (.ok (.natural value)) =>
    if value < UInt32.size then .ok (UInt32.ofNat value) else .error (.outside value "u32")
  | .number (.ok (.negative value)) => .error (.outside value "u32")
  | _ => node.mismatch "u32"

/-- A whole number of 32 bits. -/
def Node.toInt32 (node : Node) : Except Fault Int32 :=
  let fitting := fun value : Int =>
    if Int32.minValue.toInt ≤ value ∧ value ≤ Int32.maxValue.toInt then .ok (Int32.ofInt value)
    else .error (.outside value "i32")
  match node with
  | .number (.ok (.natural value)) => fitting value
  | .number (.ok (.negative value)) => fitting value
  | _ => node.mismatch "i32"

/-- A truth value. -/
def Node.toBool (node : Node) : Except Fault Bool :=
  match node with
  | .boolean value => .ok value
  | _ => node.mismatch "a boolean"

/-- A text. -/
def Node.toText (node : Node) : Except Fault String :=
  match node with
  | .text (.ok value) => .ok value
  | _ => node.mismatch "a string"

/-! ## Records -/

/-- A field of a record: its name, and how a value sets it. -/
structure RecordField (ρ : Type) where
  name : String
  set : ρ → Node → Except Fault ρ

section Records

variable {ρ : Type}

/-- A field that takes a value of some type. -/
def RecordField.of {α : Type} (name : String) (read : Node → Except Fault α) (put : ρ → α → ρ) :
    RecordField ρ :=
  ⟨name, fun record node => do return put record (← read node)⟩

/-- Sets fields by name; `seen` are the names that were set before. -/
def setMembers (fields : List (RecordField ρ)) (seen : List String) (record : ρ) :
    Members → Except Fault ρ
  | .close => .ok record
  | .broken read _ => .error read
  | .keyOnly key fault => do
    let name ← key
    if fields.any (·.name = name) ∧ name ∈ seen then throw (.duplicate name)
    throw fault
  | .member key node rest => do
    let name ← key
    match fields.find? (·.name = name) with
    | none =>
      node.skip
      setMembers fields seen record rest
    | some field =>
      if name ∈ seen then throw (.duplicate name)
      let record ← field.set record node
      setMembers fields (name :: seen) record rest

/-- What has to be true of a list behind the last field: that it ends. -/
def endItems : Items → Except Fault Unit
  | .close => .ok ()
  | .broken .endInList _ => .error .endInList
  | .broken .trailingComma _ => .error .trailingComma
  | _ => .error .trailingCharacters

/-- Sets fields in their order. -/
def setItems (record : ρ) : List (RecordField ρ) → Items → Except Fault ρ
  | [], items => do
    endItems items
    return record
  | _ :: _, .close => .ok record
  | _ :: _, .broken read _ => .error read
  | field :: fields, .item node rest => do setItems (← field.set record node) fields rest

/-- **A record** from its fields, its values at the start and the name under which it is
expected. -/
def Node.toRecord (fields : List (RecordField ρ)) (expected : String) (start : ρ) (node : Node) :
    Except Fault ρ :=
  match node with
  | .object members => setMembers fields [] start members
  | .list items => setItems start fields items
  | _ => node.mismatch expected

/-- A record that makes up a whole text. -/
def Document.toRecord (fields : List (RecordField ρ)) (expected : String) (start : ρ)
    (document : Document) : Except Fault ρ := do
  let record ← document.node.toRecord fields expected start
  if document.trailing then throw .trailingCharacters
  return record

end Records

end ChatTune.Json
