import RoundKey.Data.Scalar
import RoundKey.Toml.Document

/-!
# Records in TOML

A record is read from a table, in the order of its members, or from a list, in the order of the
fields. Members of other names and further items do not matter. It is written as one pair for
each field.
-/
namespace RoundKey.Toml

open RoundKey.Data

/-- Why a document was not read. -/
inductive Fault where
  /-- The text is no document. -/
  | malformed
  /-- A value does not fit the type it is read as. -/
  | mismatch (mismatch : Mismatch)
deriving DecidableEq, Repr

/-- How numbers are written in diagnostics: always without a power of ten. -/
def numberStyle : PowerStyle := .never

/-- The value of a field without parts. -/
def readScalar (kind : Scalar) (node : Node) : Except Mismatch kind.Value :=
  Scalar.ofFound kind node.found

section

variable {Kind : Type} {Value : Kind → Type}
  (read : (kind : Kind) → Node → Except Mismatch (Value kind))

/-- The slots of a record filled from the members of a table. -/
def fillSlots (fields : List (Field Value)) :
    Slots fields → Members → Except Mismatch (Slots fields)
  | slots, [] => .ok slots
  | slots, (name, node) :: members =>
    let read (kind : Kind) : Except Mismatch (Value kind × Unit) :=
      (read kind node).map fun value => (value, ())
    match Slots.place .duplicate read (.ok ()) name fields slots with
    | .error mismatch => .error mismatch
    | .ok (slots, ()) => fillSlots fields slots members

/-- The values of a record from the members of a table. -/
def ofMembers (fields : List (Field Value)) (members : Members) :
    Except Mismatch (Values fields) :=
  match fillSlots read fields (Slots.empty fields) members with
  | .error mismatch => .error mismatch
  | .ok slots => slots.finish

/-- The values of a record from the items of a list, with so many fields before. -/
def ofItems (record : String) (size : Nat) :
    (fields : List (Field Value)) → (before : Nat) → List Node → Except Mismatch (Values fields)
  | [], _, _ => .ok ()
  | field :: fields, before, items =>
    let value : Except Mismatch (Value field.kind) :=
      match items, field.absent with
      | item :: _, _ => read field.kind item
      | [], some value => .ok value
      | [], none => .error (.length before record size)
    match value with
    | .error mismatch => .error mismatch
    | .ok value =>
      match ofItems record size fields (before + 1) items.tail with
      | .error mismatch => .error mismatch
      | .ok values => .ok (value, values)

/-- The values of a record from a node. A date or a time is a table without members that
matter. -/
def readRecord (schema : Schema Value) (node : Node) : Except Mismatch (Values schema.fields) :=
  match node with
  | .table _ members => ofMembers read schema.fields members
  | .inline members => ofMembers read schema.fields members
  | .moment => ofMembers read schema.fields []
  | .list items => ofItems read schema.name schema.fields.length schema.fields 0 items
  | .tables elements =>
    ofItems read schema.name schema.fields.length schema.fields 0
      (elements.map (.table .header))
  | node => .error (.type node.found (.record schema.name))

end

/-- `toml::from_str` — the value that a document holds, read from its table. -/
def ofText {α : Type} (read : Node → Except Mismatch α) (text : String) : Except Fault α :=
  match readDocument text with
  | none => .error .malformed
  | some members =>
    match read (.table .header members) with
    | .error mismatch => .error (.mismatch mismatch)
    | .ok value => .ok value

/-- The form of a field without parts. -/
def writeScalar : (kind : Scalar) → kind.Value → List Char
  | .text, value => writeText value.toList
  | .word, value => (toString value).toList
  | .binary encoding content, value =>
    writeText ((content.encode encoding value).map fun byte => Char.ofNat byte.toNat)
  | .code, value => writeText value.name.toList

/-- The pair of a name and the form of its value, on a line. -/
def writePair (name : String) (form : List Char) : List Char :=
  name.toList ++ [' ', '=', ' '] ++ form ++ ['\n']

/-- The pairs of a record, in order. -/
def writePairs : (fields : List (Field Scalar.Value)) → Values fields → List Char
  | [], () => []
  | field :: fields, (value, values) =>
    writePair field.name (writeScalar field.kind value) ++ writePairs fields values

/-- The header of a table. -/
def writeHeader (name : String) : List Char := '[' :: name.toList ++ [']', '\n']

/-- `toml::to_string` — a record whose names need no quotes. -/
def writeRecord (fields : List (Field Scalar.Value)) (values : Values fields) : String :=
  String.ofList (writePairs fields values)

end RoundKey.Toml
