import RoundKey.Data.Mismatch

/-!
# Records described by their fields

A schema lists the fields of a record in order, each with a kind of values. Reading a record
fills one slot for each field, in whatever order the document gives them; a field that stays
empty takes its default or is missing. The source of the values is left open, so every document
format reads records in the same way.
-/
namespace RoundKey.Data

/-- A field of a record, over the value types of its kinds. -/
structure Field {Kind : Type} (Value : Kind → Type) where
  /-- The name of the field. -/
  name : String
  /-- The kind of its values. -/
  kind : Kind
  /-- The value of a field that is left out, if it may be. -/
  absent : Option (Value kind) := none

/-- The name and the fields of a record. -/
structure Schema {Kind : Type} (Value : Kind → Type) where
  /-- The name of the record. -/
  name : String
  /-- Its fields, in order. -/
  fields : List (Field Value)

variable {Kind : Type} {Value : Kind → Type}

/-- One value for each field. -/
abbrev Values : List (Field Value) → Type
  | [] => Unit
  | field :: rest => Value field.kind × Values rest

/-- For each field, its value if it has been read. -/
abbrev Slots : List (Field Value) → Type
  | [] => Unit
  | field :: rest => Option (Value field.kind) × Slots rest

namespace Slots

/-- No field has been read. -/
def empty : (fields : List (Field Value)) → Slots fields
  | [] => ()
  | _ :: rest => (none, empty rest)

/-- Read the value of the field of a name into its slot, or skip it if no field has the name. A
slot is filled once. -/
def place {Failure Rest : Type} (duplicate : String → Failure)
    (read : (kind : Kind) → Except Failure (Value kind × Rest)) (skip : Except Failure Rest)
    (name : String) :
    (fields : List (Field Value)) → Slots fields → Except Failure (Slots fields × Rest)
  | [], () =>
    match skip with
    | .ok rest => .ok ((), rest)
    | .error failure => .error failure
  | field :: fields, (slot, slots) =>
    if field.name = name then
      match slot with
      | some _ => .error (duplicate name)
      | none =>
        match read field.kind with
        | .ok (value, rest) => .ok ((some value, slots), rest)
        | .error failure => .error failure
    else
      match place duplicate read skip name fields slots with
      | .ok (slots, rest) => .ok ((slot, slots), rest)
      | .error failure => .error failure

/-- The values of all fields, in order, with defaults for empty slots. -/
def finish : (fields : List (Field Value)) → Slots fields → Except Mismatch (Values fields)
  | [], () => .ok ()
  | field :: fields, (slot, slots) =>
    match slot <|> field.absent with
    | none => .error (.missing field.name)
    | some value =>
      match finish fields slots with
      | .ok values => .ok (value, values)
      | .error mismatch => .error mismatch

end Slots

end RoundKey.Data
