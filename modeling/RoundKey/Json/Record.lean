import RoundKey.Data.Scalar
import RoundKey.Json.Scan

/-!
# Records in JSON

A record is written as a map of its fields in order. It is read in one of two ways. A plain
record fills its fields as they come, from a map or from a list, and skims members of other
names. A signed record takes its signature out, reads every other member in full, and only then
fills the fields of its body. Either way the order of members and members of other names do not
matter.
-/
namespace RoundKey.Json

open RoundKey.Data

/-- The type of the record that carries a signature. -/
def signedName : String := "Signed"

/-- The name of the member that carries the signature. -/
def signatureName : String := "Signature"

/-- How deep lists and maps may be nested in a signed record. -/
def depthLimit : Nat := 126

/-- Refuse a value by what it is. -/
def refuse {α : Type} (wanted : Wanted) (byte : UInt8) (rest : List UInt8) : Except Fault α :=
  match peekFound byte rest with
  | .error fault => .error fault
  | .ok found => reject (.type found wanted)

/-- A text. -/
def readString (wanted : Wanted) (bytes : List UInt8) : Read String :=
  match skipBlank bytes with
  | [] => .error .truncated
  | byte :: rest => if byte = 0x22 then readText rest else refuse wanted byte rest

/-- A number of 32 bits. -/
def readUInt32 (bytes : List UInt8) : Read UInt32 :=
  match skipBlank bytes with
  | [] => .error .truncated
  | byte :: rest =>
    if byte = 0x2D ∨ isDigit byte then
      match readNumber (byte :: rest) with
      | .error fault => .error fault
      | .ok (found, rest) =>
        match Scalar.ofFound .word found with
        | .error mismatch => reject mismatch
        | .ok word => .ok (word, rest)
    else refuse .word byte rest

/-- The null value. -/
def readNull (bytes : List UInt8) : Except Fault (List UInt8) :=
  match skipBlank bytes with
  | [] => .error .truncated
  | byte :: rest =>
    if byte = 0x6E then readWord [0x75, 0x6C, 0x6C] rest else refuse .unit byte rest

/-- A failure class: its name, or a map from its name to null. -/
def readCode (bytes : List UInt8) : Read ErrorCode :=
  match skipBlank bytes with
  | [] => .error .truncated
  | byte :: rest =>
    if byte = 0x22 then (readText rest).map fun read => (ErrorCode.ofName read.1, read.2)
    else if byte = 0x7B then
      match readString .caseName rest with
      | .error fault => .error fault
      | .ok (name, rest) =>
        match readColon rest with
        | .error fault => .error fault
        | .ok rest =>
          match readNull rest with
          | .error fault => .error fault
          | .ok rest =>
            match skipBlank rest with
            | [] => .error .truncated
            | byte :: rest =>
              if byte = 0x7D then .ok (ErrorCode.ofName name, rest) else .error .malformed
    else .error .malformed

/-- A value of a kind. -/
def readScalar : (kind : Scalar) → List UInt8 → Read kind.Value
  | .text, bytes => readString .text bytes
  | .word, bytes => readUInt32 bytes
  | .binary encoding content, bytes =>
    match readString .text bytes with
    | .error fault => .error fault
    | .ok (text, rest) =>
      match content.decode encoding (Text.utf8 text) with
      | .error mismatch => reject mismatch
      | .ok value => .ok (value, rest)
  | .code, bytes => readCode bytes

/-- What stands before a member of a map. -/
inductive Member where
  /-- The map ends here. -/
  | close (rest : List UInt8)
  /-- A member has this name, with its colon and its value to come. -/
  | named (name : String) (rest : List UInt8)

/-- The name of the first or a later member of a map, or its end. -/
def readMember (first : Bool) (bytes : List UInt8) : Except Fault Member :=
  match skipBlank bytes with
  | [] => .error .truncated
  | byte :: rest =>
    if byte = 0x7D then .ok (.close rest)
    else
      let start : Except Fault (List UInt8) :=
        if first then .ok (byte :: rest)
        else if byte = 0x2C then .ok (skipBlank rest)
        else .error .malformed
      match start with
      | .error fault => .error fault
      | .ok [] => .error .truncated
      | .ok (byte :: rest) =>
        if byte = 0x22 then (readText rest).map fun read => .named read.1 read.2
        else .error .malformed

/-- What stands before an item of a list. -/
inductive Item where
  /-- The list ends here, before its closing bracket. -/
  | close
  /-- An item follows. -/
  | value (rest : List UInt8)

/-- The first or a later item of a list, or its end. -/
def readItem (first : Bool) (bytes : List UInt8) : Except Fault Item :=
  match skipBlank bytes with
  | [] => .error .truncated
  | byte :: rest =>
    if byte = 0x5D then .ok .close
    else if first then .ok (.value (byte :: rest))
    else if byte = 0x2C then
      match skipBlank rest with
      | [] => .error .truncated
      | byte :: rest => if byte = 0x5D then .error .malformed else .ok (.value (byte :: rest))
    else .error .malformed

/-- The bytes after the closing bracket of a list that has no more items. -/
def closeList (bytes : List UInt8) : Except Fault (List UInt8) :=
  match skipBlank bytes with
  | [] => .error .truncated
  | byte :: rest => if byte = 0x5D then .ok rest else .error .malformed

/-- The slots of a plain record filled from the members of a map. -/
def fillSlots (fields : List (Field Scalar.Value)) :
    (fuel : Nat) → (first : Bool) → Slots fields → List UInt8 → Read (Slots fields)
  | 0, _, _, _ => .error .truncated
  | fuel + 1, first, slots, bytes =>
    match readMember first bytes with
    | .error fault => .error fault
    | .ok (.close rest) => .ok (slots, rest)
    | .ok (.named name rest) =>
      let read (kind : Scalar) : Read kind.Value :=
        match readColon rest with
        | .error fault => .error fault
        | .ok rest => readScalar kind rest
      let skip : Except Fault (List UInt8) :=
        match readColon rest with
        | .error fault => .error fault
        | .ok rest => skimValue rest
      match Slots.place (fun name => .mismatch (.duplicate name)) read skip name fields slots with
      | .error fault => .error fault
      | .ok (slots, rest) => fillSlots fields fuel false slots rest

/-- The values of a plain record from the items of a list, with so many fields before. -/
def readValues (record : String) (size : Nat) :
    (fields : List (Field Scalar.Value)) → (before : Nat) → List UInt8 → Read (Values fields)
  | [], _, bytes => .ok ((), bytes)
  | field :: fields, before, bytes =>
    match readItem (before == 0) bytes with
    | .error fault => .error fault
    | .ok .close =>
      match field.absent with
      | none => reject (.length before record size)
      | some value =>
        match readValues record size fields (before + 1) bytes with
        | .error fault => .error fault
        | .ok (values, rest) => .ok ((value, values), rest)
    | .ok (.value rest) =>
      match readScalar field.kind rest with
      | .error fault => .error fault
      | .ok (value, rest) =>
        match readValues record size fields (before + 1) rest with
        | .error fault => .error fault
        | .ok (values, rest) => .ok ((value, values), rest)

/-- A plain record. -/
def readRecord (schema : Schema Scalar.Value) (bytes : List UInt8) : Read (Values schema.fields) :=
  match skipBlank bytes with
  | [] => .error .truncated
  | byte :: rest =>
    if byte = 0x7B then
      match fillSlots schema.fields bytes.length true (Slots.empty schema.fields) rest with
      | .error fault => .error fault
      | .ok (slots, rest) =>
        match slots.finish with
        | .error mismatch => reject mismatch
        | .ok values => .ok (values, rest)
    else if byte = 0x5B then
      match readValues schema.name schema.fields.length schema.fields 0 rest with
      | .error fault => .error fault
      | .ok (values, rest) =>
        match closeList rest with
        | .error fault => .error fault
        | .ok rest => .ok (values, rest)
    else refuse (.record schema.name) byte rest

/-- The kind of a signature member. -/
def signatureKind : Scalar := .binary .base64 .signature

/-- The signature and the other members of a signed record, in order. -/
def readMembers :
    (fuel : Nat) → (first : Bool) → Option Ed25519.Signature → List UInt8 →
      Read (Option Ed25519.Signature × List (String × Found))
  | 0, _, _, _ => .error .truncated
  | fuel + 1, first, signature, bytes =>
    match readMember first bytes with
    | .error fault => .error fault
    | .ok (.close rest) => .ok ((signature, []), rest)
    | .ok (.named name rest) =>
      if name = signatureName then
        match signature with
        | some _ => reject (.duplicate name)
        | none =>
          match readColon rest with
          | .error fault => .error fault
          | .ok rest =>
            match readScalar signatureKind rest with
            | .error fault => .error fault
            | .ok (signature, rest) => readMembers fuel false (some signature) rest
      else
        match readColon rest with
        | .error fault => .error fault
        | .ok rest =>
          match readFound depthLimit rest with
          | .error fault => .error fault
          | .ok (found, rest) =>
            match readMembers fuel false signature rest with
            | .error fault => .error fault
            | .ok ((signature, members), rest) =>
              .ok ((signature, (name, found) :: members), rest)

/-- Fill the slots of a body from members that have been read. -/
def placeMembers (fields : List (Field Scalar.Value)) :
    Slots fields → List (String × Found) → Except Mismatch (Slots fields)
  | slots, [] => .ok slots
  | slots, (name, found) :: members =>
    let read (kind : Scalar) : Except Mismatch (kind.Value × Unit) :=
      (Scalar.ofFound kind found).map fun value => (value, ())
    match Slots.place .duplicate read (.ok ()) name fields slots with
    | .error mismatch => .error mismatch
    | .ok (slots, ()) => placeMembers fields slots members

/-- The signature and the body of a signed record from its members. -/
def ofMembers (fields : List (Field Scalar.Value)) (signature : Option Ed25519.Signature)
    (members : List (String × Found)) : Except Mismatch (Values fields × Ed25519.Signature) :=
  match signature with
  | none => .error (.missing signatureName)
  | some signature =>
    match placeMembers fields (Slots.empty fields) members with
    | .error mismatch => .error mismatch
    | .ok slots =>
      match slots.finish with
      | .error mismatch => .error mismatch
      | .ok values => .ok (values, signature)

/-- A signed record: the values of its body and its signature. -/
def readSigned (fields : List (Field Scalar.Value)) (bytes : List UInt8) :
    Read (Values fields × Ed25519.Signature) :=
  match skipBlank bytes with
  | [] => .error .truncated
  | byte :: rest =>
    if byte = 0x7B then
      match readMembers bytes.length true none rest with
      | .error fault => .error fault
      | .ok ((signature, members), rest) =>
        match ofMembers fields signature members with
        | .error mismatch => reject mismatch
        | .ok signed => .ok (signed, rest)
    else refuse (.record signedName) byte rest

/-- The form of a value. -/
def writeScalar : (kind : Scalar) → kind.Value → List UInt8
  | .text, value => writeText value
  | .word, value => writeWord value
  | .binary encoding content, value => writeBytes (content.encode encoding value)
  | .code, value => writeText value.name

/-- The members of a record: names and forms of its values, in order. -/
def memberTexts : (fields : List (Field Scalar.Value)) → Values fields →
    List (String × List UInt8)
  | [], () => []
  | field :: fields, (value, values) =>
    (field.name, writeScalar field.kind value) :: memberTexts fields values

/-- One member. -/
def writeMember (member : String × List UInt8) : List UInt8 :=
  writeText member.1 ++ 0x3A :: member.2

/-- Members with commas between them. -/
def writeMembers : List (String × List UInt8) → List UInt8
  | [] => []
  | [member] => writeMember member
  | member :: members => writeMember member ++ 0x2C :: writeMembers members

/-- A map of members. -/
def writeMap (members : List (String × List UInt8)) : List UInt8 :=
  0x7B :: writeMembers members ++ [0x7D]

/-- `serde_json::to_vec` — a plain record. -/
def writeRecord (fields : List (Field Scalar.Value)) (values : Values fields) : List UInt8 :=
  writeMap (memberTexts fields values)

/-- `serde_json::to_vec` of `Signed` — a signed record: its signature is the last member. -/
def writeSigned (fields : List (Field Scalar.Value)) (values : Values fields)
    (signature : Ed25519.Signature) : List UInt8 :=
  writeMap (memberTexts fields values ++ [(signatureName, writeScalar signatureKind signature)])

end RoundKey.Json
