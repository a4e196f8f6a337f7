import RoundKey.Data.Mismatch

/-!
# Faults of documents in JSON

A document ends too early, is malformed, or is well-formed up to a value that does not fit. A
reader takes a value from the front of the bytes and returns the bytes after it; the first fault
in document order is the one reported.
-/
namespace RoundKey.Json

open RoundKey.Data

/-- Why a document was not read. -/
inductive Fault where
  /-- The document ends inside a value. -/
  | truncated
  /-- The document is no JSON. -/
  | malformed
  /-- A value does not fit the type it is read as. -/
  | mismatch (mismatch : Mismatch)
deriving DecidableEq, Repr

/-- The result of reading from the front of some bytes. -/
abbrev Read (α : Type) := Except Fault (α × List UInt8)

/-- How numbers are written in diagnostics: without a power of ten from `0.00001` up to sixteen
digits. -/
def numberStyle : PowerStyle := .outside (-5) 15

/-- A mismatch met while reading. -/
def reject {α : Type} (mismatch : Mismatch) : Except Fault α := .error (.mismatch mismatch)

/-- Whether a byte may stand between tokens. -/
def isBlank (byte : UInt8) : Bool :=
  byte == 0x20 || byte == 0x0A || byte == 0x0D || byte == 0x09

/-- The bytes from the first that is not blank. -/
def skipBlank : List UInt8 → List UInt8
  | [] => []
  | byte :: rest => if isBlank byte then skipBlank rest else byte :: rest

/-- The bytes after the rest of a fixed word. -/
def readWord : (word : List UInt8) → List UInt8 → Except Fault (List UInt8)
  | [], bytes => .ok bytes
  | _ :: _, [] => .error .truncated
  | expected :: word, byte :: rest =>
    if byte = expected then readWord word rest else .error .malformed

/-- The bytes after a colon. -/
def readColon (bytes : List UInt8) : Except Fault (List UInt8) :=
  match skipBlank bytes with
  | [] => .error .truncated
  | byte :: rest => if byte = 0x3A then .ok rest else .error .malformed

/-- `serde_json::from_slice` — the value of a reader that has to reach the end of the document. -/
def whole {α : Type} (read : List UInt8 → Read α) (bytes : List UInt8) : Except Fault α :=
  match read bytes with
  | .error fault => .error fault
  | .ok (value, rest) => if skipBlank rest = [] then .ok value else .error .malformed

end RoundKey.Json
