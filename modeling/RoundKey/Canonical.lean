import RoundKey.Bytes
import RoundKey.Text.Utf8

/-!
# Canonical bytes

What a signature covers: the name of a structure and its fields in order, each text and byte
string behind its length in eight bytes, each number in four bytes. The name separates
structures and the lengths separate fields, so the bytes determine what they were made from.
-/
namespace RoundKey

/-- A field as it enters the canonical bytes. -/
inductive CanonicalField where
  /-- A number of 32 bits. -/
  | word (value : UInt32)
  /-- A byte string. -/
  | bytes (value : List UInt8)
deriving DecidableEq

namespace CanonicalField

/-- `CanonicalWriter::str` — a text, as its bytes. -/
def text (value : String) : CanonicalField := bytes (Text.utf8 value)

/-- `CanonicalWriter::u32`, `CanonicalWriter::bytes` — the bytes of a field. -/
def encode : CanonicalField → List UInt8
  | word value => bigEndian 4 value.toNat
  | bytes value => bigEndian 8 value.length ++ value

end CanonicalField

/-- `CanonicalWriter::new`, `CanonicalWriter::into_bytes` — the canonical bytes of a structure of
this name with these fields. -/
def canonicalBytes (context : String) (fields : List CanonicalField) : List UInt8 :=
  (CanonicalField.text context).encode ++ fields.flatMap CanonicalField.encode

end RoundKey
