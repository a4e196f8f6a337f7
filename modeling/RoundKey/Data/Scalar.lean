import RoundKey.Data.Content
import RoundKey.Data.Record
import RoundKey.ErrorCode

/-!
# Fields without parts

The kinds of fields that messages have: texts, numbers of 32 bits, encoded bytes and failure
classes, and how each is taken from a value that has been read in full.
-/
namespace RoundKey.Data

/-- A kind of fields without parts. -/
inductive Scalar where
  /-- A text. -/
  | text
  /-- An unsigned number of 32 bits. -/
  | word
  /-- Encoded bytes. -/
  | binary (encoding : Encoding) (content : Content)
  /-- A failure class. -/
  | code
deriving DecidableEq, Repr

namespace Scalar

/-- The values of a kind. -/
abbrev Value : Scalar → Type
  | text => String
  | word => UInt32
  | binary _ content => content.Value
  | code => ErrorCode

/-- The number of 32 bits that a whole number is. -/
def toWord (value : Int) : Except Mismatch UInt32 :=
  if 0 ≤ value ∧ value < UInt32.size then .ok (UInt32.ofNat value.toNat)
  else .error (.value (.integer value) .word)

/-- The value of a kind that a found value is. -/
def ofFound : (kind : Scalar) → Found → Except Mismatch kind.Value
  | text, found =>
    match found with
    | .text value => .ok value
    | _ => .error (.type found .text)
  | word, found =>
    match found with
    | .integer value => toWord value
    | _ => .error (.type found .word)
  | binary encoding content, found =>
    match found with
    | .text value => content.decode encoding (Text.utf8 value)
    | _ => .error (.type found .text)
  | code, found =>
    match found with
    | .text value => .ok (ErrorCode.ofName value)
    | _ => .error (.type found .text)

end Scalar

end RoundKey.Data
