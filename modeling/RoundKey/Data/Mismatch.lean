import RoundKey.Number.Binary64
import RoundKey.Text.Fault
import RoundKey.Text.Quoted

/-!
# Documents that do not fit a type

A well-formed document may still not be a value of the type it is read as. A mismatch says what
was found and what was wanted; its text is the reason in a diagnostic.
-/
namespace RoundKey.Data

/-- A value found in a document. -/
inductive Found where
  /-- The null value. -/
  | null
  /-- A truth value. -/
  | boolean (value : Bool)
  /-- A whole number. -/
  | integer (value : Int)
  /-- Any other number. -/
  | float (value : Binary64)
  /-- A text. -/
  | text (value : String)
  /-- A list of values. -/
  | sequence
  /-- Named values. -/
  | map
deriving DecidableEq, Repr

/-- What a place in a document must hold. -/
inductive Wanted where
  /-- A text. -/
  | text
  /-- An unsigned number of 32 bits. -/
  | word
  /-- The null value. -/
  | unit
  /-- The name of a case. -/
  | caseName
  /-- A record, by its name. -/
  | record (name : String)
deriving DecidableEq, Repr

/-- `ConfigError::EmptyAddress`, `ConfigError::InvalidAddress` — why an address names no server. -/
inductive AddressFault where
  /-- There is no address. -/
  | empty
  /-- The address holds a separator or white space. -/
  | invalid (address : String)
deriving DecidableEq, Repr

/-- Why a document is no value of a type. -/
inductive Mismatch where
  /-- A field of the record is not there. -/
  | missing (field : String)
  /-- A field of the record is there twice. -/
  | duplicate (field : String)
  /-- The value has another type. -/
  | type (found : Found) (wanted : Wanted)
  /-- The value has the type but is out of its range. -/
  | value (found : Found) (wanted : Wanted)
  /-- The list has fewer values than the record has fields. -/
  | length (count : Nat) (record : String) (size : Nat)
  /-- The text encodes no bytes. -/
  | encoding (fault : Text.Fault)
  /-- So many bytes are no value of the field. -/
  | bytes (count : Nat)
  /-- The address names no server. -/
  | address (fault : AddressFault)
deriving DecidableEq, Repr

/-- The text of a found value, with the style of its numbers. -/
def Found.message (style : PowerStyle) : Found → String
  | null => "null"
  | boolean value => "boolean \x60" ++ toString value ++ "\x60"
  | integer value => "integer \x60" ++ toString value ++ "\x60"
  | float value => "floating point \x60" ++ value.text style ++ "\x60"
  | text value => "string " ++ Text.quote value
  | sequence => "sequence"
  | map => "map"

/-- The text of what was wanted. -/
def Wanted.message : Wanted → String
  | text => "a string"
  | word => "u32"
  | unit => "unit"
  | caseName => "variant identifier"
  | record name => "struct " ++ name

/-- The text of an address fault. -/
def AddressFault.message : AddressFault → String
  | empty => "No server address specified!"
  | invalid address =>
    "Server address " ++ Text.quote address ++ " must be a bare host and port!"

/-- The reason of a mismatch. -/
def Mismatch.message (style : PowerStyle) : Mismatch → String
  | missing field => "missing field \x60" ++ field ++ "\x60"
  | duplicate field => "duplicate field \x60" ++ field ++ "\x60"
  | type found wanted =>
    "invalid type: " ++ found.message style ++ ", expected " ++ wanted.message
  | value found wanted =>
    "invalid value: " ++ found.message style ++ ", expected " ++ wanted.message
  | length count record size =>
    "invalid length " ++ toString count ++ ", expected struct " ++ record ++ " with "
      ++ toString size ++ (if size = 1 then " element" else " elements")
  | encoding fault => fault.message
  | bytes count => toString count ++ " decoded bytes are not valid for this field"
  | address fault => fault.message

end RoundKey.Data
