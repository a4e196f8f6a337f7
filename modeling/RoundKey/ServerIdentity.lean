import RoundKey.Message
import RoundKey.Text.WhiteSpace
import RoundKey.Toml.Record

/-!
# Server identities

An address and a signing key name one server. An address is not empty and holds neither white
space nor one of the three signs that end the host part of a locator everywhere, so the address and
the path of a locator can be told apart. Every way to obtain an identity makes the same check.
-/
namespace RoundKey

open RoundKey.Data

/-- Whether a character would end the host part of a locator. -/
def isSeparator (character : Char) : Bool :=
  character == '/' || character == '?' || character == '#'

/-- The checks of `ServerIdentity::new` — check an address. -/
def checkAddress (address : String) : Except AddressFault Unit :=
  if address.toList = [] then .error .empty
  else if address.toList.any fun character => isSeparator character || Text.isWhiteSpace character
  then .error (.invalid address)
  else .ok ()

/-- `ServerIdentity` — a server: where it is and how it proves itself. -/
structure ServerIdentity where
  /-- Host and port. -/
  address : String
  /-- The key that signs replies and authenticates the channel. -/
  key : Ed25519.PublicKey
  /-- The address has been checked. -/
  checked : checkAddress address = .ok ()
deriving DecidableEq

namespace ServerIdentity

/-- `ServerIdentity::new` — the identity of an address and a key. -/
def create (address : String) (key : Ed25519.PublicKey) : Except AddressFault ServerIdentity :=
  match h : checkAddress address with
  | .ok () => .ok ⟨address, key, h⟩
  | .error fault => .error fault

/-- `ServerIdentity::url` — the locator of a path on the server. -/
def url (identity : ServerIdentity) (path : String) : String :=
  "https://" ++ identity.address ++ "/" ++ path

/-- The fields of an identity in a document. -/
def fields : List (Field Scalar.Value) :=
  [{ name := "address", kind := .text },
   { name := "key", kind := .binary .base32 .publicKey }]

/-- `Unchecked` — the record of an identity before its address is checked. -/
def schema : Schema Scalar.Value := ⟨"Unchecked", fields⟩

/-- The values of the fields. -/
def toValues (identity : ServerIdentity) : Values fields :=
  (identity.address, identity.key, ())

/-- The end of `ServerIdentity::deserialize` — the identity of some values. -/
def ofValues (values : Values fields) : Except Mismatch ServerIdentity :=
  match create values.1 values.2.1 with
  | .ok identity => .ok identity
  | .error fault => .error (.address fault)

/-- An identity from the front of a document in JSON. -/
def readJson (bytes : List UInt8) : Json.Read ServerIdentity :=
  match Json.readRecord schema bytes with
  | .error fault => .error fault
  | .ok (values, rest) =>
    match ofValues values with
    | .error mismatch => Json.reject mismatch
    | .ok identity => .ok (identity, rest)

/-- The identity that a document in JSON holds. -/
def ofJson (bytes : List UInt8) : Except Json.Fault ServerIdentity :=
  Json.whole readJson bytes

/-- The document of an identity in JSON. -/
def toJson (identity : ServerIdentity) : List UInt8 :=
  Json.writeRecord fields identity.toValues

/-- An identity from a node of a document in TOML. -/
def readToml (node : Toml.Node) : Except Mismatch ServerIdentity :=
  match Toml.readRecord Toml.readScalar schema node with
  | .error mismatch => .error mismatch
  | .ok values => ofValues values

/-- The identity that a document in TOML holds. -/
def ofToml (text : String) : Except Toml.Fault ServerIdentity := Toml.ofText readToml text

/-- The document of an identity in TOML. -/
def toToml (identity : ServerIdentity) : String := Toml.writeRecord fields identity.toValues

end ServerIdentity

end RoundKey
