import RoundKey.Crypto.Ed25519
import RoundKey.Crypto.Montgomery
import RoundKey.Data.Mismatch
import RoundKey.Text.Base32
import RoundKey.Text.Base64
import RoundKey.Text.Utf8

/-!
# Binary fields

The types of values that documents carry as encoded bytes, and the two text encodings. A field
is read by decoding its text and admitting the bytes to its type; writing goes the other way.
-/
namespace RoundKey.Data

/-- `codec::base64`, `codec::base32` — a text encoding of bytes. -/
inductive Encoding where
  /-- Padded, six bits to a character. -/
  | base64
  /-- Unpadded, five bits to a character. -/
  | base32
deriving DecidableEq, Repr

namespace Encoding

/-- The characters that encode some bytes, as ASCII. -/
def encode : Encoding → List UInt8 → List UInt8
  | base64, bytes => Text.Base64.encode bytes
  | base32, bytes => Text.Base32.encode bytes

/-- The bytes that some characters encode. -/
def decode : Encoding → List UInt8 → Except Text.Fault (List UInt8)
  | base64, text => Text.Base64.decode text
  | base32, text => Text.Base32.decode text

end Encoding

/-- `WireBytes` — the type of a binary field. -/
inductive Content where
  /-- Any bytes. -/
  | bytes
  /-- Any 32 bytes. -/
  | octets
  /-- A public signing key. -/
  | publicKey
  /-- The seed of a signing key. -/
  | seed
  /-- A signature. -/
  | signature
  /-- A public key of a box. -/
  | boxKey
deriving DecidableEq, Repr

namespace Content

/-- The values of a binary field. -/
abbrev Value : Content → Type
  | bytes => List UInt8
  | octets => Octets 32
  | publicKey => Ed25519.PublicKey
  | seed => Ed25519.Seed
  | signature => Ed25519.Signature
  | boxKey => Montgomery.PublicKey

/-- `WireBytes::to_wire` — the bytes of a value. -/
def toBytes : (content : Content) → content.Value → List UInt8
  | bytes, value => value
  | octets, value => value.toList
  | publicKey, value => value.octets.toList
  | seed, value => value.octets.toList
  | signature, value => value.octets.toList
  | boxKey, value => value.octets.toList

/-- `WireBytes::from_wire` — the value of some bytes. A public key has to be the bytes of a
point. -/
def ofBytes? : (content : Content) → List UInt8 → Option content.Value
  | bytes, value => some value
  | octets, value => Octets.ofList? 32 value
  | publicKey, value => Ed25519.PublicKey.ofBytes? value
  | seed, value => (Octets.ofList? 32 value).map Ed25519.Seed.mk
  | signature, value => (Octets.ofList? 64 value).map Ed25519.Signature.mk
  | boxKey, value => (Octets.ofList? 32 value).map Montgomery.PublicKey.mk

/-- `deserialize_with` — the value whose bytes a text encodes. -/
def decode (encoding : Encoding) (content : Content) (text : List UInt8) :
    Except Mismatch content.Value :=
  match encoding.decode text with
  | .error fault => .error (.encoding fault)
  | .ok value =>
    match content.ofBytes? value with
    | some value => .ok value
    | none => .error (.bytes value.length)

/-- `serialize_with` — the text that encodes the bytes of a value. -/
def encode (encoding : Encoding) (content : Content) (value : content.Value) : List UInt8 :=
  encoding.encode (content.toBytes value)

end Content

end RoundKey.Data
