import RoundKey.Canonical
import RoundKey.Json.Record

/-!
# Messages

The requests a client makes and the reply that carries a key. Each message is a record with a
name on the wire for every field; the signed ones also have canonical bytes. A signed message is
a message with a signature over its canonical bytes, which may or may not verify.
-/
namespace RoundKey

open RoundKey.Data

/-- `RegisterArgs` — registration of a username. -/
structure RegisterRequest where
  /-- The name to register. -/
  username : String
  /-- The key that will sign the requests of the user. -/
  loginKey : Ed25519.PublicKey
deriving DecidableEq

/-- `VerifyArgs` — proof that the user owns the username. -/
structure VerifyRequest where
  /-- The registered name. -/
  username : String
  /-- The token that the user received. -/
  token : List UInt8
deriving DecidableEq

/-- `StatusArgs` — the question whether the server knows the client. -/
structure StatusRequest where
  /-- The registered name. -/
  username : String
  /-- The server that is asked. -/
  serverKey : Ed25519.PublicKey
  /-- Random bytes, so that no two questions are the same. -/
  nonce : Octets 32
deriving DecidableEq

/-- `ExtractArgs` — the request for the key of a round. -/
structure ExtractRequest where
  /-- The round of the key. -/
  round : UInt32
  /-- The registered name. -/
  username : String
  /-- The box key that the reply is sealed to. -/
  returnKey : Montgomery.PublicKey
  /-- The signing key that the server attests. -/
  longTermKey : Ed25519.PublicKey
  /-- The server that is asked. -/
  serverKey : Ed25519.PublicKey
deriving DecidableEq

/-- `ExtractReply` — the reply that carries a key. -/
structure ExtractReply where
  /-- The round of the key. -/
  round : UInt32
  /-- The name the key belongs to. -/
  username : String
  /-- A box key of the server, then the sealed key. -/
  sealedKey : List UInt8
  /-- The attestation of the long-term key, not decoded yet. -/
  identitySignature : List UInt8
deriving DecidableEq

/-- Messages as records. -/
class Message (M : Type) where
  /-- The record of the message. -/
  schema : Schema Scalar.Value
  /-- The values of the fields. -/
  toValues : M → Values schema.fields
  /-- The message of some values. -/
  ofValues : Values schema.fields → M
  /-- A message is determined by its values. -/
  ofValues_toValues : ∀ message, ofValues (toValues message) = message
  /-- Values are determined by their message. -/
  toValues_ofValues : ∀ values, toValues (ofValues values) = values

/-- `Canonical` — messages that are signed. -/
class Signable (M : Type) extends Message M where
  /-- `Canonical::CONTEXT` — the name that separates the canonical bytes from those of others. -/
  context : String
  /-- `Canonical::write_fields` — the fields that enter the canonical bytes. -/
  canonicalFields : M → List CanonicalField

namespace Message

variable {M : Type} [Message M]

/-- The message that a document holds as a plain record. -/
def read (bytes : List UInt8) : Except Json.Fault M :=
  (Json.whole (Json.readRecord (schema M)) bytes).map ofValues

/-- The document of a message as a plain record. -/
def write (message : M) : List UInt8 :=
  Json.writeRecord (schema M).fields (toValues message)

end Message

/-- A field of text. -/
def textField (name : String) : Field Scalar.Value := { name, kind := .text }

/-- A field of encoded bytes. -/
def binaryField (name : String) (content : Content) : Field Scalar.Value :=
  { name, kind := .binary .base64 content }

/-- A field with a number of 32 bits. -/
def wordField (name : String) : Field Scalar.Value := { name, kind := .word }

instance : Message RegisterRequest where
  schema := ⟨"RegisterArgs", [textField "Username", binaryField "LoginKey" .publicKey]⟩
  toValues message := (message.username, message.loginKey, ())
  ofValues values := ⟨values.1, values.2.1⟩
  ofValues_toValues _ := rfl
  toValues_ofValues _ := rfl

instance : Signable VerifyRequest where
  schema := ⟨"VerifyArgs", [textField "Username", binaryField "Token" .bytes]⟩
  toValues message := (message.username, message.token, ())
  ofValues values := ⟨values.1, values.2.1⟩
  ofValues_toValues _ := rfl
  toValues_ofValues _ := rfl
  context := "PKGVerify"
  canonicalFields message := [.text message.username, .bytes message.token]

instance : Signable StatusRequest where
  schema := ⟨"StatusArgs", [textField "Username", binaryField "ServerSigningKey" .publicKey,
    binaryField "Message" .octets]⟩
  toValues message := (message.username, message.serverKey, message.nonce, ())
  ofValues values := ⟨values.1, values.2.1, values.2.2.1⟩
  ofValues_toValues _ := rfl
  toValues_ofValues _ := rfl
  context := "PKGStatus"
  canonicalFields message :=
    [.text message.username, .bytes message.serverKey.octets.toList,
     .bytes message.nonce.toList]

instance : Signable ExtractRequest where
  schema := ⟨"ExtractArgs", [wordField "Round", textField "Username",
    binaryField "ReturnKey" .boxKey, binaryField "UserLongTermKey" .publicKey,
    binaryField "ServerSigningKey" .publicKey]⟩
  toValues message :=
    (message.round, message.username, message.returnKey, message.longTermKey,
     message.serverKey, ())
  ofValues values :=
    ⟨values.1, values.2.1, values.2.2.1, values.2.2.2.1, values.2.2.2.2.1⟩
  ofValues_toValues _ := rfl
  toValues_ofValues _ := rfl
  context := "PKGExtract"
  canonicalFields message :=
    [.word message.round, .text message.username, .bytes message.returnKey.octets.toList,
     .bytes message.longTermKey.octets.toList, .bytes message.serverKey.octets.toList]

instance : Signable ExtractReply where
  schema := ⟨"ExtractReply", [wordField "Round", textField "Username",
    binaryField "EncryptedPrivateKey" .bytes, binaryField "IdentitySig" .bytes]⟩
  toValues message :=
    (message.round, message.username, message.sealedKey, message.identitySignature, ())
  ofValues values := ⟨values.1, values.2.1, values.2.2.1, values.2.2.2.1⟩
  ofValues_toValues _ := rfl
  toValues_ofValues _ := rfl
  context := "PKGExtractReply"
  canonicalFields message :=
    [.word message.round, .text message.username, .bytes message.sealedKey,
     .bytes message.identitySignature]

/-- `Canonical::canonical_bytes` — the canonical bytes of a message. -/
def canonical {M : Type} [Signable M] (message : M) : List UInt8 :=
  canonicalBytes (Signable.context M) (Signable.canonicalFields message)

/-- `Signed` — a message with a signature. -/
structure Signed (M : Type) where
  /-- The message; nothing about it is authenticated yet. -/
  body : M
  /-- The signature that came with it. -/
  signature : Ed25519.Signature
deriving DecidableEq

namespace Signed

variable {M : Type} [Signable M]

/-- `Signed::new` — sign a message with a seed. -/
def sign (body : M) (seed : Ed25519.Seed) : Signed M :=
  ⟨body, Ed25519.sign (canonical body) seed⟩

/-- `Signed::verify` — whether the signature verifies under a key. -/
def verifies (signed : Signed M) (key : Ed25519.PublicKey) : Bool :=
  Ed25519.verifyStrict (canonical signed.body) signed.signature key

/-- The signed message that a document holds. -/
def read (bytes : List UInt8) : Except Json.Fault (Signed M) :=
  (Json.whole (Json.readSigned (Message.schema M).fields) bytes).map fun read =>
    ⟨Message.ofValues read.1, read.2⟩

/-- The document of a signed message. -/
def write (signed : Signed M) : List UInt8 :=
  Json.writeSigned (Message.schema M).fields (Message.toValues signed.body) signed.signature

end Signed

end RoundKey
