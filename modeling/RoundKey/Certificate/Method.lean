import RoundKey.Certificate.KeyAlgorithm
import RoundKey.Crypto.Ecdsa
import RoundKey.Crypto.Ed25519
import RoundKey.Crypto.Rsa
import RoundKey.Der.Strict

/-!
# Methods of signing under certified keys

A method says how a signature verifies, and what a certificate has to say of a key for it: the
algorithm of the key, byte for byte, and for a curve the name of the curve beside it.
-/
namespace RoundKey.Certificate

/-- A way to verify signatures under a key in a certificate. -/
inductive Method where
  /-- Signatures over the Edwards curve of this library. -/
  | ed25519
  /-- Signatures over a Weierstrass curve. -/
  | ecdsa (curve : Curve) (hash : Hash)
  /-- Signatures by products of two primes. -/
  | rsa (padding : Rsa.Padding) (hash : Hash)
deriving DecidableEq, Repr

/-- The element of an identifier. -/
def identifierElement (identifier : List UInt8) : List UInt8 :=
  Der.Strict.identifier :: UInt8.ofNat identifier.length :: identifier

/-- The element of nothing. -/
def nothingElement : List UInt8 := [0x05, 0x00]

/-- The identifier of a curve. -/
def curveName : Curve → List UInt8
  | .p256 => [0x2a, 0x86, 0x48, 0xce, 0x3d, 0x03, 0x01, 0x07]
  | .p384 => [0x2b, 0x81, 0x04, 0x00, 0x22]

namespace Method

/-- What a certificate says of a key that is for a method. -/
def algorithm : Method → List UInt8
  | ed25519 => identifierElement KeyAlgorithm.ed25519
  | ecdsa curve _ =>
    identifierElement KeyAlgorithm.ellipticCurve ++ identifierElement (curveName curve)
  | rsa _ _ => identifierElement KeyAlgorithm.rsa ++ nothingElement

/-- Whether an Ed25519 signature verifies under the bytes of a key. -/
def verifiesEd25519 (key message signature : List UInt8) : Bool :=
  match Ed25519.PublicKey.ofBytes? key, Octets.ofList? 64 signature with
  | some key, some octets => Ed25519.verify message ⟨octets⟩ key
  | _, _ => false

/-- Whether a signature of a message verifies under the bytes of a key. -/
def verifies : Method → (key message signature : List UInt8) → Bool
  | ed25519 => verifiesEd25519
  | ecdsa curve hash => Ecdsa.verify curve hash
  | rsa padding hash => Rsa.verify padding hash

end Method

end RoundKey.Certificate
