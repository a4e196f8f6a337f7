import RoundKey.Crypto.Edwards
import RoundKey.Crypto.Sha512

/-!
# Ed25519 signatures

Keys and signatures as their bytes. A public key is 32 bytes that decompress to a point, kept
byte for byte; any 64 bytes are a signature. Strict verification also refuses points of small
order, and compares the first half of the signature as bytes.
-/
namespace RoundKey.Ed25519

open Edwards

/-- `SigningKey` — a secret seed. -/
structure Seed where
  /-- The 32 bytes of the seed. -/
  octets : Octets 32
deriving DecidableEq

/-- `VerifyingKey` — a public key, as the bytes it was given in. -/
structure PublicKey where
  /-- The compressed point. -/
  octets : Octets 32
deriving DecidableEq

/-- Public keys are equal exactly if their bytes are. -/
@[simp]
theorem PublicKey.octets_inj {first second : PublicKey} :
    first.octets = second.octets ↔ first = second := by
  cases first; cases second; simp

/-- A signature: a compressed point, then a scalar. -/
structure Signature where
  /-- The 64 bytes of the signature. -/
  octets : Octets 64
deriving DecidableEq

/-- The point of a public key, if its bytes stand for one. -/
def PublicKey.point? (key : PublicKey) : Option Point := Point.decompress? key.octets

/-- `VerifyingKey::from_bytes` — the public key of 32 bytes that stand for a point. -/
def PublicKey.ofBytes? (bytes : List UInt8) : Option PublicKey := do
  let octets ← Octets.ofList? 32 bytes
  let _ ← Point.decompress? octets
  some ⟨octets⟩

/-- The scalar that multiplies the generator: bits 0 to 2 and 255 cleared, bit 254 set. -/
def clamp (value : Nat) : Nat :=
  value % Nat.pow 2 254 / 8 * 8 + Nat.pow 2 254

/-- The secret scalar and the bytes that make the nonces, from one hash of the seed. -/
def Seed.expand (seed : Seed) : Nat × List UInt8 :=
  let hash := Sha512.digest seed.octets.toList
  (clamp (ofLittleEndian (hash.take 32)), hash.drop 32)

/-- `SigningKey::verifying_key` — the public key of a seed. -/
def Seed.publicKey (seed : Seed) : PublicKey :=
  ⟨(Point.multiple seed.expand.1 Point.base).compress⟩

/-- The hash of some bytes as a scalar. -/
def hashScalar (bytes : List UInt8) : Nat :=
  ofLittleEndian (Sha512.digest bytes) % Point.order

/-- `signing::sign` — the signature of a message under a seed. -/
def sign (message : List UInt8) (seed : Seed) : Signature :=
  let (secret, nonceKey) := seed.expand
  let nonce := hashScalar (nonceKey ++ message)
  let commitment := (Point.multiple nonce Point.base).compress
  let challenge := hashScalar (commitment.toList ++ seed.publicKey.octets.toList ++ message)
  let response := Octets.ofNat 32 ((nonce + challenge * secret) % Point.order)
  ⟨⟨commitment.toList ++ response.toList, by simp [commitment.length_eq, response.length_eq]⟩⟩

/-- The first half of a signature. -/
def Signature.commitment (signature : Signature) : Octets 32 :=
  ⟨signature.octets.toList.take 32, by simp [signature.octets.length_eq]⟩

/-- The scalar in the second half of a signature. -/
def Signature.response (signature : Signature) : Nat :=
  ofLittleEndian (signature.octets.toList.drop 32)

/-- The commitment that a response and a key imply for a message. -/
def impliedCommitment (message : List UInt8) (signature : Signature) (key : PublicKey)
    (point : Point) : Octets 32 :=
  let challenge := hashScalar
    (signature.commitment.toList ++ key.octets.toList ++ message)
  (Point.add (Point.multiple signature.response Point.base)
    (Point.multiple challenge point.negate)).compress

/-- `signing::verify` — strict verification: a reduced scalar, a decodable commitment, no point of
small order, and a commitment equal to the implied one byte for byte. -/
def verifyStrict (message : List UInt8) (signature : Signature) (key : PublicKey) : Bool :=
  match key.point?, Point.decompress? signature.commitment with
  | some point, some commitment =>
    decide (signature.response < Point.order) && !commitment.isSmallOrder
      && !point.isSmallOrder
      && impliedCommitment message signature key point == signature.commitment
  | _, _ => false

/-- Plain verification: a reduced scalar, and a commitment equal to the implied one byte for
byte. -/
def verify (message : List UInt8) (signature : Signature) (key : PublicKey) : Bool :=
  match key.point? with
  | some point =>
    decide (signature.response < Point.order)
      && impliedCommitment message signature key point == signature.commitment
  | none => false

end RoundKey.Ed25519
