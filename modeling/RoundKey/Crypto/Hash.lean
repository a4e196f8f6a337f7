import RoundKey.Crypto.Sha256
import RoundKey.Crypto.Sha512

/-!
# Hashes that signatures are made over

The hashes that a signature of a certified key can be made over, with the number of bytes in each
digest.
-/
namespace RoundKey

/-- A hash, by the number of bits in its digest. -/
inductive Hash where
  /-- 256 bits. -/
  | sha256
  /-- 384 bits. -/
  | sha384
  /-- 512 bits. -/
  | sha512
deriving DecidableEq, Repr

namespace Hash

/-- The number of bytes in a digest. -/
def size : Hash → Nat
  | sha256 => 32
  | sha384 => 48
  | sha512 => 64

/-- The hash of a message. -/
def digest : Hash → List UInt8 → List UInt8
  | sha256 => Sha256.digest
  | sha384 => Sha384.digest
  | sha512 => Sha512.digest

@[simp]
theorem length_digest (hash : Hash) (message : List UInt8) :
    (hash.digest message).length = hash.size := by
  cases hash <;> simp [digest, size]

end Hash

end RoundKey
