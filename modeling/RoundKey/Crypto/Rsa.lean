import RoundKey.Crypto.Hash
import RoundKey.Der.Strict
import RoundKey.Number.Residue

/-!
# Signatures by products of two primes

A signature is a number that a power takes to a padded hash of the message. One padding is fixed
by the hash; the other has random bytes in it, which are found again by taking off a mask that
the rest of the padding makes. The product has 2048 to 8192 bits, up to the last byte.
-/
namespace RoundKey.Rsa

/-- How a hash is padded. -/
inductive Padding where
  /-- One padding for each hash. -/
  | fixed
  /-- A padding with random bytes under a mask. -/
  | random
deriving DecidableEq, Repr

/-- A public key. -/
structure PublicKey where
  /-- The product of the primes. -/
  modulus : Nat
  /-- The exponent that a signature is raised to. -/
  exponent : Nat
deriving DecidableEq, Repr

namespace PublicKey

/-- The number of bits in the product. -/
def bits (key : PublicKey) : Nat := key.modulus.log2 + 1

/-- The number of bytes in the product. -/
def size (key : PublicKey) : Nat := (key.bits + 7) / 8

/-- Whether both numbers are odd and neither too small nor too large. -/
def isUsable (key : PublicKey) : Bool :=
  key.modulus % 2 = 1 && 256 ≤ key.size && key.bits ≤ 8192
    && key.exponent % 2 = 1 && 3 ≤ key.exponent && key.exponent < Nat.pow 2 33

/-- The key that bytes stand for, if it is usable. -/
def ofBytes? (bytes : List UInt8) : Option PublicKey := do
  let (modulus, exponent) ← Der.Strict.readPair bytes
  let key : PublicKey := ⟨modulus, exponent⟩
  if key.isUsable then some key else none

/-- The padded hash that a signature stands for, of as many bytes as the product. -/
def open? (key : PublicKey) (signature : List UInt8) : Option (List UInt8) :=
  let value := ofBigEndian signature
  if signature.length = key.size ∧ 0 < value ∧ value < key.modulus then
    some (bigEndian key.size (Residue.power key.modulus value key.exponent))
  else none

end PublicKey

/-- What stands before a digest to say by which hash it is. -/
def digestHeader : Hash → List UInt8
  | .sha256 => header 1 32
  | .sha384 => header 2 48
  | .sha512 => header 3 64
where
  /-- The header for the last number of an identifier and the size of a digest. -/
  header (number size : UInt8) : List UInt8 :=
    [0x30, 0x11 + size, 0x30, 0x0d, 0x06, 0x09, 0x60, 0x86, 0x48, 0x01, 0x65, 0x03, 0x04, 0x02,
     number, 0x05, 0x00, 0x04, size]

/-- The fixed padding of a hash, of so many bytes. -/
def fixedPadding (hash : Hash) (size : Nat) (message : List UInt8) : List UInt8 :=
  let tail := 0x00 :: digestHeader hash ++ hash.digest message
  0x00 :: 0x01 :: List.replicate (size - 2 - tail.length) 0xff ++ tail

/-- So many bytes of a mask made from a seed. -/
def mask (hash : Hash) (seed : List UInt8) (size : Nat) : List UInt8 :=
  ((List.range ((size + hash.size - 1) / hash.size)).flatMap fun count =>
    hash.digest (seed ++ bigEndian 4 count)).take size

/-- The last byte of a padding with random bytes. -/
def trailer : UInt8 := 0xbc

/-- A padding with random bytes. -/
structure RandomPadding where
  /-- Zeros, a one and the random bytes, under the mask. -/
  masked : List UInt8
  /-- What the mask is made from: a hash of the hash and the random bytes. -/
  seed : List UInt8
deriving DecidableEq, Repr

namespace RandomPadding

/-- How many of so many bits are in the first byte of their number. -/
def topBits (bits : Nat) : Nat := bits - 8 * ((bits + 7) / 8 - 1)

/-- The padding of so many bits that bytes stand for, if all bits above are zero. -/
def ofBytes? (hash : Hash) (bits : Nat) (bytes : List UInt8) : Option RandomPadding :=
  let size := (bits + 7) / 8
  let above := bytes.take (bytes.length - size)
  let within := bytes.drop above.length
  let masked := within.take (size - hash.size - 1)
  let after := within.drop masked.length
  if above.all (· = 0) ∧ (masked.headD 0).toNat < Nat.pow 2 (topBits bits)
      ∧ after.drop hash.size = [trailer] then
    some ⟨masked, after.take hash.size⟩
  else none

/-- The bytes under the mask. The first one loses the bits above the number of bits. -/
def unmasked (padding : RandomPadding) (hash : Hash) (bits : Nat) : List UInt8 :=
  match padding.masked.zipWith (· ^^^ ·) (mask hash padding.seed padding.masked.length) with
  | [] => []
  | first :: rest => UInt8.ofNat (first.toNat % Nat.pow 2 (topBits bits)) :: rest

/-- The random bytes, as many as a digest has, if zeros and a one stand before them. -/
def salt? (padding : RandomPadding) (hash : Hash) (bits : Nat) : Option (List UInt8) :=
  let bytes := padding.unmasked hash bits
  let before := bytes.length - hash.size
  if bytes.take before = List.replicate (before - 1) 0 ++ [1] then some (bytes.drop before)
  else none

/-- Whether bytes are a padding of so many bits of the hash of a message. -/
def isOf (hash : Hash) (bits : Nat) (bytes message : List UInt8) : Bool :=
  match ofBytes? hash bits bytes with
  | none => false
  | some padding =>
    match padding.salt? hash bits with
    | none => false
    | some salt =>
      padding.seed = hash.digest (List.replicate 8 0 ++ hash.digest message ++ salt)

end RandomPadding

/-- Whether a signature of a message verifies under the bytes of a key. -/
def verify (padding : Padding) (hash : Hash) (key message signature : List UInt8) : Bool :=
  match PublicKey.ofBytes? key with
  | none => false
  | some key =>
    match key.open? signature with
    | none => false
    | some padded =>
      match padding with
      | .fixed => padded = fixedPadding hash key.size message
      | .random => RandomPadding.isOf hash (key.bits - 1) padded message

end RoundKey.Rsa
