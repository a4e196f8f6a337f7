import RoundKey.Crypto.Sha2

/-!
# SHA-256

The hash of the family over words of 32 bits. A digest has 32 bytes.
-/
namespace RoundKey.Sha256

/-- Rotate a word to the right. -/
def rotate (word : UInt32) (count : UInt32) : UInt32 :=
  (word >>> count) ||| (word <<< (32 - count))

/-- One constant for each round. -/
def constants : List UInt32 :=
  [
   0x428a2f98, 0x71374491, 0xb5c0fbcf, 0xe9b5dba5, 0x3956c25b, 0x59f111f1,
   0x923f82a4, 0xab1c5ed5, 0xd807aa98, 0x12835b01, 0x243185be, 0x550c7dc3,
   0x72be5d74, 0x80deb1fe, 0x9bdc06a7, 0xc19bf174, 0xe49b69c1, 0xefbe4786,
   0x0fc19dc6, 0x240ca1cc, 0x2de92c6f, 0x4a7484aa, 0x5cb0a9dc, 0x76f988da,
   0x983e5152, 0xa831c66d, 0xb00327c8, 0xbf597fc7, 0xc6e00bf3, 0xd5a79147,
   0x06ca6351, 0x14292967, 0x27b70a85, 0x2e1b2138, 0x4d2c6dfc, 0x53380d13,
   0x650a7354, 0x766a0abb, 0x81c2c92e, 0x92722c85, 0xa2bfe8a1, 0xa81a664b,
   0xc24b8b70, 0xc76c51a3, 0xd192e819, 0xd6990624, 0xf40e3585, 0x106aa070,
   0x19a4c116, 0x1e376c08, 0x2748774c, 0x34b0bcb5, 0x391c0cb3, 0x4ed8aa4a,
   0x5b9cca4f, 0x682e6ff3, 0x748f82ee, 0x78a5636f, 0x84c87814, 0x8cc70208,
   0x90befffa, 0xa4506ceb, 0xbef9a3f7, 0xc67178f2]

/-- Words of 32 bits. -/
def width : Sha2.Width UInt32 where
  bytes := 4
  ofNat := UInt32.ofNat
  toNat := UInt32.toNat
  mixA := fun word => rotate word 2 ^^^ rotate word 13 ^^^ rotate word 22
  mixE := fun word => rotate word 6 ^^^ rotate word 11 ^^^ rotate word 25
  near := fun word => rotate word 7 ^^^ rotate word 18 ^^^ (word >>> 3)
  far := fun word => rotate word 17 ^^^ rotate word 19 ^^^ (word >>> 10)
  constants := constants

/-- The state before the first block. -/
def initial : Sha2.State UInt32 where
  a := 0x6a09e667
  b := 0xbb67ae85
  c := 0x3c6ef372
  d := 0xa54ff53a
  e := 0x510e527f
  f := 0x9b05688c
  g := 0x1f83d9ab
  h := 0x5be0cd19

/-- The 32 bytes of the hash of a message. -/
def digest (message : List UInt8) : List UInt8 := Sha2.digest width initial message

@[simp]
theorem length_digest (message : List UInt8) : (digest message).length = 32 :=
  Sha2.length_digest width initial message

end RoundKey.Sha256
