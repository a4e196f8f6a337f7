/-!
# Key algorithms

The identifiers by which a certificate says what its key is for. An identifier is compared byte
for byte.
-/
namespace RoundKey.Certificate.KeyAlgorithm

/-- Signatures over the Edwards curve of this library. -/
def ed25519 : List UInt8 := [0x2b, 0x65, 0x70]

/-- Encryption and signatures by products of two primes. -/
def rsa : List UInt8 := [0x2a, 0x86, 0x48, 0x86, 0xf7, 0x0d, 0x01, 0x01, 0x01]

/-- Points of an elliptic curve that is named beside the identifier. -/
def ellipticCurve : List UInt8 := [0x2a, 0x86, 0x48, 0xce, 0x3d, 0x02, 0x01]

/-- Signatures in a group of residues. -/
def dsa : List UInt8 := [0x2a, 0x86, 0x48, 0xce, 0x38, 0x04, 0x01]

/-- Signatures by the national standard of 2001. -/
def gost2001 : List UInt8 := [0x2a, 0x85, 0x03, 0x02, 0x02, 0x13]

/-- Signatures by the national standard of 2012, of 256 bits. -/
def gost2012Short : List UInt8 := [0x2a, 0x85, 0x03, 0x07, 0x01, 0x01, 0x01, 0x01]

/-- Signatures by the national standard of 2012, of 512 bits. -/
def gost2012Long : List UInt8 := [0x2a, 0x85, 0x03, 0x07, 0x01, 0x01, 0x01, 0x02]

/-- The algorithms whose keys have a structure of their own. A key of any other algorithm is
taken as its bytes. -/
def structured : List (List UInt8) :=
  [rsa, ellipticCurve, dsa, gost2001, gost2012Short, gost2012Long]

end RoundKey.Certificate.KeyAlgorithm
