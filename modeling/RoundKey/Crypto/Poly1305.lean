import RoundKey.Bytes

/-!
# The one-time authenticator of the box

A polynomial over the numbers modulo `2 ^ 130 - 5` whose coefficients are the sixteen-byte
pieces of a message, evaluated at a clamped half of the key, with the other half added.
-/
namespace RoundKey.Poly1305

/-- The modulus of the polynomial. -/
def modulus : Nat := Nat.pow 2 130 - 5

/-- The point of evaluation: the first half of the key with 22 bits cleared. -/
def clamp (value : Nat) : Nat := value &&& 0x0ffffffc0ffffffc0ffffffc0fffffff

/-- Evaluate the next `count` pieces after a running value. -/
def evaluate (point : Nat) : (count : Nat) → (value : Nat) → List UInt8 → Nat
  | 0, value, _ => value
  | count + 1, value, bytes =>
    let piece := bytes.take 16
    let coefficient := ofLittleEndian piece + Nat.pow 256 piece.length
    evaluate point count ((value + coefficient) * point % modulus) (bytes.drop 16)

/-- The tag of a message under a one-time key. -/
def tag (key : List UInt8) (message : List UInt8) : Octets 16 :=
  let point := clamp (ofLittleEndian (key.take 16))
  let value := evaluate point ((message.length + 15) / 16) 0 message
  Octets.ofNat 16 (value + ofLittleEndian ((key.drop 16).take 16))

end RoundKey.Poly1305
