import RoundKey.Crypto.Hash
import RoundKey.Crypto.Weierstrass
import RoundKey.Der.Strict
import RoundKey.Number.Residue

/-!
# Signatures over Weierstrass curves

A signature is two numbers below the order of the generator, written as a sequence. The hash of
the message and the two numbers say which sum of multiples of the generator and of the key has to
have the first number as its first coordinate, up to multiples of the order.
-/
namespace RoundKey.Ecdsa

/-- A signature over a curve. -/
structure Signature (curve : Curve) where
  /-- What the first coordinate has to be. -/
  first : Nat
  /-- What divides the multiples. -/
  second : Nat
  /-- The first number is reduced. -/
  first_lt : first < curve.order
  /-- The second number is reduced. -/
  second_lt : second < curve.order

/-- The signature that bytes stand for. Neither of its numbers is zero. -/
def Signature.ofBytes? (curve : Curve) (bytes : List UInt8) : Option (Signature curve) := do
  let (first, second) ← Der.Strict.readPair bytes
  if small : first < curve.order ∧ second < curve.order then
    some ⟨first, second, small.1, small.2⟩
  else none

/-- The number of a message: the first bytes of its hash, as many as a coordinate has. -/
def hashScalar (curve : Curve) (hash : Hash) (message : List UInt8) : Nat :=
  ofBigEndian ((hash.digest message).take curve.size) % curve.order

/-- The point that a message, a signature and a key agree on. -/
def agreed {curve : Curve} (hash : Hash) (message : List UInt8) (signature : Signature curve)
    (key : curve.Point) : curve.Point :=
  let inverse := Residue.inverse curve.order signature.second
  let forBase := hashScalar curve hash message * inverse % curve.order
  let forKey := signature.first * inverse % curve.order
  Curve.Point.add (Curve.Point.multiple forBase (Curve.Point.base curve))
    (Curve.Point.multiple forKey key)

/-- Whether a signature of a message verifies under a key. -/
def verify (curve : Curve) (hash : Hash) (key message signature : List UInt8) : Bool :=
  match Curve.Point.ofBytes? curve key, Signature.ofBytes? curve signature with
  | some key, some signature =>
    match (agreed hash message signature key).first? with
    | some coordinate => coordinate.val % curve.order = signature.first
    | none => false
  | _, _ => false

end RoundKey.Ecdsa
