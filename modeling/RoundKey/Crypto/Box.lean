import RoundKey.Crypto.Montgomery
import RoundKey.Crypto.Poly1305
import RoundKey.Crypto.Salsa

/-!
# Sealed boxes

Authenticated encryption under the key that a secret and a public key agree on. The first 32
bytes of the stream are the key of the tag, the message is combined with the stream after them,
and the tag comes before the ciphertext. Opening checks the tag first.
-/
namespace RoundKey.Box

/-- The bytes of the tag in front of a ciphertext. -/
def overhead : Nat := 16

/-- `SalsaBox::new` — the key of the boxes between a secret and a public key. -/
def sharedKey (secret : Montgomery.Secret) (key : Montgomery.PublicKey) : Octets 32 :=
  Salsa.derive (Montgomery.agree secret key) (List.replicate 16 0)

/-- Combine bytes with as many bytes of a stream. -/
def combine (bytes stream : List UInt8) : List UInt8 := List.zipWith (· ^^^ ·) bytes stream

/-- `SalsaBox::encrypt` — the tag and the ciphertext of a message. -/
def sealUnder (key : Octets 32) (nonce : Octets 24) (message : List UInt8) : List UInt8 :=
  let stream := Salsa.stream key nonce (32 + message.length)
  let ciphertext := combine message (stream.drop 32)
  (Poly1305.tag (stream.take 32) ciphertext).toList ++ ciphertext

/-- `SalsaBox::decrypt` — the message of a tag and a ciphertext, if the tag is theirs. -/
def openUnder (key : Octets 32) (nonce : Octets 24) (sealed : List UInt8) :
    Option (List UInt8) :=
  if sealed.length < overhead then none
  else
    let ciphertext := sealed.drop overhead
    let stream := Salsa.stream key nonce (32 + ciphertext.length)
    if sealed.take overhead = (Poly1305.tag (stream.take 32) ciphertext).toList then
      some (combine ciphertext (stream.drop 32))
    else none

end RoundKey.Box
