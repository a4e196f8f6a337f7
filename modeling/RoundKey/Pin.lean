import RoundKey.Certificate.Fault
import RoundKey.Certificate.Presented
import RoundKey.Crypto.Ed25519

/-!
# Pinned keys

A server is known by its key alone. Its certificate is accepted when it presents exactly the
bytes of that key, whoever issued it, for whatever name and time.
-/
namespace RoundKey

/-- `PinnedKeyVerifier` — the key that a server has to present. -/
structure Pin where
  /-- The key. -/
  key : Ed25519.PublicKey
deriving DecidableEq

namespace Pin

/-- `PinnedKeyVerifier::verify_server_cert` — accept the certificate of a server. A key with a
structure of its own is not looked into. -/
def accept (pin : Pin) (certificate : List UInt8) : Except CertificateFault Unit :=
  match Certificate.presentedKey? certificate with
  | none => .error .badEncoding
  | some presented =>
    if presented.algorithm ∈ Certificate.KeyAlgorithm.structured then .error .badEncoding
    else if presented.bits.bytes = pin.key.octets.toList then .ok ()
    else .error .otherKey

end Pin

end RoundKey
