/-!
# Refusals of a certificate

Why a certificate, or a signature under it, is refused.
-/
namespace RoundKey

/-- Why a certificate is refused. -/
inductive CertificateFault where
  /-- The bytes are no certificate, or its key is of a kind that is not looked into. -/
  | badEncoding
  /-- The certificate is well formed but is not one that is accepted. -/
  | unacceptable
  /-- The certificate presents another key than the expected one. -/
  | otherKey
  /-- No algorithm of the scheme is for keys of this kind. -/
  | unsupportedAlgorithm
  /-- The signature does not verify. -/
  | badSignature
deriving DecidableEq, Repr

end RoundKey
