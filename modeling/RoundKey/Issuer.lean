import RoundKey.Envelope
import RoundKey.Reply

/-!
# Issuers

The other end of an extraction: a server that signs with a seed. It reads the posted request,
seals the key to the return key of the request, and signs a reply for the round and the username
of the request.
-/
namespace RoundKey

/-- `StubPkg` — what a server uses to answer one request. -/
structure Issuer where
  /-- The seed of the key that signs replies. -/
  seed : Ed25519.Seed
  /-- The secret that seals the key. -/
  secret : Montgomery.Secret
  /-- The bytes of the key to issue. -/
  key : List UInt8
  /-- The bytes of the attestation. -/
  attestation : List UInt8

namespace Issuer

/-- `StubPkg::extract` — the signed reply to a request. -/
def answer (issuer : Issuer) (request : ExtractRequest) : Signed ExtractReply :=
  Signed.sign
    { round := request.round
      username := request.username
      sealedKey := Envelope.sealTo issuer.secret request.returnKey issuer.key
      identitySignature := issuer.attestation }
    issuer.seed

/-- The reply to a posted document, if the document is a request. -/
def reply? (issuer : Issuer) (body : List UInt8) : Option Reply :=
  match Signed.read (M := ExtractRequest) body with
  | .error _ => none
  | .ok request => some ⟨.success, (issuer.answer request.body).write⟩

end Issuer

end RoundKey
