import RoundKey.Crypto.Box
import RoundKey.Event
import RoundKey.Message

/-!
# Envelopes

The sealed part of an extraction. A reply is checked strictly in order: its round, its username,
the length of the sealed key and the signature of the server. Only a reply that passed all four
is opened, and only then are the opened key and the attestation decoded as points.

The nonce of the box is always zero. That is sound because the secret of an envelope is drawn
for one call and opens one reply.
-/
namespace RoundKey

/-- `ExtractResult` — what an extraction gives. -/
structure ExtractedKey where
  /-- The key of the identity for the round. -/
  key : IdentityKey
  /-- The attestation of the long-term key. -/
  attestation : IdentitySignature
deriving DecidableEq

/-- Why a reply was refused. -/
inductive Refusal where
  /-- It is for another round. -/
  | wrongRound (expected actual : UInt32)
  /-- It is for another username. -/
  | wrongUsername (expected actual : String)
  /-- Its sealed key is too short to hold a box. -/
  | shortCiphertext (length : Nat)
  /-- The server did not sign it. -/
  | invalidSignature
  /-- Its sealed key is too short to hold a box key. -/
  | noBoxKey (length : Nat)
  /-- Its box does not open. -/
  | brokenBox
  /-- Its box holds no key. -/
  | malformedKey (fault : KeyMaterialFault)
  /-- Its attestation is no point. -/
  | malformedAttestation (fault : KeyMaterialFault)
deriving DecidableEq, Repr

namespace Refusal

/-- The failure of a call whose reply was refused. -/
def error : Refusal → ClientError
  | wrongRound expected actual => .roundMismatch expected actual
  | wrongUsername expected actual => .usernameMismatch expected actual
  | shortCiphertext length => .shortCiphertext length
  | invalidSignature => .invalidSignature
  | noBoxKey length => .shortCiphertext length
  | brokenBox => .decryptionFailed
  | malformedKey fault => .malformedKeyMaterial fault
  | malformedAttestation fault => .malformedKeyMaterial fault

/-- The warning about a refused reply to a request for a round. A sealed key without a box key
is met only behind the length check, and no warning is made for it. -/
def event? (round : UInt32) : Refusal → Option Event
  | wrongRound expected actual => some (.wrongRound expected actual)
  | wrongUsername _ _ => some (.wrongUsername round)
  | shortCiphertext length => some (.shortCiphertext round length)
  | invalidSignature => some (.invalidSignature round)
  | noBoxKey _ => none
  | brokenBox => some .brokenBox
  | malformedKey fault => some (.malformedKey round fault)
  | malformedAttestation fault => some (.malformedAttestation round fault)

end Refusal

namespace Envelope

/-- The nonce of every box. -/
def nonce : Octets 24 := Octets.zero 24

/-- `MIN_ENCRYPTED_KEY_SIZE` — the least length of a sealed key: a box key and the tag of a box. -/
def leastLength : Nat := 32 + Box.overhead

/-- `seal_for` — seal a message to a box key: the public key of the secret, then the box. -/
def sealTo (secret : Montgomery.Secret) (key : Montgomery.PublicKey) (message : List UInt8) :
    List UInt8 :=
  secret.publicKey.octets.toList ++ Box.sealUnder (Box.sharedKey secret key) nonce message

/-- `open_box` — open what was sealed to the public key of a secret. -/
def openSealed (secret : Montgomery.Secret) (sealedKey : List UInt8) :
    Except Refusal (List UInt8) :=
  match Octets.ofList? 32 (sealedKey.take 32) with
  | none => .error (.noBoxKey sealedKey.length)
  | some key =>
    match Box.openUnder (Box.sharedKey secret ⟨key⟩) nonce (sealedKey.drop 32) with
    | none => .error .brokenBox
    | some message => .ok message

/-- `verify_reply` — check that a reply answers a request and is signed under a key. -/
def checkReply (request : ExtractRequest) (reply : Signed ExtractReply)
    (key : Ed25519.PublicKey) : Except Refusal Unit :=
  if reply.body.round ≠ request.round then
    .error (.wrongRound request.round reply.body.round)
  else if reply.body.username ≠ request.username then
    .error (.wrongUsername request.username reply.body.username)
  else if reply.body.sealedKey.length < leastLength then
    .error (.shortCiphertext reply.body.sealedKey.length)
  else if reply.verifies key then .ok ()
  else .error .invalidSignature

/-- The end of `ExtractionEnvelope::open` — decode the key of a box and the attestation beside
it. -/
def decode (message attestation : List UInt8) : Except Refusal ExtractedKey :=
  match KeyMaterial.ofBytes message with
  | .error fault => .error (.malformedKey fault)
  | .ok key =>
    match KeyMaterial.ofBytes attestation with
    | .error fault => .error (.malformedAttestation fault)
    | .ok attestation => .ok ⟨key, attestation⟩

/-- `ExtractionEnvelope::open` — the key in a reply to a request, for a server key and the secret of
the request. -/
def extract (secret : Montgomery.Secret) (request : ExtractRequest) (reply : Signed ExtractReply)
    (key : Ed25519.PublicKey) : Except Refusal ExtractedKey :=
  match checkReply request reply key with
  | .error refusal => .error refusal
  | .ok () =>
    match openSealed secret reply.body.sealedKey with
    | .error refusal => .error refusal
    | .ok message => decode message reply.body.identitySignature

/-- `ExtractionEnvelope::open` with what it logs — a warning if the reply is refused. -/
def extractLogged (secret : Montgomery.Secret) (request : ExtractRequest)
    (reply : Signed ExtractReply) (key : Ed25519.PublicKey) :
    Logged (Except ClientError ExtractedKey) :=
  match extract secret request reply key with
  | .ok extracted => ⟨[], .ok extracted⟩
  | .error refusal => ⟨(refusal.event? request.round).toList, .error refusal.error⟩

end Envelope

end RoundKey
