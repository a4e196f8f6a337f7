import RoundKey.Issuer
import RoundKey.Proofs.Extraction
import RoundKey.Proofs.Sealing

/-!
# Extractions from an honest issuer

The request that a client posts is read by the issuer as it was made, the reply of the issuer is
read by the client as it was signed, and what was sealed to the return key opens under the secret
of the call. So the client ends with the key and the attestation that were issued, for every
username and all randomness. One fact about the curves is assumed of the one exchange: that the
signature of the issuer verifies.
-/
namespace RoundKey

open Pairing

/-- A key that a signature verifies under is the bytes of a point. -/
theorem Ed25519.isSome_point?_of_verifyStrict {message : List UInt8} {signature : Signature}
    {key : PublicKey} (verifies : verifyStrict message signature key = true) :
    key.point?.isSome = true := by
  unfold verifyStrict at verifies
  split at verifies
  · next point _ decoded _ => rw [decoded]; rfl
  · contradiction

namespace Issuer

variable {issuer : Issuer} {key : IdentityKey} {attestation : IdentitySignature}

/-- The answer to a request gives what was issued, if the signature verifies. -/
theorem extracts_answer {secret : Montgomery.Secret} {request : ExtractRequest}
    (returned : request.returnKey = secret.publicKey)
    (verifies : (issuer.answer request).verifies issuer.seed.publicKey = true)
    (isKey : KeyMaterial.ofBytes issuer.key = .ok key)
    (isAttestation : KeyMaterial.ofBytes issuer.attestation = .ok attestation) :
    Envelope.Extracts secret request (issuer.answer request) issuer.seed.publicKey
      ⟨key, attestation⟩ := by
  have opens : Envelope.Opens secret (issuer.answer request).body.sealedKey issuer.key := by
    rw [answer, Signed.sign, returned]
    exact Envelope.opens_sealTo issuer.secret secret issuer.key
  have long : 48 ≤ (issuer.answer request).body.sealedKey.length := by
    rw [opens.length_eq]
    omega
  exact ⟨⟨rfl, rfl, long, verifies⟩, ⟨issuer.key, opens, isKey⟩, isAttestation⟩

/-- An honest issuer reads the request that a client posts and answers it. -/
theorem reply?_write {request : Signed ExtractRequest}
    (longTermPoint : request.body.longTermKey.point?.isSome = true)
    (serverPoint : request.body.serverKey.point?.isSome = true) :
    issuer.reply? request.write = some ⟨.success, (issuer.answer request.body).write⟩ := by
  rw [reply?, ExtractRequest.read_write request longTermPoint serverPoint]

end Issuer

/-- A client that is pinned to the key of an honest issuer posts a request that the issuer answers,
and with that answer the extraction ends with the key and the attestation that were issued, and
without a warning. The long-term key has to be the bytes of a point, as every public key is that
was read from bytes. -/
theorem Client.extraction_from_honest_issuer (client : Client) (issuer : Issuer) (round : UInt32)
    (draw : Octets 32) (rest : Randomness) {key : IdentityKey} {attestation : IdentitySignature}
    (pinned : client.identity.key = issuer.seed.publicKey)
    (longTermPoint : client.longTermKey.point?.isSome = true)
    (isKey : KeyMaterial.ofBytes issuer.key = .ok key)
    (isAttestation : KeyMaterial.ofBytes issuer.attestation = .ok attestation)
    (verifies : (issuer.answer (client.extractRequest round ⟨draw⟩).body).verifies
      issuer.seed.publicKey = true) :
    ∃ post reply, issuer.reply? post.body = some reply ∧ reply.status.code = 200 ∧
      let record := client.runStep ⟨.extract round, .ok reply⟩ (draw.toList ++ rest)
      record.post = some post ∧ post.path = "extract" ∧
        record.outcome = ⟨[.sending "extract" client.identity.address],
          .ok (.extracted ⟨key, attestation⟩)⟩ := by
  let request := client.extractRequest round ⟨draw⟩
  have serverPoint : request.body.serverKey.point?.isSome = true := by
    show client.identity.key.point?.isSome = true
    rw [pinned]
    exact Ed25519.isSome_point?_of_verifyStrict verifies
  have extracts := Issuer.extracts_answer rfl verifies isKey isAttestation
  rw [← pinned] at extracts
  refine ⟨Endpoint.post request, _, Issuer.reply?_write longTermPoint serverPoint, rfl, ?_, rfl, ?_⟩
  · exact post_runStep_extract _
  · exact extraction_of_extracts (ExtractReply.read_write _) extracts

/-- A client with quotes, a line break and a letter beyond ASCII in its username obtains the
generators of the two groups from an issuer. -/
theorem Client.extraction_of_generators :
    let issuer : Issuer :=
      { seed := ⟨.ofNat 32 1⟩
        secret := ⟨.ofNat 32 3⟩
        key := bigEndian 24 0x97f1d3a73197d7942695638c4fa9ac0fc3688c4f9774b905
          ++ bigEndian 24 0xa14e3a3f171bac586c55e83ff97a1aeffb3af00adb22c6bb
        attestation := bigEndian 24 0x93e02b6052719f607dacd3a088274f65596bd0d09920b61a
          ++ bigEndian 24 0xb5da61bbdc7f5049334cf11213945d57e5ac7d055d042b7e
          ++ bigEndian 24 0x024aa2b2f08f0a91260805272dc51051c6e47ad4fa403b02
          ++ bigEndian 24 0xb4510b647ae3d1770bac0326a805bbefd48056c8c121bdb8 }
    let client : Client :=
      { identity := ⟨"pkg.example:80", issuer.seed.publicKey, rfl⟩
        username := "zoë \"z\"\n"
        loginSeed := ⟨.ofNat 32 2⟩
        longTermKey := ⟨.zero 32⟩ }
    let draw : Octets 32 := .ofNat 32 5
    ∃ key attestation, KeyMaterial.ofBytes issuer.key = .ok key ∧
      KeyMaterial.ofBytes issuer.attestation = .ok attestation ∧
      ∃ post reply, issuer.reply? post.body = some reply ∧
        let record := client.runStep ⟨.extract 7, .ok reply⟩ (draw.toList ++ [])
        record.post = some post ∧ record.outcome.result = .ok (.extracted ⟨key, attestation⟩) := by
  intro issuer client draw
  obtain ⟨key, isKey⟩ := KeyMaterial.exists_ofBytes_eq (F := Base)
    (show (KeyMaterial.ofBytes issuer.key).isOk = true by decide +kernel)
  obtain ⟨attestation, isAttestation⟩ := KeyMaterial.exists_ofBytes_eq (F := Extension)
    (show (KeyMaterial.ofBytes issuer.attestation).isOk = true by decide +kernel)
  obtain ⟨post, reply, answered, -, posted, -, outcome⟩ :=
    client.extraction_from_honest_issuer issuer 7 draw [] rfl (by decide +kernel) isKey
      isAttestation (by decide +kernel)
  exact ⟨key, attestation, isKey, isAttestation, post, reply, answered, posted,
    congrArg Logged.result outcome⟩

end RoundKey
