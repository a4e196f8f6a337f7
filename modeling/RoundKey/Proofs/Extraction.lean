import RoundKey.Proofs.Envelope
import RoundKey.Proofs.Message
import RoundKey.Session

/-!
# Extractions

An extraction gives a key exactly if a successful reply came back, was read, answers the request
and holds the key; otherwise it fails for the first of these that does not hold. A reply that does
not answer the request is refused before its box is opened and before its key and its attestation
are decoded, so what is in them, and the secret it would be opened with, leave no trace in the
failure or in the log.
-/
namespace RoundKey.Client

open Pairing

/-- What an extraction reports and how it ends, when these bytes are drawn for it. -/
def extraction (client : Client) (round : UInt32) (draw : Octets 32) (rest : Randomness)
    (delivery : Delivery) : Logged CallUpshot :=
  (client.runStep ⟨.extract round, delivery⟩ (draw.toList ++ rest)).outcome

/-- An extraction fails for the first thing that is wrong. -/
inductive ExtractionFails (client : Client) (round : UInt32) (draw : Octets 32) :
    Delivery → ClientError → Prop where
  /-- No reply came back. -/
  | transport (fault : ChannelFault) :
    ExtractionFails client round draw (.error fault)
      (.transport ("https://" ++ client.identity.address ++ "/extract") fault)
  /-- The server refused and said why. -/
  | server {status : Status} {body : List UInt8} {error : ServerError}
    (failed : status.code ≠ 200) (read : Message.read body = .ok error) :
    ExtractionFails client round draw (.ok ⟨status, body⟩) (.server error)
  /-- The server failed without saying why. -/
  | unparseable {status : Status} {body : List UInt8} {fault : Json.Fault}
    (failed : status.code ≠ 200) (read : Message.read (M := ServerError) body = .error fault) :
    ExtractionFails client round draw (.ok ⟨status, body⟩)
      (.unparseableErrorBody status (Text.ofUtf8Lossy body))
  /-- The reply was not read. -/
  | malformed {body : List UInt8} {fault : Json.Fault}
    (read : Signed.read (M := ExtractReply) body = .error fault) :
    ExtractionFails client round draw (.ok ⟨⟨200⟩, body⟩) (.malformedReply fault)
  /-- The reply was read and refused. -/
  | refused {body : List UInt8} {reply : Signed ExtractReply} {refusal : Refusal}
    (read : Signed.read body = .ok reply)
    (refuses : Envelope.Refuses ⟨draw⟩ (client.extractRequest round ⟨draw⟩).body reply
      client.identity.key refusal) :
    ExtractionFails client round draw (.ok ⟨⟨200⟩, body⟩) refusal.error

variable {client : Client} {round : UInt32} {draw : Octets 32} {rest : Randomness}

/-- An extraction posts the request with the bytes drawn for it. -/
theorem post_runStep_extract (delivery : Delivery) :
    (client.runStep ⟨.extract round, delivery⟩ (draw.toList ++ rest)).post =
      some (Endpoint.post (client.extractRequest round ⟨draw⟩)) := by
  have drawn : draw? (draw.toList ++ rest) = some (draw, rest) := draw?_eq_some_iff.mpr rfl
  simp only [runStep, start?, drawn, Option.map_some, Pending.post]

/-- An extraction takes what comes back for that request. -/
theorem extraction_eq (delivery : Delivery) :
    client.extraction round draw rest delivery =
      client.finishExtract ⟨draw⟩ (client.extractRequest round ⟨draw⟩)
        (Endpoint.send (Signed ExtractRequest) client.identity delivery) := by
  have drawn : draw? (draw.toList ++ rest) = some (draw, rest) := draw?_eq_some_iff.mpr rfl
  simp only [extraction, runStep, start?, drawn, Option.map_some, finish]

/-- An extraction that received no reply reports only that it sent its request. -/
theorem extraction_of_receive_error {delivery : Delivery} {error : ClientError}
    (received : Endpoint.receive (Signed ExtractRequest) client.identity delivery = .error error) :
    client.extraction round draw rest delivery =
      ⟨[.sending "extract" client.identity.address], .error error⟩ := by
  simp only [extraction_eq, Endpoint.send, received, finishExtract]
  rfl

/-- A reply without the status of a success is received as a failure of the server. -/
theorem receive_of_failed {identity : ServerIdentity} {status : Status} {body : List UInt8}
    (failed : status.code ≠ 200) :
    Endpoint.receive (Signed ExtractRequest) identity (.ok ⟨status, body⟩) =
      match Message.read (M := ServerError) body with
      | .ok error => .error (.server error)
      | .error _ => .error (.unparseableErrorBody status (Text.ofUtf8Lossy body)) := by
  have other : status ≠ .success := fun same => failed (congrArg Status.code same)
  cases read : Message.read (M := ServerError) body <;>
    simp only [Endpoint.receive, decodeReply, if_neg other, read]

/-- A successful reply is received as what is read of it. -/
theorem receive_of_succeeded {identity : ServerIdentity} {body : List UInt8} :
    Endpoint.receive (Signed ExtractRequest) identity (.ok ⟨⟨200⟩, body⟩) =
      match Signed.read (M := ExtractReply) body with
      | .ok reply => .ok reply
      | .error fault => .error (.malformedReply fault) := by
  have readReply : Endpoint.readReply (Signed ExtractRequest) body = Signed.read body := rfl
  cases read : Signed.read (M := ExtractReply) body <;>
    simp only [Endpoint.receive, decodeReply, Status.success, ↓reduceIte, readReply, read]

/-- A reply that was read is handed to the envelope of the request. -/
theorem extraction_of_read {body : List UInt8} {reply : Signed ExtractReply}
    (read : Signed.read body = .ok reply) :
    client.extraction round draw rest (.ok ⟨⟨200⟩, body⟩) =
      let opened := Envelope.extractLogged ⟨draw⟩ (client.extractRequest round ⟨draw⟩).body reply
        client.identity.key
      ⟨.sending "extract" client.identity.address :: opened.events,
        .ofExcept (opened.result.map .extracted)⟩ := by
  simp only [extraction_eq, Endpoint.send, receive_of_succeeded, read, finishExtract]
  rfl

/-- A reply that holds a key gives the key, and nothing is reported about it. -/
theorem extraction_of_extracts {body : List UInt8} {reply : Signed ExtractReply}
    {extracted : ExtractedKey} (read : Signed.read body = .ok reply)
    (extracts : Envelope.Extracts ⟨draw⟩ (client.extractRequest round ⟨draw⟩).body reply
      client.identity.key extracted) :
    client.extraction round draw rest (.ok ⟨⟨200⟩, body⟩) =
      ⟨[.sending "extract" client.identity.address], .ok (.extracted extracted)⟩ := by
  rw [extraction_of_read read, Envelope.extractLogged, extracts.extract_eq]
  rfl

/-- A reply that is refused gives the failure and the warning of its refusal. -/
theorem extraction_of_refuses {body : List UInt8} {reply : Signed ExtractReply}
    {refusal : Refusal} (read : Signed.read body = .ok reply)
    (refuses : Envelope.Refuses ⟨draw⟩ (client.extractRequest round ⟨draw⟩).body reply
      client.identity.key refusal) :
    client.extraction round draw rest (.ok ⟨⟨200⟩, body⟩) =
      ⟨.sending "extract" client.identity.address :: (refusal.event? round).toList,
        .error refusal.error⟩ := by
  rw [extraction_of_read read, Envelope.extractLogged, refuses.extract_eq]
  rfl

/-- An extraction that fails ends with that failure. -/
theorem ExtractionFails.result_eq {delivery : Delivery} {error : ClientError}
    (fails : client.ExtractionFails round draw delivery error) :
    (client.extraction round draw rest delivery).result = .error error := by
  cases fails with
  | transport fault =>
    have located : client.identity.url "extract" =
        "https://" ++ client.identity.address ++ "/extract" := by
      rw [ServerIdentity.url, String.append_assoc]
      rfl
    rw [← located, extraction_of_receive_error]
    rfl
  | server failed read =>
    rw [extraction_of_receive_error (by rw [receive_of_failed failed, read])]
  | unparseable failed read =>
    rw [extraction_of_receive_error (by rw [receive_of_failed failed, read])]
  | malformed read =>
    rw [extraction_of_receive_error (by rw [receive_of_succeeded, read])]
  | refused read refuses => rw [extraction_of_refuses read refuses]

/-- Every extraction gives a key or fails. -/
theorem extracts_or_fails (client : Client) (round : UInt32) (draw : Octets 32)
    (delivery : Delivery) :
    (∃ body reply extracted, delivery = .ok ⟨⟨200⟩, body⟩ ∧ Signed.read body = .ok reply ∧
      Envelope.Extracts ⟨draw⟩ (client.extractRequest round ⟨draw⟩).body reply
        client.identity.key extracted) ∨
      ∃ error, client.ExtractionFails round draw delivery error := by
  rcases delivery with fault | ⟨status, body⟩
  · exact .inr ⟨_, .transport fault⟩
  by_cases succeeded : status.code = 200
  case neg =>
    cases read : Message.read (M := ServerError) body with
    | ok error => exact .inr ⟨_, .server succeeded read⟩
    | error fault => exact .inr ⟨_, .unparseable succeeded read⟩
  obtain ⟨code⟩ := status
  cases succeeded
  cases read : Signed.read (M := ExtractReply) body with
  | error fault => exact .inr ⟨_, .malformed read⟩
  | ok reply =>
    rcases Envelope.extracts_or_refuses ⟨draw⟩ (client.extractRequest round ⟨draw⟩).body reply
      client.identity.key with ⟨extracted, extracts⟩ | ⟨refusal, refuses⟩
    · exact .inl ⟨body, reply, extracted, rfl, read, extracts⟩
    · exact .inr ⟨_, .refused read refuses⟩

/-- An extraction succeeds exactly with the key that a successful reply gives. -/
theorem result_eq_ok_iff {delivery : Delivery} {success : Success} :
    (client.extraction round draw rest delivery).result = .ok success ↔
      ∃ body reply extracted, delivery = .ok ⟨⟨200⟩, body⟩ ∧ Signed.read body = .ok reply ∧
        Envelope.Extracts ⟨draw⟩ (client.extractRequest round ⟨draw⟩).body reply
          client.identity.key extracted ∧ success = .extracted extracted := by
  constructor
  · intro succeeded
    rcases extracts_or_fails client round draw delivery with
      ⟨body, reply, extracted, rfl, read, extracts⟩ | ⟨error, fails⟩
    · rw [extraction_of_extracts read extracts] at succeeded
      cases succeeded
      exact ⟨body, reply, extracted, rfl, read, extracts, rfl⟩
    · cases fails.result_eq.symm.trans succeeded
  · rintro ⟨body, reply, extracted, rfl, read, extracts, rfl⟩
    rw [extraction_of_extracts read extracts]

/-- An extraction fails exactly for the first thing that is wrong. -/
theorem result_eq_error_iff {delivery : Delivery} {error : ClientError} :
    (client.extraction round draw rest delivery).result = .error error ↔
      client.ExtractionFails round draw delivery error := by
  constructor
  · intro failed
    rcases extracts_or_fails client round draw delivery with
      ⟨body, reply, extracted, rfl, read, extracts⟩ | ⟨actual, fails⟩
    · rw [extraction_of_extracts read extracts] at failed
      cases failed
    · cases fails.result_eq.symm.trans failed
      exact fails
  · exact ExtractionFails.result_eq

/-- An extraction that has drawn its bytes does not abort. -/
theorem result_ne_aborted {delivery : Delivery} :
    (client.extraction round draw rest delivery).result ≠ .aborted := by
  rcases extracts_or_fails client round draw delivery with
    ⟨body, reply, extracted, rfl, read, extracts⟩ | ⟨error, fails⟩
  · rw [extraction_of_extracts read extracts]
    intro aborted
    contradiction
  · rw [fails.result_eq]
    intro aborted
    contradiction

/-- An extraction succeeds exactly if a reply with status 200 came back whose body is a signed
reply for the round and the username, at least 48 bytes long, strictly signed by the server of the
client, with a box that opens under the secret of this call to a key, and with an attestation that
is a point; it gives that key and that attestation, and both had 96 bytes in the reply. In every
other case it fails for the first of these that does not hold. With the bytes drawn it never
aborts. -/
theorem extraction_exact (client : Client) (round : UInt32) (draw : Octets 32)
    (rest : Randomness) (delivery : Delivery) :
    let result := (client.extraction round draw rest delivery).result
    (∀ success, result = .ok success ↔
      ∃ (body : List UInt8) (reply : Signed ExtractReply) (sender : Montgomery.PublicKey)
        (box message : List UInt8) (key : IdentityKey) (attestation : IdentitySignature),
        delivery = .ok ⟨⟨200⟩, body⟩ ∧
        Signed.read body = .ok reply ∧
        reply.body.round = round ∧
        reply.body.username = client.username ∧
        48 ≤ reply.body.sealedKey.length ∧
        Ed25519.verifyStrict (canonical reply.body) reply.signature client.identity.key = true ∧
        reply.body.sealedKey = sender.octets.toList ++ box ∧
        Box.openUnder (Box.sharedKey ⟨draw⟩ sender) (Octets.zero 24) box = some message ∧
        KeyMaterial.ofBytes message = .ok key ∧
        KeyMaterial.ofBytes reply.body.identitySignature = .ok attestation ∧
        success = .extracted ⟨key, attestation⟩) ∧
    (∀ success, result = .ok success →
      ∃ (body : List UInt8) (reply : Signed ExtractReply),
        delivery = .ok ⟨⟨200⟩, body⟩ ∧ Signed.read body = .ok reply ∧
        reply.body.sealedKey.length = 96 ∧ reply.body.identitySignature.length = 96) ∧
    (∀ error, result = .error error ↔ client.ExtractionFails round draw delivery error) ∧
    result ≠ .aborted := by
  refine ⟨fun success => ⟨?_, ?_⟩, ?_, fun error => result_eq_error_iff, result_ne_aborted⟩
  · intro succeeded
    obtain ⟨body, reply, ⟨key, attestation⟩, rfl, read, extracts, rfl⟩ :=
      result_eq_ok_iff.mp succeeded
    obtain ⟨answers, ⟨message, ⟨sender, box, parts, opened⟩, key⟩, attested⟩ := extracts
    exact ⟨body, reply, sender, box, message, _, attestation, rfl, read, answers.round,
      answers.username, answers.long, answers.isSigned, parts, opened, key, attested, rfl⟩
  · rintro ⟨body, reply, sender, box, message, key, attestation, rfl, read, sameRound, username,
      long, isSigned, parts, opened, decoded, attested, rfl⟩
    have answers : Envelope.Answers (client.extractRequest round ⟨draw⟩).body reply
        client.identity.key := ⟨sameRound, username, long, isSigned⟩
    have opens : Envelope.Opens ⟨draw⟩ reply.body.sealedKey message :=
      ⟨sender, box, parts, opened⟩
    exact result_eq_ok_iff.mpr ⟨body, reply, ⟨key, attestation⟩, rfl, read,
      ⟨answers, ⟨message, opens, decoded⟩, attested⟩, rfl⟩
  · intro success succeeded
    obtain ⟨body, reply, extracted, rfl, read, extracts, rfl⟩ := result_eq_ok_iff.mp succeeded
    exact ⟨body, reply, rfl, read, extracts.length_eq⟩

/-- Two extractions whose replies are refused alike report and fail alike, whatever was drawn for
them. -/
theorem extraction_alike {draw' : Octets 32} {rest' : Randomness} {body body' : List UInt8}
    {reply reply' : Signed ExtractReply} {refusal : Refusal} (read : Signed.read body = .ok reply)
    (read' : Signed.read body' = .ok reply')
    (refuses : Envelope.Refuses ⟨draw⟩ (client.extractRequest round ⟨draw⟩).body reply
      client.identity.key refusal)
    (refuses' : Envelope.Refuses ⟨draw'⟩ (client.extractRequest round ⟨draw'⟩).body reply'
      client.identity.key refusal) :
    client.extraction round draw' rest' (.ok ⟨⟨200⟩, body'⟩) =
        client.extraction round draw rest (.ok ⟨⟨200⟩, body⟩) ∧
      client.extraction round draw rest (.ok ⟨⟨200⟩, body⟩) =
        ⟨.sending "extract" client.identity.address :: (refusal.event? round).toList,
          .error refusal.error⟩ := by
  rw [extraction_of_refuses read refuses, extraction_of_refuses read' refuses']
  exact ⟨rfl, rfl⟩

/-- Two extractions of one round for one client whose replies were read report and fail alike, if
both replies fail the same check in the same way. What either reply holds beyond that check, and
the secret drawn for either call, has no part in it: not the username, the sealed key, the
attestation and the signature in a reply for another round, and not the sealed key and the
attestation in a reply that the server did not sign. -/
theorem extraction_independent (client : Client) (round : UInt32) (draw draw' : Octets 32)
    (rest rest' : Randomness) {body body' : List UInt8} {reply reply' : Signed ExtractReply}
    (read : Signed.read body = .ok reply) (read' : Signed.read body' = .ok reply') :
    let sent := Event.sending "extract" client.identity.address
    let outcome := client.extraction round draw rest (.ok ⟨⟨200⟩, body⟩)
    let outcome' := client.extraction round draw' rest' (.ok ⟨⟨200⟩, body'⟩)
    let isForUser (reply : Signed ExtractReply) :=
      reply.body.round = round ∧ reply.body.username = client.username
    (reply.body.round ≠ round ∧ reply'.body.round = reply.body.round →
      outcome' = outcome ∧
      outcome = ⟨[sent, .wrongRound round reply.body.round],
        .error (.roundMismatch round reply.body.round)⟩) ∧
    (reply.body.round = round ∧ reply'.body.round = round ∧
        reply.body.username ≠ client.username ∧
        reply'.body.username = reply.body.username →
      outcome' = outcome ∧
      outcome = ⟨[sent, .wrongUsername round],
        .error (.usernameMismatch client.username reply.body.username)⟩) ∧
    (isForUser reply ∧ isForUser reply' ∧ reply.body.sealedKey.length < 48 ∧
        reply'.body.sealedKey.length = reply.body.sealedKey.length →
      outcome' = outcome ∧
      outcome = ⟨[sent, .shortCiphertext round reply.body.sealedKey.length],
        .error (.shortCiphertext reply.body.sealedKey.length)⟩) ∧
    (isForUser reply ∧ isForUser reply' ∧
        48 ≤ reply.body.sealedKey.length ∧ 48 ≤ reply'.body.sealedKey.length ∧
        reply.verifies client.identity.key = false ∧
        reply'.verifies client.identity.key = false →
      outcome' = outcome ∧
      outcome = ⟨[sent, .invalidSignature round], .error .invalidSignature⟩) := by
  refine ⟨?_, ?_, ?_, ?_⟩
  · rintro ⟨other, same⟩
    exact extraction_alike read read' (.wrongRound other) (same ▸ .wrongRound (same ▸ other))
  · rintro ⟨sameRound, sameRound', other, same⟩
    exact extraction_alike read read' (.wrongUsername sameRound other)
      (same ▸ .wrongUsername sameRound' (same ▸ other))
  · rintro ⟨⟨sameRound, username⟩, ⟨sameRound', username'⟩, short, same⟩
    exact extraction_alike read read' (.shortCiphertext sameRound username short)
      (same ▸ .shortCiphertext sameRound' username' (same ▸ short))
  · rintro ⟨⟨sameRound, username⟩, ⟨sameRound', username'⟩, long, long', isUnsigned, isUnsigned'⟩
    exact extraction_alike read read'
      (.invalidSignature sameRound username long isUnsigned)
      (.invalidSignature sameRound' username' long' isUnsigned')

/-- Replies that differ in everything behind the check they fail, and secrets that differ too,
leave the same outcome, for each of the four checks. -/
theorem extraction_independent_four_checks :
    let client : Client :=
      ⟨⟨"pkg.example:80", ⟨.zero 32⟩, rfl⟩, "alice", ⟨.zero 32⟩, ⟨.zero 32⟩⟩
    let reply (round : UInt32) (username : String) (length : Nat) (fill : UInt8) :
        Signed ExtractReply :=
      ⟨⟨round, username, List.replicate length fill, [fill]⟩,
        ⟨⟨List.replicate 64 fill, List.length_replicate⟩⟩⟩
    let outcome (secret : Nat) (reply : Signed ExtractReply) :=
      client.extraction 7 (.ofNat 32 secret) [] (.ok ⟨⟨200⟩, reply.write⟩)
    outcome 2 (reply 8 "bob" 96 1) = outcome 1 (reply 8 "alice" 0 0) ∧
    outcome 2 (reply 7 "bob" 96 1) = outcome 1 (reply 7 "bob" 0 0) ∧
    outcome 2 (reply 7 "alice" 47 1) = outcome 1 (reply 7 "alice" 47 0) ∧
    (reply 7 "alice" 48 0).verifies client.identity.key = false ∧
    (reply 7 "alice" 96 1).verifies client.identity.key = false ∧
    outcome 2 (reply 7 "alice" 96 1) = outcome 1 (reply 7 "alice" 48 0) := by
  intro client reply outcome
  have isUnsigned : (reply 7 "alice" 48 0).verifies client.identity.key = false := by
    decide +kernel
  have isUnsigned' : (reply 7 "alice" 96 1).verifies client.identity.key = false := by
    decide +kernel
  have independent (first second : Signed ExtractReply) :=
    extraction_independent client 7 (.ofNat 32 1) (.ofNat 32 2) [] []
      (ExtractReply.read_write first) (ExtractReply.read_write second)
  have otherRound := (independent (reply 8 "alice" 0 0) (reply 8 "bob" 96 1)).1
  have otherUser := (independent (reply 7 "bob" 0 0) (reply 7 "bob" 96 1)).2.1
  have short := (independent (reply 7 "alice" 47 0) (reply 7 "alice" 47 1)).2.2.1
  have forged := (independent (reply 7 "alice" 48 0) (reply 7 "alice" 96 1)).2.2.2
  exact ⟨(otherRound (by decide)).1, (otherUser (by decide)).1, (short (by decide)).1,
    isUnsigned, isUnsigned',
    (forged ⟨by decide, by decide, by decide, by decide, isUnsigned, isUnsigned'⟩).1⟩

end RoundKey.Client
