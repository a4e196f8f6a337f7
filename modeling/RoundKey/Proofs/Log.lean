import RoundKey.Proofs.Isolation

/-!
# What calls report

A call that starts reports first that it sends its request. A warning follows exactly if the call is
an extraction whose reply was read and then refused, and the warning tells of the failure that the
call ends with. The check of the length comes before a box is opened, so the one refusal without a
warning is never met. A call that does not start reports nothing: neither a question, which fails,
nor an extraction, which aborts.
-/
namespace RoundKey

/-- Whether a call failed because a reply that was read breaks the protocol. -/
def ClientError.isViolation : ClientError → Bool
  | roundMismatch _ _ | usernameMismatch _ _ | shortCiphertext _ | invalidSignature
  | decryptionFailed | malformedKeyMaterial _ => true
  | transport _ _ | server _ | unparseableErrorBody _ _ | malformedReply _ | lowEntropy => false

/-- An event tells of a violation met in an extraction for a round. -/
inductive Event.TellsOf (round : UInt32) : Event → ClientError → Prop where
  /-- The reply is for another round. -/
  | wrongRound (actual : UInt32) :
    TellsOf round (.wrongRound round actual) (.roundMismatch round actual)
  /-- The reply is for another username. -/
  | wrongUsername (expected actual : String) :
    TellsOf round (.wrongUsername round) (.usernameMismatch expected actual)
  /-- The sealed key is too short. -/
  | shortCiphertext (length : Nat) :
    TellsOf round (.shortCiphertext round length) (.shortCiphertext length)
  /-- The reply is not signed by the server. -/
  | invalidSignature : TellsOf round (.invalidSignature round) .invalidSignature
  /-- The box does not open. -/
  | brokenBox : TellsOf round .brokenBox .decryptionFailed
  /-- The box holds no key. -/
  | malformedKey (fault : KeyMaterialFault) :
    TellsOf round (.malformedKey round fault) (.malformedKeyMaterial fault)
  /-- The attestation is no point. -/
  | malformedAttestation (fault : KeyMaterialFault) :
    TellsOf round (.malformedAttestation round fault) (.malformedKeyMaterial fault)

/-- An event that tells of a violation is a warning. -/
theorem Event.TellsOf.level_eq {round : UInt32} {event : Event} {error : ClientError}
    (tells : event.TellsOf round error) : event.level = .warn := by
  cases tells <;> rfl

/-- What an event tells of is a violation. -/
theorem Event.TellsOf.isViolation {round : UInt32} {event : Event} {error : ClientError}
    (tells : event.TellsOf round error) : error.isViolation = true := by
  cases tells <;> rfl

/-- A refused reply has a warning, which tells of its failure. -/
theorem Envelope.Refuses.exists_event {secret : Montgomery.Secret} {request : ExtractRequest}
    {reply : Signed ExtractReply} {key : Ed25519.PublicKey} {refusal : Refusal}
    (refuses : Refuses secret request reply key refusal) :
    ∃ event, refusal.event? request.round = some event ∧
      event.TellsOf request.round refusal.error := by
  cases refuses with
  | wrongRound round => exact ⟨_, rfl, .wrongRound _⟩
  | wrongUsername round username => exact ⟨_, rfl, .wrongUsername _ _⟩
  | shortCiphertext round username short => exact ⟨_, rfl, .shortCiphertext _⟩
  | invalidSignature round username long isUnsigned => exact ⟨_, rfl, .invalidSignature⟩
  | brokenBox answers broken => exact ⟨_, rfl, .brokenBox⟩
  | malformedKey answers opens malformed => exact ⟨_, rfl, .malformedKey _⟩
  | malformedAttestation answers opens read malformed => exact ⟨_, rfl, .malformedAttestation _⟩

/-- A call that received no answer was sent and met no violation. -/
theorem Endpoint.receive_eq_error {Request Answer : Type} [Endpoint Request Answer]
    {identity : ServerIdentity} {delivery : Delivery} {error : ClientError}
    (failed : receive Request identity delivery = .error error) :
    error ≠ .lowEntropy ∧ error.isViolation = false := by
  unfold receive at failed
  split at failed
  · cases failed
    simp [ClientError.isViolation]
  · unfold decodeReply at failed
    split at failed
    all_goals
      split at failed
      all_goals
        cases failed
        try simp [ClientError.isViolation]

namespace Client

/-- What a call reports that starts, and what it comes to. -/
inductive Reports (client : Client) (call : Call) : Logged CallUpshot → Prop where
  /-- It sends its request and succeeds, and reports nothing more. -/
  | succeeded (success : Success) :
    Reports client call ⟨[.sending call.path client.identity.address], .ok success⟩
  /-- It sends its request and fails without a violation, and reports nothing more. -/
  | failed {error : ClientError} (other : error ≠ .lowEntropy)
    (peaceful : error.isViolation = false) :
    Reports client call ⟨[.sending call.path client.identity.address], .error error⟩
  /-- It is an extraction that meets a violation, and warns of it. -/
  | warned {round : UInt32} {warning : Event} {error : ClientError}
    (extracts : call = .extract round) (tells : warning.TellsOf round error) :
    Reports client call ⟨[.sending call.path client.identity.address, warning], .error error⟩

variable {client : Client}

/-- A call whose answer is not looked at meets no violation. -/
theorem reports_acknowledged (Request : Type) {Answer : Type} [Endpoint Request Answer]
    {call : Call} (path : Endpoint.path Request = call.path) (delivery : Delivery) :
    client.Reports call (acknowledged (Endpoint.send Request client.identity delivery)) := by
  rw [acknowledged, Endpoint.send, path]
  cases received : Endpoint.receive Request client.identity delivery with
  | ok answer => exact .succeeded .done
  | error fault =>
    obtain ⟨other, peaceful⟩ := Endpoint.receive_eq_error received
    exact .failed other peaceful

/-- An extraction warns exactly if its reply is read and then refused. -/
theorem reports_finish_extract (round : UInt32) (secret : Montgomery.Secret)
    (delivery : Delivery) :
    client.Reports (.extract round)
      (client.finish delivery (.extract secret (client.extractRequest round secret))) := by
  rw [finish, finishExtract, Endpoint.send]
  cases received : Endpoint.receive (Signed ExtractRequest) client.identity delivery with
  | error fault =>
    obtain ⟨other, peaceful⟩ := Endpoint.receive_eq_error received
    exact .failed other peaceful
  | ok reply =>
    rcases Envelope.extracts_or_refuses secret (client.extractRequest round secret).body reply
      client.identity.key with ⟨extracted, extracts⟩ | ⟨refusal, refuses⟩
    · simp only [Envelope.extractLogged, extracts.extract_eq, List.append_nil]
      exact .succeeded (.extracted extracted)
    · obtain ⟨event, shown, tells⟩ := refuses.exists_event
      simp only [Envelope.extractLogged, refuses.extract_eq, shown]
      exact .warned rfl tells

/-- A call that starts reports what fits what it comes to. -/
theorem reports_finish {call : Call} {before rest : Randomness} {pending : Pending}
    (started : client.start? call before = some (pending, rest)) (delivery : Delivery) :
    client.Reports call (client.finish delivery pending) := by
  cases call with
  | register =>
    cases started
    exact reports_acknowledged RegisterRequest rfl delivery
  | verify token =>
    cases started
    exact reports_acknowledged (Signed VerifyRequest) rfl delivery
  | status =>
    obtain ⟨nonce, -, rfl⟩ := start?_status_eq_some_iff.mp started
    exact reports_acknowledged (Signed StatusRequest) rfl delivery
  | extract round =>
    obtain ⟨secret, -, rfl⟩ := start?_extract_eq_some_iff.mp started
    exact reports_finish_extract round secret delivery

/-- A call that starts neither aborts nor fails for want of random bytes. -/
theorem Reports.starts {call : Call} {logged : Logged CallUpshot}
    (reports : client.Reports call logged) :
    logged.result ≠ .aborted ∧ logged.result ≠ .error .lowEntropy := by
  cases reports with
  | succeeded success => simp
  | failed other peaceful => simpa using other
  | warned extracts tells => cases tells <;> simp

/-- A step fails for want of random bytes exactly if it is a question that finds too few, and aborts
exactly if it is an extraction that finds too few. -/
theorem runStep_starved_iff (client : Client) (step : Step) (before : Randomness) :
    let result := (client.runStep step before).outcome.result
    (result = .error .lowEntropy ↔ step.call = .status ∧ before.length < 32) ∧
    (result = .aborted ↔ (∃ round, step.call = .extract round) ∧ before.length < 32) := by
  intro result
  cases started : client.start? step.call before with
  | none =>
    have undrawn : result = step.call.undrawn :=
      congrArg (fun record => record.outcome.result) (runStep_of_none started)
    obtain ⟨few, ⟨isStatus, fails⟩ | ⟨⟨round, isExtract⟩, aborts⟩⟩ :=
      undrawn_of_start?_eq_none started
    · rw [undrawn, fails, isStatus]
      simp [few]
    · rw [undrawn, aborts, isExtract]
      simp [few]
  | some found =>
    obtain ⟨pending, rest⟩ := found
    have ended : result = (client.finish step.delivery pending).result :=
      congrArg (fun record => record.outcome.result) (runStep_of_some started)
    have starts := (reports_finish started step.delivery).starts
    have enough : ¬(step.call.draws = true ∧ before.length < 32) := by
      intro few
      have unstarted : client.start? step.call before = none := start?_eq_none_iff.mpr few
      rw [started] at unstarted
      contradiction
    rw [ended]
    refine ⟨iff_of_false starts.2 fun starved => ?_, iff_of_false starts.1 fun starved => ?_⟩
    · obtain ⟨isStatus, few⟩ := starved
      exact enough ⟨by rw [isStatus]; rfl, few⟩
    · obtain ⟨⟨round, isExtract⟩, few⟩ := starved
      exact enough ⟨by rw [isExtract]; rfl, few⟩

/-- What a call reports, for what it comes to. -/
structure LogMatches (client : Client) (call : Call) (outcome : Logged CallUpshot) : Prop where
  /-- If it ends for want of random bytes, with a failure or without, it reports nothing. -/
  starved : outcome.result = .error .lowEntropy ∨ outcome.result = .aborted → outcome.events = []
  /-- If it ends with a violation, it is an extraction, and reports that it sends its request and
  one warning, which tells of that violation. -/
  warned : ∀ error, outcome.result = .error error → error.isViolation = true →
    ∃ round warning, call = .extract round ∧
      outcome.events = [.sending call.path client.identity.address, warning] ∧
      warning.level = .warn ∧ warning.TellsOf round error
  /-- If it ends in any other way, it reports that it sends its request, and nothing more. -/
  sent : outcome.result ≠ .aborted →
    (∀ error, outcome.result = .error error → error ≠ .lowEntropy ∧ error.isViolation = false) →
    outcome.events = [.sending call.path client.identity.address]

/-- What a call reports that starts matches what it comes to. -/
theorem Reports.logMatches {call : Call} {outcome : Logged CallUpshot}
    (reports : client.Reports call outcome) : client.LogMatches call outcome := by
  have starts := reports.starts
  constructor
  case starved => exact fun starves => absurd starves (not_or.mpr starts.symm)
  case warned =>
    intro error same violates
    cases reports with
    | succeeded success => contradiction
    | failed other peaceful =>
      cases same
      rw [peaceful] at violates
      contradiction
    | warned extracts tells =>
      cases same
      exact ⟨_, _, extracts, rfl, tells.level_eq, tells⟩
  case sent =>
    intro _ peaceful
    cases reports with
    | succeeded success => rfl
    | failed other peaceful => rfl
    | warned extracts tells =>
      have violates := (peaceful _ rfl).2
      rw [tells.isViolation] at violates
      contradiction

/-- What a call reports that does not start matches what it comes to. -/
theorem logMatches_of_start?_eq_none {call : Call} {before : Randomness}
    (unstarted : client.start? call before = none) :
    client.LogMatches call ⟨[], call.undrawn⟩ := by
  constructor
  case starved => exact fun _ => rfl
  case warned =>
    intro error failed violates
    cases Call.eq_lowEntropy_of_undrawn failed
    contradiction
  case sent =>
    intro returns peaceful
    obtain ⟨-, ⟨-, fails⟩ | ⟨-, aborts⟩⟩ := undrawn_of_start?_eq_none unstarted
    · exact absurd rfl (peaceful _ fails).1
    · exact absurd aborts returns

/-- A call that ends for want of random bytes reports nothing. Every other call reports first that
it sends a request to its path at the address of the server. If it ends with a violation, it is an
extraction and reports one warning more, which tells of that violation; if it ends in any other way,
it reports nothing more. The calls that end for want of random bytes are the questions that find too
few of them, which fail, and the extractions that find too few, which abort. -/
theorem log_matches_outcome (client : Client) (step : Step) (before : Randomness) :
    let outcome := (client.runStep step before).outcome
    let sent := Event.sending step.call.path client.identity.address
    (sent.level = .debug ∧
      sent.fields = [("endpoint", step.call.path), ("address", client.identity.address)]) ∧
    client.LogMatches step.call outcome ∧
    (outcome.result = .error .lowEntropy ↔ step.call = .status ∧ before.length < 32) ∧
    (outcome.result = .aborted ↔ (∃ round, step.call = .extract round) ∧ before.length < 32) := by
  intro outcome sent
  refine ⟨⟨rfl, rfl⟩, ?_, client.runStep_starved_iff step before⟩
  show client.LogMatches step.call (client.runStep step before).outcome
  cases started : client.start? step.call before with
  | none =>
    rw [runStep_of_none started]
    exact logMatches_of_start?_eq_none started
  | some found =>
    obtain ⟨pending, rest⟩ := found
    rw [runStep_of_some started]
    exact (reports_finish started step.delivery).logMatches

/-- A question without random bytes fails and an extraction without them aborts, and neither reports
anything. A registration whose connection fails reports that it was sent, and an extraction whose
reply is for another round warns. -/
theorem log_of_four_calls :
    let client : Client :=
      ⟨⟨"pkg.example:80", ⟨.zero 32⟩, rfl⟩, "alice", ⟨.zero 32⟩, ⟨.zero 32⟩⟩
    let draw : Octets 32 := .ofNat 32 5
    let reply : Signed ExtractReply := ⟨⟨8, "alice", [], []⟩, ⟨.zero 64⟩⟩
    let dry := (client.runStep ⟨.status, .error .request⟩ []).outcome
    let aborted := (client.runStep ⟨.extract 7, .error .request⟩ []).outcome
    let failed := (client.runStep ⟨.register, .error .connection⟩ []).outcome
    let refused :=
      (client.runStep ⟨.extract 7, .ok ⟨⟨200⟩, reply.write⟩⟩ (draw.toList ++ [])).outcome
    (dry.result = .error .lowEntropy ∧ dry.events = []) ∧
    (aborted.result = .aborted ∧ aborted.events = []) ∧
    failed.events = [.sending "register" "pkg.example:80"] ∧
    refused.result = .error (.roundMismatch 7 8) ∧
    ∃ warning, refused.events = [.sending "extract" "pkg.example:80", warning] ∧
      warning.level = .warn := by
  intro client draw reply dry aborted failed refused
  obtain ⟨-, ofDry, ⟨-, fails⟩, -⟩ := client.log_matches_outcome ⟨.status, .error .request⟩ []
  obtain ⟨-, ofAborted, -, ⟨-, aborts⟩⟩ :=
    client.log_matches_outcome ⟨.extract 7, .error .request⟩ []
  obtain ⟨-, ofFailed, -⟩ := client.log_matches_outcome ⟨.register, .error .connection⟩ []
  obtain ⟨-, ofRefused, -⟩ :=
    client.log_matches_outcome ⟨.extract 7, .ok ⟨⟨200⟩, reply.write⟩⟩ (draw.toList ++ [])
  have isDry : dry.result = .error .lowEntropy := fails ⟨rfl, by decide⟩
  have isAborted : aborted.result = .aborted := aborts ⟨⟨7, rfl⟩, by decide⟩
  have sent : failed.events = [.sending "register" "pkg.example:80"] := by
    apply ofFailed.sent nofun
    intro error same
    cases same
    simp [ClientError.isViolation]
  have refusedFor : refused.result = .error (.roundMismatch 7 8) :=
    congrArg Logged.result
      (extraction_of_refuses (ExtractReply.read_write reply) (.wrongRound (by decide)))
  obtain ⟨round, warning, -, events, level, -⟩ := ofRefused.warned _ refusedFor rfl
  exact ⟨⟨isDry, ofDry.starved (.inl isDry)⟩, ⟨isAborted, ofAborted.starved (.inr isAborted)⟩, sent,
    refusedFor, warning, events, level⟩

end Client

end RoundKey
