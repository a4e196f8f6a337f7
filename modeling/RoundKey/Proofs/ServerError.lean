import RoundKey.Proofs.Client
import RoundKey.Proofs.MemberOrder

/-!
# Errors of a server

A call returns an error of the server exactly if its reply has another status than that of a success
and its body holds that error. The body may say more than the error, and may say it in any order and
in any form.
-/
namespace RoundKey

open RoundKey.Data

/-- A name means the class that has it as its own, and the unknown class if none has. -/
def ErrorCode.IsMeantBy (code : ErrorCode) (name : String) : Prop :=
  (code ∈ named ∧ code.name = name) ∨
    (code = unknown ∧ ∀ other ∈ named, other.name ≠ name)

/-- A name means exactly the class that is read from it. -/
theorem ErrorCode.isMeantBy_iff {code : ErrorCode} {name : String} :
    code.IsMeantBy name ↔ ofName name = code := by
  have none : (∀ other ∈ named, other.name ≠ name) ↔
      (named.find? fun code => code.name == name) = none := by
    simp only [List.find?_eq_none, beq_iff_eq, ne_eq]
  rw [IsMeantBy, none]
  cases found : named.find? fun code => code.name == name with
  | none =>
    have same : ofName name = unknown := by rw [ofName, found]; rfl
    constructor
    · rintro (⟨-, rfl⟩ | ⟨rfl, -⟩)
      · exact ofName_name code
      · exact same
    · exact fun read => .inr ⟨read.symm.trans same, rfl⟩
  | some other =>
    have same : ofName name = other := by rw [ofName, found]; rfl
    have named : other.name = name := by simpa using List.find?_some found
    constructor
    · rintro (⟨-, rfl⟩ | ⟨-, missing⟩)
      · exact ofName_name code
      · contradiction
    · rintro read
      obtain rfl := same.symm.trans read
      exact .inl ⟨List.mem_of_find?_eq_some found, named⟩

/-- A body that is an object with one member that names a failure class, with at most one message,
and with any members of other names. Without a message it is empty. Names, the class and the message
are Unicode texts; what other members hold need not be. -/
def StatesError (name message : String) (body : List UInt8) : Prop :=
  ∃ members, Json.IsObject members body ∧
    (∃ member, membersNamed "Code" members = [member] ∧ Json.HoldsText member name) ∧
    ((∃ member, membersNamed "Message" members = [member] ∧ Json.HoldsText member message) ∨
      (membersNamed "Message" members = [] ∧ message = ""))

/-- The error that a body states is read from it. -/
theorem StatesError.read_eq_ok {name message : String} {body : List UInt8}
    (states : StatesError name message body) :
    Message.read body = .ok (⟨ErrorCode.ofName name, message⟩ : ServerError) := by
  obtain ⟨members, isObject, ⟨member, isCode, namesClass⟩, isMessage⟩ := states
  rw [Message.read_eq_ok_iff, Json.readRecord_eq_ok_iff (by decide) isObject]
  refine ⟨.inl ⟨Json.plainOffer member, ?_, namesClass.taken_readCode⟩, ?_, trivial⟩
  · rw [offersOf_map fun _ => rfl, isCode]
    rfl
  · rw [offersOf_map fun _ => rfl]
    rcases isMessage with ⟨member, isMessage, holds⟩ | ⟨missing, rfl⟩
    · rw [isMessage]
      exact .inl ⟨Json.plainOffer member, rfl, holds.taken_readString .text⟩
    · rw [missing]
      exact .inr ⟨rfl, rfl⟩

/-- An answer is an error of the server exactly if the reply is no success and its body holds the
error. -/
theorem decodeReply_eq_server_iff {α : Type} (read : List UInt8 → Except Json.Fault α)
    {reply : Reply} {error : ServerError} :
    decodeReply read reply = .error (.server error) ↔
      reply.status ≠ .success ∧ Message.read reply.body = .ok error := by
  rw [decodeReply]
  by_cases succeeded : reply.status = .success
  · rw [if_pos succeeded]
    cases read reply.body <;> simp [succeeded]
  · rw [if_neg succeeded]
    cases outcome : (Message.read reply.body : Except Json.Fault ServerError) <;>
      simp [succeeded]

namespace Client

variable {client : Client} {reply : Reply} {error : ServerError}

/-- A refused reply is no error of the server. -/
theorem refusal_error_ne_server (refusal : Refusal) : refusal.error ≠ .server error := by
  cases refusal <;> simp [Refusal.error]

/-- A finished call has failed with an error of the server exactly if the reply is no success and
its body holds the error. -/
theorem finish_eq_server_iff (pending : Pending) :
    (client.finish (.ok reply) pending).result = .error (.server error) ↔
      reply.status ≠ .success ∧ Message.read reply.body = .ok error := by
  have acknowledges {Request Answer : Type} [Endpoint Request Answer] :
      (acknowledged (Endpoint.send Request client.identity (.ok reply))).result =
          .error (.server error) ↔
        reply.status ≠ .success ∧ Message.read reply.body = .ok error := by
    rw [← decodeReply_eq_server_iff (Endpoint.readReply Request)]
    simp only [acknowledged, Endpoint.send, Endpoint.receive]
    cases decodeReply (Endpoint.readReply Request) reply <;> simp [Except.map]
  cases pending with
  | register request => exact acknowledges
  | verify request => exact acknowledges
  | status request => exact acknowledges
  | extract secret request =>
    rw [← decodeReply_eq_server_iff (Endpoint.readReply (Signed ExtractRequest))]
    simp only [finish, finishExtract, Endpoint.send, Endpoint.receive]
    cases decodeReply (Endpoint.readReply (Signed ExtractRequest)) reply with
    | error error => simp
    | ok answer =>
      simp only [Envelope.extractLogged]
      cases Envelope.extract secret request.body answer client.identity.key with
      | ok extracted => simp [Except.map]
      | error refusal => simp [Except.map, refusal_error_ne_server]

/-- A call fails with an error of the server exactly if it starts, its reply is no success, and the
body of the reply holds the error. -/
theorem runStep_eq_server_iff {call : Call} {before : Randomness} :
    (client.runStep ⟨call, .ok reply⟩ before).outcome.result = .error (.server error) ↔
      (client.start? call before).isSome = true ∧ reply.status ≠ .success ∧
        Message.read reply.body = .ok error := by
  cases started : client.start? call before with
  | none =>
    have other : call.undrawn ≠ .error (.server error) := by
      intro failed
      have isLowEntropy := Call.eq_lowEntropy_of_undrawn failed
      contradiction
    rw [runStep_of_none started]
    simp [other]
  | some found =>
    obtain ⟨pending, rest⟩ := found
    rw [runStep_of_some started, finish_eq_server_iff]
    simp

/-- Every call that starts passes on what the server says in a reply of any status but that of a
success. It returns every error whose document is the body, unaltered. Of every body that states an
error, with other members and in whatever form, it returns the class that the name means and the
message. With the status of a success no body makes a call return an error of the server. -/
theorem server_errors_pass_through (client : Client) (call : Call) (before : Randomness)
    (reply : Reply) :
    let result := (client.runStep ⟨call, .ok reply⟩ before).outcome.result
    (reply.status ≠ .success → (client.start? call before).isSome = true →
      (∀ error : ServerError, reply.body = Message.write error →
        result = .error (.server error)) ∧
      ∀ name message, StatesError name message reply.body →
        ∃ code, code.IsMeantBy name ∧ result = .error (.server ⟨code, message⟩)) ∧
    (reply.status = .success → ∀ error, result ≠ .error (.server error)) := by
  refine ⟨fun failed started => ⟨fun error written => ?_, fun name message states => ?_⟩, ?_⟩
  · have read : Message.read reply.body = .ok error := by
      rw [written]
      exact Message.read_write error (by decide) ⟨trivial, trivial, trivial⟩
    exact runStep_eq_server_iff.mpr ⟨started, failed, read⟩
  · exact ⟨ErrorCode.ofName name, ErrorCode.isMeantBy_iff.mpr rfl,
      runStep_eq_server_iff.mpr ⟨started, failed, states.read_eq_ok⟩⟩
  · intro succeeded error same
    exact (runStep_eq_server_iff.mp same).2.1 succeeded

/-- A registration that is limited, with a reason and a detail that no error has, fails with the
unknown class and the reason. A question about a user who never registered fails with that class. A
token that is accepted with such a body is no error of the server. -/
theorem server_errors_of_three_calls :
    let client : Client :=
      ⟨⟨"pkg.example:80", ⟨.zero 32⟩, rfl⟩, "alice", ⟨.zero 32⟩, ⟨.zero 32⟩⟩
    let limited := Json.writeMap
      [foreign, ("Message", Json.writeText "wait \"here\""),
       ("Code", Json.writeText "rate_limited")]
    let unregistered : ServerError := ⟨.notRegistered, ""⟩
    let draw : Octets 32 := .ofNat 32 5
    (client.runStep ⟨.register, .ok ⟨⟨429⟩, limited⟩⟩ []).outcome.result =
        .error (.server ⟨.unknown, "wait \"here\""⟩) ∧
      (client.runStep ⟨.status, .ok ⟨⟨404⟩, Message.write unregistered⟩⟩
          (draw.toList ++ [])).outcome.result = .error (.server unregistered) ∧
      ∀ error, (client.runStep ⟨.verify [1], .ok ⟨⟨200⟩, limited⟩⟩ []).outcome.result ≠
        .error (.server error) := by
  intro client limited unregistered draw
  have started : (client.start? .status (draw.toList ++ [])).isSome = true := by decide
  have states : StatesError "rate_limited" "wait \"here\"" limited := by
    have quoted (text : String) : Json.HoldsText ("", Json.writeText text) text :=
      ⟨_, Json.spells_flatMap_escapeByte _, rfl⟩
    refine ⟨_, Json.isObject_writeMap ?_, ⟨_, rfl, quoted _⟩, .inl ⟨_, rfl, quoted _⟩⟩
    simp only [List.forall_mem_cons, List.not_mem_nil, false_implies, implies_true, and_true]
    exact ⟨isValue_foreign, Json.isValue_writeBytes _, Json.isValue_writeBytes _⟩
  obtain ⟨limits, -⟩ := server_errors_pass_through client .register [] ⟨⟨429⟩, limited⟩
  obtain ⟨refuses, -⟩ := server_errors_pass_through client .status (draw.toList ++ [])
    ⟨⟨404⟩, Message.write unregistered⟩
  obtain ⟨-, accepts⟩ := server_errors_pass_through client (.verify [1]) [] ⟨⟨200⟩, limited⟩
  obtain ⟨code, meant, limits⟩ := (limits (by decide) rfl).2 _ _ states
  obtain rfl : ErrorCode.unknown = code := by
    rw [← ErrorCode.isMeantBy_iff.mp meant]
    decide
  exact ⟨limits, (refuses (by decide) started).1 unregistered rfl, accepts rfl⟩

end Client

end RoundKey
