import RoundKey.Program
import RoundKey.Proofs.Client
import RoundKey.Proofs.HonestIssuer
import RoundKey.Proofs.KeyMaterial
import RoundKey.Proofs.Store

/-!
# What the extraction command prints

The command prints a key only if a reply came back that was read and verified, and the key and the
attestation in it were decoded. Key material is canonical, so what is printed are the bytes that the
server sealed and signed. Nothing is assumed of the network that the reply came over.
-/
namespace RoundKey

open CommandLine Pairing

/-- A call over a network is a step with what the network gives back. -/
theorem Client.callOver_of_some {client : Client} {network : Network} {call : Call}
    {randomness rest : Randomness} {pending : Pending}
    (started : client.start? call randomness = some (pending, rest)) :
    client.callOver network call randomness =
      client.runStep ⟨call, network.deliver client.identity pending.post⟩ randomness := by
  rw [runStep_of_some started, callOver, started]

/-- A call that does not start comes to the same over every network. -/
theorem Client.callOver_of_none {client : Client} {network : Network} {call : Call}
    {randomness : Randomness} (unstarted : client.start? call randomness = none) :
    (client.callOver network call randomness).outcome.result = call.undrawn := by
  rw [callOver, unstarted]

namespace Surroundings

variable {surroundings : Surroundings} {path : String} {round : UInt32}
  {longTermKey : Ed25519.PublicKey} {lines : List String}

/-- What comes back for the request of an extraction with these bytes, whatever the network is. -/
def extractDelivery (surroundings : Surroundings) (config : Config)
    (longTermKey : Ed25519.PublicKey) (round : UInt32) (draw : Octets 32) : Delivery :=
  let request := (Client.ofConfig config longTermKey).extractRequest round ⟨draw⟩
  surroundings.network.deliver config.server (Endpoint.post request)

/-- An extraction for the configuration in a file draws bytes and receives a reply. -/
structure Receives (surroundings : Surroundings) (path : String) (round : UInt32)
    (longTermKey : Ed25519.PublicKey) (config : Config) (draw : Octets 32)
    (reply : Signed ExtractReply) : Prop where
  /-- The configuration is loaded from the file. -/
  loaded : Config.load surroundings.directory (Path.ofText path) = .ok config
  /-- The bytes are the first of the random bytes. -/
  drawn : ∃ rest, surroundings.randomness = draw.toList ++ rest
  /-- The reply is read from the body that comes back. -/
  received : ∃ body, surroundings.extractDelivery config longTermKey round draw =
    .ok ⟨⟨200⟩, body⟩ ∧ Signed.read body = .ok reply

/-- A call that prints has loaded a configuration and succeeded with it. -/
theorem makeCall_eq_ok_iff {call : Call} :
    (surroundings.makeCall path call (some longTermKey)).result = .ok lines ↔
      ∃ config success, Config.load surroundings.directory (Path.ofText path) = .ok config ∧
        ((Client.ofConfig config longTermKey).callOver surroundings.network call
          surroundings.randomness).outcome.result = .ok success ∧
        lines = success.lines call := by
  rw [makeCall]
  cases loaded : Config.load surroundings.directory (Path.ofText path) with
  | error fault => simp [fail]
  | ok config =>
    simp only [Option.getD_some]
    constructor
    · intro made
      split at made
      · contradiction
      · next success succeeded =>
        cases made
        exact ⟨config, success, rfl, succeeded, rfl⟩
      · contradiction
    · rintro ⟨_, success, ⟨⟩, succeeded, rfl⟩
      rw [succeeded]

/-- An extraction prints exactly the key that the reply gives which it receives. -/
theorem makeCall_extract_eq_ok_iff :
    (surroundings.makeCall path (.extract round) (some longTermKey)).result = .ok lines ↔
      ∃ config draw reply extracted,
        surroundings.Receives path round longTermKey config draw reply ∧
        Envelope.Extracts ⟨draw⟩
          ((Client.ofConfig config longTermKey).extractRequest round ⟨draw⟩).body reply
          config.server.key extracted ∧
        lines = (Success.extracted extracted).lines (.extract round) := by
  rw [makeCall_eq_ok_iff]
  constructor
  · rintro ⟨config, success, loaded, succeeded, rfl⟩
    let client := Client.ofConfig config longTermKey
    cases started : client.start? (.extract round) surroundings.randomness with
    | none =>
      rw [Client.callOver_of_none started] at succeeded
      exact absurd succeeded Call.undrawn_ne_ok
    | some found =>
      obtain ⟨pending, rest⟩ := found
      obtain ⟨⟨draw⟩, front, rfl⟩ := Client.start?_extract_eq_some_iff.mp started
      rw [Client.callOver_of_some started, front] at succeeded
      obtain ⟨body, reply, extracted, delivered, read, extracts, rfl⟩ :=
        Client.result_eq_ok_iff.mp succeeded
      exact ⟨config, draw, reply, extracted, ⟨loaded, ⟨rest, front⟩, body, delivered, read⟩,
        extracts, rfl⟩
  · rintro ⟨config, draw, reply, extracted, ⟨loaded, ⟨rest, front⟩, body, delivered, read⟩,
      extracts, rfl⟩
    let client := Client.ofConfig config longTermKey
    have started : client.start? (.extract round) surroundings.randomness = some (_, rest) :=
      Client.start?_extract_eq_some_iff.mpr ⟨⟨draw⟩, front, rfl⟩
    refine ⟨config, .extracted extracted, loaded, ?_, rfl⟩
    rw [Client.callOver_of_some started, front]
    exact Client.result_eq_ok_iff.mpr ⟨body, reply, extracted, delivered, read, extracts, rfl⟩

end Surroundings

/-- Two lines are printed one under the other. -/
theorem printed_two {first second : String} {outcome : Outcome}
    (lines : outcome.result = .ok [first, second]) :
    printed (.ok outcome) = first ++ "\n" ++ second ++ "\n" := by
  obtain ⟨result, directory⟩ := outcome
  cases lines
  simp [printed, String.join, String.append_assoc]

end RoundKey
