import RoundKey.ClientError

/-!
# Log events

What a call reports while it runs: that a request is sent, and at most one warning about the
reply. Events name rounds and lengths, never keys, tokens or seeds.
-/
namespace RoundKey

/-- How much an event matters. -/
inductive Level where
  /-- Of interest when something is being traced. -/
  | debug
  /-- Something is wrong with a reply. -/
  | warn
deriving DecidableEq, Repr

/-- What `send`, `verify_reply`, `open_box` and `ExtractionEnvelope::open` log — something that
happened during a call. -/
inductive Event where
  /-- A request is sent. -/
  | sending (path address : String)
  /-- A reply is for another round. -/
  | wrongRound (expected actual : UInt32)
  /-- A reply is for another username. -/
  | wrongUsername (round : UInt32)
  /-- A sealed key is too short. -/
  | shortCiphertext (round : UInt32) (length : Nat)
  /-- A reply is not signed by the server. -/
  | invalidSignature (round : UInt32)
  /-- A box does not open. -/
  | brokenBox
  /-- A box holds no key. -/
  | malformedKey (round : UInt32) (fault : KeyMaterialFault)
  /-- An attestation is no point. -/
  | malformedAttestation (round : UInt32) (fault : KeyMaterialFault)
deriving DecidableEq, Repr

namespace Event

/-- The level of an event. -/
def level : Event → Level
  | sending _ _ => .debug
  | _ => .warn

/-- The text of an event. -/
def message : Event → String
  | sending _ _ => "Sending PKG request"
  | wrongRound _ _ => "PKG reply is for the wrong round"
  | wrongUsername _ => "PKG reply is for the wrong username"
  | shortCiphertext _ _ => "PKG reply carries a short ciphertext"
  | invalidSignature _ => "PKG reply signature is invalid"
  | brokenBox => "PKG reply failed box authentication"
  | malformedKey _ _ => "PKG returned malformed key material"
  | malformedAttestation _ _ => "PKG returned malformed identity signature"

/-- The named fields of an event, as texts. -/
def fields : Event → List (String × String)
  | sending path address => [("endpoint", path), ("address", address)]
  | wrongRound expected actual => [("expected", toString expected), ("actual", toString actual)]
  | wrongUsername round => [("round", toString round)]
  | shortCiphertext round length => [("round", toString round), ("length", toString length)]
  | invalidSignature round => [("round", toString round)]
  | brokenBox => []
  | malformedKey round fault => [("round", toString round), ("error", fault.message)]
  | malformedAttestation round fault => [("round", toString round), ("error", fault.message)]

end Event

/-- The events and the result of something that reports while it runs. -/
structure Logged (ρ : Type) where
  /-- The events, in order. -/
  events : List Event
  /-- The result. -/
  result : ρ

end RoundKey
