import RoundKey.Session

/-!
# How calls start

A call takes the random bytes it needs from the front of those that are left, and nothing else
about them matters to it. It fails to start only if it needs some and finds too few, and then a
question fails and an extraction aborts. A step is what its call starts with, finished with what
comes back.
-/
namespace RoundKey

/-- Whether a call needs random bytes. -/
def Call.draws : Call → Bool
  | .register | .verify _ => false
  | .status | .extract _ => true

/-- No call gives a value without a draw. -/
theorem Call.undrawn_ne_ok {call : Call} {success : Success} : call.undrawn ≠ .ok success := by
  cases call <;> simp [undrawn]

/-- What fails without a draw fails for want of random bytes. -/
theorem Call.eq_lowEntropy_of_undrawn {call : Call} {error : ClientError}
    (failed : call.undrawn = .error error) : error = .lowEntropy := by
  cases call with
  | extract round => contradiction
  | register => exact (Upshot.error.inj failed).symm
  | verify token => exact (Upshot.error.inj failed).symm
  | status => exact (Upshot.error.inj failed).symm

/-- The random bytes in a pending call: the nonce of a question, or the secret of an extraction. -/
def Pending.drawn : Pending → List UInt8
  | .register _ | .verify _ => []
  | .status request => request.body.nonce.toList
  | .extract secret _ => secret.octets.toList

namespace Client

variable {client : Client} {call : Call} {randomness rest : Randomness} {pending : Pending}

/-- A question starts with a nonce from the front of the random bytes. -/
theorem start?_status_eq_some_iff :
    client.start? .status randomness = some (pending, rest) ↔
      ∃ nonce : Octets 32, randomness = nonce.toList ++ rest ∧
        pending = .status (client.statusRequest nonce) := by
  rw [start?, Option.map_eq_some_iff]
  constructor
  · rintro ⟨⟨nonce, left⟩, drawn, same⟩
    cases same
    exact ⟨nonce, draw?_eq_some_iff.mp drawn, rfl⟩
  · rintro ⟨nonce, front, rfl⟩
    exact ⟨(nonce, rest), draw?_eq_some_iff.mpr front, rfl⟩

/-- An extraction starts with a secret from the front of the random bytes. -/
theorem start?_extract_eq_some_iff {round : UInt32} :
    client.start? (.extract round) randomness = some (pending, rest) ↔
      ∃ secret : Montgomery.Secret, randomness = secret.octets.toList ++ rest ∧
        pending = .extract secret (client.extractRequest round secret) := by
  rw [start?, Option.map_eq_some_iff]
  constructor
  · rintro ⟨⟨octets, left⟩, drawn, same⟩
    cases same
    exact ⟨⟨octets⟩, draw?_eq_some_iff.mp drawn, rfl⟩
  · rintro ⟨secret, front, rfl⟩
    exact ⟨(secret.octets, rest), draw?_eq_some_iff.mpr front, rfl⟩

/-- A call that starts takes its random bytes from the front, and would start in the same way with
no others. -/
theorem start?_eq_some (started : client.start? call randomness = some (pending, rest)) :
    randomness = pending.drawn ++ rest ∧
      client.start? call pending.drawn = some (pending, []) ∧
      pending.drawn.length = if call.draws then 32 else 0 := by
  cases call with
  | register => cases started; exact ⟨rfl, rfl, rfl⟩
  | verify token => cases started; exact ⟨rfl, rfl, rfl⟩
  | status =>
    obtain ⟨nonce, front, rfl⟩ := start?_status_eq_some_iff.mp started
    refine ⟨front, ?_, nonce.length_eq⟩
    exact start?_status_eq_some_iff.mpr ⟨nonce, (List.append_nil _).symm, rfl⟩
  | extract round =>
    obtain ⟨secret, front, rfl⟩ := start?_extract_eq_some_iff.mp started
    refine ⟨front, ?_, secret.octets.length_eq⟩
    exact start?_extract_eq_some_iff.mpr ⟨secret, (List.append_nil _).symm, rfl⟩

/-- There are too few random bytes to draw exactly if there are less than 32. -/
theorem draw?_eq_none_iff : draw? randomness = none ↔ randomness.length < 32 := by
  have front : (randomness.take 32).length = min 32 randomness.length := List.length_take
  unfold draw? Octets.ofList?
  constructor
  · intro failed
    split at failed
    · next missing =>
      split at missing
      · contradiction
      · omega
    · contradiction
  · intro few
    have short : (randomness.take 32).length ≠ 32 := by omega
    rw [dif_neg short]

/-- A call that does not start needs random bytes and finds too few. -/
theorem start?_eq_none_iff :
    client.start? call randomness = none ↔ call.draws = true ∧ randomness.length < 32 := by
  cases call with
  | register => simp [start?, Call.draws]
  | verify token => simp [start?, Call.draws]
  | status => simp [start?, Call.draws, draw?_eq_none_iff]
  | extract round => simp [start?, Call.draws, draw?_eq_none_iff]

/-- A call that does not start is a question, which fails, or an extraction, which aborts. -/
theorem undrawn_of_start?_eq_none (unstarted : client.start? call randomness = none) :
    randomness.length < 32 ∧ ((call = .status ∧ call.undrawn = .error .lowEntropy) ∨
      ((∃ round, call = .extract round) ∧ call.undrawn = .aborted)) := by
  obtain ⟨draws, few⟩ := start?_eq_none_iff.mp unstarted
  refine ⟨few, ?_⟩
  cases call with
  | register => contradiction
  | verify token => contradiction
  | status => exact .inl ⟨rfl, rfl⟩
  | extract round => exact .inr ⟨⟨round, rfl⟩, rfl⟩

variable {step : Step}

/-- A step whose call starts posts its request and finishes with what comes back. -/
theorem runStep_of_some (started : client.start? step.call randomness = some (pending, rest)) :
    client.runStep step randomness =
      ⟨some pending.post, client.finish step.delivery pending, rest⟩ := by
  rw [runStep, started]

/-- A step whose call does not start posts and takes nothing. -/
theorem runStep_of_none (unstarted : client.start? step.call randomness = none) :
    client.runStep step randomness = ⟨none, ⟨[], step.call.undrawn⟩, randomness⟩ := by
  rw [runStep, unstarted]

end Client

end RoundKey
