import RoundKey.Bytes

/-!
# Randomness

Random bytes are a list that is used from the front, 32 bytes at a time. Bytes that have been
drawn are gone, so no two draws share a byte of the list. A nonce that cannot be drawn is a failure
that is reported; a key that cannot be drawn is no failure but an abort, which reports nothing.
-/
namespace RoundKey

/-- `OsRng` — random bytes that are still unused. -/
abbrev Randomness := List UInt8

/-- `OsRng::try_fill_bytes` — draw 32 bytes; too few bytes stay unused. -/
def draw? (randomness : Randomness) : Option (Octets 32 × Randomness) :=
  match Octets.ofList? 32 (randomness.take 32) with
  | none => none
  | some octets => some (octets, randomness.drop 32)

/-- What something comes to that may have to draw a key. -/
inductive Upshot (ε α : Type) where
  /-- It gives a value. -/
  | ok (value : α)
  /-- It fails, and says why. -/
  | error (error : ε)
  /-- It aborts, since it cannot draw a key. Nothing is returned and nothing said. -/
  | aborted
deriving DecidableEq, Repr

namespace Upshot

variable {ε α : Type} {outcome : Except ε α}

/-- The upshot of what does not abort. -/
def ofExcept : Except ε α → Upshot ε α
  | .ok value => .ok value
  | .error fault => .error fault

/-- A value comes of it exactly if it is the value. -/
@[simp]
theorem ofExcept_eq_ok_iff {value : α} : ofExcept outcome = .ok value ↔ outcome = .ok value := by
  cases outcome <;> simp [ofExcept]

/-- A failure comes of it exactly if it is the failure. -/
@[simp]
theorem ofExcept_eq_error_iff {fault : ε} :
    ofExcept outcome = .error fault ↔ outcome = .error fault := by
  cases outcome <;> simp [ofExcept]

end Upshot

/-- What was drawn and what is left make up what there was. -/
theorem draw?_eq_some_iff {randomness rest : Randomness} {octets : Octets 32} :
    draw? randomness = some (octets, rest) ↔ randomness = octets.toList ++ rest := by
  unfold draw?
  constructor
  · intro drawn
    split at drawn
    · contradiction
    · next found read =>
      cases drawn
      rw [← Octets.ofList?_eq_some_iff.mp read, List.take_append_drop]
  · rintro rfl
    have front : (octets.toList ++ rest).take 32 = octets.toList :=
      List.take_left' octets.length_eq
    have back : (octets.toList ++ rest).drop 32 = rest := List.drop_left' octets.length_eq
    rw [front, back, Octets.ofList?_eq_some_iff.mpr rfl]

end RoundKey
