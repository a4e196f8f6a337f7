/-!
# Faults of encoded bytes

Why a text is no encoding of bytes, with the position of the fault in bytes from its start.
-/
namespace RoundKey.Text

/-- What is wrong at a position of an encoded text. -/
inductive FaultKind
  /-- No encoding has this many characters. -/
  | length
  /-- The character stands for no value. -/
  | symbol
  /-- The last character carries bits beyond the last byte. -/
  | trailing
  /-- The padding of a block does not fit the block. -/
  | padding
deriving DecidableEq, Repr

/-- A fault and where it was met. -/
structure Fault where
  /-- What is wrong. -/
  kind : FaultKind
  /-- Bytes before the fault. -/
  position : Nat
deriving DecidableEq, Repr

/-- The diagnostic text of a fault. -/
def Fault.message (fault : Fault) : String :=
  let what := match fault.kind with
    | .length => "invalid length"
    | .symbol => "invalid symbol"
    | .trailing => "non-zero trailing bits"
    | .padding => "invalid padding length"
  what ++ " at " ++ toString fault.position

/-- The same fault met after `offset` further bytes. -/
def Fault.shift (fault : Fault) (offset : Nat) : Fault :=
  { fault with position := offset + fault.position }

end RoundKey.Text
