import RoundKey.Bytes

/-!
# A family of hashes

Hashes that share one construction over words of two widths: padding to blocks of sixteen words,
a schedule of one word for each round, and rounds over eight words of state. A width fixes the
rotations and the constants, and a hash of that width its first state. A digest has the eight
words of the last state.
-/
namespace RoundKey.Sha2

/-- What a width of words fixes. -/
structure Width (Word : Type) where
  /-- The number of bytes in a word. -/
  bytes : Nat
  /-- The word of a number. -/
  ofNat : Nat → Word
  /-- The number of a word. -/
  toNat : Word → Nat
  /-- What a round takes of the first word of state. -/
  mixA : Word → Word
  /-- What a round takes of the fifth word of state. -/
  mixE : Word → Word
  /-- What a schedule takes of the word fifteen places back. -/
  near : Word → Word
  /-- What a schedule takes of the word two places back. -/
  far : Word → Word
  /-- One constant for each round. -/
  constants : List Word

/-- The eight words of state. -/
structure State (Word : Type) where
  /-- First word. -/
  a : Word
  /-- Second word. -/
  b : Word
  /-- Third word. -/
  c : Word
  /-- Fourth word. -/
  d : Word
  /-- Fifth word. -/
  e : Word
  /-- Sixth word. -/
  f : Word
  /-- Seventh word. -/
  g : Word
  /-- Eighth word. -/
  h : Word

/-- The words of a state in order. -/
def State.toList {Word : Type} (state : State Word) : List Word :=
  [state.a, state.b, state.c, state.d, state.e, state.f, state.g, state.h]

variable {Word : Type} [Add Word] [XorOp Word] [AndOp Word] [Complement Word]

/-- The word that follows a window of sixteen schedule words. -/
@[specialize]
def nextWord (width : Width Word) (window : List Word) : Word :=
  match window with
  | [w0, w1, _, _, _, _, _, _, _, w9, _, _, _, _, w14, _] =>
    w0 + width.near w1 + w9 + width.far w14
  | _ => width.ofNat 0

/-- The next `count` schedule words, from a window of the last sixteen. -/
@[specialize]
def schedule (width : Width Word) : (count : Nat) → (window : List Word) → List Word
  | 0, _ => []
  | count + 1, window =>
    window.headD (width.ofNat 0) ::
      schedule width count (window.tail ++ [nextWord width window])

/-- One round with its constant and its schedule word. -/
@[specialize]
def round (width : Width Word) (state : State Word) (constant word : Word) : State Word :=
  let choice := (state.e &&& state.f) ^^^ (~~~state.e &&& state.g)
  let first := state.h + width.mixE state.e + choice + constant + word
  let majority := (state.a &&& state.b) ^^^ (state.a &&& state.c) ^^^ (state.b &&& state.c)
  { a := first + (width.mixA state.a + majority), b := state.a, c := state.b, d := state.c,
    e := state.d + first, f := state.e, g := state.f, h := state.g }

/-- The first `count` words of a block. -/
@[specialize]
def words (width : Width Word) : (count : Nat) → (block : List UInt8) → List Word
  | 0, _ => []
  | count + 1, block =>
    width.ofNat (ofBigEndian (block.take width.bytes)) ::
      words width count (block.drop width.bytes)

/-- The state after one block. -/
@[specialize]
def compress (width : Width Word) (state : State Word) (block : List UInt8) : State Word :=
  let rounds := width.constants.zip (schedule width width.constants.length (words width 16 block))
  let mixed := rounds.foldl (fun state pair => round width state pair.1 pair.2) state
  { a := state.a + mixed.a, b := state.b + mixed.b, c := state.c + mixed.c,
    d := state.d + mixed.d, e := state.e + mixed.e, f := state.f + mixed.f,
    g := state.g + mixed.g, h := state.h + mixed.h }

/-- The number of bytes in a block. -/
def Width.block {Word : Type} (width : Width Word) : Nat := 16 * width.bytes

/-- How many zeros stand between the end mark of a message and its length. -/
def Width.zeros {Word : Type} (width : Width Word) (size : Nat) : Nat :=
  (2 * width.block - 1 - 2 * width.bytes - size % width.block) % width.block

/-- The message with its end mark, zeros, and its length in bits in the last two words. -/
def pad {Word : Type} (width : Width Word) (message : List UInt8) : List UInt8 :=
  message ++ 0x80 :: List.replicate (width.zeros message.length) 0
    ++ bigEndian (2 * width.bytes) (8 * message.length)

/-- The state after `count` blocks. -/
@[specialize]
def run (width : Width Word) : (count : Nat) → State Word → List UInt8 → State Word
  | 0, state, _ => state
  | count + 1, state, bytes =>
    run width count (compress width state (bytes.take width.block)) (bytes.drop width.block)

/-- The hash of a message, from a first state. -/
@[specialize]
def digest (width : Width Word) (initial : State Word) (message : List UInt8) : List UInt8 :=
  let padded := pad width message
  (run width (padded.length / width.block) initial padded).toList.flatMap
    fun word => bigEndian width.bytes (width.toNat word)

/-- A digest has the bytes of eight words. -/
theorem length_digest (width : Width Word) (initial : State Word) (message : List UInt8) :
    (digest width initial message).length = 8 * width.bytes := by
  simp [digest, State.toList]
  omega

end RoundKey.Sha2
