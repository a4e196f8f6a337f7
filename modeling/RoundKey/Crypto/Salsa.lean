import RoundKey.Bytes

/-!
# The stream cipher of the box

Ten double rounds over a square of sixteen words make a block of 64 bytes; without the final
addition they derive a key. The stream with a long nonce first derives a key from sixteen bytes
of the nonce and then numbers its blocks under the other eight.
-/
namespace RoundKey.Salsa

/-- Four words of the square. -/
structure Row where
  /-- First word. -/
  a : UInt32
  /-- Second word. -/
  b : UInt32
  /-- Third word. -/
  c : UInt32
  /-- Fourth word. -/
  d : UInt32

/-- The square of sixteen words. -/
structure Square where
  /-- First row. -/
  r0 : Row
  /-- Second row. -/
  r1 : Row
  /-- Third row. -/
  r2 : Row
  /-- Fourth row. -/
  r3 : Row

/-- Rotate a word to the left. -/
def rotate (word count : UInt32) : UInt32 := (word <<< count) ||| (word >>> (32 - count))

/-- Mix four words. -/
def Row.mix (row : Row) : Row :=
  let b := row.b ^^^ rotate (row.a + row.d) 7
  let c := row.c ^^^ rotate (b + row.a) 9
  let d := row.d ^^^ rotate (c + b) 13
  let a := row.a ^^^ rotate (d + c) 18
  ⟨a, b, c, d⟩

/-- The row that starts at its second word. -/
def Row.turn (row : Row) : Row := ⟨row.b, row.c, row.d, row.a⟩

/-- Exchange rows and columns. -/
def Square.transpose (square : Square) : Square :=
  ⟨⟨square.r0.a, square.r1.a, square.r2.a, square.r3.a⟩,
   ⟨square.r0.b, square.r1.b, square.r2.b, square.r3.b⟩,
   ⟨square.r0.c, square.r1.c, square.r2.c, square.r3.c⟩,
   ⟨square.r0.d, square.r1.d, square.r2.d, square.r3.d⟩⟩

/-- Mix each row from its diagonal word on. -/
def Square.mixRows (square : Square) : Square :=
  ⟨square.r0.mix, square.r1.turn.mix.turn.turn.turn, square.r2.turn.turn.mix.turn.turn,
   square.r3.turn.turn.turn.mix.turn⟩

/-- Mix the columns, then the rows. -/
def Square.doubleRound (square : Square) : Square := square.transpose.mixRows.transpose.mixRows

/-- Several double rounds. -/
def Square.rounds : (count : Nat) → Square → Square
  | 0, square => square
  | count + 1, square => Square.rounds count square.doubleRound

/-- The words of a row. -/
def Row.toList (row : Row) : List UInt32 := [row.a, row.b, row.c, row.d]

/-- The words of a square, row by row. -/
def Square.toList (square : Square) : List UInt32 :=
  square.r0.toList ++ square.r1.toList ++ square.r2.toList ++ square.r3.toList

/-- The bytes of words, each least significant first. -/
def wordBytes (words : List UInt32) : List UInt8 :=
  words.flatMap fun word => littleEndian 4 word.toNat

@[simp]
theorem length_wordBytes (words : List UInt32) : (wordBytes words).length = 4 * words.length := by
  induction words with
  | nil => rfl
  | cons word rest ih =>
    rw [wordBytes, List.flatMap_cons, List.length_append, length_littleEndian]
    rw [wordBytes] at ih
    rw [ih, List.length_cons]
    omega

/-- The row of the sixteen bytes at a position. -/
def rowAt (bytes : List UInt8) (position : Nat) : Row :=
  let word (index : Nat) : UInt32 :=
    UInt32.ofNat (ofLittleEndian ((bytes.drop (position + 4 * index)).take 4))
  ⟨word 0, word 1, word 2, word 3⟩

/-- The square of a key and sixteen bytes of input, with the four constants on its diagonal. -/
def start (key : Octets 32) (input : List UInt8) : Square :=
  let low := rowAt key.toList 0
  let high := rowAt key.toList 16
  let middle := rowAt input 0
  ⟨⟨0x61707865, low.a, low.b, low.c⟩, ⟨low.d, 0x3320646e, middle.a, middle.b⟩,
   ⟨middle.c, middle.d, 0x79622d32, high.a⟩, ⟨high.b, high.c, high.d, 0x6b206574⟩⟩

/-- One block of 64 bytes. -/
def block (key : Octets 32) (input : List UInt8) : List UInt8 :=
  let first := start key input
  let last := Square.rounds 10 first
  wordBytes (List.zipWith (· + ·) first.toList last.toList)

/-- The key derived from a key and sixteen bytes of input. -/
def derive (key : Octets 32) (input : List UInt8) : Octets 32 :=
  let last := Square.rounds 10 (start key input)
  ⟨wordBytes [last.r0.a, last.r1.b, last.r2.c, last.r3.d,
     last.r1.c, last.r1.d, last.r2.a, last.r2.b], by simp⟩

@[simp]
theorem length_block (key : Octets 32) (input : List UInt8) : (block key input).length = 64 := by
  simp [block, Square.toList, Row.toList]

/-- The first `count` blocks of the stream from a block number on. -/
def blocks (key : Octets 32) (nonce : List UInt8) : (count : Nat) → (number : Nat) → List UInt8
  | 0, _ => []
  | count + 1, number =>
    block key (nonce ++ littleEndian 8 number) ++ blocks key nonce count (number + 1)

/-- At least `length` bytes of the stream of a key and a nonce of 24 bytes. -/
def stream (key : Octets 32) (nonce : Octets 24) (length : Nat) : List UInt8 :=
  blocks (derive key (nonce.toList.take 16)) (nonce.toList.drop 16) ((length + 63) / 64) 0

end RoundKey.Salsa
