import RoundKey.Bits
import RoundKey.Text.Fault

/-!
# Alphabets of power-of-two size

An alphabet gives each group of `width` bits a character. Encoding regroups the bits of bytes
into characters and fills the last group with zeros; decoding regroups the other way and
refuses a text whose fill is not zero or whose last character is beyond the last byte.
-/
namespace RoundKey.Text

/-- The characters that stand for the numbers of `width` bits. -/
structure Alphabet where
  /-- Bits carried by one character. -/
  width : Nat
  /-- The characters of the numbers below `2 ^ width`, in order. -/
  symbols : List UInt8

namespace Alphabet

variable (alphabet : Alphabet)

/-- The character of a group of bits. -/
def symbol (bits : List Bool) : UInt8 := (alphabet.symbols[Bits.toNat bits]?).getD 0

/-- The number that a character stands for. -/
def value? (symbol : UInt8) : Option Nat := alphabet.symbols.findIdx? (· == symbol)

/-- The characters of a byte string, the last group filled with zero bits. -/
def encode (bytes : List UInt8) : List UInt8 :=
  let bits := bytes.flatMap fun byte => Bits.ofNat 8 byte.toNat
  let count := (bits.length + (alphabet.width - 1)) / alphabet.width
  let fill := List.replicate (count * alphabet.width - bits.length) false
  (Bits.groups alphabet.width count (bits ++ fill)).map alphabet.symbol

/-- The numbers that the characters stand for, refusing the first character that has none. -/
def values (position : Nat) : List UInt8 → Except Fault (List Nat)
  | [] => .ok []
  | symbol :: rest =>
    match alphabet.value? symbol with
    | none => .error ⟨.symbol, position⟩
    | some value => (values (position + 1) rest).map (value :: ·)

/-- The bytes that a text of whole characters stands for, refusing fill that is not zero. The
caller has checked that the fill is shorter than a character. -/
def decode (text : List UInt8) : Except Fault (List UInt8) := do
  let values ← alphabet.values 0 text
  let bits := values.flatMap (Bits.ofNat alphabet.width)
  let count := bits.length / 8
  if (bits.drop (8 * count)).any id then
    .error ⟨.trailing, text.length - 1⟩
  else
    .ok ((Bits.groups 8 count bits).map fun group => UInt8.ofNat (Bits.toNat group))

end Alphabet

/-- The bytes of an ASCII text. -/
def ascii (text : String) : List UInt8 :=
  text.toList.map fun character => UInt8.ofNat character.toNat

end RoundKey.Text
