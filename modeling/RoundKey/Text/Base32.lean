import RoundKey.Text.Alphabet

/-!
# Base32 text

Five bits to a character, capital letters and the digits from two to seven, without padding.
Each byte string has one text, and reading accepts exactly these texts.
-/
namespace RoundKey.Text.Base32

/-- The thirty-two characters, in order. -/
def alphabet : Alphabet := ⟨5, ascii "ABCDEFGHIJKLMNOPQRSTUVWXYZ234567"⟩

/-- `BASE32_NOPAD.encode` — the text of a byte string. -/
def encode (bytes : List UInt8) : List UInt8 := alphabet.encode bytes

/-- The characters of a text up to the last possible end of an encoding. -/
def wholeLength (length : Nat) : Nat :=
  length - length * 5 % 8 / 5

/-- `BASE32_NOPAD.decode` — the bytes of a text. A length that no encoding has is reported before
anything else. -/
def decode (text : List UInt8) : Except Fault (List UInt8) :=
  if wholeLength text.length = text.length then alphabet.decode text
  else .error ⟨.length, wholeLength text.length⟩

end RoundKey.Text.Base32
