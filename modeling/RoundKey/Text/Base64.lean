import RoundKey.Text.Alphabet

/-!
# Base64 text

Six bits to a character in blocks of four characters, the last block filled with equals signs.
Reading goes block by block, so it accepts each concatenation of padded texts, and reports the
fault of the first block that has one.
-/
namespace RoundKey.Text.Base64

/-- The sixty-four characters, in order. -/
def alphabet : Alphabet :=
  ⟨6, ascii "ABCDEFGHIJKLMNOPQRSTUVWXYZabcdefghijklmnopqrstuvwxyz0123456789+/"⟩

/-- The sign that fills a block. -/
def pad : UInt8 := 61

/-- `BASE64.encode` — the text of a byte string. -/
def encode (bytes : List UInt8) : List UInt8 :=
  let text := alphabet.encode bytes
  text ++ List.replicate ((4 - text.length % 4) % 4) pad

/-- The block without the signs that fill it. -/
def content (block : List UInt8) : List UInt8 :=
  (block.reverse.dropWhile (· == pad)).reverse

/-- The bytes of one block of four characters. -/
def decodeBlock (block : List UInt8) : Except Fault (List UInt8) :=
  let body := content block
  if body.length < 2 then .error ⟨.padding, body.length⟩ else alphabet.decode body

/-- The bytes of a text of whole blocks. -/
def decodeBlocks (position : Nat) : List UInt8 → Except Fault (List UInt8)
  | first :: second :: third :: fourth :: rest =>
    match decodeBlock [first, second, third, fourth] with
    | .error fault => .error (fault.shift position)
    | .ok bytes => (decodeBlocks (position + 4) rest).map (bytes ++ ·)
  | _ => .ok []

/-- `BASE64.decode` — the bytes of a text. A length that is no multiple of four is reported before
anything else. -/
def decode (text : List UInt8) : Except Fault (List UInt8) :=
  if text.length % 4 = 0 then decodeBlocks 0 text
  else .error ⟨.length, text.length / 4 * 4⟩

end RoundKey.Text.Base64
