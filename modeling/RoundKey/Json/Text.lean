import RoundKey.Json.Fault
import RoundKey.Text.Utf8

/-!
# Texts in JSON

Writing escapes quotes, backslashes and controls and nothing else. Reading undoes every escape
and checks the bytes to be a text at its end; skimming only finds the end and checks the form of
the escapes.
-/
namespace RoundKey.Json

/-- The lowercase digit of a number below sixteen, as ASCII. -/
def hexDigit (value : UInt8) : UInt8 := if value < 10 then 48 + value else 87 + value

/-- One byte inside a text. -/
def escapeByte (byte : UInt8) : List UInt8 :=
  if byte = 0x22 then [0x5C, 0x22]
  else if byte = 0x5C then [0x5C, 0x5C]
  else if byte = 0x08 then [0x5C, 0x62]
  else if byte = 0x0C then [0x5C, 0x66]
  else if byte = 0x0A then [0x5C, 0x6E]
  else if byte = 0x0D then [0x5C, 0x72]
  else if byte = 0x09 then [0x5C, 0x74]
  else if byte < 0x20 then
    [0x5C, 0x75, 0x30, 0x30, hexDigit (byte / 16), hexDigit (byte % 16)]
  else [byte]

/-- The bytes of a text between quotes. -/
def writeBytes (bytes : List UInt8) : List UInt8 :=
  0x22 :: bytes.flatMap escapeByte ++ [0x22]

/-- A text between quotes. -/
def writeText (text : String) : List UInt8 := writeBytes (Text.utf8 text)

/-- The value of a hexadecimal digit of either case. -/
def hexValue? (byte : UInt8) : Option Nat :=
  if 0x30 ≤ byte ∧ byte ≤ 0x39 then some (byte.toNat - 0x30)
  else if 0x61 ≤ byte ∧ byte ≤ 0x66 then some (byte.toNat - 0x57)
  else if 0x41 ≤ byte ∧ byte ≤ 0x46 then some (byte.toNat - 0x37)
  else none

/-- The number of four hexadecimal digits. -/
def unit? (a b c d : UInt8) : Option Nat := do
  let a ← hexValue? a
  let b ← hexValue? b
  let c ← hexValue? c
  let d ← hexValue? d
  some (((a * 16 + b) * 16 + c) * 16 + d)

/-- The byte of a short escape. -/
def shortEscape? (byte : UInt8) : Option UInt8 :=
  if byte = 0x22 ∨ byte = 0x5C ∨ byte = 0x2F then some byte
  else if byte = 0x62 then some 0x08
  else if byte = 0x66 then some 0x0C
  else if byte = 0x6E then some 0x0A
  else if byte = 0x72 then some 0x0D
  else if byte = 0x74 then some 0x09
  else none

/-- Put bytes in front of what has been read. -/
def prepend (bytes : List UInt8) : Read (List UInt8) → Read (List UInt8)
  | .ok (read, rest) => .ok (bytes ++ read, rest)
  | .error fault => .error fault

/-- Whether a unit is the first of a pair. -/
def isHighSurrogate (unit : Nat) : Bool := 0xD800 ≤ unit && unit ≤ 0xDBFF

/-- Whether a unit is the second of a pair. -/
def isLowSurrogate (unit : Nat) : Bool := 0xDC00 ≤ unit && unit ≤ 0xDFFF

/-- The bytes of a code point. -/
def codePoint (value : Nat) : List UInt8 := String.utf8EncodeChar (Char.ofNat value)

/-- The bytes of a text up to its closing quote, with all escapes undone. -/
def readBytes : List UInt8 → Read (List UInt8)
  | [] => .error .truncated
  | [0x5C] => .error .truncated
  | 0x5C :: 0x75 :: a :: b :: c :: d :: rest =>
    match unit? a b c d with
    | none => .error .malformed
    | some first =>
      if isLowSurrogate first then .error .malformed
      else if isHighSurrogate first then
        match rest with
        | [] => .error .truncated
        | [0x5C] => .error .truncated
        | 0x5C :: 0x75 :: e :: f :: g :: h :: rest =>
          match unit? e f g h with
          | none => .error .malformed
          | some second =>
            if isLowSurrogate second then
              prepend (codePoint (0x10000 + (first - 0xD800) * 0x400 + (second - 0xDC00)))
                (readBytes rest)
            else .error .malformed
        | 0x5C :: 0x75 :: _ => .error .truncated
        | _ => .error .malformed
      else prepend (codePoint first) (readBytes rest)
  | 0x5C :: 0x75 :: _ => .error .truncated
  | 0x5C :: escaped :: rest =>
    match shortEscape? escaped with
    | none => .error .malformed
    | some byte => prepend [byte] (readBytes rest)
  | byte :: rest =>
    if byte = 0x22 then .ok ([], rest)
    else if byte < 0x20 then .error .malformed
    else prepend [byte] (readBytes rest)

/-- A text up to its closing quote. -/
def readText (bytes : List UInt8) : Read String :=
  match readBytes bytes with
  | .error fault => .error fault
  | .ok (read, rest) =>
    match Text.ofUtf8? read with
    | none => .error .malformed
    | some text => .ok (text, rest)

/-- The bytes after the closing quote of a text whose value does not matter. -/
def skimText : List UInt8 → Except Fault (List UInt8)
  | [] => .error .truncated
  | [0x5C] => .error .truncated
  | 0x5C :: 0x75 :: a :: b :: c :: d :: rest =>
    match unit? a b c d with
    | none => .error .malformed
    | some _ => skimText rest
  | 0x5C :: 0x75 :: _ => .error .truncated
  | 0x5C :: escaped :: rest =>
    match shortEscape? escaped with
    | none => .error .malformed
    | some _ => skimText rest
  | byte :: rest =>
    if byte = 0x22 then .ok rest
    else if byte < 0x20 then .error .malformed
    else skimText rest

end RoundKey.Json
