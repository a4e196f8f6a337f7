import RoundKey.Bytes

/-!
# Elements, read strictly

This reader allows one form of each element: the tag is one byte and has to be the one that is
asked for, and a length has the fewest bytes it can have. An element of 65535 bytes or more is
refused.
-/
namespace RoundKey.Der.Strict

/-- The tag of a truth value. -/
def boolean : UInt8 := 0x01

/-- The tag of an integer. -/
def integer : UInt8 := 0x02

/-- The tag of a bit string. -/
def bitString : UInt8 := 0x03

/-- The tag of a byte string. -/
def octetString : UInt8 := 0x04

/-- The tag of an identifier. -/
def identifier : UInt8 := 0x06

/-- The tag of a sequence. -/
def sequence : UInt8 := 0x30

/-- The tag of the numbered part of a structure. -/
def part (number : UInt8) : UInt8 := 0xa0 + number

/-- The length of an element has to be below this. -/
def sizeLimit : Nat := 0xffff

/-- A length in so many bytes after its first one, if fewer would not do. -/
def readWide (width least : Nat) (bytes : List UInt8) : Option (Nat × List UInt8) :=
  let size := ofBigEndian (bytes.take width)
  if bytes.length < width ∨ size < least then none else some (size, bytes.drop width)

/-- The length at the front. -/
def readLength : List UInt8 → Option (Nat × List UInt8)
  | [] => none
  | first :: rest =>
    if first < 0x80 then some (first.toNat, rest)
    else if first = 0x81 then readWide 1 0x80 rest
    else if first = 0x82 then readWide 2 0x100 rest
    else if first = 0x83 then readWide 3 0x10000 rest
    else if first = 0x84 then readWide 4 0x1000000 rest
    else none

/-- The contents of the element at the front, under this tag, and the bytes after it. -/
def read (tag : UInt8) : List UInt8 → Option (List UInt8 × List UInt8)
  | [] => none
  | first :: rest =>
    match readLength rest with
    | none => none
    | some (size, rest) =>
      if first = tag ∧ size < sizeLimit ∧ size ≤ rest.length then
        some (rest.take size, rest.drop size)
      else none

/-- The contents of the only element, under this tag. -/
def readOnly (tag : UInt8) (bytes : List UInt8) : Option (List UInt8) :=
  match read tag bytes with
  | some (contents, []) => some contents
  | _ => none

/-- The bytes of the bit string at the front, all of whose bits count. -/
def readWholeBits (bytes : List UInt8) : Option (List UInt8 × List UInt8) :=
  match read bitString bytes with
  | some (0 :: contents, rest) => some (contents, rest)
  | _ => none

/-- The positive number in the contents of an integer, in its shortest form. -/
def positive? : List UInt8 → Option Nat
  | [] => none
  | first :: rest =>
    if (if first = 0 then 128 ≤ rest.headD 0 else first < 128) then
      some (ofBigEndian (first :: rest))
    else none

/-- The positive number at the front. -/
def readPositive (bytes : List UInt8) : Option (Nat × List UInt8) :=
  match read integer bytes with
  | none => none
  | some (contents, rest) => (positive? contents).map fun number => (number, rest)

/-- The two positive numbers that are all of a sequence. -/
def readPair (bytes : List UInt8) : Option (Nat × Nat) := do
  let contents ← readOnly sequence bytes
  let (first, rest) ← readPositive contents
  let (second, rest) ← readPositive rest
  if rest = [] then some (first, second) else none

end RoundKey.Der.Strict
