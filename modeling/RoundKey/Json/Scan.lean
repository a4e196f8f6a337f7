import RoundKey.Json.Number
import RoundKey.Json.Text

/-!
# Values whose content does not matter

One grammar of nested values under two rules. Skimming checks form only and has no depth limit;
strict scanning reads every text and number in full and stops at a depth. What is found of a
value is its text, its number, or that it is a list or a map.
-/
namespace RoundKey.Json

open RoundKey.Data

/-- How the parts of a nested value are checked. -/
structure Rules where
  /-- The bytes after the closing quote of a text. -/
  text : List UInt8 → Except Fault (List UInt8)
  /-- The bytes after a number. -/
  number : List UInt8 → Except Fault (List UInt8)
  /-- How many lists and maps may still be entered, if there is a limit. -/
  depth : Option Nat

namespace Rules

/-- Check the form of each part, at any depth. -/
def skim : Rules := ⟨skimText, skimNumber, none⟩

/-- Read each part in full, entering so many lists and maps. -/
def strict (depth : Nat) : Rules :=
  ⟨fun bytes => (readText bytes).map Prod.snd, fun bytes => (readNumber bytes).map Prod.snd,
   some depth⟩

/-- The rules inside a list or a map, unless the limit is reached. -/
def enter? (rules : Rules) : Option Rules :=
  match rules.depth with
  | none => some rules
  | some 0 => none
  | some (depth + 1) => some { rules with depth := some depth }

end Rules

/-- The bytes after one of the three fixed words or a number, given its first byte. -/
def scanPlain (rules : Rules) (byte : UInt8) (rest : List UInt8) :
    Except Fault (List UInt8) :=
  if byte = 0x6E then readWord [0x75, 0x6C, 0x6C] rest
  else if byte = 0x74 then readWord [0x72, 0x75, 0x65] rest
  else if byte = 0x66 then readWord [0x61, 0x6C, 0x73, 0x65] rest
  else if byte = 0x2D ∨ isDigit byte then rules.number (byte :: rest)
  else .error .malformed

/-- The bytes after the name of a member and its colon. -/
def scanName (rules : Rules) (bytes : List UInt8) : Except Fault (List UInt8) :=
  match skipBlank bytes with
  | [] => .error .truncated
  | byte :: rest =>
    if byte = 0x22 then
      match rules.text rest with
      | .error fault => .error fault
      | .ok rest => readColon rest
    else .error .malformed

mutual

/-- The bytes after a value. -/
def scanValue (rules : Rules) : (fuel : Nat) → List UInt8 → Except Fault (List UInt8)
  | 0, _ => .error .truncated
  | fuel + 1, bytes =>
    match skipBlank bytes with
    | [] => .error .truncated
    | byte :: rest =>
      if byte = 0x22 then rules.text rest
      else if byte = 0x5B ∨ byte = 0x7B then
        match rules.enter? with
        | none => .error .malformed
        | some inner => scanParts inner fuel (byte == 0x7B) true rest
      else scanPlain rules byte rest

/-- The bytes after the closing bracket of a list or a map, before its first or a later part. -/
def scanParts (rules : Rules) :
    (fuel : Nat) → (isMap first : Bool) → List UInt8 → Except Fault (List UInt8)
  | 0, _, _, _ => .error .truncated
  | fuel + 1, isMap, first, bytes =>
    match skipBlank bytes with
    | [] => .error .truncated
    | byte :: rest =>
      if byte = (if isMap then 0x7D else 0x5D) then .ok rest
      else if first then scanPart rules fuel isMap (byte :: rest)
      else if byte = 0x2C then
        match skipBlank rest with
        | [] => .error .truncated
        | _ => scanPart rules fuel isMap rest
      else .error .malformed

/-- The bytes after the closing bracket, from the front of a part. -/
def scanPart (rules : Rules) :
    (fuel : Nat) → (isMap : Bool) → List UInt8 → Except Fault (List UInt8)
  | 0, _, _ => .error .truncated
  | fuel + 1, isMap, bytes =>
    match (if isMap then scanName rules bytes else .ok bytes) with
    | .error fault => .error fault
    | .ok bytes =>
      match scanValue rules fuel bytes with
      | .error fault => .error fault
      | .ok bytes => scanParts rules fuel isMap false bytes

end

/-- Fuel that suffices to scan some bytes: a value takes at most three steps for each byte. -/
def scanFuel (bytes : List UInt8) : Nat := 3 * bytes.length + 3

/-- The bytes after a value that is skimmed. -/
def skimValue (bytes : List UInt8) : Except Fault (List UInt8) :=
  scanValue Rules.skim (scanFuel bytes) bytes

/-- The plain value of a fixed word, given its first byte. -/
def readConstant (byte : UInt8) (rest : List UInt8) : Read Found :=
  if byte = 0x6E then (readWord [0x75, 0x6C, 0x6C] rest).map fun rest => (.null, rest)
  else if byte = 0x74 then
    (readWord [0x72, 0x75, 0x65] rest).map fun rest => (.boolean true, rest)
  else if byte = 0x66 then
    (readWord [0x61, 0x6C, 0x73, 0x65] rest).map fun rest => (.boolean false, rest)
  else .error .malformed

/-- A value that is neither a list nor a map, given its first byte. -/
def readPlain (byte : UInt8) (rest : List UInt8) : Read Found :=
  if byte = 0x22 then (readText rest).map fun read => (.text read.1, read.2)
  else if byte = 0x2D ∨ isDigit byte then readNumber (byte :: rest)
  else readConstant byte rest

/-- What a value is, read in full with so many lists and maps to enter. -/
def readFound (depth : Nat) (bytes : List UInt8) : Read Found :=
  match skipBlank bytes with
  | [] => .error .truncated
  | byte :: rest =>
    if byte = 0x5B ∨ byte = 0x7B then
      (scanValue (Rules.strict depth) (scanFuel bytes) (byte :: rest)).map fun rest =>
        (if byte = 0x5B then .sequence else .map, rest)
    else readPlain byte rest

/-- What a value is, as far as its first byte or, of plain values, its text shows. -/
def peekFound (byte : UInt8) (rest : List UInt8) : Except Fault Found :=
  if byte = 0x5B then .ok .sequence
  else if byte = 0x7B then .ok .map
  else (readPlain byte rest).map Prod.fst

end RoundKey.Json
