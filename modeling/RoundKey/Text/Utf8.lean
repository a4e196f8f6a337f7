/-!
# Texts as bytes

The bytes of a text, the text of bytes if they are one, and the text of any bytes with a
replacement character for each part that is no text.
-/
namespace RoundKey.Text

/-- The bytes of a text. -/
def utf8 (text : String) : List UInt8 := text.toByteArray.data.toList

/-- `String::from_utf8` — the text of some bytes, if they are a text. -/
def ofUtf8? (bytes : List UInt8) : Option String := String.fromUTF8? ⟨bytes.toArray⟩

/-- Reading the bytes of a text gives the text. -/
@[simp]
theorem ofUtf8?_utf8 (text : String) : ofUtf8? (utf8 text) = some text := by
  have valid : ByteArray.IsValidUTF8 ⟨(utf8 text).toArray⟩ := text.isValidUTF8
  exact dif_pos valid

/-- Only the bytes of a text are read as that text. -/
theorem utf8_of_ofUtf8? {bytes : List UInt8} {text : String} (read : ofUtf8? bytes = some text) :
    utf8 text = bytes := by
  simp only [ofUtf8?, String.fromUTF8?] at read
  split at read
  · cases read; rfl
  · cases read

/-- Two texts with the same bytes are equal. -/
theorem utf8_injective {first second : String} (same : utf8 first = utf8 second) :
    first = second := by
  have read := ofUtf8?_utf8 first
  rw [same, ofUtf8?_utf8] at read
  exact (Option.some.inj read).symm

/-- Texts have the same bytes exactly if they are equal. -/
@[simp]
theorem utf8_inj {first second : String} : utf8 first = utf8 second ↔ first = second :=
  ⟨utf8_injective, congrArg utf8⟩

/-- The bytes of a text are those of its characters in order. -/
theorem utf8_ofList (characters : List Char) :
    utf8 (String.ofList characters) = characters.flatMap String.utf8EncodeChar := by
  simp [utf8, List.utf8Encode]

/-- A code point of ASCII is one byte. -/
theorem utf8EncodeChar_of_lt {value : Nat} (small : value < 0x80) :
    String.utf8EncodeChar (Char.ofNat value) = [UInt8.ofNat value] := by
  have valid : value.isValidChar := Or.inl (by omega)
  have number : (Char.ofNat value).val.toNat = value := by
    rw [Char.ofNat, dif_pos valid]
    rfl
  rw [String.utf8EncodeChar, number, if_pos (by omega)]

/-- The text of ASCII bytes. -/
def ofAscii (bytes : List UInt8) : String :=
  String.ofList (bytes.map fun byte => Char.ofNat byte.toNat)

/-- The text of ASCII bytes has those bytes. -/
theorem utf8_ofAscii {bytes : List UInt8} (ascii : ∀ byte ∈ bytes, byte < 0x80) :
    utf8 (ofAscii bytes) = bytes := by
  rw [ofAscii, utf8_ofList]
  induction bytes with
  | nil => rfl
  | cons byte bytes ih =>
    rw [List.forall_mem_cons] at ascii
    rw [List.map_cons, List.flatMap_cons, ih ascii.2,
      utf8EncodeChar_of_lt (UInt8.lt_iff_toNat_lt.mp ascii.1), UInt8.ofNat_toNat]
    rfl

/-- A character of several bytes of which some have been read. -/
structure Unfinished where
  /-- The bits read so far. -/
  value : Nat
  /-- The least byte that may follow. -/
  low : UInt8
  /-- The greatest byte that may follow. -/
  high : UInt8
  /-- How many bytes are due after the next. -/
  later : Nat

/-- What the first byte of a character of several bytes asks for; nothing for a byte that starts
no such character. -/
def start? (first : UInt8) : Option Unfinished :=
  if 0xC2 ≤ first ∧ first ≤ 0xDF then some ⟨first.toNat % 32, 0x80, 0xBF, 0⟩
  else if first = 0xE0 then some ⟨first.toNat % 16, 0xA0, 0xBF, 1⟩
  else if first = 0xED then some ⟨first.toNat % 16, 0x80, 0x9F, 1⟩
  else if 0xE1 ≤ first ∧ first ≤ 0xEF then some ⟨first.toNat % 16, 0x80, 0xBF, 1⟩
  else if first = 0xF0 then some ⟨first.toNat % 8, 0x90, 0xBF, 2⟩
  else if 0xF1 ≤ first ∧ first ≤ 0xF3 then some ⟨first.toNat % 8, 0x80, 0xBF, 2⟩
  else if first = 0xF4 then some ⟨first.toNat % 8, 0x80, 0x8F, 2⟩
  else none

/-- The character that stands for a part that is no text. -/
def replacement : Char := Char.ofNat 0xFFFD

/-- The characters completed by a byte that starts a character. -/
def start (byte : UInt8) : List Char × Option Unfinished :=
  if byte < 0x80 then ([Char.ofNat byte.toNat], none)
  else
    match start? byte with
    | some unfinished => ([], some unfinished)
    | none => ([replacement], none)

/-- The characters completed by the next byte. A byte that may not follow ends the part before
it and starts a character itself. -/
def follow : Option Unfinished → UInt8 → List Char × Option Unfinished
  | none, byte => start byte
  | some ⟨value, low, high, later⟩, byte =>
    if low ≤ byte ∧ byte ≤ high then
      let value := 64 * value + byte.toNat % 64
      match later with
      | 0 => ([Char.ofNat value], none)
      | later + 1 => ([], some ⟨value, 0x80, 0xBF, later⟩)
    else
      let (characters, unfinished) := start byte
      (replacement :: characters, unfinished)

/-- The characters of bytes that follow an unfinished character. -/
def replaceFrom : Option Unfinished → List UInt8 → List Char
  | none, [] => []
  | some _, [] => [replacement]
  | unfinished, byte :: rest =>
    let (characters, unfinished) := follow unfinished byte
    characters ++ replaceFrom unfinished rest

/-- `String::from_utf8_lossy` — the text of any bytes: themselves if they are a text, else with
replacements. -/
def ofUtf8Lossy (bytes : List UInt8) : String :=
  match ofUtf8? bytes with
  | some text => text
  | none => String.ofList (replaceFrom none bytes)

end RoundKey.Text
