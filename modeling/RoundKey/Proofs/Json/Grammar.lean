import RoundKey.Json.Record
import RoundKey.Proofs.Json.Number

/-!
# The grammar of JSON

Which bytes are values, stated without a reader: texts with escapes, numbers, the three words, and
lists and maps of any depth with blanks between all tokens. Inside a text any bytes may stand that
need no escape, and any escape, also where they make no text; what a form spells is said apart. A
map is an object if the names of its members are Unicode texts, in whatever form they are written.
-/
namespace RoundKey.Json

/-- Bytes that may stand between tokens. -/
def IsBlanks (bytes : List UInt8) : Prop := ∀ byte ∈ bytes, isBlank byte = true

/-- A byte that stands for itself inside a text. -/
def IsPlain (byte : UInt8) : Prop := 0x20 ≤ byte ∧ byte ≠ 0x22 ∧ byte ≠ 0x5C

/-- The letters of the short escapes, and the bytes that they stand for. -/
def shortEscapes : List (UInt8 × UInt8) :=
  [(0x22, 0x22), (0x5C, 0x5C), (0x2F, 0x2F), (0x62, 0x08), (0x66, 0x0C), (0x6E, 0x0A),
   (0x72, 0x0D), (0x74, 0x09)]

/-- What may stand between the quotes of a text. -/
inductive IsTextForm : List UInt8 → Prop where
  /-- Nothing. -/
  | nil : IsTextForm []
  /-- A byte that stands for itself. -/
  | plain {byte : UInt8} {form : List UInt8} (isPlain : IsPlain byte) (later : IsTextForm form) :
    IsTextForm (byte :: form)
  /-- A short escape. -/
  | short {letter byte : UInt8} {form : List UInt8} (known : (letter, byte) ∈ shortEscapes)
    (later : IsTextForm form) : IsTextForm (0x5C :: letter :: form)
  /-- An escape of four digits. -/
  | unit {a b c d : UInt8} {value : Nat} {form : List UInt8} (digits : unit? a b c d = some value)
    (later : IsTextForm form) : IsTextForm (0x5C :: 0x75 :: a :: b :: c :: d :: form)

/-- The bytes that a form between quotes stands for. An escape of four digits stands for its code
point, and two of them for a code point beyond four digits. -/
inductive Spells : List UInt8 → List UInt8 → Prop where
  /-- Nothing. -/
  | nil : Spells [] []
  /-- A byte that stands for itself. -/
  | plain {byte : UInt8} {text form : List UInt8} (isPlain : IsPlain byte)
    (later : Spells text form) : Spells (byte :: text) (byte :: form)
  /-- A short escape. -/
  | short {letter byte : UInt8} {text form : List UInt8} (known : (letter, byte) ∈ shortEscapes)
    (later : Spells text form) : Spells (byte :: text) (0x5C :: letter :: form)
  /-- An escape of four digits. -/
  | unit {a b c d : UInt8} {value : Nat} {text form : List UInt8}
    (digits : unit? a b c d = some value) (notLow : isLowSurrogate value = false)
    (notHigh : isHighSurrogate value = false) (later : Spells text form) :
    Spells (codePoint value ++ text) (0x5C :: 0x75 :: a :: b :: c :: d :: form)
  /-- Two escapes of four digits. -/
  | pair {a b c d e f g h : UInt8} {first second : Nat} {text form : List UInt8}
    (digits : unit? a b c d = some first) (digits' : unit? e f g h = some second)
    (isHigh : isHighSurrogate first = true) (isLow : isLowSurrogate second = true)
    (later : Spells text form) :
    Spells (codePoint (0x10000 + (first - 0xD800) * 0x400 + (second - 0xDC00)) ++ text)
      (0x5C :: 0x75 :: a :: b :: c :: d :: 0x5C :: 0x75 :: e :: f :: g :: h :: form)

/-- One digit or more. -/
def IsDigits (bytes : List UInt8) : Prop := bytes ≠ [] ∧ ∀ byte ∈ bytes, isDigit byte = true

/-- The digits of a whole number, without zeros in front. -/
def IsWhole (bytes : List UInt8) : Prop :=
  IsDigits bytes ∧ (bytes.head? = some 0x30 → bytes.length = 1)

/-- A point and digits, if there is a point. -/
def IsFraction (bytes : List UInt8) : Prop :=
  bytes = [] ∨ ∃ digits, bytes = 0x2E :: digits ∧ IsDigits digits

/-- A letter, a sign and digits, if there is a letter; the sign may be left out. -/
def IsExponent (bytes : List UInt8) : Prop :=
  bytes = [] ∨ ∃ letter sign digits, bytes = letter :: (sign ++ digits) ∧
    (letter = 0x65 ∨ letter = 0x45) ∧ (sign = [] ∨ sign = [0x2B] ∨ sign = [0x2D]) ∧
    IsDigits digits

/-- A number. -/
def IsNumber (bytes : List UInt8) : Prop :=
  ∃ sign whole fraction exponent, bytes = sign ++ (whole ++ (fraction ++ exponent)) ∧
    (sign = [] ∨ sign = [0x2D]) ∧ IsWhole whole ∧ IsFraction fraction ∧ IsExponent exponent

/-- The three words. -/
def fixedWords : List (List UInt8) :=
  [[0x6E, 0x75, 0x6C, 0x6C], [0x74, 0x72, 0x75, 0x65], [0x66, 0x61, 0x6C, 0x73, 0x65]]

/-- The bracket that opens a list or a map. -/
def opening (isMap : Bool) : UInt8 := if isMap then 0x7B else 0x5B

/-- The bracket that closes a list or a map. -/
def closing (isMap : Bool) : UInt8 := if isMap then 0x7D else 0x5D

/-- What a form is the form of. -/
inductive Shape where
  /-- A value. -/
  | value
  /-- An item of a list, or a member of a map, with the blanks around it. -/
  | part (isMap : Bool)
  /-- One part or more, with commas between them. -/
  | parts (isMap : Bool)

/-- The forms of values, of parts, and of all parts between two brackets. -/
inductive IsForm : Shape → List UInt8 → Prop where
  /-- One of the three words. -/
  | word {form : List UInt8} (known : form ∈ fixedWords) : IsForm .value form
  /-- A number. -/
  | number {form : List UInt8} (isNumber : IsNumber form) : IsForm .value form
  /-- A text. -/
  | text {form : List UInt8} (isText : IsTextForm form) :
    IsForm .value (0x22 :: (form ++ [0x22]))
  /-- A list or a map without parts. -/
  | empty {isMap : Bool} {blanks : List UInt8} (areBlanks : IsBlanks blanks) :
    IsForm .value (opening isMap :: (blanks ++ [closing isMap]))
  /-- A list or a map with parts. -/
  | compound {isMap : Bool} {form : List UInt8} (parts : IsForm (.parts isMap) form) :
    IsForm .value (opening isMap :: (form ++ [closing isMap]))
  /-- An item of a list. -/
  | item {before form after : List UInt8} (front : IsBlanks before) (value : IsForm .value form)
    (back : IsBlanks after) : IsForm (.part false) (before ++ (form ++ after))
  /-- A member of a map. -/
  | member {before name gap lead form after : List UInt8} (front : IsBlanks before)
    (isName : IsTextForm name) (middle : IsBlanks gap) (leading : IsBlanks lead)
    (value : IsForm .value form) (back : IsBlanks after) :
    IsForm (.part true)
      (before ++ 0x22 :: (name ++ 0x22 :: (gap ++ 0x3A :: (lead ++ (form ++ after)))))
  /-- The last part. -/
  | last {isMap : Bool} {form : List UInt8} (part : IsForm (.part isMap) form) :
    IsForm (.parts isMap) form
  /-- A part with more after it. -/
  | more {isMap : Bool} {form later : List UInt8} (part : IsForm (.part isMap) form)
    (parts : IsForm (.parts isMap) later) : IsForm (.parts isMap) (form ++ 0x2C :: later)

/-- The form of a value. -/
abbrev IsValue (form : List UInt8) : Prop := IsForm .value form

/-- The form of a member that has a name and the form of a value. -/
def IsMember (member : String × List UInt8) (bytes : List UInt8) : Prop :=
  ∃ before name gap lead after,
    bytes = before ++ 0x22 :: (name ++ 0x22 :: (gap ++ 0x3A :: (lead ++ (member.2 ++ after)))) ∧
    (IsBlanks before ∧ IsBlanks gap ∧ IsBlanks lead ∧ IsBlanks after) ∧
    Spells (Text.utf8 member.1) name ∧ IsValue member.2

/-- The form of one member or more, with commas between them. -/
inductive AreMembers : List (String × List UInt8) → List UInt8 → Prop where
  /-- The last member. -/
  | last {member : String × List UInt8} {form : List UInt8} (isMember : IsMember member form) :
    AreMembers [member] form
  /-- A member with more after it. -/
  | more {member : String × List UInt8} {members : List (String × List UInt8)}
    {form later : List UInt8} (isMember : IsMember member form)
    (areMembers : AreMembers members later) :
    AreMembers (member :: members) (form ++ 0x2C :: later)

/-- A document that is an object of these members, in this order, and nothing else. -/
inductive IsObject : List (String × List UInt8) → List UInt8 → Prop where
  /-- Without members. -/
  | empty {before inside after : List UInt8} (front : IsBlanks before) (middle : IsBlanks inside)
    (back : IsBlanks after) : IsObject [] (before ++ 0x7B :: (inside ++ 0x7D :: after))
  /-- With members. -/
  | members {members : List (String × List UInt8)} {before inside after : List UInt8}
    (front : IsBlanks before) (areMembers : AreMembers members inside) (back : IsBlanks after) :
    IsObject members (before ++ 0x7B :: (inside ++ 0x7D :: after))

/-- The comma in front of every part but the first. -/
def comma (first : Bool) : List UInt8 := if first then [] else [0x2C]

/-- What is spelled is spelled by a form of texts. -/
theorem Spells.isTextForm {text form : List UInt8} (spells : Spells text form) :
    IsTextForm form := by
  induction spells with
  | nil => exact .nil
  | plain isPlain _ ih => exact .plain isPlain ih
  | short known _ ih => exact .short known ih
  | unit digits _ _ _ ih => exact .unit digits ih
  | pair digits digits' _ _ _ ih => exact .unit digits (.unit digits' ih)

/-- There may be no blanks. -/
theorem isBlanks_nil : IsBlanks [] := nofun

/-- Blanks are skipped. -/
theorem IsBlanks.skipBlank_append {blanks : List UInt8} (areBlanks : IsBlanks blanks)
    (bytes : List UInt8) : skipBlank (blanks ++ bytes) = skipBlank bytes := by
  induction blanks with
  | nil => rfl
  | cons byte blanks ih =>
    rw [IsBlanks, List.forall_mem_cons] at areBlanks
    rw [List.cons_append, skipBlank, if_pos areBlanks.1, ih areBlanks.2]

/-- Nothing is left of blanks. -/
theorem IsBlanks.skipBlank_eq_nil {blanks : List UInt8} (areBlanks : IsBlanks blanks) :
    skipBlank blanks = [] := by
  have skipped := areBlanks.skipBlank_append []
  rwa [List.append_nil] at skipped

/-- What begins with no blank is not skipped. -/
theorem skipBlank_cons_of_false {byte : UInt8} (shown : isBlank byte = false)
    (bytes : List UInt8) : skipBlank (byte :: bytes) = byte :: bytes := by
  rw [skipBlank, shown, if_neg Bool.false_ne_true]

/-- A number ends in front of blanks if it ends in front of what comes after them. -/
theorem IsBlanks.endsNumber_append {blanks rest : List UInt8} (areBlanks : IsBlanks blanks)
    (ends : EndsNumber rest) : EndsNumber (blanks ++ rest) := by
  cases blanks with
  | nil => exact ends
  | cons blank blanks =>
    intro first head
    obtain rfl : blank = first := by simpa using head
    have shown := areBlanks blank List.mem_cons_self
    simp only [isBlank, Bool.or_eq_true, beq_iff_eq] at shown
    rcases shown with ((rfl | rfl) | rfl) | rfl <;> decide

/-- A number ends in front of a comma, a colon and a closing bracket. -/
theorem endsNumber_cons {byte : UInt8} (known : byte ∈ [0x2C, 0x3A, 0x5D, 0x7D])
    (rest : List UInt8) : EndsNumber (byte :: rest) := by
  have ends : ∀ byte : UInt8, byte ∈ [0x2C, 0x3A, 0x5D, 0x7D] →
      isDigit byte = false ∧ byte ≠ 0x2E ∧ byte ≠ 0x65 ∧ byte ≠ 0x45 := by simp; decide
  intro first head
  obtain rfl : byte = first := by simpa using head
  exact ends byte known

end RoundKey.Json
