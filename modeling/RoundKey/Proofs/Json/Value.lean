import RoundKey.Proofs.Json.Scan

/-!
# Reading values of the grammar

Whatever is read where a value of the grammar stands, as a value that is only found or as a value of
a kind, depends on that value alone, and what comes after it is left. So a member of an object means
the same in every object and at every place in it.
-/
namespace RoundKey.Json

open RoundKey.Data

variable {form rest : List UInt8}

/-- Skimming passes every value. -/
theorem skimValue_append (value : IsValue form) {blanks : List UInt8} (areBlanks : IsBlanks blanks)
    (ends : EndsNumber rest) : skimValue (blanks ++ (form ++ rest)) = .ok rest := by
  obtain ⟨passes, unlimited, scans⟩ := value.scans .skim
  have enough : 3 * form.length ≤ scanFuel (blanks ++ (form ++ rest)) := by
    simp only [scanFuel, List.length_append]
    omega
  have passed := scans _ rest enough ends
  rw [unlimited rfl, if_pos rfl] at passed
  rw [skimValue, scanValue_append areBlanks]
  cases scanned : scanValue .skim (scanFuel (blanks ++ (form ++ rest))) (form ++ rest) <;>
    simp_all [Except.toOption]

/-- A refusal is no value. -/
theorem toOption_refuse {α : Type} (wanted : Wanted) (byte : UInt8) (bytes : List UInt8) :
    (refuse wanted byte bytes : Except Fault α).toOption = none := by
  unfold refuse
  split <;> rfl

/-- A reader that finds nothing at a form finds nothing there whatever comes after it. -/
theorem settles_of_none {α : Type} {read : List UInt8 → Read α}
    (refused : ∀ rest, (read (form ++ rest)).toOption = none) : Settles read form :=
  settles_of_outcome none fun rest _ => refused rest

/-- The value that a reader takes from a form that stands alone. -/
def taken {α : Type} (read : List UInt8 → Read α) (form : List UInt8) : Option α :=
  (read form).toOption.map Prod.fst

/-- A reader that settles takes from a form what it takes from it alone. -/
theorem Settles.toOption_eq {α : Type} {read : List UInt8 → Read α} (settles : Settles read form)
    (ends : EndsNumber rest) : (read (form ++ rest)).toOption =
      (taken read form).map fun value => (value, rest) := by
  rw [settles rest ends, taken, Option.map_map]
  rfl

/-- The value that is taken from a form alone is taken from it wherever it stands. -/
theorem Settles.read_of_taken {α : Type} {read : List UInt8 → Read α} {value : α}
    (settles : Settles read form) (takes : taken read form = some value)
    (ends : EndsNumber rest) : read (form ++ rest) = .ok (value, rest) := by
  obtain ⟨found, alone, rfl⟩ := Option.map_eq_some_iff.mp takes
  have settled := settles rest ends
  rw [alone] at settled
  cases read : read (form ++ rest) <;> simp_all [Except.toOption]

/-- What is refused alone is refused wherever it stands. -/
theorem Settles.error_of_taken {α : Type} {read : List UInt8 → Read α} (settles : Settles read form)
    (refused : taken read form = none) (ends : EndsNumber rest) :
    ∃ fault, read (form ++ rest) = .error fault := by
  have settled := settles rest ends
  rw [Option.map_eq_none_iff.mp refused] at settled
  cases read : read (form ++ rest) with
  | error fault => exact ⟨fault, rfl⟩
  | ok found => simp [read, Except.toOption] at settled

/-- A reader that does with what another one reads what depends on nothing else. -/
theorem Settles.refine {α β : Type} {read : List UInt8 → Read α} {inner : List UInt8 → Read β}
    (settles : Settles inner form) (turn : β → Option α)
    (same : ∀ rest, (read (form ++ rest)).toOption =
      (inner (form ++ rest)).toOption.bind fun found =>
        (turn found.1).map fun value => (value, found.2)) : Settles read form := by
  apply settles_of_outcome ((inner form).toOption.bind fun found => turn found.1)
  intro rest ends
  rw [same, settles rest ends]
  cases (inner form).toOption <;> rfl

/-- A reader that goes on after the first byte with another reader. -/
theorem Settles.cons {α : Type} {read inner : List UInt8 → Read α} {byte : UInt8}
    (settles : Settles inner form)
    (same : ∀ rest, read (byte :: (form ++ rest)) = inner (form ++ rest)) :
    Settles read (byte :: form) := by
  intro rest ends
  have alone := same []
  rw [List.append_nil] at alone
  rw [List.cons_append, same, alone]
  exact settles rest ends

/-- A list or a map is found as what it is if its parts pass, wherever it stands. -/
theorem exists_readFound_opening (depth : Nat) (isMap : Bool)
    (value : IsValue (opening isMap :: form)) :
    ∃ outcome : Option Found, ∀ lead rest, IsBlanks lead → EndsNumber rest →
      (readFound depth (lead ++ (opening isMap :: (form ++ rest)))).toOption =
        outcome.map fun found => (found, rest) := by
  obtain ⟨passes, -, scans⟩ := value.scans (.strict depth)
  let found : Found := if isMap then .map else .sequence
  refine ⟨if passes then some found else none, fun lead rest leading ends => ?_⟩
  let fuel := scanFuel (lead ++ (opening isMap :: (form ++ rest)))
  have enough : 3 * (opening isMap :: form).length ≤ fuel := by
    simp only [fuel, scanFuel, List.length_append, List.length_cons]
    omega
  have read : readFound depth (lead ++ (opening isMap :: (form ++ rest))) =
      (scanValue (.strict depth) fuel (opening isMap :: form ++ rest)).map fun rest =>
        (found, rest) := by
    rw [readFound, leading.skipBlank_append]
    cases isMap <;> rfl
  rw [read, toOption_map, scans _ rest enough ends]
  cases passes <;> rfl

/-- What is found of a list or a map does not depend on what comes after. -/
theorem settles_readFound_opening (depth : Nat) (isMap : Bool)
    (value : IsValue (opening isMap :: form)) :
    Settles (readFound depth) (opening isMap :: form) := by
  obtain ⟨outcome, reads⟩ := exists_readFound_opening depth isMap value
  exact settles_of_outcome outcome fun rest ends => reads [] rest nofun ends

/-- What is found of a value does not depend on what comes after. -/
theorem settles_readFound (depth : Nat) (value : IsValue form) :
    Settles (readFound depth) form := by
  cases value with
  | word known =>
    simp only [fixedWords, List.mem_cons, List.not_mem_nil, or_false] at known
    rcases known with rfl | rfl | rfl <;> exact fun rest ends => rfl
  | number isNumber =>
    intro rest ends
    have settled := isNumber.settles_readNumber rest ends
    obtain ⟨first, later, rfl, front⟩ := isNumber.exists_cons
    have same (bytes : List UInt8) :
        readFound depth (first :: bytes) = readNumber (first :: bytes) := by
      rcases front with rfl | decimal
      · rfl
      · obtain ⟨shown, noQuote, noList, noMap⟩ := plain_of_isDigit decimal
        simp [readFound, skipBlank, shown, noQuote, noList, noMap, readPlain, decimal]
    rw [List.cons_append, same, same]
    exact settled
  | @text form isText =>
    have found : Settles (fun bytes => (readText bytes).map fun read => (Found.text read.1, read.2))
        (form ++ [0x22]) := by
      apply isText.settles_readText.refine fun text => some (.text text)
      intro rest
      cases readText (form ++ [0x22] ++ rest) <;> rfl
    exact found.cons fun _ => rfl
  | empty areBlanks => exact settles_readFound_opening depth _ (.empty areBlanks)
  | compound parts => exact settles_readFound_opening depth _ (.compound parts)

/-- What the first byte of a value tells of it. -/
structure Front (first : UInt8) (later : List UInt8) : Prop where
  /-- It is no blank. -/
  shown : isBlank first = false
  /-- A quote begins a text. -/
  text : first = 0x22 → ∃ form, later = form ++ [0x22] ∧ IsTextForm form
  /-- A sign or a digit begins a number. -/
  number : first = 0x2D ∨ isDigit first = true → IsNumber (first :: later)
  /-- The letter of the null value begins the null value. -/
  null : first = 0x6E → later = [0x75, 0x6C, 0x6C]
  /-- A brace begins a map. -/
  map : first = 0x7B → (∃ blanks, later = blanks ++ [0x7D] ∧ IsBlanks blanks) ∨
    ∃ form, later = form ++ [0x7D] ∧ IsForm (.parts true) form

/-- Every value begins with a byte that tells what it is. -/
theorem exists_front (value : IsValue form) :
    ∃ first later, form = first :: later ∧ Front first later := by
  cases value with
  | word known =>
    simp only [fixedWords, List.mem_cons, List.not_mem_nil, or_false] at known
    rcases known with rfl | rfl | rfl <;>
      exact ⟨_, _, rfl, by decide, fun same => absurd same (by decide),
        fun numeric => absurd numeric (by decide), by decide, fun same => absurd same (by decide)⟩
  | number isNumber =>
    obtain ⟨first, later, rfl, front⟩ := isNumber.exists_cons
    refine ⟨first, later, rfl, ?_, ?_, fun _ => isNumber, ?_, ?_⟩
    · rcases front with rfl | decimal
      · rfl
      · exact (plain_of_isDigit decimal).1
    all_goals
      rintro rfl
      rcases front with same | decimal <;> contradiction
  | text isText =>
    exact ⟨_, _, rfl, by decide, fun _ => ⟨_, rfl, isText⟩,
      fun numeric => absurd numeric (by decide), fun same => absurd same (by decide),
      fun same => absurd same (by decide)⟩
  | @empty isMap blanks areBlanks =>
    cases isMap with
    | false =>
      exact ⟨_, _, rfl, by decide, fun same => absurd same (by decide),
        fun numeric => absurd numeric (by decide), fun same => absurd same (by decide),
        fun same => absurd same (by decide)⟩
    | true =>
      exact ⟨_, _, rfl, by decide, fun same => absurd same (by decide),
        fun numeric => absurd numeric (by decide), fun same => absurd same (by decide),
        fun _ => .inl ⟨blanks, rfl, areBlanks⟩⟩
  | @compound isMap form parts =>
    cases isMap with
    | false =>
      exact ⟨_, _, rfl, by decide, fun same => absurd same (by decide),
        fun numeric => absurd numeric (by decide), fun same => absurd same (by decide),
        fun same => absurd same (by decide)⟩
    | true =>
      exact ⟨_, _, rfl, by decide, fun same => absurd same (by decide),
        fun numeric => absurd numeric (by decide), fun same => absurd same (by decide),
        fun _ => .inr ⟨form, rfl, parts⟩⟩

/-- Nothing but a quote begins what is read as a text. -/
theorem toOption_readString_of_ne {wanted : Wanted} {first : UInt8}
    (shown : isBlank first = false) (noQuote : first ≠ 0x22) (bytes : List UInt8) :
    (readString wanted (first :: bytes)).toOption = none := by
  rw [readString, skipBlank_cons_of_false shown]
  simp only [if_neg noQuote, toOption_refuse]

/-- A text is read as a text and nothing else is. -/
theorem settles_readString (wanted : Wanted) (value : IsValue form) :
    Settles (readString wanted) form := by
  obtain ⟨first, later, rfl, front⟩ := exists_front value
  by_cases quote : first = 0x22
  · subst quote
    obtain ⟨form, rfl, isText⟩ := front.text rfl
    exact isText.settles_readText.cons fun _ => rfl
  · exact settles_of_none fun rest => toOption_readString_of_ne front.shown quote _

/-- A number of 32 bits is read as such and nothing else is. -/
theorem settles_readUInt32 (value : IsValue form) : Settles readUInt32 form := by
  obtain ⟨first, later, rfl, front⟩ := exists_front value
  by_cases numeric : first = 0x2D ∨ isDigit first = true
  · apply (front.number numeric).settles_readNumber.refine fun found =>
      (Scalar.ofFound .word found).toOption
    intro rest
    simp only [List.cons_append, readUInt32, skipBlank_cons_of_false front.shown, if_pos numeric]
    cases readNumber (first :: (later ++ rest)) with
    | error fault => rfl
    | ok found =>
      simp only [Except.toOption, Option.bind_some]
      cases Scalar.ofFound .word found.1 <;> rfl
  · apply settles_of_none
    intro rest
    simp only [List.cons_append, readUInt32, skipBlank_cons_of_false front.shown, if_neg numeric,
      toOption_refuse]

/-- The null value. -/
def nullForm : List UInt8 := [0x6E, 0x75, 0x6C, 0x6C]

/-- The null value is read as such. -/
theorem readNull_nullForm {lead : List UInt8} (leading : IsBlanks lead) (rest : List UInt8) :
    readNull (lead ++ (nullForm ++ rest)) = .ok rest := by
  rw [readNull, leading.skipBlank_append]
  rfl

/-- Nothing else is read as the null value. -/
theorem exists_readNull_error (value : IsValue form) (other : form ≠ nullForm)
    {lead : List UInt8} (leading : IsBlanks lead) (rest : List UInt8) :
    ∃ fault, readNull (lead ++ (form ++ rest)) = .error fault := by
  obtain ⟨first, later, rfl, front⟩ := exists_front value
  rw [readNull, leading.skipBlank_append, List.cons_append, skipBlank_cons_of_false front.shown]
  have noNull : first ≠ 0x6E := by
    rintro rfl
    exact other (by rw [front.null rfl, nullForm])
  have refused := toOption_refuse (α := List UInt8) .unit first (later ++ rest)
  cases refuses : (refuse .unit first (later ++ rest) : Except Fault (List UInt8)) with
  | error fault => exact ⟨fault, by simp [noNull, refuses]⟩
  | ok found => simp [refuses, Except.toOption] at refused

/-- A failure class in a map is its name if the value of the first member is null and no other
member comes after it. -/
theorem toOption_readCode_map {before name gap lead after : List UInt8} (front : IsBlanks before)
    (isName : IsTextForm name) (middle : IsBlanks gap) (leading : IsBlanks lead)
    (value : IsValue form) (back : IsBlanks after) (last : UInt8) (shown : isBlank last = false)
    (rest : List UInt8) :
    (readCode (0x7B :: (before ++ 0x22 :: (name ++ 0x22 :: (gap ++ 0x3A ::
        (lead ++ (form ++ (after ++ last :: rest)))))))).toOption =
      if form = nullForm ∧ last = 0x7D then
        (taken readText (name ++ [0x22])).map fun name => (ErrorCode.ofName name, rest)
      else none := by
  let later := gap ++ 0x3A :: (lead ++ (form ++ (after ++ last :: rest)))
  have ends : EndsNumber later := middle.endsNumber_append (endsNumber_cons (by decide) _)
  have named : readString .caseName (before ++ 0x22 :: (name ++ 0x22 :: later)) =
      readText (name ++ [0x22] ++ later) := by
    rw [readString, front.skipBlank_append, List.append_assoc]
    rfl
  have blank : skipBlank (0x7B :: (before ++ 0x22 :: (name ++ 0x22 :: later))) =
    0x7B :: (before ++ 0x22 :: (name ++ 0x22 :: later)) := rfl
  show (readCode (0x7B :: (before ++ 0x22 :: (name ++ 0x22 :: later)))).toOption = _
  rw [readCode, blank]
  simp only [named]
  cases takes : taken readText (name ++ [0x22]) with
  | none =>
    obtain ⟨fault, found⟩ := isName.settles_readText.error_of_taken takes ends
    rw [found]
    simp [Except.toOption]
  | some text =>
    rw [isName.settles_readText.read_of_taken takes ends]
    have colon : readColon later = .ok (lead ++ (form ++ (after ++ last :: rest))) :=
      readColon_append middle _
    by_cases isNull : form = nullForm
    · subst isNull
      have ending : skipBlank (after ++ last :: rest) = last :: rest := by
        rw [back.skipBlank_append, skipBlank_cons_of_false shown]
      simp only [colon, readNull_nullForm leading, ending]
      by_cases closes : last = 0x7D <;> simp [closes, Except.toOption]
    · obtain ⟨fault, nulls⟩ := exists_readNull_error value isNull leading (after ++ last :: rest)
      simp [colon, nulls, isNull, Except.toOption]

/-- A failure class is read from a map of one member, and from no other map. -/
theorem settles_readCode_map (parts : IsForm (.parts true) form) :
    Settles readCode (0x7B :: (form ++ [0x7D])) := by
  cases parts with
  | last part =>
    cases part with
    | @member before name gap lead form after front isName middle leading value back =>
      apply settles_of_outcome (if form = nullForm then
        (taken readText (name ++ [0x22])).map ErrorCode.ofName else none)
      intro rest _
      have read := toOption_readCode_map front isName middle leading value back
        0x7D rfl rest
      simp only [List.cons_append, List.append_assoc, List.nil_append, read]
      split <;> simp_all [Option.map_map, Function.comp_def]
  | @more _ _ later part parts =>
    cases part with
    | member front isName middle leading value back =>
      apply settles_of_none
      intro rest
      have read := toOption_readCode_map front isName middle leading value back
        0x2C rfl (later ++ 0x7D :: rest)
      simpa using read

/-- No failure class is read from a map without members. -/
theorem settles_readCode_empty {blanks : List UInt8} (areBlanks : IsBlanks blanks) :
    Settles readCode (0x7B :: (blanks ++ [0x7D])) := by
  apply settles_of_none
  intro rest
  have blank : skipBlank (0x7B :: (blanks ++ 0x7D :: rest)) = 0x7B :: (blanks ++ 0x7D :: rest) :=
    rfl
  have noName : readString .caseName (blanks ++ 0x7D :: rest) = .error .malformed := by
    rw [readString, areBlanks.skipBlank_append]
    rfl
  have joined : 0x7B :: (blanks ++ [0x7D]) ++ rest = 0x7B :: (blanks ++ 0x7D :: rest) := by simp
  rw [joined, readCode, blank]
  simp [noName, Except.toOption]

/-- A failure class is read from a value as such and nothing else is. -/
theorem settles_readCode (value : IsValue form) : Settles readCode form := by
  obtain ⟨first, later, rfl, front⟩ := exists_front value
  by_cases quote : first = 0x22
  · subst quote
    obtain ⟨form, rfl, isText⟩ := front.text rfl
    have named : Settles (fun bytes => (readText bytes).map fun read =>
        (ErrorCode.ofName read.1, read.2)) (form ++ [0x22]) := by
      apply isText.settles_readText.refine fun name => some (ErrorCode.ofName name)
      intro rest
      cases readText (form ++ [0x22] ++ rest) <;> rfl
    exact named.cons fun _ => rfl
  by_cases brace : first = 0x7B
  · subst brace
    rcases front.map rfl with ⟨blanks, rfl, areBlanks⟩ | ⟨form, rfl, parts⟩
    · exact settles_readCode_empty areBlanks
    · exact settles_readCode_map parts
  · apply settles_of_none
    intro rest
    simp [readCode, skipBlank_cons_of_false front.shown, quote, brace, Except.toOption]

/-- A value of a kind is read from a value as such. -/
theorem settles_readScalar (kind : Scalar) (value : IsValue form) :
    Settles (readScalar kind) form := by
  cases kind with
  | text => exact settles_readString .text value
  | word => exact settles_readUInt32 value
  | binary encoding content =>
    apply (settles_readString .text value).refine fun text =>
      (content.decode encoding (Text.utf8 text)).toOption
    intro rest
    rw [readScalar]
    cases readString .text (form ++ rest) with
    | error fault => rfl
    | ok found =>
      simp only [Except.toOption, Option.bind_some]
      cases content.decode encoding (Text.utf8 found.1) <;> rfl
  | code => exact settles_readCode value

section Blanks

variable {lead : List UInt8}

/-- Blanks before a value are skipped. -/
theorem toOption_readFound_append (depth : Nat) (value : IsValue form) (leading : IsBlanks lead)
    (ends : EndsNumber rest) : (readFound depth (lead ++ (form ++ rest))).toOption =
      (readFound depth (form ++ rest)).toOption := by
  have opened (isMap : Bool) {inside : List UInt8} (value : IsValue (opening isMap :: inside)) :
      (readFound depth (lead ++ (opening isMap :: (inside ++ rest)))).toOption =
        (readFound depth (opening isMap :: (inside ++ rest))).toOption := by
    obtain ⟨outcome, reads⟩ := exists_readFound_opening depth isMap value
    exact (reads lead rest leading ends).trans (reads [] rest nofun ends).symm
  have plain {first : UInt8} {later : List UInt8} (shown : isBlank first = false)
      (noBracket : ¬(first = 0x5B ∨ first = 0x7B)) :
      readFound depth (lead ++ first :: later) = readFound depth (first :: later) := by
    simp only [readFound, leading.skipBlank_append, skipBlank_cons_of_false shown,
      if_neg noBracket]
  cases value with
  | word known =>
    simp only [fixedWords, List.mem_cons, List.not_mem_nil, or_false] at known
    rcases known with rfl | rfl | rfl <;> exact congrArg _ (plain rfl (by decide))
  | number isNumber =>
    obtain ⟨first, later, rfl, rfl | decimal⟩ := isNumber.exists_cons
    · exact congrArg _ (plain rfl (by decide))
    · obtain ⟨shown, -, noList, noMap⟩ := plain_of_isDigit decimal
      exact congrArg _ (plain shown (by simp [noList, noMap]))
  | text isText => exact congrArg _ (plain rfl (by decide))
  | empty areBlanks => exact opened _ (.empty areBlanks)
  | compound parts => exact opened _ (.compound parts)

/-- Blanks before a value of a kind are skipped. -/
theorem readScalar_append (kind : Scalar) (leading : IsBlanks lead) (bytes : List UInt8) :
    readScalar kind (lead ++ bytes) = readScalar kind bytes := by
  cases kind <;>
    simp only [readScalar, readString, readUInt32, readCode, leading.skipBlank_append]

end Blanks

end RoundKey.Json
