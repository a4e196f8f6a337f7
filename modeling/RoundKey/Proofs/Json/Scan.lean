import RoundKey.Proofs.Json.Token

/-!
# Scanning what the grammar gives

Every value of the grammar is scanned up to its end, wherever it stands. Skimming passes every
value; strict scanning passes or refuses a value for what is in it and for its depth, and not for
what comes after it.
-/
namespace RoundKey.Json

open RoundKey.Data

/-- The rules under which values are scanned. -/
inductive Rules.IsKnown : Rules → Prop where
  /-- The form of each part is checked. -/
  | skim : IsKnown .skim
  /-- Each part is read in full. -/
  | strict (depth : Nat) : IsKnown (.strict depth)

namespace Rules.IsKnown

variable {rules : Rules}

/-- Under known rules, a text is passed or refused whatever comes after it, and skimming passes. -/
theorem text (known : rules.IsKnown) {form : List UInt8} (isText : IsTextForm form) :
    ∃ passes : Bool, (rules.depth = none → passes = true) ∧ ∀ rest, EndsNumber rest →
      (rules.text (form ++ 0x22 :: rest)).toOption = if passes then some rest else none := by
  cases known with
  | skim =>
    refine ⟨true, fun _ => rfl, fun rest _ => ?_⟩
    show (skimText (form ++ 0x22 :: rest)).toOption = some rest
    rw [isText.skimText_append]
    rfl
  | strict depth =>
    refine ⟨(readText (form ++ [0x22])).toOption.isSome, nofun, fun rest ends => ?_⟩
    have settled := isText.settles_readText rest ends
    have joined : form ++ [0x22] ++ rest = form ++ 0x22 :: rest := by simp
    rw [joined] at settled
    rw [Rules.strict]
    cases read : readText (form ++ 0x22 :: rest) <;>
      cases alone : readText (form ++ [0x22]) <;> simp_all [Except.toOption, Except.map]

/-- Under known rules, a number is passed or refused whatever comes after it, and skimming
passes. -/
theorem number (known : rules.IsKnown) {form : List UInt8} (isNumber : IsNumber form) :
    ∃ passes : Bool, (rules.depth = none → passes = true) ∧ ∀ rest, EndsNumber rest →
      (rules.number (form ++ rest)).toOption = if passes then some rest else none := by
  cases known with
  | skim =>
    refine ⟨true, fun _ => rfl, fun rest ends => ?_⟩
    show (skimNumber (form ++ rest)).toOption = some rest
    rw [isNumber.skimNumber_append ends]
    rfl
  | strict depth =>
    refine ⟨(readNumber form).toOption.isSome, nofun, fun rest ends => ?_⟩
    have settled := isNumber.settles_readNumber rest ends
    rw [Rules.strict]
    cases read : readNumber (form ++ rest) <;>
      cases alone : readNumber form <;> simp_all [Except.toOption, Except.map]

/-- Entering a list or a map leads to known rules, and skimming always enters. -/
theorem enter (known : rules.IsKnown) :
    (∃ inner, rules.enter? = some inner ∧ inner.IsKnown ∧
      (rules.depth = none → inner.depth = none)) ∨
    (rules.enter? = none ∧ rules.depth ≠ none) := by
  cases known with
  | skim => exact .inl ⟨.skim, rfl, .skim, id⟩
  | strict depth =>
    cases depth with
    | zero => exact .inr ⟨rfl, nofun⟩
    | succ depth => exact .inl ⟨.strict depth, rfl, .strict depth, nofun⟩

end Rules.IsKnown

section Blanks

variable {rules : Rules} {fuel : Nat} {isMap first : Bool} {blanks : List UInt8}

/-- Blanks in front of a value are skipped. -/
theorem scanValue_append (areBlanks : IsBlanks blanks) (bytes : List UInt8) :
    scanValue rules fuel (blanks ++ bytes) = scanValue rules fuel bytes := by
  cases fuel <;> simp only [scanValue, areBlanks.skipBlank_append]

/-- Blanks in front of a comma or a bracket are skipped. -/
theorem scanParts_append (areBlanks : IsBlanks blanks) (bytes : List UInt8) :
    scanParts rules fuel isMap first (blanks ++ bytes) =
      scanParts rules fuel isMap first bytes := by
  cases fuel <;> simp only [scanParts, areBlanks.skipBlank_append]

/-- Skipping blanks makes no second difference. -/
theorem skipBlank_skipBlank (bytes : List UInt8) :
    skipBlank (skipBlank bytes) = skipBlank bytes := by
  induction bytes with
  | nil => rfl
  | cons byte bytes ih =>
    cases blank : isBlank byte with
    | true => simp only [skipBlank, blank, if_true, ih]
    | false => simp only [skipBlank, blank, Bool.false_eq_true, if_false]

/-- Blanks in front of a part have been skipped or are skipped. -/
theorem scanPart_skipBlank (bytes : List UInt8) :
    scanPart rules fuel isMap (skipBlank bytes) = scanPart rules fuel isMap bytes := by
  cases fuel with
  | zero => simp only [scanPart]
  | succ fuel =>
    cases isMap with
    | true => simp only [scanPart, if_true, scanName, skipBlank_skipBlank]
    | false =>
      cases fuel <;>
        simp only [scanPart, scanValue, skipBlank_skipBlank, Bool.false_eq_true, if_false]

end Blanks

/-- A number begins with a sign or a digit. -/
theorem IsNumber.exists_cons {form : List UInt8} (isNumber : IsNumber form) :
    ∃ first later, form = first :: later ∧ (first = 0x2D ∨ isDigit first = true) := by
  obtain ⟨sign, whole, fraction, exponent, rfl, rfl | rfl, isWhole, -, -⟩ := isNumber
  · obtain ⟨first, later, rfl, decimal⟩ := isWhole.1.exists_cons
    exact ⟨first, _, rfl, .inr decimal⟩
  · exact ⟨0x2D, _, rfl, .inl rfl⟩

/-- A value, a part, and parts begin with a byte that closes nothing. -/
theorem IsForm.exists_skipBlank {shape : Shape} {form : List UInt8} (isForm : IsForm shape form)
    (rest : List UInt8) :
    ∃ first later, skipBlank (form ++ rest) = first :: later ∧ first ≠ 0x5D ∧ first ≠ 0x7D := by
  induction isForm generalizing rest with
  | word known =>
    simp only [fixedWords, List.mem_cons, List.not_mem_nil, or_false] at known
    rcases known with rfl | rfl | rfl <;> exact ⟨_, _, rfl, by decide, by decide⟩
  | number isNumber =>
    obtain ⟨first, later, rfl, front⟩ := isNumber.exists_cons
    have shown : isBlank first = false := by
      rcases front with rfl | decimal
      · rfl
      · exact (plain_of_isDigit decimal).1
    refine ⟨first, later ++ rest, skipBlank_cons_of_false shown _, ?_, ?_⟩ <;>
      · rintro rfl
        rcases front with same | decimal <;> contradiction
  | text isText => exact ⟨0x22, _, rfl, by decide, by decide⟩
  | @empty isMap blanks areBlanks =>
    cases isMap <;> exact ⟨_, _, rfl, by decide, by decide⟩
  | @compound isMap form parts ih =>
    cases isMap <;> exact ⟨_, _, rfl, by decide, by decide⟩
  | item front value back ih =>
    rw [List.append_assoc, List.append_assoc, front.skipBlank_append]
    exact ih _
  | member front isName middle leading value back ih =>
    rw [List.append_assoc, front.skipBlank_append]
    exact ⟨0x22, _, rfl, by decide, by decide⟩
  | last part ih => exact ih rest
  | more part parts ih _ =>
    rw [List.append_assoc]
    exact ih _

/-- What scanning a form comes to under some rules: it passes, or is refused. A part is followed by
the parts after it, and parts by their closing bracket. -/
def Scans (rules : Rules) (passes : Bool) : Shape → List UInt8 → Prop
  | .value, form => ∀ fuel rest, 3 * form.length ≤ fuel → EndsNumber rest →
    (scanValue rules fuel (form ++ rest)).toOption = if passes then some rest else none
  | .part isMap, form => ∀ fuel rest, 3 * form.length ≤ fuel → EndsNumber rest →
    (scanPart rules (fuel + 1) isMap (form ++ rest)).toOption =
      if passes then (scanParts rules fuel isMap false rest).toOption else none
  | .parts isMap, form => ∀ fuel rest, 3 * form.length + 2 ≤ fuel →
    (scanPart rules fuel isMap (form ++ closing isMap :: rest)).toOption =
      if passes then some rest else none

/-- A closing bracket ends a list or a map. -/
theorem scanParts_closing (rules : Rules) (fuel : Nat) (isMap first : Bool) (rest : List UInt8) :
    scanParts rules (fuel + 1) isMap first (closing isMap :: rest) = .ok rest := by
  cases isMap <;> simp [scanParts, closing, skipBlank, isBlank]

/-- A comma leads to a further part. -/
theorem scanParts_comma (rules : Rules) (fuel : Nat) {isMap : Bool} {form : List UInt8}
    (isForm : IsForm (.parts isMap) form) (rest : List UInt8) :
    scanParts rules (fuel + 1) isMap false (0x2C :: (form ++ rest)) =
      scanPart rules fuel isMap (form ++ rest) := by
  obtain ⟨first, later, found, -⟩ := isForm.exists_skipBlank rest
  cases isMap <;> simp [scanParts, skipBlank, isBlank, found]

/-- The first part is scanned as any part. -/
theorem scanParts_first (rules : Rules) (fuel : Nat) {isMap : Bool} {form : List UInt8}
    (isForm : IsForm (.parts isMap) form) (rest : List UInt8) :
    scanParts rules (fuel + 1) isMap true (form ++ rest) =
      scanPart rules fuel isMap (form ++ rest) := by
  obtain ⟨first, later, found, noList, noMap⟩ := isForm.exists_skipBlank rest
  rw [← scanPart_skipBlank (form ++ rest), found]
  cases isMap <;> simp [scanParts, found, noList, noMap]

/-- A list or a map is entered, if the rules let it be. -/
theorem scanValue_opening (rules : Rules) (fuel : Nat) (isMap : Bool) (rest : List UInt8) :
    scanValue rules (fuel + 1) (opening isMap :: rest) =
      match rules.enter? with
      | none => .error .malformed
      | some inner => scanParts inner fuel isMap true rest := by
  cases isMap <;> rfl

/-- A number is scanned as the rules say. -/
theorem scanValue_number (rules : Rules) (fuel : Nat) {first : UInt8}
    (front : first = 0x2D ∨ isDigit first = true) (later : List UInt8) :
    scanValue rules (fuel + 1) (first :: later) = rules.number (first :: later) := by
  rcases front with rfl | decimal
  · rfl
  · obtain ⟨shown, noQuote, noList, noMap⟩ := plain_of_isDigit decimal
    have noNull : first ≠ 0x6E := by rintro rfl; contradiction
    have noTrue : first ≠ 0x74 := by rintro rfl; contradiction
    have noFalse : first ≠ 0x66 := by rintro rfl; contradiction
    simp [scanValue, skipBlank, shown, noQuote, noList, noMap, scanPlain, noNull, noTrue, noFalse,
      decimal]

/-- A colon is passed with the blanks before it. -/
theorem readColon_append {gap : List UInt8} (middle : IsBlanks gap) (rest : List UInt8) :
    readColon (gap ++ 0x3A :: rest) = .ok rest := by
  rw [readColon, middle.skipBlank_append]
  rfl

/-- A name is passed with its colon, or it is refused. -/
theorem toOption_scanName {rules : Rules} {passes : Bool} {before name gap : List UInt8}
    (front : IsBlanks before) (middle : IsBlanks gap)
    (scans : ∀ rest, EndsNumber rest →
      (rules.text (name ++ 0x22 :: rest)).toOption = if passes then some rest else none)
    (rest : List UInt8) :
    (scanName rules (before ++ 0x22 :: (name ++ 0x22 :: (gap ++ 0x3A :: rest)))).toOption =
      if passes then some rest else none := by
  have ends : EndsNumber (gap ++ 0x3A :: rest) :=
    middle.endsNumber_append (endsNumber_cons (by decide) rest)
  have colon := readColon_append middle rest
  have read := scans _ ends
  rw [scanName, front.skipBlank_append, skipBlank_cons_of_false (by decide)]
  cases found : rules.text (name ++ 0x22 :: (gap ++ 0x3A :: rest)) with
  | error fault => cases passes <;> simp_all [Except.toOption]
  | ok left =>
    cases passes with
    | false => simp [found, Except.toOption] at read
    | true =>
      obtain rfl : left = gap ++ 0x3A :: rest := by simpa [found, Except.toOption] using read
      simp [found, colon, Except.toOption]

/-- A part whose name is refused is refused. -/
theorem toOption_scanPart_of_none {rules : Rules} {fuel : Nat} {isMap : Bool}
    {bytes : List UInt8}
    (refused : (if isMap then scanName rules bytes else .ok bytes).toOption = none) :
    (scanPart rules (fuel + 1) isMap bytes).toOption = none := by
  rw [scanPart]
  cases start : (if isMap then scanName rules bytes else .ok bytes) with
  | error fault => rfl
  | ok left =>
    rw [start] at refused
    contradiction

/-- A part is passed or refused as its value is. -/
theorem toOption_scanPart {rules : Rules} {fuel : Nat} {isMap passes : Bool}
    {bytes form after rest : List UInt8} (back : IsBlanks after)
    (start : (if isMap then scanName rules bytes else .ok bytes).toOption = some form)
    (value : (scanValue rules fuel form).toOption = if passes then some (after ++ rest) else none) :
    (scanPart rules (fuel + 1) isMap bytes).toOption =
      if passes then (scanParts rules fuel isMap false rest).toOption else none := by
  rw [scanPart]
  cases named : (if isMap then scanName rules bytes else .ok bytes) with
  | error fault =>
    rw [named] at start
    contradiction
  | ok left =>
    obtain rfl : left = form := by simpa [named, Except.toOption] using start
    cases found : scanValue rules fuel left with
    | error fault => cases passes <;> simp_all [Except.toOption]
    | ok left' =>
      cases passes with
      | false => simp [found, Except.toOption] at value
      | true =>
        obtain rfl : left' = after ++ rest := by simpa [found, Except.toOption] using value
        simp only [found, scanParts_append back, if_true]

namespace Scans

variable {rules inner : Rules} {passes passes' isMap : Bool} {form : List UInt8}

/-- A word passes. -/
theorem word (known : form ∈ fixedWords) : Scans rules true .value form := by
  intro fuel rest enough _
  simp only [fixedWords, List.mem_cons, List.not_mem_nil, or_false] at known
  rcases known with rfl | rfl | rfl <;>
    · rw [List.length_cons] at enough
      obtain ⟨fuel, rfl⟩ := Nat.exists_eq_add_of_le' (show 1 ≤ fuel by omega)
      simp [scanValue, skipBlank, isBlank, scanPlain, readWord, Except.toOption]

/-- A number passes if the rules pass it. -/
theorem number (isNumber : IsNumber form)
    (scans : ∀ rest, EndsNumber rest →
      (rules.number (form ++ rest)).toOption = if passes then some rest else none) :
    Scans rules passes .value form := by
  intro fuel rest enough ends
  rw [← scans rest ends]
  obtain ⟨first, later, rfl, front⟩ := isNumber.exists_cons
  rw [List.length_cons] at enough
  obtain ⟨fuel, rfl⟩ := Nat.exists_eq_add_of_le' (show 1 ≤ fuel by omega)
  rw [List.cons_append, scanValue_number rules fuel front]

/-- A text passes if the rules pass it. -/
theorem text (scans : ∀ rest, EndsNumber rest →
      (rules.text (form ++ 0x22 :: rest)).toOption = if passes then some rest else none) :
    Scans rules passes .value (0x22 :: (form ++ [0x22])) := by
  intro fuel rest enough ends
  rw [List.length_cons] at enough
  obtain ⟨fuel, rfl⟩ := Nat.exists_eq_add_of_le' (show 1 ≤ fuel by omega)
  simp [scanValue, skipBlank, isBlank, scans rest ends]

/-- A list or a map is refused if it may not be entered. -/
theorem closed (closed : rules.enter? = none) (isMap : Bool) (inside : List UInt8) :
    Scans rules false .value (opening isMap :: inside) := by
  intro fuel rest enough _
  rw [List.length_cons] at enough
  obtain ⟨fuel, rfl⟩ := Nat.exists_eq_add_of_le' (show 1 ≤ fuel by omega)
  rw [List.cons_append, scanValue_opening, closed]
  rfl

/-- A list or a map without parts passes if it may be entered. -/
theorem empty (entered : rules.enter? = some inner) (areBlanks : IsBlanks form) :
    Scans rules true .value (opening isMap :: (form ++ [closing isMap])) := by
  intro fuel rest enough _
  rw [List.length_cons] at enough
  obtain ⟨fuel, rfl⟩ := Nat.exists_eq_add_of_le' (show 2 ≤ fuel by omega)
  rw [List.cons_append, scanValue_opening, entered, List.append_assoc]
  simp only [scanParts_append areBlanks]
  rw [List.singleton_append, scanParts_closing]
  rfl

/-- A list or a map that may be entered passes if its parts do. -/
theorem compound (entered : rules.enter? = some inner) (parts : IsForm (.parts isMap) form)
    (scans : Scans inner passes (.parts isMap) form) :
    Scans rules passes .value (opening isMap :: (form ++ [closing isMap])) := by
  intro fuel rest enough _
  rw [List.length_cons, List.length_append, List.length_singleton] at enough
  obtain ⟨fuel, rfl⟩ := Nat.exists_eq_add_of_le' (show 2 ≤ fuel by omega)
  rw [List.cons_append, scanValue_opening, entered, List.append_assoc]
  simp only [scanParts_first inner fuel parts]
  exact scans fuel rest (by omega)

/-- An item passes if its value does. -/
theorem item {before after : List UInt8} (front : IsBlanks before) (back : IsBlanks after)
    (scans : Scans rules passes .value form) :
    Scans rules passes (.part false) (before ++ (form ++ after)) := by
  intro fuel rest enough ends
  rw [List.length_append, List.length_append] at enough
  have joined : before ++ (form ++ after) ++ rest = before ++ (form ++ (after ++ rest)) := by simp
  rw [joined]
  apply toOption_scanPart back rfl
  rw [scanValue_append front]
  exact scans fuel _ (by omega) (back.endsNumber_append ends)

/-- A member passes if the rules pass its name and its value passes. -/
theorem member {before name gap lead after : List UInt8} (front : IsBlanks before)
    (middle : IsBlanks gap) (leading : IsBlanks lead) (back : IsBlanks after)
    (scansName : ∀ rest, EndsNumber rest →
      (rules.text (name ++ 0x22 :: rest)).toOption = if passes then some rest else none)
    (scans : Scans rules passes' .value form) :
    Scans rules (passes && passes') (.part true)
      (before ++ 0x22 :: (name ++ 0x22 :: (gap ++ 0x3A :: (lead ++ (form ++ after))))) := by
  intro fuel rest enough ends
  simp only [List.length_append, List.length_cons] at enough
  have joined : before ++ 0x22 :: (name ++ 0x22 :: (gap ++ 0x3A :: (lead ++ (form ++ after)))) ++
      rest = before ++ 0x22 :: (name ++ 0x22 ::
        (gap ++ 0x3A :: (lead ++ (form ++ (after ++ rest))))) := by simp
  let value := lead ++ (form ++ (after ++ rest))
  let bytes := before ++ 0x22 :: (name ++ 0x22 :: (gap ++ 0x3A :: value))
  have start : (if true then scanName rules bytes else .ok bytes).toOption =
      if passes then some value else none := toOption_scanName front middle scansName value
  rw [joined]
  cases passes with
  | false => exact toOption_scanPart_of_none start
  | true =>
    apply toOption_scanPart back start
    rw [scanValue_append leading]
    exact scans fuel _ (by omega) (back.endsNumber_append ends)

/-- The last part ends the parts. -/
theorem last (scans : Scans rules passes (.part isMap) form) :
    Scans rules passes (.parts isMap) form := by
  intro fuel rest enough
  obtain ⟨fuel, rfl⟩ := Nat.exists_eq_add_of_le' (show 2 ≤ fuel by omega)
  have ends : EndsNumber (closing isMap :: rest) := by
    cases isMap <;> exact endsNumber_cons (by decide) rest
  rw [scans (fuel + 1) _ (by omega) ends, scanParts_closing]
  rfl

/-- Parts pass if the first and the later ones do. -/
theorem more {later : List UInt8} (parts : IsForm (.parts isMap) later)
    (scans : Scans rules passes (.part isMap) form)
    (scans' : Scans rules passes' (.parts isMap) later) :
    Scans rules (passes && passes') (.parts isMap) (form ++ 0x2C :: later) := by
  intro fuel rest enough
  rw [List.length_append, List.length_cons] at enough
  obtain ⟨fuel, rfl⟩ := Nat.exists_eq_add_of_le' (show 2 ≤ fuel by omega)
  rw [List.append_assoc, List.cons_append,
    scans (fuel + 1) _ (by omega) (endsNumber_cons (by decide) _),
    scanParts_comma rules fuel parts, scans' fuel rest (by omega)]
  cases passes <;> rfl

end Scans

/-- Under known rules, every form is passed or refused whatever comes after it, and skimming
passes. -/
theorem IsForm.scans {shape : Shape} {form : List UInt8} (isForm : IsForm shape form)
    {rules : Rules} (known : rules.IsKnown) :
    ∃ passes : Bool, (rules.depth = none → passes = true) ∧ Scans rules passes shape form := by
  induction isForm generalizing rules with
  | word isWord => exact ⟨true, fun _ => rfl, .word isWord⟩
  | number isNumber =>
    obtain ⟨passes, limited, scans⟩ := known.number isNumber
    exact ⟨passes, limited, .number isNumber scans⟩
  | text isText =>
    obtain ⟨passes, limited, scans⟩ := known.text isText
    exact ⟨passes, limited, .text scans⟩
  | @empty isMap blanks areBlanks =>
    rcases known.enter with ⟨inner, entered, -, -⟩ | ⟨closed, limited⟩
    · exact ⟨true, fun _ => rfl, .empty entered areBlanks⟩
    · exact ⟨false, fun unlimited => absurd unlimited limited, .closed closed isMap _⟩
  | @compound isMap form parts ih =>
    rcases known.enter with ⟨inner, entered, innerKnown, unlimited⟩ | ⟨closed, limited⟩
    · obtain ⟨passes, limited, scans⟩ := ih innerKnown
      exact ⟨passes, fun none => limited (unlimited none), .compound entered parts scans⟩
    · exact ⟨false, fun unlimited => absurd unlimited limited, .closed closed isMap _⟩
  | item front value back ih =>
    obtain ⟨passes, limited, scans⟩ := ih known
    exact ⟨passes, limited, .item front back scans⟩
  | member front isName middle leading value back ih =>
    obtain ⟨named, limited, scansName⟩ := known.text isName
    obtain ⟨passes, limited', scans⟩ := ih known
    exact ⟨named && passes, fun none => by simp [limited none, limited' none],
      .member front middle leading back scansName scans⟩
  | last part ih =>
    obtain ⟨passes, limited, scans⟩ := ih known
    exact ⟨passes, limited, .last scans⟩
  | more part parts ih ih' =>
    obtain ⟨passes, limited, scans⟩ := ih known
    obtain ⟨passes', limited', scans'⟩ := ih' known
    exact ⟨passes && passes', fun none => by simp [limited none, limited' none],
      .more parts scans scans'⟩

end RoundKey.Json
