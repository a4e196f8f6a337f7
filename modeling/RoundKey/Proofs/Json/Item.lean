import RoundKey.Proofs.Json.Value

/-!
# Records from lists

A plain record is also read from a list, with one item for each field in the order of the fields.
Items are read one after another, each as the kind of its field, and the list has to end behind the
last one.
-/
namespace RoundKey.Json

open RoundKey.Data

/-- The form of one item or more, with commas between them. -/
inductive AreItems : List (List UInt8) → List UInt8 → Prop where
  /-- The last item. -/
  | last {before item after : List UInt8} (front : IsBlanks before) (value : IsValue item)
    (back : IsBlanks after) : AreItems [item] (before ++ (item ++ after))
  /-- An item with more after it. -/
  | more {before item after later : List UInt8} {items : List (List UInt8)}
    (front : IsBlanks before) (value : IsValue item) (back : IsBlanks after)
    (areItems : AreItems items later) :
    AreItems (item :: items) (before ++ (item ++ (after ++ 0x2C :: later)))

/-- A document that is a list of these items and nothing else. -/
def IsList (items : List (List UInt8)) (bytes : List UInt8) : Prop :=
  ∃ before inside after, bytes = before ++ 0x5B :: (inside ++ 0x5D :: after) ∧
    IsBlanks before ∧ AreItems items inside ∧ IsBlanks after

/-- Each field has the value that its item has as the kind of the field. -/
def AreListed : (fields : List (Field Scalar.Value)) → Values fields → List (List UInt8) → Prop
  | [], (), [] => True
  | field :: fields, (value, values), item :: items =>
    taken (readScalar field.kind) item = some value ∧ AreListed fields values items
  | _, _, _ => False

/-- An item is found behind its comma and blanks. -/
theorem readItem_append {gap before item : List UInt8} (areBlanks : IsBlanks gap)
    (front : IsBlanks before) (value : IsValue item) (first : Bool) (rest : List UInt8) :
    readItem first (gap ++ (comma first ++ (before ++ (item ++ rest)))) =
      .ok (.value (item ++ rest)) := by
  obtain ⟨byte, later, rfl, known⟩ := exists_front value
  have shown : skipBlank (before ++ (byte :: later ++ rest)) = byte :: (later ++ rest) := by
    rw [front.skipBlank_append, List.cons_append, skipBlank_cons_of_false known.shown]
  have noClose : byte ≠ 0x5D := by
    obtain ⟨_, _, found, noList, -⟩ := IsForm.exists_skipBlank value rest
    rw [List.cons_append, skipBlank_cons_of_false known.shown] at found
    cases found
    exact noList
  have start (bytes : List UInt8) : skipBlank (0x2C :: bytes) = 0x2C :: bytes := rfl
  cases first with
  | true =>
    rw [readItem, areBlanks.skipBlank_append, comma, if_pos rfl, List.nil_append, shown]
    simp [noClose]
  | false =>
    rw [readItem, areBlanks.skipBlank_append, comma, if_neg Bool.false_ne_true,
      List.singleton_append, start]
    simp only [shown]
    simp [noClose]

/-- The first field has the value of the first item, and it is read from it. -/
theorem readValues_cons {gap before item rest : List UInt8} (areBlanks : IsBlanks gap)
    (front : IsBlanks before) (value : IsValue item) (ends : EndsNumber rest)
    {field : Field Scalar.Value} {taken' : field.kind.Value}
    (takes : taken (readScalar field.kind) item = some taken') (record : String) (size : Nat)
    (fields : List (Field Scalar.Value)) (count : Nat) :
    readValues record size (field :: fields) count
        (gap ++ (comma (count == 0) ++ (before ++ (item ++ rest)))) =
      (readValues record size fields (count + 1) rest).map fun read =>
        ((taken', read.1), read.2) := by
  have read := (settles_readScalar field.kind value).read_of_taken takes ends
  rw [readValues, readItem_append areBlanks front value]
  simp only [read]
  cases readValues record size fields (count + 1) rest <;> rfl

/-- The fields of a record are read from as many items, up to blanks in front of the bracket. -/
theorem AreItems.exists_readValues {items : List (List UInt8)} {form : List UInt8}
    (areItems : AreItems items form) {fields : List (Field Scalar.Value)} {values : Values fields}
    (listed : AreListed fields values items) (record : String) (size count : Nat)
    (rest : List UInt8) {gap : List UInt8} (areBlanks : IsBlanks gap) :
    ∃ after, IsBlanks after ∧
      readValues record size fields count (gap ++ (comma (count == 0) ++ (form ++ 0x5D :: rest))) =
        .ok (values, after ++ 0x5D :: rest) := by
  induction areItems generalizing fields count gap with
  | @last before item after front value back =>
    match fields, values, listed with
    | field :: fields, (value', values), ⟨takes, listed⟩ =>
      have ends : EndsNumber (after ++ 0x5D :: rest) :=
        back.endsNumber_append (endsNumber_cons (by decide) rest)
      have joined : before ++ (item ++ after) ++ 0x5D :: rest =
          before ++ (item ++ (after ++ 0x5D :: rest)) := by simp
      refine ⟨after, back, ?_⟩
      rw [joined, readValues_cons areBlanks front value ends takes]
      match fields, values, listed with
      | [], (), _ => rfl
  | @more before item after later items front value back areItems ih =>
    match fields, values, listed with
    | field :: fields, (value', values), ⟨takes, listed⟩ =>
      have ends : EndsNumber (after ++ 0x2C :: (later ++ 0x5D :: rest)) :=
        back.endsNumber_append (endsNumber_cons (by decide) _)
      have joined : before ++ (item ++ (after ++ 0x2C :: later)) ++ 0x5D :: rest =
          before ++ (item ++ (after ++ 0x2C :: (later ++ 0x5D :: rest))) := by simp
      obtain ⟨blanks, blank, read⟩ := ih listed (count + 1) back
      refine ⟨blanks, blank, ?_⟩
      rw [joined, readValues_cons areBlanks front value ends takes]
      have next : after ++ 0x2C :: (later ++ 0x5D :: rest) =
          after ++ (comma (count + 1 == 0) ++ (later ++ 0x5D :: rest)) := rfl
      rw [next, read]
      rfl

/-- A plain record is read from a list of an item for each field. -/
theorem readRecord_of_isList {schema : Schema Scalar.Value} {values : Values schema.fields}
    {items : List (List UInt8)} {bytes : List UInt8} (isList : IsList items bytes)
    (listed : AreListed schema.fields values items) :
    whole (readRecord schema) bytes = .ok values := by
  obtain ⟨before, inside, after, rfl, front, areItems, back⟩ := isList
  obtain ⟨blanks, blank, read⟩ :=
    areItems.exists_readValues listed schema.name schema.fields.length 0 after isBlanks_nil
  have start : skipBlank (before ++ 0x5B :: (inside ++ 0x5D :: after)) =
      0x5B :: (inside ++ 0x5D :: after) := by
    rw [front.skipBlank_append]
    rfl
  have closes : closeList (blanks ++ 0x5D :: after) = .ok after := by
    rw [closeList, blank.skipBlank_append]
    rfl
  have items : readValues schema.name schema.fields.length schema.fields 0
      (inside ++ 0x5D :: after) = .ok (values, blanks ++ 0x5D :: after) := read
  simp [whole, readRecord, start, items, closes, back.skipBlank_eq_nil]

end RoundKey.Json
