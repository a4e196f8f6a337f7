import RoundKey.Proofs.Toml.Text
import RoundKey.Toml.Record

/-!
# Reading back documents in TOML

A pair of a bare name and a text is read back as a line, and so is the header of a bare name. The
lines of a document are read one after another, each with at least one character of its own. Pairs
of names that are not taken fill a table in their order, and a header of a name that is not taken
opens one more table at the end.
-/
namespace RoundKey.Toml

/-- A name that can stand without quotes. -/
def IsBareName (name : String) : Prop :=
  name.toList ≠ [] ∧ name.toList.all isBare = true

instance (name : String) : Decidable (IsBareName name) :=
  inferInstanceAs (Decidable (_ ∧ _))

/-- A character of a bare name is none of those that mean something else in front of a line or a
key. -/
theorem special_of_isBare {character : Char} (bare : isBare character = true) :
    isBlank character = false ∧ character ≠ '"' ∧ character ≠ '\'' ∧ character ≠ '[' ∧
      character ≠ '\n' ∧ character ≠ '\r' ∧ character ≠ '#' ∧ character ≠ '\ufeff' := by
  have noBlank : isBlank character = false := by
    apply Bool.eq_false_iff.mpr
    intro blank
    simp only [isBlank, Bool.or_eq_true, decide_eq_true_eq] at blank
    rcases blank with rfl | rfl <;> exact absurd bare (by decide)
  refine ⟨noBlank, ?_, ?_, ?_, ?_, ?_, ?_, ?_⟩ <;> rintro rfl <;> exact absurd bare (by decide)

/-- Every character of a bare name is bare. -/
theorem IsBareName.isBare_of_mem {name : String} (bare : IsBareName name) :
    ∀ character ∈ name.toList, isBare character = true :=
  List.all_eq_true.mp bare.2

/-- A bare name has a first character, which is bare. -/
theorem IsBareName.exists_cons {name : String} (bare : IsBareName name) :
    ∃ first later, name.toList = first :: later ∧ isBare first = true := by
  obtain ⟨first, later, same⟩ := List.exists_cons_of_ne_nil bare.1
  exact ⟨first, later, same, bare.isBare_of_mem first (same ▸ List.mem_cons_self)⟩

/-- Nothing is skipped in front of a bare name. -/
theorem IsBareName.skipBlank_append {name : String} (bare : IsBareName name) (rest : List Char) :
    skipBlank (name.toList ++ rest) = name.toList ++ rest := by
  obtain ⟨first, later, same, shown⟩ := bare.exists_cons
  rw [same, List.cons_append, skipBlank, List.dropWhile_cons_of_neg]
  simp [(special_of_isBare shown).1]

/-- A bare name is read up to the first character that is not bare. -/
theorem readName_bare {name : String} (bare : IsBareName name) {rest : List Char}
    (ends : ∀ character ∈ rest.head?, isBare character = false) :
    readName (name.toList ++ rest) = some (name, rest) := by
  have kept : rest.takeWhile isBare = [] ∧ rest.dropWhile isBare = rest := by
    cases rest with
    | nil => exact ⟨rfl, rfl⟩
    | cons first later =>
      have other : isBare first = false := ends first rfl
      exact ⟨by simp [other], by simp [other]⟩
  have taken : (name.toList ++ rest).takeWhile isBare = name.toList := by
    rw [List.takeWhile_append_of_pos bare.isBare_of_mem, kept.1, List.append_nil]
  have left : (name.toList ++ rest).dropWhile isBare = rest := by
    rw [List.dropWhile_append_of_pos bare.isBare_of_mem, kept.2]
  obtain ⟨first, later, same, shown⟩ := bare.exists_cons
  obtain ⟨-, noQuote, noMark, -⟩ := special_of_isBare shown
  rw [readName.eq_def]
  split
  · next read =>
    rw [same] at read
    exact absurd (List.cons.inj read).1 noQuote
  · next read =>
    rw [same] at read
    exact absurd (List.cons.inj read).1 noMark
  · simp only [taken, left, if_neg bare.1, String.ofList_toList]

/-- A bare name that no dot follows is a key of its own. -/
theorem readKey_bare {name : String} (bare : IsBareName name) {rest : List Char}
    (ends : ∀ character ∈ rest.head?, isBare character = false)
    (noDot : (skipBlank rest).head? ≠ some '.') :
    readKey (name.toList ++ rest) = some (([], name), skipBlank rest) := by
  have names : readNames depthLimit (name.toList ++ rest) = some ([name], skipBlank rest) := by
    rw [depthLimit, readNames, bare.skipBlank_append, readName_bare bare ends]
    simp only
    split
    · next read =>
      rw [read] at noDot
      exact absurd rfl noDot
    · rfl
  rw [readKey, names]
  rfl

/-- The form of a text begins with a quote. -/
theorem writeText_eq_cons (text : List Char) :
    ∃ first later, writeText text = first :: later ∧ (first = '"' ∨ first = '\'') := by
  simp only [writeText]
  split_ifs <;> exact ⟨_, _, rfl, by decide⟩

/-- The form of a text is read as that text. -/
theorem readPlain_writeText (text : List Char) {rest : List Char}
    (noQuote : rest.head? ≠ some '"') (noMark : rest.head? ≠ some '\'') :
    readPlain (writeText text ++ rest) = some (.text (String.ofList text), rest) := by
  have read := readText_writeText text noQuote noMark
  obtain ⟨first, later, form, quote⟩ := writeText_eq_cons text
  rw [form, List.cons_append] at read ⊢
  simp only [readPlain, if_pos quote, read, Option.map_some]

/-- The form of a text is read as a value. -/
theorem readValue_writeText (fuel depth : Nat) (text : List Char) {rest : List Char}
    (noQuote : rest.head? ≠ some '"') (noMark : rest.head? ≠ some '\'') :
    readValue (fuel + 1) depth (writeText text ++ rest) =
      some (.text (String.ofList text), rest) := by
  have read := readPlain_writeText text noQuote noMark
  obtain ⟨first, later, form, quote⟩ := writeText_eq_cons text
  rw [form, List.cons_append] at read ⊢
  rw [readValue.eq_def]
  rcases quote with rfl | rfl <;> simpa using read

/-- A pair of a bare name and a text is read up to the end of its line. -/
theorem readPair_writePair {name : String} (bare : IsBareName name) (text rest : List Char) :
    readPair (writePair name (writeText text) ++ rest) =
      some (⟨[], name, .text (String.ofList text)⟩, '\n' :: rest) := by
  obtain ⟨first, later, form, quote⟩ := writeText_eq_cons text
  have noBlank : isBlank first = false := by rcases quote with rfl | rfl <;> rfl
  obtain ⟨value, valueEq⟩ : ∃ value, value = writeText text ++ '\n' :: rest := ⟨_, rfl⟩
  have written : writePair name (writeText text) ++ rest =
      name.toList ++ ' ' :: '=' :: ' ' :: value := by
    simp [writePair, valueEq]
  have key : readKey (name.toList ++ ' ' :: '=' :: ' ' :: value) =
      some (([], name), '=' :: ' ' :: value) := by
    rw [readKey_bare bare (by simp [isBare]) (by simp [skipBlank, isBlank])]
    rfl
  have blank : skipBlank (' ' :: value) = value := by
    rw [skipBlank, List.dropWhile_cons_of_pos rfl, valueEq, form, List.cons_append,
      List.dropWhile_cons_of_neg (by simp [noBlank])]
  have read : readValue (valueFuel value) depthLimit value =
      some (.text (String.ofList text), '\n' :: rest) := by
    rw [valueFuel, valueEq]
    exact readValue_writeText _ depthLimit text (by simp) (by simp)
  rw [written, readPair, key]
  simp only [blank, read]
  rfl

/-- A line that begins with a bare name is a pair. -/
theorem readLineContent_bare {name : String} (bare : IsBareName name) (rest : List Char) :
    readLineContent (name.toList ++ rest) =
      (readPair (name.toList ++ rest)).map fun read => (.pair read.1, read.2) := by
  have kept := bare.skipBlank_append rest
  obtain ⟨first, later, same, shown⟩ := bare.exists_cons
  obtain ⟨-, -, -, noHeader, noBreak, noReturn, noComment, -⟩ := special_of_isBare shown
  rw [same, List.cons_append] at kept ⊢
  have noStart : startsLine (first :: (later ++ rest)) = false := by
    rw [startsLine.eq_def]
    split <;> simp_all
  rw [readLineContent, kept]
  split
  · next header => exact absurd (List.cons.inj header).1 noHeader
  · rw [if_neg]
    simp [noStart, noComment]

/-- A pair of a bare name and a text is a line. -/
theorem readLine_writePair {name : String} (bare : IsBareName name) (text rest : List Char) :
    readLine (writePair name (writeText text) ++ rest) =
      some (.pair ⟨[], name, .text (String.ofList text)⟩, rest) := by
  have content : readLineContent (writePair name (writeText text) ++ rest) =
      some (.pair ⟨[], name, .text (String.ofList text)⟩, '\n' :: rest) := by
    have read := readPair_writePair bare text rest
    rw [writePair, List.append_assoc, List.append_assoc, List.append_assoc] at read ⊢
    rw [readLineContent_bare bare, read]
    rfl
  rw [readLine, content]
  rfl

/-- The header of a bare name is a line. -/
theorem readLine_writeHeader {name : String} (bare : IsBareName name) (rest : List Char) :
    readLine (writeHeader name ++ rest) = some (.header .single [] name, rest) := by
  obtain ⟨first, later, same, shown⟩ := bare.exists_cons
  obtain ⟨-, -, -, noHeader, -⟩ := special_of_isBare shown
  have written : writeHeader name ++ rest = '[' :: (name.toList ++ ']' :: '\n' :: rest) := by
    simp [writeHeader]
  have key : readKey (name.toList ++ ']' :: '\n' :: rest) =
      some (([], name), ']' :: '\n' :: rest) := by
    rw [readKey_bare bare (by simp [isBare]) (by simp [skipBlank, isBlank])]
    rfl
  have header : readHeader (name.toList ++ ']' :: '\n' :: rest) =
      some (.header .single [] name, '\n' :: rest) := by
    rw [readHeader.eq_def]
    split
    · next double =>
      rw [same] at double
      exact absurd (List.cons.inj double).1 noHeader
    · simp only [key]
  have content : readLineContent (writeHeader name ++ rest) =
      some (.header .single [] name, '\n' :: rest) := by
    rw [written, readLineContent]
    exact header
  rw [readLine, content]
  rfl

/-- An empty line is a line. -/
theorem readLine_break (rest : List Char) : readLine ('\n' :: rest) = some (.blank, rest) := rfl

/-- Characters that are read as lines, with fuel for each character. -/
def Reads (characters : List Char) (lines : List Line) : Prop :=
  ∀ fuel, characters.length ≤ fuel → readLines fuel characters = some lines

/-- No characters are no lines. -/
theorem Reads.nil : Reads [] [] := by
  intro fuel _
  cases fuel <;> rfl

/-- A line that takes at least one character stands before the lines after it. -/
theorem Reads.cons {front rest : List Char} {line : Line} {lines : List Line}
    (nonempty : front ≠ []) (read : readLine (front ++ rest) = some (line, rest))
    (later : Reads rest lines) : Reads (front ++ rest) (line :: lines) := by
  intro fuel enough
  have taken : 0 < front.length := List.length_pos_iff.mpr nonempty
  rw [List.length_append] at enough
  obtain ⟨fuel, rfl⟩ : ∃ less, fuel = less + 1 := ⟨fuel - 1, by omega⟩
  rw [readLines, if_neg (by simp [nonempty]), read]
  simp only [later fuel (by omega), Option.map_some]

namespace Members

/-- A name that no member has is not found. -/
theorem find?_eq_none {members : Members} {name : String}
    (fresh : name ∉ members.map Prod.fst) : members.find? name = none := by
  induction members with
  | nil => rfl
  | cons member members ih =>
    rw [List.map_cons, List.mem_cons, not_or] at fresh
    rw [find?, if_neg (Ne.symm fresh.1), ih fresh.2]

/-- A pair of a name that is not taken is added at the end. -/
theorem addPair_fresh {members : Members} {name : String} (fresh : name ∉ members.map Prod.fst)
    (node : Node) : members.addPair [] name node = some (members ++ [(name, node)]) := by
  simp [addPair, change, insert, find?_eq_none fresh]

/-- A header of a name that is not taken opens a table at the end. -/
theorem openTable_fresh {members : Members} {name : String}
    (fresh : name ∉ members.map Prod.fst) (fill : Members → Option Members) :
    members.openTable [] name fill =
      (fill []).map fun filled => members ++ [(name, .table .header filled)] := by
  simp [openTable, change, find?_eq_none fresh]

end Members

/-- The pair of a member, under a name without dots. -/
def memberPair (member : String × Node) : Pair := ⟨[], member.1, member.2⟩

/-- Pairs of names that are not taken fill a table in their order. -/
theorem fillTable_memberPair {members added : Members}
    (distinct : ((members ++ added).map Prod.fst).Nodup) :
    fillTable (added.map memberPair) members = some (members ++ added) := by
  induction added generalizing members with
  | nil => rw [List.append_nil]; rfl
  | cons member added ih =>
    have fresh : member.1 ∉ members.map Prod.fst := by
      intro taken
      rw [List.map_append, List.nodup_append] at distinct
      exact distinct.2.2 _ taken _ List.mem_cons_self rfl
    have step := Members.addPair_fresh fresh member.2
    rw [List.append_cons] at distinct ⊢
    rw [← ih distinct, List.map_cons, fillTable, List.foldlM_cons]
    simp only [memberPair, step]
    rfl

/-- Pairs are taken up to the next header. -/
theorem takePairs_append (pairs : List Pair) (lines : List Line) :
    takePairs (pairs.map .pair ++ lines) = (pairs ++ (takePairs lines).1, (takePairs lines).2) := by
  induction pairs with
  | nil => rfl
  | cons pair pairs ih => simp [takePairs, ih]

/-- Pairs before the first header open nothing. -/
theorem addSections_append (pairs : List Pair) (lines : List Line) (document : Members) :
    addSections (pairs.map .pair ++ lines) document = addSections lines document := by
  induction pairs with
  | nil => rfl
  | cons pair pairs ih => exact ih

/-- The lines of the pairs of some members. -/
def pairLines (members : Members) : List Line := (members.map memberPair).map .pair

/-- The lines of a section: an empty line, the header of its name, and its pairs. -/
def sectionLines (part : String × Members) : List Line :=
  .blank :: .header .single [] part.1 :: pairLines part.2

/-- No pairs stand in front of the first section. -/
theorem takePairs_sectionLines (parts : List (String × Members)) :
    (takePairs (parts.flatMap sectionLines)).1 = [] := by
  cases parts <;> rfl

/-- The pairs in front of sections fill a table of their own. -/
theorem fillTable_pairLines {members : Members} (distinct : (members.map Prod.fst).Nodup)
    (parts : List (String × Members)) :
    fillTable (takePairs (pairLines members ++ parts.flatMap sectionLines)).1 [] =
      some members := by
  rw [pairLines, takePairs_append, takePairs_sectionLines, List.append_nil]
  exact fillTable_memberPair distinct

/-- Sections of names that are not taken become tables at the end of a document. -/
theorem addSections_sectionLines {document : Members} {parts : List (String × Members)}
    (distinct : (document.map Prod.fst ++ parts.map Prod.fst).Nodup)
    (inner : ∀ part ∈ parts, (part.2.map Prod.fst).Nodup) :
    addSections (parts.flatMap sectionLines) document =
      some (document ++ parts.map fun part => (part.1, .table .header part.2)) := by
  induction parts generalizing document with
  | nil => rw [List.map_nil, List.append_nil]; rfl
  | cons part parts ih =>
    rw [List.forall_mem_cons] at inner
    have fresh : part.1 ∉ document.map Prod.fst := by
      intro taken
      rw [List.nodup_append] at distinct
      exact distinct.2.2 _ taken _ List.mem_cons_self rfl
    have filled := fillTable_pairLines inner.1 parts
    have opened : document.openTable [] part.1
        (fillTable (takePairs (pairLines part.2 ++ parts.flatMap sectionLines)).1) =
          some (document ++ [(part.1, .table .header part.2)]) := by
      rw [Members.openTable_fresh fresh, filled, Option.map_some]
    have apart : ((document ++ [(part.1, Node.table .header part.2)]).map Prod.fst ++
        parts.map Prod.fst).Nodup := by
      simpa using distinct
    have later := ih apart inner.2
    rw [List.flatMap_cons, sectionLines, List.cons_append, addSections, List.cons_append,
      addSections]
    · simp only [opened]
      rw [pairLines, addSections_append, later, List.map_cons, List.append_assoc]
      rfl
    · intros; contradiction

/-- A document of pairs and sections, with names of their own, is the table of its members. -/
theorem readDocument_of_reads {characters : List Char} {members : Members}
    {parts : List (String × Members)} (noMark : characters.head? ≠ some '\ufeff')
    (reads : Reads characters (pairLines members ++ parts.flatMap sectionLines))
    (distinct : (members.map Prod.fst ++ parts.map Prod.fst).Nodup)
    (inner : ∀ part ∈ parts, (part.2.map Prod.fst).Nodup) :
    readDocument (String.ofList characters) =
      some (members ++ parts.map fun part => (part.1, .table .header part.2)) := by
  have kept : dropMark characters = characters := by
    rw [dropMark.eq_def]
    split
    · exact absurd rfl noMark
    · rfl
  have filled := fillTable_pairLines (List.nodup_append.mp distinct).1 parts
  simp only [readDocument, String.toList_ofList, kept, reads _ (Nat.le_refl _), filled]
  rw [pairLines, addSections_append, addSections_sectionLines distinct inner]

end RoundKey.Toml
