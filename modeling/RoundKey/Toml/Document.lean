import RoundKey.Toml.Value

/-!
# Documents in TOML

A document is read line by line: pairs of a key and a value, and headers. Each header opens a
section, whose pairs fill one table.
-/
namespace RoundKey.Toml

/-- A key and its value. -/
structure Pair where
  /-- The names before the last. -/
  path : List String
  /-- The last name. -/
  name : String
  /-- The value. -/
  node : Node

/-- What a header opens. -/
inductive Opening where
  /-- A table of its own. -/
  | single
  /-- One more of the tables that share the header. -/
  | shared
deriving DecidableEq, Repr

/-- A line of a document. -/
inductive Line where
  /-- Nothing, or a comment. -/
  | blank
  /-- A pair. -/
  | pair (pair : Pair)
  /-- A header. -/
  | header (opening : Opening) (path : List String) (name : String)

/-- The characters after the end of a line, which may have blanks and a comment before it. -/
def endLine (characters : List Char) : Option (List Char) :=
  match skipComment (skipBlank characters) with
  | [] => some []
  | '\n' :: rest => some rest
  | '\r' :: '\n' :: rest => some rest
  | _ => none

/-- Fuel that suffices to read a value: it takes at most two steps for each character. -/
def valueFuel (characters : List Char) : Nat := 2 * characters.length + 2

/-- A pair. -/
def readPair (characters : List Char) : Read Pair :=
  match readKey characters with
  | some ((path, name), '=' :: rest) =>
    let rest := skipBlank rest
    (readValue (valueFuel rest) depthLimit rest).map fun read => (⟨path, name, read.1⟩, read.2)
  | _ => none

/-- A header after its first bracket. -/
def readHeader : List Char → Read Line
  | '[' :: rest =>
    match readKey rest with
    | some ((path, name), ']' :: ']' :: rest) => some (.header .shared path name, rest)
    | _ => none
  | characters =>
    match readKey characters with
    | some ((path, name), ']' :: rest) => some (.header .single path name, rest)
    | _ => none

/-- What stands on a line, up to blanks and a comment at its end. -/
def readLineContent (characters : List Char) : Read Line :=
  match skipBlank characters with
  | '[' :: rest => readHeader rest
  | characters =>
    if startsLine characters ∨ characters = [] ∨ characters.head? = some '#' then
      some (.blank, characters)
    else (readPair characters).map fun read => (.pair read.1, read.2)

/-- A line with its end. -/
def readLine (characters : List Char) : Read Line :=
  match readLineContent characters with
  | none => none
  | some (line, rest) => (endLine rest).map fun rest => (line, rest)

/-- All lines. A line takes at least one character. -/
def readLines : (fuel : Nat) → List Char → Option (List Line)
  | 0, characters => if characters = [] then some [] else none
  | fuel + 1, characters =>
    if characters = [] then some []
    else
      match readLine characters with
      | none => none
      | some (line, rest) => (readLines fuel rest).map (line :: ·)

/-- The pairs of the lines up to the next header, and the lines from there. -/
def takePairs : List Line → List Pair × List Line
  | .blank :: lines => takePairs lines
  | .pair pair :: lines =>
    let (pairs, lines) := takePairs lines
    (pair :: pairs, lines)
  | lines => ([], lines)

/-- Fill a table with pairs. -/
def fillTable (pairs : List Pair) (members : Members) : Option Members :=
  pairs.foldlM (fun members pair => members.addPair pair.path pair.name pair.node) members

/-- Add the sections of some lines to a document. Lines before the first header have been
taken. -/
def addSections : List Line → Members → Option Members
  | [], document => some document
  | .header opening path name :: lines, document =>
    let fill := fillTable (takePairs lines).1
    let opened :=
      match opening with
      | .single => document.openTable path name fill
      | .shared => document.appendTable path name fill
    match opened with
    | none => none
    | some document => addSections lines document
  | _ :: lines, document => addSections lines document

/-- The characters after a byte order mark, if they begin with one. -/
def dropMark : List Char → List Char
  | '\ufeff' :: rest => rest
  | characters => characters

/-- The table that a document is. -/
def readDocument (text : String) : Option Members :=
  let characters := dropMark text.toList
  match readLines characters.length characters with
  | none => none
  | some lines =>
    match fillTable (takePairs lines).1 [] with
    | none => none
    | some document => addSections lines document

end RoundKey.Toml
