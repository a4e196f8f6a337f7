import RoundKey.Toml.Node
import RoundKey.Toml.Number

/-!
# Values in TOML

Keys, and values of every type. Lists may run over several lines, with comments, and may end in
a comma; a table written as a value stays on one line and may not. Values can be nested only to a
limit, which keys share.
-/
namespace RoundKey.Toml

/-- How many names a key may have at most, and how deep values may be nested. -/
def depthLimit : Nat := 127

/-- The characters from the first that is not blank. -/
def skipBlank (characters : List Char) : List Char := characters.dropWhile isBlank

/-- The characters after a comment, up to the end of its line. -/
def skipComment : List Char → List Char
  | '#' :: rest => rest.dropWhile isPlain
  | characters => characters

/-- The characters after blanks, line breaks and comments. -/
def skipFiller : (comment : Bool) → List Char → List Char
  | _, [] => []
  | _, '\n' :: rest => skipFiller false rest
  | _, '\r' :: '\n' :: rest => skipFiller false rest
  | comment, character :: rest =>
    if comment && isPlain character then skipFiller true rest
    else if !comment && isBlank character then skipFiller false rest
    else if !comment && character = '#' then skipFiller true rest
    else character :: rest

/-- Whether a character may stand in a name without quotes. -/
def isBare (character : Char) : Bool :=
  character.isAlphanum || character = '-' || character = '_'

/-- One name of a key. -/
def readName (characters : List Char) : Read String :=
  match characters with
  | '"' :: rest => (readEscaped rest).map fun read => (String.ofList read.1, read.2)
  | '\'' :: rest => (readLiteral rest).map fun read => (String.ofList read.1, read.2)
  | _ =>
    let name := characters.takeWhile isBare
    if name = [] then none else some (String.ofList name, characters.dropWhile isBare)

/-- A key: names with dots between them, and blanks around each. At most so many names are
read. -/
def readNames : (limit : Nat) → List Char → Read (List String)
  | 0, _ => none
  | limit + 1, characters =>
    match readName (skipBlank characters) with
    | none => none
    | some (name, rest) =>
      match skipBlank rest with
      | '.' :: rest => (readNames limit rest).map fun read => (name :: read.1, read.2)
      | rest => some ([name], rest)

/-- A key: the path to its table and its last name. -/
def readKey (characters : List Char) : Read (List String × String) :=
  match readNames depthLimit characters with
  | none => none
  | some (names, rest) =>
    match names.getLast? with
    | none => none
    | some name => some ((names.dropLast, name), rest)

/-- The characters after the rest of a fixed word. -/
def readWord (word : List Char) (characters : List Char) : Option (List Char) :=
  if word.isPrefixOf characters then some (characters.drop word.length) else none

/-- A value that is neither a list nor a table: a text, a truth value, a time or a number. -/
def readPlain (characters : List Char) : Read Node :=
  match characters with
  | [] => none
  | first :: _ =>
    if first = '"' ∨ first = '\'' then
      (readText characters).map fun read => (.text (String.ofList read.1), read.2)
    else if first = 't' then
      (readWord ['t', 'r', 'u', 'e'] characters).map fun rest => (.boolean true, rest)
    else if first = 'f' then
      (readWord ['f', 'a', 'l', 's', 'e'] characters).map fun rest => (.boolean false, rest)
    else
      match skipMoment characters with
      | some rest => some (.moment, rest)
      | none =>
        match readFloat characters with
        | some (value, rest) => some (.float value, rest)
        | none => (readInteger characters).map fun read => (.integer read.1, read.2)

mutual

/-- A value, with so many lists and tables to enter. -/
def readValue : (fuel depth : Nat) → List Char → Read Node
  | 0, _, _ => none
  | fuel + 1, depth, characters =>
    match characters, depth with
    | '[' :: rest, depth + 1 =>
      (readItems fuel depth rest).map fun read => (.list read.1, read.2)
    | '\x7b' :: rest, depth + 1 =>
      (readPairs fuel depth true [] rest).map fun read => (.inline read.1, read.2)
    | '[' :: _, 0 => none
    | '\x7b' :: _, 0 => none
    | characters, _ => readPlain characters

/-- The items of a list up to its closing bracket. -/
def readItems : (fuel depth : Nat) → List Char → Read (List Node)
  | 0, _, _ => none
  | fuel + 1, depth, characters =>
    match skipFiller false characters with
    | ']' :: rest => some ([], rest)
    | characters =>
      match readValue fuel depth characters with
      | none => none
      | some (item, rest) =>
        match skipFiller false rest with
        | ',' :: rest => (readItems fuel depth rest).map fun read => (item :: read.1, read.2)
        | ']' :: rest => some ([item], rest)
        | _ => none

/-- The members of a table written as a value up to its closing brace, after some members. -/
def readPairs : (fuel depth : Nat) → (first : Bool) → Members → List Char → Read Members
  | 0, _, _, _, _ => none
  | fuel + 1, depth, first, members, characters =>
    match first, skipBlank characters with
    | true, '\x7d' :: rest => some (members, rest)
    | _, characters =>
      match readKey characters with
      | some ((path, name), '=' :: rest) =>
        match readValue fuel depth (skipBlank rest) with
        | none => none
        | some (node, rest) =>
          match members.addInline path name node, skipBlank rest with
          | some members, ',' :: rest => readPairs fuel depth false members rest
          | some members, '\x7d' :: rest => some (members, rest)
          | _, _ => none
      | _ => none

end

end RoundKey.Toml
