import RoundKey.Data.Mismatch

/-!
# Documents in TOML as trees

A document is a table. A table that was only implied by a longer name can still be opened once
by its own header; a table made by a dotted key can only be extended by dotted keys, and no table
can be opened twice. Members keep the order in which they were added.
-/
namespace RoundKey.Toml

open RoundKey.Data

/-- How a table came about. -/
inductive Origin where
  /-- By a header of its own. -/
  | header
  /-- By a header of a table inside it. -/
  | implied
  /-- By a dotted key. -/
  | dotted
deriving DecidableEq, Repr

/-- A value or a table of a document. -/
inductive Node where
  /-- A text. -/
  | text (value : String)
  /-- A whole number. -/
  | integer (value : Int)
  /-- Any other number. -/
  | float (value : Binary64)
  /-- A truth value. -/
  | boolean (value : Bool)
  /-- A date or a time. -/
  | moment
  /-- A list of values. -/
  | list (items : List Node)
  /-- A table written as a value. -/
  | inline (members : List (String × Node))
  /-- A table with a part of the document to itself. -/
  | table (origin : Origin) (members : List (String × Node))
  /-- Tables that share a header. -/
  | tables (elements : List (List (String × Node)))

/-- The members of a table, in order. -/
abbrev Members := List (String × Node)

/-- What a node is, in a diagnostic. -/
def Node.found : Node → Found
  | text value => .text value
  | integer value => .integer value
  | float value => .float value
  | boolean value => .boolean value
  | moment => .map
  | list _ => .sequence
  | inline _ => .map
  | table _ _ => .map
  | tables _ => .sequence

namespace Members

/-- The member of a name. -/
def find? (members : Members) (name : String) : Option Node :=
  match members with
  | [] => none
  | (key, node) :: rest => if key = name then some node else find? rest name

/-- Put another node in the place of the member of a name. -/
def replace (members : Members) (name : String) (node : Node) : Members :=
  members.map fun member => if member.1 = name then (name, node) else member

/-- Leave out the member of a name. -/
def erase (members : Members) (name : String) : Members :=
  members.filter fun member => member.1 ≠ name

/-- Add a member of a name that is not taken. -/
def insert (members : Members) (name : String) (node : Node) : Option Members :=
  match members.find? name with
  | some _ => none
  | none => some (members ++ [(name, node)])

/-- Change the table at the end of a path of names. Tables on the way are made if they are not
there; of tables that share a header the last is meant. A dotted path stops at a table with a
header of its own. -/
def change (made : Origin) (path : List String)
    (edit : Origin → Members → Option Members) (origin : Origin) (members : Members) :
    Option Members :=
  match path with
  | [] => edit origin members
  | name :: path =>
    match members.find? name with
    | none =>
      (change made path edit made []).map fun inner => members ++ [(name, .table made inner)]
    | some (.table inside inner) =>
      if made = .dotted ∧ inside = .header then none
      else (change made path edit inside inner).map fun inner =>
        members.replace name (.table inside inner)
    | some (.tables elements) =>
      match elements.getLast? with
      | none => none
      | some last => (change made path edit .header last).map fun last =>
        members.replace name (.tables (elements.dropLast ++ [last]))
    | some _ => none

/-- Add a value under a key of one or more names. A dotted key adds only to tables made by dotted
keys. -/
def addPair (path : List String) (name : String) (node : Node) (members : Members) :
    Option Members :=
  let edit (origin : Origin) (inner : Members) : Option Members :=
    if path ≠ [] ∧ origin ≠ .dotted then none else inner.insert name node
  change .dotted path edit .header members

/-- Add a value under a key of one or more names inside a table written as a value. -/
def addInline (path : List String) (name : String) (node : Node) (members : Members) :
    Option Members :=
  match path with
  | [] => members.insert name node
  | first :: path =>
    match members.find? first with
    | none => (addInline path name node []).map fun inner => members ++ [(first, .inline inner)]
    | some (.inline inner) =>
      (addInline path name node inner).map fun inner => members.replace first (.inline inner)
    | some _ => none

/-- Open the table of a header and fill it. A table that was only implied keeps what it holds and
moves to the end. -/
def openTable (path : List String) (name : String) (fill : Members → Option Members)
    (members : Members) : Option Members :=
  let edit (_ : Origin) (inner : Members) : Option Members :=
    match inner.find? name with
    | none => (fill []).map fun filled => inner ++ [(name, .table .header filled)]
    | some (.table .implied held) =>
      (fill held).map fun filled => inner.erase name ++ [(name, .table .header filled)]
    | some _ => none
  change .implied path edit .header members

/-- Add a table to those that share a header, and fill it. -/
def appendTable (path : List String) (name : String) (fill : Members → Option Members)
    (members : Members) : Option Members :=
  let edit (_ : Origin) (inner : Members) : Option Members :=
    match inner.find? name with
    | none => (fill []).map fun filled => inner ++ [(name, .tables [filled])]
    | some (.tables elements) =>
      (fill []).map fun filled => inner.replace name (.tables (elements ++ [filled]))
    | some _ => none
  change .implied path edit .header members

end Members

end RoundKey.Toml
