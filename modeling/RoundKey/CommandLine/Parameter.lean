import RoundKey.CommandLine.Value

/-!
# Parameters of the command line

A parameter has a name, under which its value is given, and a type of values. The values that
have been given are a partial assignment of values to parameters.
-/
namespace RoundKey.CommandLine

/-- Why the arguments of the program are no command. -/
inductive UsageFault where
  /-- Help is asked for. -/
  | helpWanted
  /-- Nothing is asked for. -/
  | nothingWanted
  /-- There is no command of that name. -/
  | unknownCommand
  /-- There is no such argument. -/
  | unknownArgument
  /-- There is no command. -/
  | missingCommand
  /-- A parameter that is needed is not given. -/
  | missingParameter
  /-- A parameter is given without a value. -/
  | missingValue
  /-- A value is given to what takes none. -/
  | unwantedValue
  /-- A parameter is given twice. -/
  | repeatedParameter
  /-- The value of a parameter is refused. -/
  | badValue (parameter : String) (fault : ValueFault)
deriving DecidableEq, Repr

/-- The text of a fault in the arguments. -/
def UsageFault.message : UsageFault → String
  | helpWanted => ""
  | nothingWanted => "There is nothing to do."
  | unknownCommand => "There is no such command."
  | unknownArgument => "There is no such argument."
  | missingCommand => "There is no command."
  | missingParameter => "A parameter that the command needs is missing."
  | missingValue => "A parameter has no value."
  | unwantedValue => "An argument takes no value."
  | repeatedParameter => "A parameter is given twice."
  | badValue parameter fault => "The value of " ++ parameter ++ " is refused: " ++ fault.message

/-- Something that is given a value by name. -/
inductive Parameter where
  /-- The file of the configuration. -/
  | config
  /-- The name of the user. -/
  | username
  /-- The address of the server. -/
  | serverAddress
  /-- The key of the server. -/
  | serverKey
  /-- The token that proves ownership. -/
  | token
  /-- The round to obtain a key for. -/
  | round
  /-- The key that the server attests. -/
  | longTermKey
deriving DecidableEq, Repr

namespace Parameter

/-- All parameters. -/
def all : List Parameter :=
  [config, username, serverAddress, serverKey, token, round, longTermKey]

/-- The words of the name of a parameter. -/
def words : Parameter → List String
  | config => ["config"]
  | username => ["username"]
  | serverAddress => ["server", "address"]
  | serverKey => ["server", "key"]
  | token => ["token"]
  | round => ["round"]
  | longTermKey => ["long", "term", "key"]

/-- The name of a parameter. -/
def name (parameter : Parameter) : String := "-".intercalate parameter.words

/-- A parameter and the place of its value, as they are shown. -/
def shape (parameter : Parameter) : String :=
  "--" ++ parameter.name ++ " <" ++ ("_".intercalate parameter.words).toUpper ++ ">"

/-- The values of a parameter. -/
abbrev Value : Parameter → Type
  | config => String
  | username => String
  | serverAddress => String
  | serverKey => Ed25519.PublicKey
  | token => List UInt8
  | round => UInt32
  | longTermKey => Ed25519.PublicKey

/-- A value, unless it is refused. -/
def accept {α : Type} (parameter : Parameter) : Except ValueFault α → Except UsageFault α
  | .ok value => .ok value
  | .error fault => .error (.badValue parameter.shape fault)

/-- The value that a text gives a parameter. A file needs a name. -/
def read : (parameter : Parameter) → String → Except UsageFault parameter.Value
  | config, text => if text = "" then .error .missingValue else .ok text
  | username, text => .ok text
  | serverAddress, text => .ok text
  | serverKey, text => accept serverKey (readPublicKey text)
  | token, text => accept token (readToken text)
  | round, text => accept round (readRound text)
  | longTermKey, text => accept longTermKey (readPublicKey text)

end Parameter

/-- The values that have been given. -/
def Given : Type := (parameter : Parameter) → Option parameter.Value

namespace Given

/-- No values. -/
def none : Given := fun _ => .none

/-- Give a parameter a value. -/
def set (given : Given) (parameter : Parameter) (value : parameter.Value) : Given := fun other =>
  if same : parameter = other then some (same ▸ value) else given other

/-- Whether any parameter has been given a value. -/
def any (given : Given) : Bool := Parameter.all.any fun parameter => (given parameter).isSome

end Given

end RoundKey.CommandLine
