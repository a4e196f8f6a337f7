import RoundKey.CommandLine.Parameter

/-!
# Arguments

Arguments are read from the front. A value may be attached to the name of its parameter by an
equals sign, and then counts at once; or it is the next argument, and then it counts when the
next parameter or the end is reached, so that an argument that is unknown is reported first. What
follows a double dash is taken as it stands.
-/
namespace RoundKey.CommandLine

/-- The name of a command. -/
inductive CommandName where
  /-- Make a configuration. -/
  | init
  /-- Register. -/
  | register
  /-- Prove ownership. -/
  | verify
  /-- Ask whether the server knows the client. -/
  | status
  /-- Obtain a key. -/
  | extract
deriving DecidableEq, Repr

namespace CommandName

/-- All commands. -/
def all : List CommandName := [init, register, verify, status, extract]

/-- The name as it is typed. -/
def text : CommandName → String
  | init => "init"
  | register => "register"
  | verify => "verify"
  | status => "status"
  | extract => "extract"

/-- The command of a name. -/
def ofText? (text : String) : Option CommandName := all.find? fun name => name.text = text

/-- The parameters that a command needs. -/
def needs : CommandName → List Parameter
  | init => [.username, .serverAddress, .serverKey]
  | register => []
  | verify => [.token]
  | status => []
  | extract => [.round, .longTermKey]

end CommandName

/-- The word that asks for help in place of a command. -/
def helpWord : String := "help"

/-- Where arguments stand. -/
inductive Level where
  /-- Before a command. -/
  | program
  /-- After a command. -/
  | command (name : CommandName)
deriving DecidableEq, Repr

/-- The parameters that may be given at a level. -/
def Level.parameters : Level → List Parameter
  | program => [.config]
  | command name => .config :: name.needs

/-- What has been read of some arguments. -/
structure Scan where
  /-- The values that count. -/
  given : Given
  /-- The parameter named last, and its value if there is one, which does not count yet. -/
  pending : Option (Parameter × Option String)

namespace Scan

/-- Nothing has been read. -/
def start : Scan := ⟨Given.none, none⟩

/-- Whether a parameter waits for its value. -/
def awaits (scan : Scan) : Option Parameter :=
  match scan.pending with
  | some (parameter, none) => some parameter
  | _ => none

/-- Let a value count. -/
def assign (given : Given) (parameter : Parameter) (text : String) : Except UsageFault Given :=
  if (given parameter).isSome then .error .repeatedParameter
  else
    match parameter.read text with
    | .error fault => .error fault
    | .ok value => .ok (given.set parameter value)

/-- Let the value of the parameter named last count. -/
def settle (scan : Scan) : Except UsageFault Given :=
  match scan.pending with
  | none => .ok scan.given
  | some (_, none) => .error .missingValue
  | some (parameter, some text) => assign scan.given parameter text

end Scan

/-- An argument by its form. -/
inductive Argument where
  /-- A double dash. -/
  | escape
  /-- A name after a double dash, and what is attached to it. -/
  | long (name : String) (attached : Option String)
  /-- Letters after a single dash, the first of which is this one. -/
  | short (letter : Char)
  /-- Anything else. -/
  | plain
deriving DecidableEq, Repr

/-- Cut a text at its first equals sign. -/
def cutAtEquals (text : List Char) : String × Option String :=
  let name := text.takeWhile (· ≠ '=')
  match text.dropWhile (· ≠ '=') with
  | [] => (String.ofList name, none)
  | _ :: attached => (String.ofList name, some (String.ofList attached))

/-- The form of an argument. -/
def Argument.ofText (text : String) : Argument :=
  match text.toList with
  | ['-', '-'] => .escape
  | '-' :: '-' :: rest =>
    let (name, attached) := cutAtEquals rest
    .long name attached
  | '-' :: letter :: _ => .short letter
  | _ => .plain

/-- The fault of the argument at the front after the word that asks for help. -/
def helpFault : List String → UsageFault
  | [] => .helpWanted
  | name :: rest =>
    if rest = [] ∧ (name = helpWord ∨ (CommandName.ofText? name).isSome) then .helpWanted
    else .unknownCommand

/-- The fault of an argument that has no place at a level. -/
def Level.strayFault : Level → UsageFault
  | program => .unknownCommand
  | command _ => .unknownArgument

/-- The fault of an argument after a double dash. A command there is an argument out of place. -/
def Level.escapedFault (level : Level) (text : String) : UsageFault :=
  match level with
  | program =>
    if text = helpWord ∨ (CommandName.ofText? text).isSome then .unknownArgument
    else .unknownCommand
  | command _ => .unknownArgument

/-- The fault of asking for help after what has been read. -/
def Scan.helpFault (scan : Scan) : UsageFault :=
  match scan.settle with
  | .error fault => fault
  | .ok _ => .helpWanted

/-- Read an argument that is a name after a double dash. -/
def Scan.readLong (scan : Scan) (level : Level) (name : String) (attached : Option String) :
    Except UsageFault Scan :=
  match level.parameters.find? fun parameter => parameter.name = name with
  | some parameter =>
    match scan.settle with
    | .error fault => .error fault
    | .ok given =>
      match attached with
      | none => .ok ⟨given, some (parameter, none)⟩
      | some text => (Scan.assign given parameter text).map fun given => ⟨given, none⟩
  | none =>
    if name = "help" then
      .error (if attached.isSome then .unwantedValue else scan.helpFault)
    else .error .unknownArgument

/-- Read an argument after which the same command is still being read. -/
def Scan.step (scan : Scan) (level : Level) (text : String) : Except UsageFault Scan :=
  match Argument.ofText text, scan.awaits with
  | .long name attached, _ => scan.readLong level name attached
  | .short letter, _ => .error (if letter = 'h' then scan.helpFault else .unknownArgument)
  | _, some parameter => .ok { scan with pending := some (parameter, some text) }
  | _, none => .error level.strayFault

/-- Where the arguments at a level end. -/
inductive Ending where
  /-- There are no more. -/
  | exhausted (scan : Scan)
  /-- A command begins, with these arguments after its name. -/
  | command (scan : Scan) (name : CommandName) (rest : List String)

/-- The end of the arguments of a level at this one, or a fault, if it is a command or asks for
help in place of one. -/
def Scan.enter? (scan : Scan) (level : Level) (text : String) (rest : List String) :
    Option (Except UsageFault Ending) :=
  if level = .program ∧ scan.awaits = none then
    if text = helpWord then some (.error (CommandLine.helpFault rest))
    else (CommandName.ofText? text).map fun name => .ok (.command scan name rest)
  else none

/-- Read the arguments at a level. -/
def Scan.run (scan : Scan) (level : Level) : List String → Except UsageFault Ending
  | [] => .ok (.exhausted scan)
  | text :: rest =>
    match scan.enter? level text rest with
    | some ending => ending
    | none =>
      if Argument.ofText text = .escape then
        match rest with
        | [] => .ok (.exhausted scan)
        | text :: _ => .error (level.escapedFault text)
      else
        match scan.step level text with
        | .error fault => .error fault
        | .ok scan => scan.run level rest

end RoundKey.CommandLine
