/-! # Arguments of a command line

The rules by which arguments are read, for one level of a command line (`Grammar`): the options, the
operands, and the commands by which a deeper level begins. Options have a long name, some a short
one; a value stands behind an equals sign, or is the next argument, or follows a short name at once.
Two dashes alone make all arguments behind them operands.

`Grammar.scan` goes through the arguments of a level up to a command. An option or operand with a
value is *pending* until the next one begins: only then is its value checked, so of two faults it is
not always the first argument that shows. `Grammar.finish` checks what only the end of a level can
tell. -/

namespace CellExchange.CommandLine

/-- Why a command line is not carried out. -/
inductive UsageFault where
  /-- It asks for help. -/
  | help
  /-- There is nothing in it. -/
  | nothing
  /-- It has an argument that is not known. -/
  | unknownArgument
  /-- It has a command that is not known. -/
  | unknownCommand
  /-- A value is missing or not accepted. -/
  | invalidValue
  /-- An option is given twice. -/
  | repeated
  /-- An option that takes no value is given one. -/
  | needlessValue
  /-- There is no command. -/
  | missingCommand
  /-- An operand is missing. -/
  | missingOperand
  deriving DecidableEq, Repr

/-- What an option takes. -/
inductive Taking where
  /-- Nothing. -/
  | nothing
  /-- Nothing: it asks for help. -/
  | help
  /-- A value. -/
  | value

/-- An option or operand. -/
structure Rule where
  /-- The name; of an option the long one. -/
  name : String
  /-- The short name. -/
  short : Option Char := none
  /-- What it takes. -/
  taking : Taking := .value
  /-- Which values are accepted. -/
  accepts : String → Bool := fun _ => true

/-- The rules of one level, which say what may stand in it. -/
structure Grammar where
  /-- The options. -/
  options : List Rule
  /-- The operands, all of which have to be there. -/
  operands : List Rule := []
  /-- The commands. -/
  commands : List String := []

/-- How far the reading of a level has come. -/
structure Scan where
  /-- The names that were found, with their values. -/
  found : List (String × String) := []
  /-- The name that waits for its value to be checked, and the value if it is there. -/
  pending : Option (Rule × Option String) := none
  /-- Whether the next argument may be the value of the pending name. -/
  isOpen : Bool := false
  /-- The number of operands met. -/
  operands : Nat := 0
  /-- Whether all further arguments are operands. -/
  trailing : Bool := false

namespace Scan

/-- Notes a name with its value. -/
def note (s : Scan) (rule : Rule) (value : String) : Except UsageFault Scan :=
  if (s.found.lookup rule.name).isSome then .error .repeated
  else if rule.accepts value then .ok { s with found := (rule.name, value) :: s.found }
  else .error .invalidValue

/-- Checks the pending name. -/
def settle (s : Scan) : Except UsageFault Scan :=
  match s.pending with
  | none => .ok s
  | some (_, none) => .error .invalidValue
  | some (rule, some value) => { s with pending := none }.note rule value

/-- Takes an option with the value that is attached to it, if there is one. -/
def takeOption (s : Scan) (rule : Rule) (attached : Option String) : Except UsageFault Scan := do
  match rule.taking, attached with
  | .value, some value => (← s.settle).note rule value
  | .value, none => return { ← s.settle with pending := some (rule, none), isOpen := true }
  | _, some _ => throw .needlessValue
  | .nothing, none => (← s.settle).note rule ""
  | .help, none =>
    let _ ← s.settle
    throw .help

/-- Takes the value of the pending option. -/
def takeValue (s : Scan) (value : String) : Scan :=
  { s with pending := s.pending.map fun p => (p.1, some value), isOpen := false }

/-- Takes an operand. -/
def takeOperand (s : Scan) (rule : Rule) (value : String) : Except UsageFault Scan := do
  return { ← s.settle with
    pending := some (rule, some value), isOpen := false, operands := s.operands + 1 }

end Scan

namespace Grammar

/-- Takes options by their short names, which stand behind one dash. -/
def takeShort (level : Grammar) (s : Scan) : List Char → Except UsageFault Scan
  | [] => .ok s
  | c :: rest =>
    match level.options.find? fun rule => rule.short = some c with
    | none => .error .unknownArgument
    | some rule =>
      match rule.taking with
      | .value =>
        let attached := match rest with
          | [] => none
          | '=' :: value => some (String.ofList value)
          | value => some (String.ofList value)
        s.takeOption rule attached
      | _ => do level.takeShort (← s.takeOption rule none) rest

/-- Takes an option by its long name, which stands behind two dashes. -/
def takeLong (level : Grammar) (s : Scan) (cs : List Char) : Except UsageFault Scan :=
  let name := cs.takeWhile (· != '=')
  let attached := match cs.drop name.length with
    | _ :: value => some (String.ofList value)
    | [] => none
  match level.options.find? fun rule => rule.name == String.ofList name with
  | none => .error .unknownArgument
  | some rule => s.takeOption rule attached

/-- Whether an argument is a command of the level. -/
def isCommand (level : Grammar) (argument : String) : Bool :=
  !level.commands.isEmpty && (argument == "help" || level.commands.contains argument)

/-- What comes of asking for help about some commands. -/
def helpAbout (level : Grammar) : List String → UsageFault
  | [] => .help
  | [command] => if level.isCommand command then .help else .unknownCommand
  | _ => .unknownCommand

/-- Takes an argument that is no option. -/
def takePlain (level : Grammar) (s : Scan) (argument : String) : Except UsageFault Scan :=
  match level.operands[s.operands]? with
  | some rule => s.takeOperand rule argument
  | none =>
    if s.trailing && level.isCommand argument then .error .unknownArgument
    else if level.commands.isEmpty then .error .unknownArgument
    else .error .unknownCommand

/-- Takes an argument that is no command. -/
def take (level : Grammar) (s : Scan) (argument : String) : Except UsageFault Scan :=
  if s.trailing then level.takePlain s argument
  else match argument.toList with
    | ['-', '-'] => .ok { s with trailing := true }
    | '-' :: '-' :: cs => level.takeLong { s with isOpen := false } cs
    | '-' :: c :: cs => level.takeShort { s with isOpen := false } (c :: cs)
    | _ => if s.isOpen then .ok (s.takeValue argument) else level.takePlain s argument

/-- Goes through the arguments of a level; the result has the command that ends it and the arguments
behind, if there is one. -/
def scan (level : Grammar) (s : Scan) :
    List String → Except UsageFault (Scan × Option (String × List String))
  | [] => .ok (s, none)
  | argument :: rest =>
    if !s.trailing && !s.isOpen && level.isCommand argument then
      if argument = "help" then .error (level.helpAbout rest) else .ok (s, some (argument, rest))
    else do level.scan (← level.take s argument) rest

/-- What a level holds, once it is at its end or at a command. -/
def finish (level : Grammar) (s : Scan) (hasCommand : Bool) :
    Except UsageFault (List (String × String)) := do
  let s ← s.settle
  if !hasCommand && !level.commands.isEmpty then
    throw (if s.found.isEmpty then .nothing else .missingCommand)
  if level.operands.any fun rule => (s.found.lookup rule.name).isNone then throw .missingOperand
  return s.found

end Grammar

end CellExchange.CommandLine
