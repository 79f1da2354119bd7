import Sluice.Failure

/-!
# Arguments

What a command is called with once all templates are resolved, and the shapes that arguments can
be held against: so many positional ones, at most one more, and flags from a list or of any name.
-/

namespace Sluice

/-- The arguments of one call. -/
structure Arguments where
  command : String
  subcommand : Option String
  positional : List Value
  flags : Fields
deriving DecidableEq

namespace Arguments

def label (args : Arguments) : String :=
  match args.subcommand with
  | some sub => s!"{args.command} {sub}"
  | none => args.command

def refuse (args : Arguments) (fault : ArgumentFault) : Failure :=
  .invalidArguments args.label fault

/-- The refusal of a subcommand that is missing or not among the choices. -/
def badSubcommand (args : Arguments) (choices : List String) : Failure :=
  .invalidArguments args.command <|
    match args.subcommand with
    | some sub => .unknownSubcommand sub choices
    | none => .missingSubcommand choices

def text? (args : Arguments) (index : Nat) : Option String :=
  args.positional[index]?.map Value.toText

/-- The text of a positional argument that has to be there. -/
def needText (args : Arguments) (index : Nat) (what : String) : Except Failure String :=
  match args.text? index with
  | some text => .ok text
  | none => .error (args.refuse (.missing what))

def flag? (args : Arguments) (name : String) : Option Value :=
  args.flags.get? name

def flagText? (args : Arguments) (name : String) : Option String :=
  (args.flag? name).map Value.toText

/-- A flag is set if it stands alone or has a value that says so. -/
def isSet (args : Arguments) (name : String) : Bool :=
  match args.flag? name with
  | some (.bool b) => b
  | some (.str s) => s == "true" || s == "yes" || s == "1"
  | some (.num (.int i _)) => i == 1
  | _ => false

/-- The flags that are not `structural`, as parameters for a collaborator. -/
def parameters (args : Arguments) (structural : List String) : Fields :=
  args.flags.filter fun field => !structural.contains field.1

end Arguments

/-- What the arguments of a command have to look like. -/
structure Shape where
  /-- The positional arguments that have to be there. -/
  required : List String
  /-- One more positional argument that may be there. -/
  optional : Option String
  flags : List String
  /-- Flags of any name are welcome. -/
  openFlags : Bool

namespace Shape

/-- Exactly these positional arguments and no flags. -/
def positional (required : List String) : Shape :=
  ⟨required, none, [], false⟩

def bare : Shape := positional []

/-- How many positional arguments there may be. -/
def most (shape : Shape) : Nat :=
  shape.required.length + if shape.optional.isSome then 1 else 0

/-- The first thing that is wrong with the arguments, if anything is. -/
def fault? (shape : Shape) (args : Arguments) : Option ArgumentFault :=
  match shape.required[args.positional.length]? with
  | some what => some (.missing what)
  | none =>
    match args.positional[shape.most]? with
    | some extra => some (.unexpected extra.toText)
    | none =>
      if shape.openFlags then none
      else (args.flags.keys.find? fun k => !shape.flags.contains k).map .unknownFlag

def check (shape : Shape) (args : Arguments) : Except Failure Unit :=
  match shape.fault? args with
  | some fault => .error (args.refuse fault)
  | none => .ok ()

end Shape

end Sluice
