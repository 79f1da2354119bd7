import Sluice.Arguments
import Sluice.Command
import Sluice.Order.Basic
import Sluice.Text.Blank

/-!
# From arguments to orders

Whatever is wrong with the arguments of a command comes to light when its order is read. Reading
has no effects.
-/

namespace Sluice

namespace Order

def connectShape : Shape := ⟨["source"], none, ["as"], false⟩

def deleteShape : Shape := ⟨["name"], none, ["yes"], false⟩

/-- The shape of `flow run` and its kin. -/
def runShape : Shape := ⟨[], some "name", [], true⟩

def invokeShape : Shape := ⟨["alias", "action"], some "value", [], true⟩

/-- An order that takes no arguments. -/
def alone (order : Order) (args : Arguments) : Except Failure Order := do
  Shape.bare.check args
  return order

/-- An order that takes one text. -/
def withText (what : String) (order : String → Order) (args : Arguments) :
    Except Failure Order := do
  (Shape.positional [what]).check args
  return order (← args.needText 0 what)

/-- The name of a saved session, which has to be an identifier. -/
def sessionName (args : Arguments) : Except Failure String := do
  let name ← args.needText 0 "name"
  if Text.isIdentifier name then .ok name else .error (args.refuse (.invalidSession name))

def readConnect (args : Arguments) : Except Failure Order := do
  connectShape.check args
  let source ← args.needText 0 "source"
  match args.flagText? "as" with
  | none => .error (.invalidArguments "connect" .missingAlias)
  | some name =>
    if Text.isIdentifier name then .ok (.connect source name)
    else .error (.invalidArguments "connect" (.invalidAlias name))

def readVar (args : Arguments) : Except Failure Order :=
  match args.subcommand with
  | some "list" => alone .listVariables args
  | some "get" => withText "name" .getVariable args
  | some "rm" => withText "name" .removeVariable args
  | some "clear" => alone .clearVariables args
  | _ => .error (args.badSubcommand ["list", "get", "rm", "clear"])

def readSession (args : Arguments) : Except Failure Order :=
  match args.subcommand with
  | some "list" => alone .listSessions args
  | some "save" => do
    (Shape.positional ["name"]).check args
    return .saveSession (← sessionName args)
  | some "load" => do
    (Shape.positional ["name"]).check args
    return .loadSession (← sessionName args)
  | some "rm" => do
    deleteShape.check args
    return .deleteSession (← sessionName args) (args.isSet "yes")
  | some "status" => alone .sessionStatus args
  | _ => .error (args.badSubcommand ["list", "save", "load", "rm", "status"])

def readAsset (kind : AssetKind) (args : Arguments) : Except Failure Order :=
  match args.subcommand with
  | some "list" => alone (.listAssets kind) args
  | some "run" => do
    runShape.check args
    match args.text? 0 <|> args.flagText? "name" with
    | none => .error (args.refuse (.missing "name"))
    | some reference =>
      match kind with
      | .flow => .ok (.runFlow reference (args.parameters ["name"]))
      | .query =>
        .ok (.runQuery reference (args.flagText? "on") (args.parameters ["name", "on"]))
      | .script => .ok (.runScript reference (args.parameters ["name"]))
  | _ => .error (args.badSubcommand ["list", "run"])

def readInvoke (args : Arguments) : Except Failure Order := do
  invokeShape.check args
  let name ← args.needText 0 "alias"
  let action ← args.needText 1 "action"
  return .invoke name action args.positional[2]? args.flags

def readWorkspace (args : Arguments) : Except Failure Order :=
  match args.subcommand with
  | some "list" => alone .listRoots args
  | some "add" => withText "path" .addRoot args
  | some "remove" => withText "root" .removeRoot args
  | _ => .error (args.badSubcommand ["list", "add", "remove"])

def readEcho (args : Arguments) : Except Failure Order := do
  (Shape.positional ["value"]).check args
  match args.positional with
  | value :: _ => .ok (.echo value)
  | [] => .error (args.refuse (.missing "value"))

def read (command : Command) (args : Arguments) : Except Failure Order :=
  match command with
  | .connect => readConnect args
  | .connections => alone .connections args
  | .disconnect => withText "alias" .disconnect args
  | .var => readVar args
  | .inspect => withText "name" .inspect args
  | .session => readSession args
  | .asset kind => readAsset kind args
  | .invoke => readInvoke args
  | .workspace => readWorkspace args
  | .echo => readEcho args
  | .format => alone .format args
  | .help => alone .help args

end Order

/-- Whether a command, called with this subcommand, has a use for another command's result. -/
def Command.acceptsInput (command : Command) (subcommand : Option String) : Bool :=
  match command with
  | format | invoke => true
  | asset .query => false
  | asset _ => subcommand == some "run"
  | _ => false

end Sluice
