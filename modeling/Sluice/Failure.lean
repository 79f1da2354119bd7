import Sluice.Path
import Sluice.Session.Snapshot
import Sluice.Token.Error
import Sluice.Value.Reader

/-!
# Failures

Every way in which a line can fail, as a cause. The wording of each cause is in one function next
to its type, and `Failure.kind` is the name of its class that operators see.
-/

namespace Sluice

/-! ## The file system's faults -/

inductive FileFault where
  | notFound
  | notDirectory
  | isDirectory
  | permissionDenied
  | alreadyExists
  | nameTooLong
  /-- The content is not UTF-8. -/
  | notText
deriving DecidableEq

def FileFault.message : FileFault → String
  | notFound => "No such file or directory (os error 2)"
  | notDirectory => "Not a directory (os error 20)"
  | isDirectory => "Is a directory (os error 21)"
  | permissionDenied => "Permission denied (os error 13)"
  | alreadyExists => "File exists (os error 17)"
  | nameTooLong => "File name too long (os error 36)"
  | notText => "stream did not contain valid UTF-8"

/-! ## Collaborators -/

/-- Why a collaborator could not do what it was asked for. -/
inductive ServiceFault where
  | unavailable (text : String)
  | missing (what : String)
  | failed (text : String)
  | file (fault : FileFault)
  | badJson (error : Value.ReadError)
deriving DecidableEq

def ServiceFault.message : ServiceFault → String
  | unavailable text => text
  | missing what => s!"{what} not found"
  | failed text => text
  | file fault => fault.message
  | badJson error => s!"invalid JSON: {error.message}"

/-! ## Arguments -/

/-- Names with commas between them. -/
def listed (names : List String) : String :=
  String.intercalate ", " names

/-- Why the arguments of a command are refused. -/
inductive ArgumentFault where
  | missing (what : String)
  | unexpected (text : String)
  | unknownFlag (name : String)
  | missingSubcommand (choices : List String)
  | unknownSubcommand (name : String) (choices : List String)
  | noInput
  | missingAlias
  | invalidAlias (name : String)
  | invalidSession (name : String)
  | notDirective (flag : String)
deriving DecidableEq

def ArgumentFault.message : ArgumentFault → String
  | missing what => s!"missing {what}"
  | unexpected text => s!"unexpected argument '{text}' (use --name value for optional parameters)"
  | unknownFlag name => s!"unknown flag '--{name}'"
  | missingSubcommand choices =>
    s!"missing subcommand (expected one of: {listed choices})"
  | unknownSubcommand name choices =>
    s!"unknown subcommand '{name}' (expected one of: {listed choices})"
  | noInput => "does not accept piped input"
  | missingAlias => "missing --as <alias>"
  | invalidAlias name => s!"invalid alias '{name}'"
  | invalidSession name => s!"invalid session name '{name}'"
  | notDirective flag => s!"only output directives may follow a group, found '--{flag}'"

/-! ## Commands at work -/

/-- Why a command failed after its arguments were accepted. -/
inductive CommandFault where
  | service (fault : ServiceFault)
  | noConnection (name : String)
  | notConnected (name : String)
  | noActiveConnection
  | snapshot (fault : SnapshotFault)
deriving DecidableEq

def CommandFault.message : CommandFault → String
  | service fault => fault.message
  | noConnection name => s!"no connection named '{name}'"
  | notConnected name =>
    s!"no connection named '{name}' (use: connect <source> --as {name})"
  | noActiveConnection => "no active connection (use --on <alias>)"
  | snapshot fault => fault.message

/-! ## Showing a result -/

/-- How far a query got. -/
inductive QueryStage where
  | parsing
  | compiling
  | running
deriving DecidableEq

inductive FormatFault where
  | unknownMode (name : String)
  | noColumns
  | columnsNeedTable
  | unknownColumn (name : String) (available : List String)
  | query (stage : QueryStage) (text : String)
deriving DecidableEq

def FormatFault.message : FormatFault → String
  | unknownMode name => s!"unknown output mode '{name}' (expected auto, table, json or raw)"
  | noColumns => "--columns needs at least one name"
  | columnsNeedTable => "--columns requires table output (auto or table)"
  | unknownColumn name available =>
    s!"unknown column '{name}' (available: {listed available})"
  | query .parsing text => s!"cannot parse query '{text}'"
  | query .compiling text => s!"cannot compile query '{text}'"
  | query .running text => s!"query '{text}' failed"

/-! ## All failures -/

/-- Why a line failed. -/
inductive Failure where
  | badSyntax (error : SyntaxError)
  | unknownCommand (name : String)
  | invalidArguments (command : String) (fault : ArgumentFault)
  | undefinedVariable (name : String)
  | invalidPath (path : String) (fault : PathFault)
  | commandFailed (command : String) (fault : CommandFault)
  | formatting (fault : FormatFault)
  | interrupted
deriving DecidableEq

namespace Failure

/-- The class of a failure. -/
def kind : Failure → String
  | badSyntax _ => "SyntaxError"
  | unknownCommand _ => "UnknownCommand"
  | invalidArguments _ _ => "InvalidArguments"
  | undefinedVariable _ => "UndefinedVariable"
  | invalidPath _ _ => "InvalidPath"
  | commandFailed _ _ => "HandlerFailure"
  | formatting _ => "FormattingError"
  | interrupted => "Interrupted"

def message : Failure → String
  | badSyntax error => error.message
  | unknownCommand name => s!"unknown command: {name}"
  | invalidArguments command fault => s!"{command}: {fault.message}"
  | undefinedVariable name => s!"variable '{name}' is not defined"
  | invalidPath path fault => s!"cannot resolve '{path}': {fault.message}"
  | commandFailed command fault => s!"{command} failed: {fault.message}"
  | formatting fault => fault.message
  | interrupted => "interrupted"

end Failure

/-- The command at which a pipeline failed: its number in order of execution, from 1, and its
label. -/
structure FailedAt where
  stage : Nat
  command : String
deriving DecidableEq

/-- A failed line. Nothing had run yet when there is no place. -/
structure PipelineFailure where
  place : Option FailedAt
  failure : Failure
deriving DecidableEq

def PipelineFailure.message (f : PipelineFailure) : String :=
  match f.place with
  | some place =>
    s!"{f.failure.kind} in stage {place.stage} ({place.command}): {f.failure.message}"
  | none => s!"{f.failure.kind}: {f.failure.message}"

end Sluice
