import Sluice.Command
import Sluice.Failure
import Sluice.Program.Basic
import Sluice.Text.Blank
import Sluice.Text.Search
import Sluice.Tree.Basic

/-!
# From trees to programs

Names are resolved against the registry before anything runs. A registered name stands for its
command; otherwise `alias.action` calls an action on a connection, and a lone identifier reads a
variable. Output directives are taken out of the flags of every call, and those of the last stage
decide how the result is shown.
-/

namespace Sluice

/-- The value that an operand stands for; `true`, `false` and `null` are keywords. -/
def Operand.value : Operand → Value
  | literal value _ => value
  | word "true" _ => .bool true
  | word "false" _ => .bool false
  | word "null" _ => .null
  | word name _ => .str name

def FlagNode.value? (f : FlagNode) : Option Value :=
  f.value.map Operand.value

/-- Records a flag if it is a directive. -/
def FlagNode.direct? (f : FlagNode) (d : Directives) : Option Directives :=
  d.set? f.name (f.value?.map Value.toText)

/-- The flags of a call split into directives and the rest, in order. -/
def splitFlags : List FlagNode → Directives → Fields → Directives × Fields
  | [], d, fields => (d, fields)
  | f :: fs, d, fields =>
    match f.direct? d with
    | some d => splitFlags fs d fields
    | none => splitFlags fs d (fields.put f.name (f.value?.getD (.bool true)))

/-- The flags behind a group, which have to be directives. -/
def groupDirectives : List FlagNode → Directives → Except Failure Directives
  | [], d => .ok d
  | f :: fs, d =>
    match f.direct? d with
    | some d => groupDirectives fs d
    | none => .error (.invalidArguments "( )" (.notDirective f.name))

/-- A connection's alias and an action, written as `alias.action`. -/
def dotted? (name : String) : Option (String × String) :=
  match Text.splitOnce? '.' name with
  | some (name, action) =>
    if Text.isIdentifier name && !action.isEmpty then some (name, action) else none
  | none => none

/-- What the name of a call stands for: a command, a subcommand already known, and the arguments
that the name itself supplies. -/
structure Reading where
  command : String
  subcommand : Option String
  supplied : List Value

/-- The reading of a name. A lone identifier is one without operands and flags. -/
def Reading.ofName (registry : Registry) (name : String) (alone : Bool) : Except Failure Reading :=
  if registry.contains name then .ok ⟨name, none, []⟩
  else
    match (if registry.contains "invoke" then dotted? name else none) with
    | some (name, action) => .ok ⟨"invoke", none, [.str name, .str action]⟩
    | none =>
      if Text.isIdentifier name && alone && registry.contains "var" then
        .ok ⟨"var", some "get", [.str name]⟩
      else .error (.unknownCommand name)

/-- Splits off the subcommand: a bare word in front, for commands that take one. -/
def splitSubcommand (takes : Bool) : List Operand → Option String × List Operand
  | .word sub span :: rest => if takes then (some sub, rest) else (none, .word sub span :: rest)
  | operands => (none, operands)

/-- The intent of a call, and the directives found among its flags. -/
def Intent.ofCall (registry : Registry) (piped : Bool) (c : Call) :
    Except Failure (Intent × Directives) := do
  let (directives, flags) := splitFlags c.flags .none []
  let reading ← Reading.ofName registry c.name (c.positional.isEmpty && flags.isEmpty)
  let takes := ((registry.get? reading.command).map Command.takesSubcommand).getD false
  let (sub, operands) := splitSubcommand (takes && reading.subcommand.isNone) c.positional
  let intent := {
    name := reading.command
    subcommand := reading.subcommand.or sub
    positional := reading.supplied ++ operands.map Operand.value
    flags := flags
    piped := piped
    span := c.span }
  .ok (intent, directives)

mutual

def Stage.build (registry : Registry) (piped : Bool) : Stage → Except Failure (Step × Directives)
  | .call c => (Intent.ofCall registry piped c).map fun (intent, d) => (.command intent, d)
  | .group inner flags _ =>
    match inner.build registry piped with
    | .error e => .error e
    | .ok p => (groupDirectives flags p.directives).map fun d => (.group p.steps p.directives, d)

/-- The pipeline of a chain. Only its first stage can be without input. -/
def Chain.build (registry : Registry) (piped : Bool) : Chain → Except Failure Pipeline
  | .stage s => (s.build registry piped).map fun (step, d) => ⟨[step], d⟩
  | .pipe left right =>
    match left.build registry piped with
    | .error e => .error e
    | .ok p => (right.build registry true).map fun (step, d) => ⟨p.steps ++ [step], d⟩

end

def Line.build (registry : Registry) (line : Line) : Except Failure Program :=
  (line.chain.build registry false).map fun p => ⟨line.target.map Target.name, p⟩

end Sluice
