import Sluice.Command
import Sluice.Order.Basic
import Sluice.Resolve
import Sluice.Session.Snapshot
import Sluice.Job
import Sluice.Value.Summary

/-!
# Carrying out orders

What each order does to the session and what it answers. Five orders change the session: to
connect, to disconnect, to remove a variable or all of them, and to load a saved session; each does
so as its last step, after everything that can fail.
-/

namespace Sluice

def Variable.row (v : Variable) : Value :=
  .map [("name", .str v.name), ("type", .str v.value.typeName), ("source", .str v.source),
    ("created_at", .str v.createdAt)]

def Connection.row (active : Option String) (c : Connection) : Value :=
  .map [("alias", .str c.name), ("source", .str c.source), ("created_at", .str c.createdAt),
    ("active", .bool (active == some c.name))]

def Asset.row (a : Asset) : Value :=
  .map [("namespace", .str a.space), ("name", .str a.name), ("path", .str a.path)]

def Root.row (r : Root) : Value :=
  .map [("namespace", .str r.space), ("path", .str r.path), ("system", .bool r.isSystem)]

def Registry.help (registry : Registry) : Value :=
  .seq (registry.entries.map fun (name, command) =>
    .map [("command", .str name), ("usage", .str command.usage), ("summary", .str command.summary)])

def Session.counts (s : Session) : Fields :=
  [("variables", .ofNat s.bindings.length), ("connections", .ofNat s.connections.length)]

namespace Order

open Job

/-! ## Connections -/

def openConnection (source name : String) : Job Value := do
  expect "connect" (← ask (.reach source))
  let time ← now
  replace ((← session).addConnection time name source)
  return .map [("alias", .str name), ("source", .str source), ("status", .str "connected")]

def closeConnection (name : String) : Job Value := do
  let s ← session
  match s.connection? name with
  | none => fail (.commandFailed "disconnect" (.noConnection name))
  | some c =>
    replace (s.removeConnection name)
    return .map [("alias", .str c.name), ("status", .str "disconnected")]

/-- Runs an action. Another command's result becomes the parameter `input`, and a value that stands
without a name becomes `value`. -/
def runAction (name action : String) (value : Option Value) (parameters : Fields)
    (input : Option Value) : Job Value := do
  let label := s!"{name}.{action}"
  match (← session).connection? name with
  | none => fail (.commandFailed label (.notConnected name))
  | some c =>
    let parameters := (value.map (Fields.put parameters "value")).getD parameters
    let parameters := (input.map (Fields.put parameters "input")).getD parameters
    expect label (← ask (.runAction c.source action parameters))

/-! ## Assets -/

/-- The connection that a query runs on. -/
def queryConnection (label : String) (s : Session) : Option String → Except Failure Connection
  | some name =>
    match s.connection? name with
    | some c => .ok c
    | none => .error (.commandFailed label (.noConnection name))
  | none =>
    match s.activeConnection? with
    | some c => .ok c
    | none => .error (.commandFailed label .noActiveConnection)

/-- Runs a flow over all variables. Another command's result has no place in a flow and is
dropped. -/
def startFlow (label reference : String) (parameters : Fields) : Job Value := do
  let asset ← expect label (← ask (.asset .flow reference))
  expect label (← ask (.runFlow asset.path parameters (← session).variableMap))

def startQuery (label reference : String) (on : Option String) (parameters : Fields) :
    Job Value := do
  let asset ← expect label (← ask (.asset .query reference))
  let c ← ofExcept (queryConnection label (← session) on)
  let text ← expect label (← ask (.queryText asset.path))
  expect label (← ask (.runQuery c.source text parameters))

def startScript (label reference : String) (parameters : Fields) (input : Option Value) :
    Job Value := do
  let asset ← expect label (← ask (.asset .script reference))
  expect label (← ask (.runScript asset.path input parameters))

/-! ## Saved sessions -/

def save (label name : String) : Job Value := do
  let s ← session
  expect label (← ask (.saveSession name s.snapshot))
  return .map (("saved", .str name) :: s.counts)

/-- Puts a saved session into the place of the running one. -/
def load (label name : String) : Job Value := do
  let document ← expect label (← ask (.loadSession name))
  match (← session).restore document with
  | (.error fault, _) => fail (.commandFailed label (.snapshot fault))
  | (.ok (), s) =>
    replace s
    return .map (("loaded", .str name) :: s.counts)

def delete (label name : String) (sure : Bool) : Job Value := do
  if !sure then
    if !(← ask (.confirm s!"Delete saved session '{name}'?")) then
      return .map [("removed", .null), ("status", .str "cancelled")]
  expect label (← ask (.deleteSession name))
  return .map [("removed", .str name)]

/-! ## All orders -/

/-- Carries out an order. `label` is the name under which it was given, and `input` is another
command's result. -/
def execute (registry : Registry) (label : String) (input : Option Value) : Order → Job Value
  | connect source name => openConnection source name
  | connections => do
    let s ← session
    let active := s.activeConnection?.map Connection.name
    return .seq (s.connections.map (Connection.row active))
  | disconnect name => closeConnection name
  | listVariables => do
    return .seq ((← session).bindings.map Variable.row)
  | getVariable reference => do
    ofExcept ((← session).lookup reference)
  | removeVariable name => do
    let s ← session
    match s.entry? name with
    | none => fail (.undefinedVariable name)
    | some _ =>
      replace (s.removeVariable name)
      return .map [("removed", .str name)]
  | clearVariables => do
    let s ← session
    replace s.clearVariables
    return .map [("cleared", .ofNat s.bindings.length)]
  | inspect reference => do
    return (← ofExcept ((← session).lookup reference)).summary reference
  | listSessions => do
    let names ← expect label (← ask .savedSessions)
    return .seq (names.map fun name => .map [("name", .str name)])
  | saveSession name => save label name
  | loadSession name => load label name
  | deleteSession name sure => delete label name sure
  | sessionStatus => do
    let s ← session
    let active := s.activeConnection?.map Connection.name
    return .map (s.counts ++ [("active", .ofText? active)])
  | listAssets kind => do
    return .seq ((← ask (.assets kind)).map Asset.row)
  | runFlow reference parameters => startFlow label reference parameters
  | runQuery reference on parameters => startQuery label reference on parameters
  | runScript reference parameters => startScript label reference parameters input
  | invoke name action value parameters => runAction name action value parameters input
  | listRoots => do
    return .seq ((← ask .roots).map Root.row)
  | addRoot path => do
    let path ← ask (.expand path)
    let root ← expect label (← ask (.addRoot path))
    return .map [("added", root.row)]
  | removeRoot reference => do
    let root ← expect label (← ask (.removeRoot reference))
    return .map [("removed", root.row)]
  | echo value => return value
  | format => return input.getD .null
  | help => return registry.help

end Order

end Sluice
