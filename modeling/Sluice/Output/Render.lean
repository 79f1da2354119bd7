import Sluice.Output.Directive
import Sluice.Output.Envelope
import Sluice.Output.Records
import Sluice.Query.Run

/-!
# Showing a result

`render` writes a value as the directives ask: as a table, as indented or compact JSON, or in the
form that suits it. A query is applied first, and wrappers are taken off before a query and before
anything but JSON is shown.
-/

namespace Sluice

inductive OutputMode where
  | auto
  | table
  | json
  | raw
deriving DecidableEq

def OutputMode.ofName (name : String) : Except FormatFault OutputMode :=
  match name with
  | "auto" => .ok auto
  | "table" => .ok table
  | "json" => .ok json
  | "raw" => .ok raw
  | name => .error (.unknownMode name)

/-- What holds where no directive says otherwise. -/
structure OutputDefaults where
  mode : String
  maxColumnWidth : Nat
deriving DecidableEq

/-- The names in a list of columns, blanks around them and empty ones dropped. -/
def columnList (spec : String) : Except FormatFault (List String) :=
  match ((Text.split ',' spec).map Text.trim).filter fun name => !name.isEmpty with
  | [] => .error .noColumns
  | names => .ok names

namespace Value

def isRecordList : Value → Bool
  | .seq (x :: xs) => (x :: xs).all fun
    | .map _ => true
    | _ => false
  | _ => false

def renderTable (v : Value) (columns : Option (List String)) (maxColumnWidth : Nat) :
    Except FormatFault String :=
  match v.records? with
  | none => .ok "(no rows)"
  | some records => (tabulate records columns).map fun t => t.draw maxColumnWidth

/-- The value in the form that suits it. -/
def renderAuto (v : Value) (columns : Option (List String)) (maxColumnWidth : Nat) :
    Except FormatFault String :=
  if columns.isSome || v.isRecordList then v.renderTable columns maxColumnWidth
  else
    match v with
    | .str s => .ok s
    | v => .ok v.pretty

/-- The value as the directives ask. -/
def render (v : Value) (directives : Directives) (defaults : OutputDefaults) :
    Except FormatFault String := do
  let mode ← OutputMode.ofName (directives.output.getD defaults.mode)
  let columns ← directives.columns.mapM columnList
  if columns.isSome && (mode = .json || mode = .raw) then .error .columnsNeedTable
  let v ← match directives.query with
    | some source => Query.apply source v.unwrap
    | none => .ok v
  match mode with
  | .json => .ok v.pretty
  | .raw => .ok v.compact
  | .table => v.unwrap.renderTable columns defaults.maxColumnWidth
  | .auto => v.unwrap.renderAuto columns defaults.maxColumnWidth

end Value

end Sluice
