import Sluice.Failure
import Sluice.Output.Table

/-!
# Values as tables

A sequence has a row for each item and any other value has one row. The columns are the keys of
all rows in the order in which they are first seen; something that is not a mapping stands in a
column `value`.
-/

namespace Sluice

namespace Value

def asRecord : Value → Fields
  | .map fields => fields
  | v => [("value", v)]

def records? : Value → Option (List Fields)
  | .seq [] => none
  | .seq items => some (items.map asRecord)
  | v => some [v.asRecord]

/-- The text in a cell: empty where there is nothing. -/
def cell : Option Value → String
  | none | some .null => ""
  | some v => v.toText

end Value

/-- Adds what is new to a list of names. -/
def addNew (names : List String) : List String → List String
  | [] => names
  | k :: ks => addNew (if names.contains k then names else names ++ [k]) ks

/-- The keys of all rows, each once, in the order in which they are first seen. -/
def columnNames (records : List Fields) : List String :=
  records.foldl (fun names r => addNew names r.keys) []

def Table.ofRecords (headers : List String) (records : List Fields) : Table :=
  ⟨headers, records.map fun r => headers.map fun h => Value.cell (r.get? h)⟩

/-- The table of rows under the columns that were asked for, each of which some row has to have. -/
def tabulate (records : List Fields) (columns : Option (List String)) : Except FormatFault Table :=
  let available := columnNames records
  match columns with
  | none => .ok (Table.ofRecords available records)
  | some names =>
    match names.find? fun c => !available.contains c with
    | some missing => .error (.unknownColumn missing available)
    | none => .ok (Table.ofRecords names records)

end Sluice
