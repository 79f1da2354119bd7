import Sluice.Calendar
import Sluice.Host
import Sluice.Location
import Sluice.Shell

/-!
# The history of lines

Every line that asked for something leaves a record of one line with four fields between tabs: the
time, how it went, the line itself and a detail. Tabs and line ends inside the fields are replaced,
so that records and fields can be told apart.
-/

namespace Sluice

structure Record where
  time : String
  outcome : String
  line : String
  detail : String
deriving DecidableEq

namespace Record

/-- How many characters of a line are kept. -/
def lineLimit : Nat := 200

def lineField (line : String) : List Char :=
  (line.toList.map fun c => if c == '\n' || c == '\t' then ' ' else c).take lineLimit

def detailField (detail : String) : List Char :=
  detail.toList.flatMap fun c =>
    if c == '\n' then [';', ' '] else if c == '\t' then [' '] else [c]

/-- The record as text, with the line end that closes it. -/
def text (r : Record) : String :=
  String.ofList (r.time.toList ++ ['\t'] ++ r.outcome.toList ++ ['\t'] ++ lineField r.line ++
    ['\t'] ++ detailField r.detail ++ ['\n'])

/-- The record for a line that has been executed; blank lines leave none. -/
def ofOutcome? (time line : String) : Except PipelineFailure Outcome → Option Record
  | .ok .empty => none
  | .ok (.bound name) => some ⟨time, "bound", line, name⟩
  | .ok (.shown _ _ (some warning)) => some ⟨time, "warning", line, warning⟩
  | .ok (.shown _ _ none) => some ⟨time, "ok", line, ""⟩
  | .error failure => some ⟨time, failure.failure.kind, line, failure.message⟩

end Record

namespace History

open Host

def directory (home : String) : String :=
  Location.join home "logs"

def file (home : String) : String :=
  Location.join (directory home) "history.log"

/-- Adds a record at the end. If that is not possible, nothing happens. -/
def add (home : String) (r : Record) : Act host Unit := do
  tell (.makeDirectory (directory home))
  tell (.appendFile (file home) r.text)

/-- Records how a line went, at the time that it is recorded. -/
def addOutcome (home line : String) (outcome : Except PipelineFailure Outcome) : Act host Unit := do
  let now := timestamp (← time)
  match Record.ofOutcome? now line outcome with
  | some r => add home r
  | none => return

end History

end Sluice
