import Sluice.Failure
import Sluice.Query.Eval

/-!
# Queries on values

A query turns a value into a value: one result stands for itself, several become a sequence, and
none becomes null. The first fault, if there is one, stops it.
-/

namespace Sluice.Query

/-- How deeply terms may stand inside each other while a query runs. -/
def maxDepth : Nat := 1000000000

/-- The value that a list of results becomes. -/
def gathered : List Value → Value
  | [] => .null
  | [v] => v
  | vs => .seq vs

def apply (source : String) (input : Value) : Except FormatFault Value :=
  match parse? source with
  | none => .error (.query .parsing source)
  | some t =>
    if !t.closed builtins then .error (.query .compiling source)
    else
      match (eval maxDepth .standard t ⟨.ofValue input, none⟩).collect with
      | .ok spots => .ok (gathered (spots.map fun s => s.datum.toValue))
      | .error _ => .error (.query .running source)

end Sluice.Query
