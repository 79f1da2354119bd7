import Sluice.Failure
import Sluice.Program.Basic

/-!
# Running pipelines

A pipeline hands each command the result of the one before it, and stops at the first failure,
which is reported with the number and the name of the command. What a command does is the business
of a dispatcher in any monad. `Pipeline.run` goes through the groups one inside the other;
`runCommands` knows nothing of groups and takes the commands as they follow one another.
-/

namespace Sluice

variable {m : Type → Type} [Monad m]

/-- Does what one command asks for, given another command's result. -/
abbrev Dispatcher (m : Type → Type) :=
  Intent → Option Value → m (Except Failure Value)

/-- Where a run stands: the number of commands begun, and the result at hand or the failure. -/
structure Progress (α : Type) where
  begun : Nat
  result : Except PipelineFailure α

def Intent.run (dispatch : Dispatcher m) (i : Intent) (input : Option Value) (begun : Nat) :
    m (Progress Value) := do
  let begun := begun + 1
  match ← dispatch i input with
  | .ok v => return ⟨begun, .ok v⟩
  | .error failure => return ⟨begun, .error ⟨some ⟨begun, i.label⟩, failure⟩⟩

mutual

/-- Runs one step. A group that is empty hands on what it got, or null. -/
def Step.run (dispatch : Dispatcher m) :
    Step → Option Value → Nat → m (Progress Value)
  | .command i, input, begun => i.run dispatch input begun
  | .group steps _, input, begun => do
    let p ← Step.runAll dispatch steps input begun
    return ⟨p.begun, p.result.map fun v => v.getD .null⟩

def Step.runAll (dispatch : Dispatcher m) :
    List Step → Option Value → Nat → m (Progress (Option Value))
  | [], input, begun => return ⟨begun, .ok input⟩
  | s :: ss, input, begun => do
    let p ← s.run dispatch input begun
    match p.result with
    | .ok v => Step.runAll dispatch ss (some v) p.begun
    | .error failure => return ⟨p.begun, .error failure⟩

end

def Pipeline.run (dispatch : Dispatcher m) (p : Pipeline) (input : Option Value) :
    m (Progress Value) := do
  let p ← Step.runAll dispatch p.steps input 0
  return ⟨p.begun, p.result.map fun v => v.getD .null⟩

def runCommands (dispatch : Dispatcher m) :
    List Intent → Option Value → Nat → m (Progress (Option Value))
  | [], input, begun => return ⟨begun, .ok input⟩
  | i :: rest, input, begun => do
    match ← dispatch i input with
    | .ok v => runCommands dispatch rest (some v) (begun + 1)
    | .error failure =>
      return ⟨begun + 1, .error ⟨some ⟨begun + 1, i.label⟩, failure⟩⟩

end Sluice
