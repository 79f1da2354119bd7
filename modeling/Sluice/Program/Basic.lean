import Sluice.Output.Directive
import Sluice.Token.Basic

/-!
# Programs

What a line asks for once its names are resolved: a pipeline of commands, some of them grouped,
with the directives for showing the result and the name that it is bound to.
-/

namespace Sluice

/-- One command to dispatch. -/
structure Intent where
  name : String
  subcommand : Option String
  /-- Arguments as written, templates included. -/
  positional : List Value
  /-- Each flag once; the last value given counts. -/
  flags : Fields
  /-- Another command's result arrives as input. -/
  piped : Bool
  span : Span
deriving DecidableEq

def Intent.label (i : Intent) : String :=
  match i.subcommand with
  | some sub => s!"{i.name} {sub}"
  | none => i.name

/-- A part of a pipeline. -/
inductive Step where
  | command (intent : Intent)
  /-- A pipeline in parentheses, run to its end before its result moves on. -/
  | group (steps : List Step) (directives : Directives)

/-- Steps that pass their results along. -/
structure Pipeline where
  steps : List Step
  /-- The directives of the last step. -/
  directives : Directives

/-- A whole line. -/
structure Program where
  target : Option String
  pipeline : Pipeline

mutual

def Step.commands : Step → List Intent
  | .command intent => [intent]
  | .group steps _ => Step.allCommands steps

/-- The commands of steps in the order in which they run. -/
def Step.allCommands : List Step → List Intent
  | [] => []
  | s :: ss => s.commands ++ Step.allCommands ss

end

def Pipeline.commands (p : Pipeline) : List Intent :=
  Step.allCommands p.steps

mutual

def Step.count : Step → Nat
  | .command _ => 1
  | .group steps _ => Step.countAll steps

def Step.countAll : List Step → Nat
  | [] => 0
  | s :: ss => s.count + Step.countAll ss

end

def Pipeline.count (p : Pipeline) : Nat :=
  Step.countAll p.steps

theorem Step.allCommands_singleton (s : Step) : Step.allCommands [s] = s.commands :=
  List.append_nil _

theorem Step.allCommands_append (ss ts : List Step) :
    Step.allCommands (ss ++ ts) = Step.allCommands ss ++ Step.allCommands ts := by
  induction ss with
  | nil => rfl
  | cons s ss ih => simp [Step.allCommands, ih]

mutual

theorem Step.length_commands : ∀ s : Step, s.commands.length = s.count
  | .command _ => rfl
  | .group steps _ => by simp [Step.commands, Step.count, Step.length_allCommands steps]

theorem Step.length_allCommands : ∀ ss : List Step, (Step.allCommands ss).length = Step.countAll ss
  | [] => rfl
  | s :: ss => by
    simp [Step.allCommands, Step.countAll, Step.length_commands s, Step.length_allCommands ss]

end

end Sluice
