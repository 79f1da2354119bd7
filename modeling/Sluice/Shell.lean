import Sluice.Dispatch
import Sluice.Output.Render
import Sluice.Program.Build
import Sluice.Program.Run
import Sluice.Tree.Parser

/-!
# The shell

One line of input from its text to its outcome. A line is parsed and its names are resolved before
anything runs; its pipeline then runs to its end, and the result is bound to a name or shown. A
line that fails, or is interrupted, leaves the session as it was.
-/

namespace Sluice

/-- What a line came to. -/
inductive Outcome where
  /-- A blank line or a remark. -/
  | empty
  | bound (name : String)
  /-- A result and how it is shown. With a warning, the result could not be shown as asked and the
  text is its plain form. -/
  | shown (value : Value) (text : String) (warning : Option String)
deriving DecidableEq

/-- The commands of a shell and the way it shows results. -/
structure Shell where
  registry : Registry
  output : OutputDefaults

/-- Lines that ask for nothing. -/
def isRemark (line : String) : Bool :=
  match Text.trimChars line.toList with
  | [] => true
  | c :: _ => c == '#'

/-- A result as the directives ask, or its plain form with a warning. -/
def Outcome.ofResult (v : Value) (directives : Directives) (defaults : OutputDefaults) : Outcome :=
  match v.render directives defaults with
  | .ok text => .shown v text none
  | .error fault => .shown v v.pretty (some (PipelineFailure.mk none (.formatting fault)).message)

namespace Shell

def program (shell : Shell) (line : String) : Except Failure Program :=
  match parse line with
  | .error e => .error (.badSyntax e)
  | .ok tree => tree.build shell.registry

/-- The commands of this shell as a dispatcher over the live session. -/
def dispatcher (shell : Shell) : Dispatcher (Act live) :=
  fun intent input => (shell.registry.dispatch intent input).run

/-- Binds a name to a result, with the line that it came from. -/
def bindResult (line name : String) (v : Value) : Act live Unit := do
  let time := timestamp (← Act.perform (I := live) (.consult .clock))
  let s ← Act.perform (I := live) .session
  Act.perform (I := live) (.replace (s.setVariable time name v (Text.trim line)))

/-- Runs a line, whose commands are carried out by a dispatcher. A failure leaves the session as it
was when the line failed. -/
def runLine (shell : Shell) (dispatch : Dispatcher (Act live)) (line : String) :
    Act live (Except PipelineFailure Outcome) :=
  if isRemark line then return .ok .empty
  else
    match shell.program line with
    | .error failure => return .error ⟨none, failure⟩
    | .ok program => do
      match (← program.pipeline.run dispatch none).result with
      | .error failure => return .error failure
      | .ok v =>
        match program.target with
        | none => return .ok (.ofResult v program.pipeline.directives shell.output)
        | some name =>
          bindResult line name v
          return .ok (.bound name)

/-- Executes a line. Unless it succeeds, the session is put back to what it was before. -/
def execute (shell : Shell) (line : String) (s : Session) :
    Act service (Except PipelineFailure Outcome × Session) := do
  match ← (shell.runLine shell.dispatcher line).onSession s with
  | (some (.ok outcome), s) => return (.ok outcome, s)
  | (some (.error failure), _) => return (.error failure, s)
  | (none, _) => return (.error ⟨none, .interrupted⟩, s)

/-- Executes a line unless an interrupt forestalls it. -/
def executeOrCancel (shell : Shell) (forestalled : Bool) (line : String) (s : Session) :
    Act service (Except PipelineFailure Outcome × Session) :=
  if forestalled then return (.error ⟨none, .interrupted⟩, s) else shell.execute line s

end Shell

end Sluice
