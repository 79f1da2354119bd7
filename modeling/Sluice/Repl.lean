import Sluice.History
import Sluice.Prompt

/-!
# Conversation with the operator

Lines are executed one after the other, each reported on the terminal and recorded in the history.
An interrupt ends the line that runs, or discards the statement that is being typed, and the
conversation goes on.
-/

namespace Sluice

/-- A shell with the services that it works with, which have a state of their own. -/
structure Station (σ : Type) where
  shell : Shell
  meet : (q : ServiceRequest) → σ → Act host (Option q.Answer × σ)
  /-- The home directory for the history, if there is to be one. -/
  history : Option String

/-- What goes on from line to line. -/
structure Standing (σ : Type) where
  session : Session
  services : σ
deriving DecidableEq

namespace Station

open Host

variable {σ : Type}

def execute (station : Station σ) (line : String) (now : Standing σ) :
    Act host (Except PipelineFailure Outcome × Standing σ) := do
  match ← (station.shell.execute line now.session).through station.meet now.services with
  | (some (result, session), services) => return (result, ⟨session, services⟩)
  | (none, services) => return (.error ⟨none, .interrupted⟩, ⟨now.session, services⟩)

/-- Executes a line in a race with the next interrupt. -/
def executeOrCancel (station : Station σ) (line : String) (now : Standing σ) :
    Act host (Except PipelineFailure Outcome × Standing σ) :=
  interruptible (station.execute line now)

def report : Except PipelineFailure Outcome → Act host Unit
  | .ok .empty | .ok (.bound _) => return
  | .ok (.shown _ text warning) => do
    match warning with
    | some w => complainLine s!"warning: {w}"
    | none => pure ()
    printLine text
  | .error failure => complainLine s!"error: {failure.message}"

/-- Executes a line, shows how it went and records it; whether it went well. -/
def runLine (station : Station σ) (line : String) (now : Standing σ) :
    Act host (Bool × Standing σ) := do
  let (result, now) ← station.executeOrCancel line now
  report result
  match station.history with
  | some home => History.addOutcome home line result
  | none => pure ()
  return (result.isOk, now)

/-- The same without a record. -/
def runUnrecorded (station : Station σ) (line : String) (now : Standing σ) :
    Act host (Bool × Standing σ) :=
  { station with history := none }.runLine line now

def endsTalk (statement : String) : Bool :=
  let word := Text.trim statement
  word == "exit" || word == "quit"

/-- One turn: reads a statement, in a race with the next interrupt, and executes it. Nothing comes
after the last one. -/
def turn (station : Station σ) (limit : Nat) (now : Standing σ) :
    Act host (Option (Standing σ)) := do
  match ← interruptible (Prompt.readStatement limit).attempt with
  | none =>
    printLine ""
    return some now
  | some none => return none
  | some (some statement) =>
    if endsTalk statement then return none
    else return some (← station.runLine statement now).2

/-- The conversation, up to a number of turns. -/
def turns (station : Station σ) (limit : Nat) : Nat → Standing σ → Act host (Standing σ)
  | 0, now => return now
  | n + 1, now => do
    match ← station.turn limit now with
    | some now => station.turns limit n now
    | none => return now

/-- The conversation from its beginning to its end; `limit` bounds both its turns and the lines of
a statement. -/
def converse (station : Station σ) (limit : Nat) (now : Standing σ) : Act host (Standing σ) := do
  let now ← station.turns limit limit now
  printLine ""
  return now

end Station

end Sluice
