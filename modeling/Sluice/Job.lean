import Sluice.Service
import Sluice.Session.Basic

/-!
# Jobs

What carrying out a command amounts to: a program that asks services, reads and changes the live
session, and may fail. A failure or an interrupt keeps the changes made before it; whoever runs the
job decides whether they stand.
-/

namespace Sluice

inductive JobRequest where
  | consult (request : ServiceRequest)
  /-- The session as it stands. -/
  | session
  /-- Puts another session into its place. -/
  | replace (session : Session)

def JobRequest.Answer : JobRequest → Type
  | consult q => q.Answer
  | session => Session
  | replace _ => Unit

/-- Services and the live session. -/
def live : Interface := ⟨JobRequest, JobRequest.Answer⟩

/-- Keeps the live session beside the services. Only a service can be interrupted, and the session
is then as the program left it. -/
def JobRequest.meet : (q : JobRequest) → Session → Act service (Option q.Answer × Session)
  | consult q, s => Act.ask (I := service) q fun answer => .done (answer, s)
  | session, s => .done (some s, s)
  | replace s, _ => .done (some (), s)

/-- Runs a program on a session that it may change. -/
def Act.onSession {α : Type} (m : Act live α) (s : Session) : Act service (Option α × Session) :=
  m.through JobRequest.meet s

/-- A program over services and the session that may fail. -/
abbrev Job := ExceptT Failure (Act live)

namespace Job

variable {α : Type}

def ask (q : ServiceRequest) : Job q.Answer :=
  ExceptT.lift (Act.perform (I := live) (.consult q))

def fail (failure : Failure) : Job α :=
  throw failure

def session : Job Session :=
  ExceptT.lift (Act.perform (I := live) .session)

/-- Puts another session into its place. -/
def replace (s : Session) : Job Unit :=
  ExceptT.lift (Act.perform (I := live) (.replace s))

/-- A service's result; its fault is a failure of the command that asked. -/
def expect (label : String) : Except ServiceFault α → Job α
  | .ok a => pure a
  | .error fault => fail (.commandFailed label (.service fault))

def now : Job String := do
  return timestamp (← ask .clock)

end Job

end Sluice
