import Sluice.Act
import Sluice.Failure

/-!
# The host

What the shell itself asks of the machine that it runs on: the clock, the environment, files,
processes, the operator's terminal, and to be told of the operator's interrupts.
-/

namespace Sluice

inductive FileKind where
  | file
  | directory
  | other
deriving DecidableEq

inductive ProcessEnd where
  | exited (status : Nat)
  | killed (signal : Nat)
deriving DecidableEq

structure Finished where
  ending : ProcessEnd
  out : List UInt8
  err : List UInt8
deriving DecidableEq

inductive HostRequest where
  /-- Seconds since 1970. -/
  | clock
  /-- The value of an environment variable. -/
  | environment (name : String)
  | readFile (path : String)
  | writeFile (path text : String)
  /-- Adds text at the end of a file, which comes into being if need be. -/
  | appendFile (path text : String)
  | removeFile (path : String)
  /-- Makes a directory and all that it lies in. -/
  | makeDirectory (path : String)
  /-- The names in a directory, in any order. -/
  | listDirectory (path : String)
  | kindOf (path : String)
  /-- The absolute location without `.` and `..`. -/
  | canonical (path : String)
  /-- Starts a program, feeds it a text, and waits for its end. -/
  | spawn (program : String) (arguments : List String) (input : String)
  | print (text : String)
  /-- Writes to the second channel of the terminal. -/
  | complain (text : String)
  /-- The operator's next line; there is none at the end of the input. -/
  | readLine
  /-- From now on the next interrupt is waited for. -/
  | listen
  /-- It is waited for no longer, whether it has come or not. -/
  | stopListening

def HostRequest.Answer : HostRequest → Type
  | clock => Nat
  | environment _ => Option String
  | readFile _ => Except FileFault String
  | writeFile .. | appendFile .. | removeFile _ | makeDirectory _ => Except FileFault Unit
  | listDirectory _ => Except FileFault (List String)
  | kindOf _ => Except FileFault FileKind
  | canonical _ => Except FileFault String
  | spawn .. => Except FileFault Finished
  | print _ | complain _ | listen | stopListening => Unit
  | readLine => Option String

/-- The answer takes its time, so that it is waited for; the clock and the terminal are there at
once. -/
def HostRequest.Waits : HostRequest → Prop
  | clock | print _ | complain _ | listen | stopListening => False
  | _ => True

instance : DecidablePred HostRequest.Waits
  | .clock | .print _ | .complain _ | .listen | .stopListening => .isFalse not_false
  | .environment _ | .readFile _ | .writeFile .. | .appendFile .. | .removeFile _
  | .makeDirectory _ | .listDirectory _ | .kindOf _ | .canonical _ | .spawn .. | .readLine =>
    .isTrue trivial

/-- The machine that the shell runs on. -/
def host : Interface := ⟨HostRequest, HostRequest.Answer⟩

namespace Host

def ask (q : HostRequest) : Act host q.Answer :=
  Act.perform (I := host) q

/-- Tells the machine something that needs no answer. -/
def tell (q : HostRequest) : Act host Unit :=
  Act.emit (I := host) q

/-- The time. Looking at the clock is no wait, so that no interrupt can end it. -/
def time : Act host Nat :=
  Act.ask (I := host) .clock fun seconds => .done (seconds.getD (0 : Nat))

/-- A program that an interrupt may end: as long as it runs, one is waited for. -/
def interruptible {α : Type} (m : Act host α) : Act host α := do
  tell .listen
  let result ← m
  tell .stopListening
  return result

def printLine (text : String) : Act host Unit :=
  tell (.print (text ++ "\n"))

/-- Writes a line to the second channel. -/
def complainLine (text : String) : Act host Unit :=
  tell (.complain (text ++ "\n"))

/-- What stands at a location, if anything does. -/
def kind? (path : String) : Act host (Option FileKind) := do
  return (← ask (.kindOf path)).toOption

end Host

end Sluice
