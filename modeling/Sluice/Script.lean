import Sluice.Host
import Sluice.Keyed
import Sluice.Location
import Sluice.Text.Utf8
import Sluice.Text.Words
import Sluice.Value.Writer

/-!
# Running scripts

A script runs under the interpreter for its file's ending, or on its own where there is none. It
gets its parameters as one argument of JSON and another command's result as JSON on its input, and
what it prints is its result: JSON if it is JSON, otherwise the text itself.
-/

namespace Sluice.Script

open Host

/-- Command lines of interpreters, each under the ending of the files that it runs. -/
abbrev Interpreters := List (String × String)

/-- The program for a script and the arguments before the script's own. -/
def commandLine (interpreters : Interpreters) (path : String) :
    Except ServiceFault (String × List String) :=
  let ending := (Location.ending? path).getD ""
  match Keyed.find? Prod.fst ending interpreters with
  | none => .ok (path, [])
  | some (_, line) =>
    match Text.words? line with
    | none => .error (.failed s!"cannot parse interpreter for .{ending}: {line}")
    | some [] => .ok (path, [])
    | some (program :: arguments) => .ok (program, arguments ++ [path])

def result (out : String) : Value :=
  let text := Text.trim out
  if text.isEmpty then .null else (Value.read? text).getD (.str text)

def signalName? (signal : Nat) : Option String :=
  ["SIGHUP", "SIGINT", "SIGQUIT", "SIGILL", "SIGTRAP", "SIGABRT", "SIGBUS", "SIGFPE", "SIGKILL",
    "SIGUSR1", "SIGSEGV", "SIGUSR2", "SIGPIPE", "SIGALRM", "SIGTERM", "SIGSTKFLT", "SIGCHLD",
    "SIGCONT", "SIGSTOP", "SIGTSTP", "SIGTTIN", "SIGTTOU", "SIGURG", "SIGXCPU", "SIGXFSZ",
    "SIGVTALRM", "SIGPROF", "SIGWINCH", "SIGIO", "SIGPWR", "SIGSYS"][signal - 1]?

/-- How a process ended, in words; nothing if it ended well. -/
def trouble? : ProcessEnd → Option String
  | .exited 0 => none
  | .exited status => some s!"exit status: {status}"
  | .killed signal =>
    match signalName? signal with
    | some name => some s!"signal: {signal} ({name})"
    | none => some s!"signal: {signal}"

def run (interpreters : Interpreters) (path : String) (input : Option Value)
    (parameters : Fields) : Act host (Except ServiceFault Value) := do
  match commandLine interpreters path with
  | .error fault => return .error fault
  | .ok (program, arguments) =>
    let fed := (input.map Value.compact).getD ""
    match ← ask (.spawn program (arguments ++ [(Value.map parameters).compact]) fed) with
    | .error fault => return .error (.file fault)
    | .ok finished =>
      match trouble? finished.ending with
      | none => return .ok (result (Text.decodeLossy finished.out))
      | some ending =>
        let complaint := Text.trim (Text.decodeLossy finished.err)
        return .error (.failed s!"{path} exited with {ending}: {complaint}")

end Sluice.Script
