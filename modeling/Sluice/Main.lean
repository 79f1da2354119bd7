import Sluice.CommandLine
import Std.Time.DateTime.Timestamp

/-!
# The program

Requests are answered by the machine at hand. It starts no programs, so that scripts cannot be run
from here, and an interrupt ends the program itself; everything else is as the command line describes
it.
-/

namespace Sluice

def faultOf : IO.Error → FileFault
  | .noFileOrDirectory .. => .notFound
  | .alreadyExists .. => .alreadyExists
  | .inappropriateType _ 20 _ => .notDirectory
  | .inappropriateType .. => .isDirectory
  | .invalidArgument _ 36 _ => .nameTooLong
  | _ => .permissionDenied

/-- The outcome of something that can fail. -/
def guarded {α : Type} (act : IO α) : IO (Except FileFault α) := do
  match ← act.toBaseIO with
  | .ok a => return .ok a
  | .error e => return .error (faultOf e)

def withoutEnd (line : String) : String :=
  let cs := line.toList
  let cs := (Text.stripTail? ['\n'] cs).getD cs
  String.ofList ((Text.stripTail? ['\r'] cs).getD cs)

def answer : (q : HostRequest) → IO q.Answer
  | .clock => do return (← Std.Time.Timestamp.now).toSecondsSinceUnixEpoch.val.toNat
  | .environment name => IO.getEnv name
  | .readFile path => do
    match ← guarded (IO.FS.readBinFile path) with
    | .error fault => return .error fault
    | .ok bytes =>
      return match Text.decode? bytes.toList with
        | some text => .ok text
        | none => .error .notText
  | .writeFile path text => guarded (IO.FS.writeFile path text)
  | .appendFile path text =>
    guarded (IO.FS.withFile path .append fun file => file.putStr text)
  | .removeFile path => guarded (IO.FS.removeFile path)
  | .makeDirectory path => guarded (IO.FS.createDirAll path)
  | .listDirectory path => guarded do
    return (← (← IO.FS.realPath path).readDir).toList.map fun entry => entry.fileName
  | .kindOf path => guarded do
    return match (← (← IO.FS.realPath path).metadata).type with
      | .file => FileKind.file
      | .dir => FileKind.directory
      | _ => FileKind.other
  | .canonical path => guarded do return (← IO.FS.realPath path).toString
  | .spawn .. => return .error .permissionDenied
  | .print text => do
    (← IO.getStdout).putStr text
    (← IO.getStdout).flush
  | .complain text => do (← IO.getStderr).putStr text
  | .readLine => do
    let line ← (← IO.getStdin).getLine
    return if line.isEmpty then none else some (withoutEnd line)
  | .listen | .stopListening => return

def carryOut {α : Type} : Act host α → IO (Option α)
  | .done a => return some a
  | .stop => return none
  | .ask q next => do carryOut (next (some (← answer q)))

/-- More lines than an operator will type. -/
def lineLimit : Nat := 1000000000

end Sluice

/-- Runs the command line and ends with its status. -/
def main (arguments : List String) : IO UInt32 := do
  let status ← Sluice.carryOut (Sluice.CommandLine.start arguments Sluice.lineLimit)
  return (status.getD 1).toUInt32
