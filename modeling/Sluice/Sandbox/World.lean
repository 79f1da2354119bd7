import Sluice.Interrupts
import Sluice.Sandbox.Files
import Sluice.Sandbox.Sh

/-!
# A machine in memory

A host that is all data: a clock that stands still unless it is moved, an environment, files, the
lines that the operator will type, and what has been written to the two channels. The only program
on it is `sh`. Files cannot be executed themselves.
-/

namespace Sluice.Sandbox

/-- A machine. -/
structure World where
  /-- Seconds since 1970; before that it is read as zero. -/
  clock : Int
  environment : List (String × String)
  files : Files
  /-- What the operator will type. -/
  lines : List String
  out : String
  err : String

namespace World

def spawn (w : World) (program : String) (arguments : List String) (input : String) :
    Except FileFault Finished :=
  if program == "sh" || program == "/bin/sh" || program == "/usr/bin/sh" then
    match arguments.dropWhile fun a => a == "-e" || a == "-u" || a == "-eu" with
    | "-c" :: script :: rest =>
      .ok (Sh.run script (if rest.isEmpty then [program] else rest) input)
    | path :: rest =>
      match w.files.read path with
      | .ok script => .ok (Sh.run script (path :: rest) input)
      | .error _ =>
        .ok ⟨.exited 2, [], Text.encode s!"{program}: 0: cannot open {path}: No such file\n"⟩
    | [] => .ok (Sh.run input [program] "")
  else if (Text.splitOnce? '/' program).isSome then
    match w.files.find program with
    | .ok _ => .error .permissionDenied
    | .error fault => .error fault
  else .error .notFound

/-- A machine after a change of its files, if that was possible. -/
def changed (w : World) : Except FileFault Files → Except FileFault Unit × World
  | .ok files => (.ok (), { w with files := files })
  | .error fault => (.error fault, w)

def nextLine (w : World) : Option String × World :=
  match w.lines with
  | [] => (none, w)
  | line :: lines => (some line, { w with lines := lines })

def answer : (q : HostRequest) → World → q.Answer × World
  | .clock, w => (w.clock.toNat, w)
  | .environment name, w => (w.environment.lookup name, w)
  | .readFile path, w => (w.files.read path, w)
  | .writeFile path text, w => w.changed (w.files.write path text)
  | .appendFile path text, w => w.changed (w.files.append path text)
  | .removeFile path, w => w.changed (w.files.remove path)
  | .makeDirectory path, w => w.changed (w.files.makeDirectory path)
  | .listDirectory path, w => (w.files.list path, w)
  | .kindOf path, w => ((w.files.find path).map fun (_, e) => e.kind, w)
  | .canonical path, w => (w.files.canonical path, w)
  | .spawn program arguments input, w => (w.spawn program arguments input, w)
  | .print text, w => ((), { w with out := w.out ++ text })
  | .complain text, w => ((), { w with err := w.err ++ text })
  | .readLine, w => w.nextLine
  | .listen, w | .stopListening, w => ((), w)

/-- The machine as one whose operator may raise interrupts: a request that is given up leaves it as it
was. -/
def machine : Machine World := ⟨answer, fun _ w => w⟩

/-- A machine on which nothing is ever interrupted. -/
def host (q : HostRequest) (w : World) : Option q.Answer × World :=
  match answer q w with
  | (a, w) => (some a, w)

end World

/-- Runs an act on a machine. -/
def run {α : Type} (act : Act Sluice.host α) (w : World) : Option α × World :=
  act.run World.host w

/-- The lines of an input; one that ends with a line end has no further line. -/
def linesOf (input : String) : List String :=
  let lines := Text.split '\n' input
  let lines := if lines.getLast? == some "" then lines.dropLast else lines
  lines.map fun line =>
    match Text.stripTail? ['\r'] line.toList with
    | some cs => String.ofList cs
    | none => line

end Sluice.Sandbox
