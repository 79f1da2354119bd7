import Sluice.Host
import Sluice.Location
import Sluice.Text.Blank
import Sluice.Value.Writer

/-!
# The store of saved sessions

Each saved session is a file of indented JSON in one directory, named after the session. Names are
identifiers, so that a file never lies outside the directory.
-/

namespace Sluice

/-- The directory that saved sessions are kept in. -/
structure Store where
  directory : String

namespace Store

open Host

def file (store : Store) (name : String) : Except ServiceFault String :=
  if Text.isIdentifier name then .ok (Location.join store.directory s!"{name}.json")
  else .error (.failed s!"invalid session name '{name}' (letters, digits, '_' and '-' only)")

def fault (name : String) : FileFault → ServiceFault
  | .notFound => .missing s!"session '{name}'"
  | other => .file other

def save (store : Store) (name : String) (document : Value) :
    Act host (Except ServiceFault Unit) := do
  match store.file name with
  | .error e => return .error e
  | .ok path =>
    match ← ask (.makeDirectory store.directory) with
    | .error e => return .error (.file e)
    | .ok () => return (← ask (.writeFile path document.pretty)).mapError .file

def load (store : Store) (name : String) : Act host (Except ServiceFault Value) := do
  match store.file name with
  | .error e => return .error e
  | .ok path =>
    match ← ask (.readFile path) with
    | .error e => return .error (fault name e)
    | .ok text => return (Value.read text).mapError .badJson

/-- The name of the session in a file, if it is one. -/
def nameOf? (file : String) : Option String :=
  if Location.ending? file == some "json" then Location.stem? file else none

/-- The names of all saved sessions, in order. A directory that is not there holds none. -/
def list (store : Store) : Act host (Except ServiceFault (List String)) := do
  match ← ask (.listDirectory store.directory) with
  | .error .notFound => return .ok []
  | .error e => return .error (.file e)
  | .ok files => return .ok ((files.filterMap nameOf?).mergeSort fun a b => a ≤ b)

def delete (store : Store) (name : String) : Act host (Except ServiceFault Unit) := do
  match store.file name with
  | .error e => return .error e
  | .ok path => return (← ask (.removeFile path)).mapError (fault name)

end Store

end Sluice
