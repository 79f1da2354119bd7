import Sluice.Host
import Sluice.Location

/-!
# Files in memory

A file system as a list of absolute locations, each a directory or a file with its content, and a
working directory. Locations are walked part by part, as an operating system does: each part but
the last has to be a directory, also in front of `.` and `..`.
-/

namespace Sluice.Sandbox

inductive Entry where
  | directory
  | text (content : String)
  /-- Content that is no text. -/
  | binary (content : List UInt8)
deriving DecidableEq

def Entry.kind : Entry → FileKind
  | directory => .directory
  | _ => .file

/-- An absolute location, from the top. -/
abbrev Place := List String

structure Files where
  entries : List (Place × Entry)
  here : Place
deriving DecidableEq

namespace Files

/-- What stands at a place. The top is always a directory. -/
def entry? (fs : Files) (spot : Place) : Option Entry :=
  if spot.isEmpty then some .directory else fs.entries.lookup spot

def put (fs : Files) (spot : Place) (e : Entry) : Files :=
  { fs with entries := (spot, e) :: fs.entries.filter fun x => x.1 != spot }

def erase (fs : Files) (spot : Place) : Files :=
  { fs with entries := fs.entries.filter fun x => x.1 != spot }

/-- The longest name, in bytes. -/
def nameLimit : Nat := 255

/-- The place to which parts lead from a directory; the last part need not be there. -/
def walk (fs : Files) : List String → Place → Except FileFault Place
  | [], spot => .ok spot
  | part :: parts, spot =>
    match fs.entry? spot with
    | none => .error .notFound
    | some .directory =>
      if part == "." then fs.walk parts spot
      else if part == ".." then fs.walk parts spot.dropLast
      else if nameLimit < part.utf8ByteSize then .error .nameTooLong
      else fs.walk parts (spot ++ [part])
    | some _ => .error .notDirectory

/-- The parts of a path. A slash at the end asks for a directory. -/
def partsOf (path : String) : List String :=
  let parts := (Text.split '/' path).filter fun part => !part.isEmpty
  if path.toList.getLast? == some '/' then parts ++ ["."] else parts

/-- The directory from which a path is walked. -/
def startOf (fs : Files) (path : String) : Place :=
  if Location.isAbsolute path then [] else fs.here

def place (fs : Files) (path : String) : Except FileFault Place :=
  if path.isEmpty then .error .notFound else fs.walk (partsOf path) (fs.startOf path)

def find (fs : Files) (path : String) : Except FileFault (Place × Entry) :=
  match fs.place path with
  | .error e => .error e
  | .ok spot =>
    match fs.entry? spot with
    | none => .error .notFound
    | some e => .ok (spot, e)

def read (fs : Files) (path : String) : Except FileFault String :=
  match fs.find path with
  | .error e => .error e
  | .ok (_, .directory) => .error .isDirectory
  | .ok (_, .text content) => .ok content
  | .ok (_, .binary _) => .error .notText

def change (fs : Files) (path : String) (content : Option Entry → Entry) :
    Except FileFault Files :=
  match fs.place path with
  | .error e => .error e
  | .ok spot =>
    match fs.entry? spot with
    | some .directory => .error .isDirectory
    | before => .ok (fs.put spot (content before))

def write (fs : Files) (path text : String) : Except FileFault Files :=
  fs.change path fun _ => .text text

/-- Writes at the end of a file. -/
def append (fs : Files) (path text : String) : Except FileFault Files :=
  fs.change path fun
    | some (.text before) => .text (before ++ text)
    | some (.binary before) => .binary (before ++ text.toUTF8.toList)
    | _ => .text text

def remove (fs : Files) (path : String) : Except FileFault Files :=
  match fs.find path with
  | .error e => .error e
  | .ok (_, .directory) => .error .isDirectory
  | .ok (spot, _) => .ok (fs.erase spot)

/-- Makes the directories on a way. -/
def makeAll (fs : Files) : List String → Place → Except FileFault Files
  | [], spot =>
    match fs.entry? spot with
    | some .directory => .ok fs
    | some _ => .error .alreadyExists
    | none => .ok (fs.put spot .directory)
  | part :: parts, spot =>
    match fs.entry? spot with
    | some (.text _) | some (.binary _) => .error .notDirectory
    | found =>
      let fs := if found.isNone then fs.put spot .directory else fs
      if part == "." then fs.makeAll parts spot
      else if part == ".." then fs.makeAll parts spot.dropLast
      else if nameLimit < part.utf8ByteSize then .error .nameTooLong
      else fs.makeAll parts (spot ++ [part])

def makeDirectory (fs : Files) (path : String) : Except FileFault Files :=
  if path.isEmpty then .ok fs else fs.makeAll (partsOf path) (fs.startOf path)

def list (fs : Files) (path : String) : Except FileFault (List String) :=
  match fs.find path with
  | .error e => .error e
  | .ok (spot, .directory) =>
    .ok (fs.entries.filterMap fun (place, _) =>
      match place.getLast? with
      | some name => if place.dropLast == spot then some name else none
      | none => none)
  | .ok _ => .error .notDirectory

def display (spot : Place) : String :=
  "/" ++ String.intercalate "/" spot

/-- The location of what a path leads to, without `.` and `..`. -/
def canonical (fs : Files) (path : String) : Except FileFault String :=
  (fs.find path).map fun (spot, _) => display spot

/-- Puts a file or directory at a path, with the directories that it lies in. -/
def plant (fs : Files) (path : String) (e : Entry) : Files :=
  let parts := partsOf path
  let up := fs.startOf path ++ parts.dropLast
  let made := (fs.makeAll parts.dropLast (fs.startOf path)).toOption.getD fs
  match parts.getLast? with
  | some name => made.put (up ++ [name]) e
  | none => made

end Files

end Sluice.Sandbox
