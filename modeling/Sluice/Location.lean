import Sluice.Text.Search

/-!
# Locations of files

The text of a path in the file system, taken apart without looking at any file. Empty parts and
parts `.` say nothing, save for a `.` at the very start.
-/

namespace Sluice.Location

def isAbsolute (path : String) : Bool :=
  path.toList.head? == some '/'

/-- The parts that say something; `/` stands first in an absolute location. -/
def parts (path : String) : List String :=
  let names := (Text.split '/' path).filter fun name => !name.isEmpty
  let named := names.filter fun name => name != "."
  if isAbsolute path then "/" :: named
  else if names.head? == some "." then "." :: named
  else named

/-- Whether two texts name the same location. -/
def same (a b : String) : Bool :=
  parts a == parts b

def name? (path : String) : Option String :=
  match (parts path).getLast? with
  | some "/" | some "." | some ".." | none => none
  | some name => some name

/-- A file name cut at its last point: what stands before it and what stands behind it. A point at
the start does not count. -/
def cutName (name : String) : String × Option String :=
  let cs := name.toList
  let ending := (cs.reverse.takeWhile (· != '.')).reverse
  let stem := (cs.reverse.dropWhile (· != '.')).drop 1
  if stem.isEmpty then (name, none)
  else (String.ofList stem.reverse, some (String.ofList ending))

def stem? (path : String) : Option String :=
  (name? path).map fun name => (cutName name).1

def ending? (path : String) : Option String :=
  (name? path).bind fun name => (cutName name).2

/-- A location below a directory; one that is absolute stays as it is. -/
def join (directory name : String) : String :=
  if isAbsolute name then name
  else if directory.isEmpty || directory.toList.getLast? == some '/' then directory ++ name
  else s!"{directory}/{name}"

example : parts "/a/./b//" = ["/", "a", "b"] := by decide +kernel
example : cutName ".profile" = (".profile", none) := by decide +kernel
example : cutName "a.tar.gz" = ("a.tar", some "gz") := by decide +kernel

end Sluice.Location
