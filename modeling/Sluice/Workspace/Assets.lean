import Sluice.Host
import Sluice.Workspace.Roots

/-!
# Assets of the workspace

The assets of a kind are the files in the kind's directory under each root. They are listed root by
root and by name, and found by name, by space and name, or by location.
-/

namespace Sluice

/-- The name that a file has as an asset, if its name has the ending of the kind. -/
def AssetKind.nameOf? (kind : AssetKind) (file : String) : Option String :=
  match kind.suffix? with
  | some suffix => (Text.stripTail? suffix.toList file.toList).map String.ofList
  | none => some file

/-- The asset for a file in the kind's directory; hidden ones are left out. -/
def Root.asset? (r : Root) (kind : AssetKind) (directory file : String) : Option Asset :=
  match kind.nameOf? file with
  | none => none
  | some name =>
    if name.toList.head? == some '.' then none
    else some ⟨r.space, name, Location.join directory file⟩

/-- Whether an asset goes by a name: its own, or its file's without the ending. -/
def Asset.goesBy (name : String) (a : Asset) : Bool :=
  a.name == name || Location.stem? a.path == some name

namespace Workspace

open Host

def filesAmong (directory : String) : List String → Act host (List String)
  | [] => return []
  | name :: names => do
    let isFile := (← kind? (Location.join directory name)) == some .file
    let rest ← filesAmong directory names
    return if isFile then name :: rest else rest

def assetsUnder (kind : AssetKind) (root : Root) : Act host (List Asset) := do
  let directory := Location.join root.path kind.directory
  match ← ask (.listDirectory directory) with
  | .error _ => return []
  | .ok names =>
    let files ← filesAmong directory names
    return (files.filterMap (root.asset? kind directory)).mergeSort fun a b => a.name ≤ b.name

def assets (kind : AssetKind) : List Root → Act host (List Asset)
  | [] => return []
  | root :: roots => do
    let here ← assetsUnder kind root
    return here ++ (← assets kind roots)

/-- The first asset that goes by a name, in one space or in all. -/
def search (kind : AssetKind) (space : Option String) (name : String) :
    List Root → Act host (Option Asset)
  | [] => return none
  | root :: roots => do
    if space.any (· != root.space) then search kind space name roots
    else
      match (← assetsUnder kind root).find? (Asset.goesBy name) with
      | some asset => return asset
      | none => search kind space name roots

/-- References that are locations and not names. -/
def isExplicit (reference : String) : Bool :=
  ["/", "./", "../"].any fun lead => lead.toList.isPrefixOf reference.toList

/-- The asset that a reference leads to. -/
def find (kind : AssetKind) (roots : List Root) (reference : String) :
    Act host (Except ServiceFault Asset) := do
  let missing : Except ServiceFault Asset := .error (.missing s!"{kind.label} '{reference}'")
  if isExplicit reference then
    match ← kind? reference with
    | some .file =>
      let name := ((Location.name? reference).bind kind.nameOf?).getD reference
      return .ok ⟨"", name, reference⟩
    | _ => return missing
  else
    let (space, name) := match Text.splitOnce? '/' reference with
      | some (space, name) => (some space, name)
      | none => (none, reference)
    match ← search kind space name roots with
    | some asset => return .ok asset
    | none => return missing

def addRoot (path : String) (roots : List Root) :
    Act host (Except ServiceFault (Root × List Root)) := do
  match ← kind? path with
  | none => return .error (.missing s!"directory '{path}'")
  | some .directory =>
    match ← ask (.canonical path) with
    | .error fault => return .error (.file fault)
    | .ok canonical => return add roots canonical
  | some _ => return .error (.failed s!"'{path}' is not a directory")

/-- Removes a root by its name or its location. -/
def removeRoot (reference : String) (roots : List Root) :
    Act host (Except ServiceFault (Root × List Root)) := do
  let canonical ← ask (.canonical reference)
  return remove roots reference canonical.toOption

end Workspace

end Sluice
