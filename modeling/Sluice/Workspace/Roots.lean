import Sluice.Location
import Sluice.Service

/-!
# Roots of the workspace

The directories under which assets are found, in the order in which they are searched. The home
directory comes first and stays; other roots are named after their directories and can be added
and removed while the shell runs.
-/

namespace Sluice

/-- The root at a location, named after its directory. -/
def Root.at (path : String) : Root :=
  ⟨(Location.name? path).getD path, path⟩

namespace Workspace

def initial (home : String) (extra : List String) : List Root :=
  ⟨systemSpace, home⟩ :: extra.map Root.at

/-- Adds the root at a canonical location. Neither its location nor its name may be in use. -/
def add (roots : List Root) (path : String) : Except ServiceFault (Root × List Root) :=
  let root := Root.at path
  match roots.find? fun r => Location.same r.path root.path || r.space == root.space with
  | some taken => .error (.failed s!"'{taken.path}' is already registered as '{taken.space}'")
  | none => .ok (root, roots ++ [root])

/-- Whether a root goes by a reference: its name, its location, or the canonical location that the
reference leads to. -/
def goesBy (reference : String) (canonical : Option String) (r : Root) : Bool :=
  r.space == reference || Location.same r.path reference ||
    canonical.any fun path => Location.same path r.path

/-- Removes the first root that goes by a reference; the home directory's root stays. -/
def remove (roots : List Root) (reference : String) (canonical : Option String) :
    Except ServiceFault (Root × List Root) :=
  match roots.find? (goesBy reference canonical) with
  | none => .error (.missing s!"workspace root '{reference}'")
  | some root =>
    if root.isSystem then .error (.failed "the system root cannot be removed")
    else .ok (root, roots.eraseP (goesBy reference canonical))

end Workspace

end Sluice
