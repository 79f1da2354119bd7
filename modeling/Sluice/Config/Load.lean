import Sluice.Config.Document
import Sluice.Config.Expansion
import Sluice.Location

/-!
# Loading the configuration

The overlay is a file that the operator names, or else the one in the home directory. An overlay
that cannot be read or understood is passed over as a whole with a complaint; a file that is not
there says nothing.
-/

namespace Sluice.Config

open Host

def usualOverlay : String := ".config/cx-shell/config.toml"

def overlayText? (path : Option String) : Act host (Option (String × String)) := do
  let path? ← match path with
    | some path => pure (some path)
    | none =>
      pure ((← ask (.environment "HOME")).map fun home => Location.join home usualOverlay)
  match path? with
  | none => return none
  | some path =>
    match ← ask (.readFile path) with
    | .ok text => return some (path, text)
    | .error fault =>
      if fault != .notFound || (← kind? path).isSome then
        complainLine s!"cx: cannot read {path}: {fault.message}"
      return none

def load (path : Option String) : Act host Config := do
  match ← overlayText? path with
  | none => return default
  | some (path, text) =>
    match Overlay.read? text with
    | some o => return default.overlay o
    | none =>
      complainLine s!"cx: config parse error in {path}: no settings can be read from it"
      return default

def homePath (c : Config) : Act host String :=
  Expansion.expand c.home

def rootPaths (c : Config) : Act host (List String) :=
  c.roots.mapM Expansion.expand

end Sluice.Config
