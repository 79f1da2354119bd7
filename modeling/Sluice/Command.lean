import Sluice.Asset
import Sluice.Keyed

/-!
# Commands and the registry

The closed set of commands, with the texts that `help` shows, and the registry that says under
which names they are available.
-/

namespace Sluice

/-- What a name can be bound to. -/
inductive Command where
  | connect
  | connections
  | disconnect
  | var
  | inspect
  | session
  | asset (kind : AssetKind)
  | invoke
  | workspace
  | echo
  | format
  | help
deriving DecidableEq

namespace Command

def summary : Command → String
  | connect => "Open a connection to a blueprint-backed source and make it active"
  | connections => "List open connections"
  | disconnect => "Close a connection"
  | var => "List, read or delete session variables"
  | inspect => "Summarise a variable: type, length, keys and a preview"
  | session => "Save, load and manage persisted sessions"
  | asset .flow => "List or run workflow definitions"
  | asset .query => "List or run SQL queries against a connection"
  | asset .script => "List or run local scripts"
  | invoke => "Run a blueprint action on a connection (alias.action(...))"
  | workspace => "List, add or remove asset roots"
  | echo => "Return the argument unchanged"
  | format => "Pass piped input through so output flags can be applied to it"
  | help => "List available commands"

def usage : Command → String
  | connect => "connect <source> --as <alias>"
  | connections => "connections"
  | disconnect => "disconnect <alias>"
  | var => "var list | get <name> | rm <name> | clear"
  | inspect => "inspect <name>"
  | session => "session list | save <name> | load <name> | rm <name> [--yes] | status"
  | asset .flow => "flow list | run [name] [--name n] [--param value ...]"
  | asset .query => "query list | run [name] [--on alias] [--param value ...]"
  | asset .script => "script list | run [name] [--param value ...]"
  | invoke => "invoke <alias> <action> [value] [--param value ...]"
  | workspace => "workspace list | add <path> | remove <namespace|path>"
  | echo => "echo <value>"
  | format => "format [--output mode] [--columns a,b] [--query expr]"
  | help => "help"

/-- Whether the first bare word behind the name is a subcommand. -/
def takesSubcommand : Command → Bool
  | var | session | asset _ | workspace => true
  | _ => false

def builtin : List (String × Command) :=
  [("connect", connect), ("connections", connections), ("disconnect", disconnect), ("var", var),
    ("inspect", inspect), ("session", session), ("flow", asset .flow), ("query", asset .query),
    ("script", asset .script), ("invoke", invoke), ("workspace", workspace), ("echo", echo),
    ("format", format), ("help", help)]

end Command

/-- The names under which commands are available, sorted. -/
structure Registry where
  entries : List (String × Command)
deriving DecidableEq

namespace Registry

def empty : Registry := ⟨[]⟩

def register (r : Registry) (name : String) (command : Command) : Registry :=
  ⟨Keyed.insert Prod.fst (name, command) r.entries⟩

def disable (r : Registry) (name : String) : Registry :=
  ⟨Keyed.erase Prod.fst name r.entries⟩

def get? (r : Registry) (name : String) : Option Command :=
  (Keyed.find? Prod.fst name r.entries).map Prod.snd

def contains (r : Registry) (name : String) : Bool :=
  (r.get? name).isSome

def builtin (disabled : List String) : Registry :=
  let all := Command.builtin.foldl (fun r (name, command) => r.register name command) empty
  disabled.foldl disable all

end Registry

end Sluice
