import Sluice.Calendar
import Sluice.Keyed
import Sluice.Value.Basic

/-!
# Sessions

What one shell process remembers: named variables, named connections, and which connection is
active. Variables are kept under their names and connections under their aliases, in the order of
these. Each of them records its own name and when it was made.
-/

namespace Sluice

/-- A named value and the input that produced it. -/
structure Variable where
  name : String
  value : Value
  createdAt : String
  source : String
deriving DecidableEq

/-- A named connection to a source. -/
structure Connection where
  name : String
  source : String
  createdAt : String
deriving DecidableEq

/-- The variables of a running shell by their names, and its connections by their aliases. -/
structure Session where
  byName : List (String × Variable)
  byAlias : List (String × Connection)
  active : Option String
deriving DecidableEq

namespace Session

def empty : Session := ⟨[], [], none⟩

/-! ## Variables -/

/-- All variables, in the order of their names. -/
def bindings (s : Session) : List Variable :=
  s.byName.map Prod.snd

def entry? (s : Session) (name : String) : Option Variable :=
  Keyed.value? name s.byName

def value? (s : Session) (name : String) : Option Value :=
  (s.entry? name).map Variable.value

def setVariable (s : Session) (now : String) (name : String) (value : Value) (source : String) :
    Session :=
  { s with byName := Keyed.insert Prod.fst (name, ⟨name, value, now, source⟩) s.byName }

def removeVariable (s : Session) (name : String) : Session :=
  { s with byName := Keyed.erase Prod.fst name s.byName }

def clearVariables (s : Session) : Session :=
  { s with byName := [] }

def variableMap (s : Session) : Value :=
  .map (s.bindings.map fun v => (v.name, v.value))

/-! ## Connections -/

/-- All connections, in the order of their aliases. -/
def connections (s : Session) : List Connection :=
  s.byAlias.map Prod.snd

def connection? (s : Session) (name : String) : Option Connection :=
  Keyed.value? name s.byAlias

def activeConnection? (s : Session) : Option Connection :=
  s.active.bind s.connection?

/-- Stores a connection and makes it the active one. -/
def addConnection (s : Session) (now : String) (name source : String) : Session :=
  { s with
    byAlias := Keyed.insert Prod.fst (name, ⟨name, source, now⟩) s.byAlias
    active := some name }

/-- Drops a connection; if it was the active one, none is. -/
def removeConnection (s : Session) (name : String) : Session :=
  match s.connection? name with
  | none => s
  | some _ =>
    { s with
      byAlias := Keyed.erase Prod.fst name s.byAlias
      active := if s.active = some name then none else s.active }

end Session

end Sluice
