import Sluice.Keyed
import Sluice.Output.Render
import Sluice.Script

/-!
# Configuration

The settings of a shell, and overlays that change some of them: a single setting is replaced, a
list is extended, entries can be removed from it, and a section can be told to drop the defaults
first.
-/

namespace Sluice

structure Config where
  logLevel : String
  /-- Every question is answered with yes. -/
  assumeYes : Bool
  /-- Every line is recorded. -/
  history : Bool
  /-- The directory for sessions, records and the shell's own assets. -/
  home : String
  /-- Further directories with assets. -/
  roots : List String
  output : OutputDefaults
  interpreters : Script.Interpreters
  /-- Commands that are not available. -/
  disabled : List String
deriving DecidableEq

def Config.default : Config where
  logLevel := "info"
  assumeYes := false
  history := true
  home := "~/.cx"
  roots := []
  output := ⟨"auto", 48⟩
  interpreters := [("js", "node"), ("py", "python3"), ("rb", "ruby"), ("sh", "sh")]
  disabled := []

/-- What an overlay says about a list. -/
structure ListChange (α : Type) where
  /-- The defaults do not count. -/
  replace : Bool
  add : List α
  remove : List String
deriving DecidableEq

def ListChange.none {α : Type} : ListChange α := ⟨false, [], []⟩

/-- Appends what is not yet there, item by item. -/
def appendNew (base : List String) (add : List String) : List String :=
  add.foldl (fun base item => if base.contains item then base else base ++ [item]) base

def ListChange.apply (change : ListChange String) (base : List String) : List String :=
  if change.replace then change.add
  else appendNew (base.filter fun item => !change.remove.contains item) change.add

/-- Interpreters after a change; for one ending the change counts. -/
def ListChange.applyKeyed (change : ListChange (String × String)) (base : Script.Interpreters) :
    Script.Interpreters :=
  if change.replace then change.add
  else
    change.add.foldl (fun base entry => Keyed.insert Prod.fst entry base)
      (base.filter fun entry => !change.remove.contains entry.1)

/-- What an overlay says. -/
structure Overlay where
  logLevel : Option String
  assumeYes : Option Bool
  history : Option Bool
  home : Option String
  roots : ListChange String
  outputMode : Option String
  maxColumnWidth : Option Nat
  interpreters : ListChange (String × String)
  disabled : ListChange String
deriving DecidableEq

def Overlay.none : Overlay :=
  ⟨.none, .none, .none, .none, .none, .none, .none, .none, .none⟩

namespace Config

def overlay (c : Config) (o : Overlay) : Config where
  logLevel := o.logLevel.getD c.logLevel
  assumeYes := o.assumeYes.getD c.assumeYes
  history := o.history.getD c.history
  home := o.home.getD c.home
  roots := o.roots.apply c.roots
  output := ⟨o.outputMode.getD c.output.mode, o.maxColumnWidth.getD c.output.maxColumnWidth⟩
  interpreters := o.interpreters.applyKeyed c.interpreters
  disabled := o.disabled.apply c.disabled

/-- The level of detail of the shell's own records, in capitals; a word that is no level stands for
`INFO`. -/
def level (c : Config) : String :=
  let capitals := String.ofList (c.logLevel.toList.map Char.toUpper)
  if ["OFF", "ERROR", "WARN", "INFO", "DEBUG", "TRACE"].contains capitals then capitals else "INFO"

end Config

end Sluice
