import Sluice.Value.Basic
import Sluice.Asset

/-!
# Orders

An order is a command together with arguments that have been found to be in order. It can be
carried out without looking at arguments again.
-/

namespace Sluice

/-- A command with all that it needs to know. -/
inductive Order where
  | connect (source name : String)
  | connections
  | disconnect (name : String)
  | listVariables
  | getVariable (reference : String)
  | removeVariable (name : String)
  | clearVariables
  | inspect (reference : String)
  | listSessions
  | saveSession (name : String)
  | loadSession (name : String)
  /-- Asks for consent unless the operator is sure. -/
  | deleteSession (name : String) (sure : Bool)
  | sessionStatus
  | listAssets (kind : AssetKind)
  | runFlow (reference : String) (parameters : Fields)
  /-- Runs on the named connection or else on the active one. -/
  | runQuery (reference : String) (on : Option String) (parameters : Fields)
  | runScript (reference : String) (parameters : Fields)
  | invoke (name action : String) (value : Option Value) (parameters : Fields)
  | listRoots
  | addRoot (path : String)
  | removeRoot (reference : String)
  | echo (value : Value)
  | format
  | help
deriving DecidableEq

end Sluice
