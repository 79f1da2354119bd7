import Sluice.Act
import Sluice.Asset
import Sluice.Failure

/-!
# Services

What commands may ask of the world around the shell: a clock, connections to sources, saved
sessions, scripts, the roots under which assets are found, and the operator's consent. Commands
know nothing of how these are provided.
-/

namespace Sluice

/-- The space of the home directory's assets. -/
def systemSpace : String := "system"

/-- A directory under which assets are found, and the name that their names begin with. -/
structure Root where
  space : String
  path : String
deriving DecidableEq

/-- The home directory's root goes by its space. -/
def Root.isSystem (r : Root) : Bool :=
  r.space == systemSpace

inductive ServiceRequest where
  /-- Seconds since 1970. -/
  | clock
  /-- Whether a source can be reached. -/
  | reach (source : String)
  | runAction (source action : String) (parameters : Fields)
  | runQuery (source text : String) (parameters : Fields)
  | runFlow (path : String) (parameters : Fields) (bindings : Value)
  | runScript (path : String) (input : Option Value) (parameters : Fields)
  /-- The text of a query. -/
  | queryText (path : String)
  | saveSession (name : String) (document : Value)
  | loadSession (name : String)
  | savedSessions
  | deleteSession (name : String)
  | confirm (question : String)
  /-- A path as typed, with the home directory and the environment filled in. -/
  | expand (path : String)
  | roots
  | addRoot (path : String)
  | removeRoot (reference : String)
  | assets (kind : AssetKind)
  | asset (kind : AssetKind) (reference : String)

def ServiceRequest.Answer : ServiceRequest → Type
  | clock => Nat
  | reach _ => Except ServiceFault Unit
  | runAction .. | runQuery .. | runFlow .. | runScript .. => Except ServiceFault Value
  | queryText _ => Except ServiceFault String
  | saveSession .. => Except ServiceFault Unit
  | loadSession _ => Except ServiceFault Value
  | savedSessions => Except ServiceFault (List String)
  | deleteSession _ => Except ServiceFault Unit
  | confirm _ => Bool
  | expand _ => String
  | roots => List Root
  | addRoot _ | removeRoot _ => Except ServiceFault Root
  | assets _ => List Asset
  | asset .. => Except ServiceFault Asset

def service : Interface := ⟨ServiceRequest, ServiceRequest.Answer⟩

end Sluice
