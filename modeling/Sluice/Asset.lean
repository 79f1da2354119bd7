/-!
# Kinds of assets

Flows, queries and scripts live in directories of their own under each workspace root. The kind
fixes the directory and the ending that is not a part of an asset's name.
-/

namespace Sluice

inductive AssetKind where
  | flow
  | query
  | script
deriving DecidableEq

namespace AssetKind

def directory : AssetKind → String
  | flow => "flows"
  | query => "queries"
  | script => "scripts"

/-- The ending that names drop; script names keep theirs. -/
def suffix? : AssetKind → Option String
  | flow => some ".flow.yaml"
  | query => some ".sql"
  | script => none

def label : AssetKind → String
  | flow => "flow"
  | query => "query"
  | script => "script"

end AssetKind

/-- An asset found under a root, or by its path. -/
structure Asset where
  space : String
  name : String
  path : String
deriving DecidableEq

end Sluice
