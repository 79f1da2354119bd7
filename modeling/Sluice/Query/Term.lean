import Sluice.Query.Arithmetic

/-!
# Query terms

A query as a tree. Names are kept as written; `Query/Scope` says which names a term may use.
-/

namespace Sluice.Query

/-- The comparisons. -/
inductive OrderOp where
  | equal
  | unequal
  | less
  | atMost
  | greater
  | atLeast
deriving DecidableEq

/-- What an operator for assignment does with the old value and the value on its right. -/
inductive Change where
  /-- The new value stands on the right. -/
  | set
  /-- The right side is run on the old value. -/
  | through
  /-- An operator between the old value and the value on the right. -/
  | arith (op : ArithOp)
  /-- The value on the right, if the old one does not count as true. -/
  | default
deriving DecidableEq

inductive BinaryOp where
  | both
  | change (c : Change)
  | otherwise
  | or
  | and
  | order (op : OrderOp)
  | arith (op : ArithOp)
deriving DecidableEq

inductive Parameter where
  /-- A term that is run wherever the parameter is named. -/
  | filter (name : String)
  /-- A value, under a name with a dollar sign. -/
  | value (name : String)
deriving DecidableEq

/-- What becomes of the states that are carried through a stream. -/
inductive Fold where
  /-- Only the last one counts. -/
  | reduce
  /-- Every one is shown. -/
  | scan
deriving DecidableEq

mutual

/-- A query. -/
inductive Term where
  | identity
  | descend
  | number (q : Quantity)
  | text (format : String) (parts : List Part)
  | array (items : Option Term)
  | object (fields : List (Term × Option Term))
  | negative (t : Term)
  | pipe (left right : Term)
  | bind (source : Term) (pattern : Pattern) (body : Term)
  | binary (op : BinaryOp) (left right : Term)
  | choose (branches : List (Term × Term)) (otherwise : Option Term)
  | attempt (body : Term) (handler : Option Term)
  /-- The arguments are the first state, the next one, and perhaps what is shown of it. -/
  | fold (kind : Fold) (source : Term) (pattern : Pattern) (args : List Term)
  | label (name : String) (body : Term)
  | leave (name : String)
  | define (name : String) (params : List Parameter) (body rest : Term)
  | call (name : String) (args : List Term)
  | named (name : String)
  | walk (start : Term) (steps : List (Step × Bool))

/-- A stretch of a text: characters, or a term whose results are put in. -/
inductive Part where
  | chars (s : String)
  | insert (t : Term)

/-- A step into data; the flag beside it says that faults are passed over. -/
inductive Step where
  | each
  | index (key : Term)
  | slice (start stop : Option Term)

/-- What a value is taken apart into. -/
inductive Pattern where
  | named (name : String)
  | array (items : List Pattern)
  | object (fields : List (Term × Pattern))

end

instance : Inhabited Term := ⟨.identity⟩

namespace Pattern

mutual

def names : Pattern → List String
  | named name => [name]
  | array items => itemVariables items
  | object fields => fieldVariables fields

def itemVariables : List Pattern → List String
  | [] => []
  | p :: ps => names p ++ itemVariables ps

def fieldVariables : List (Term × Pattern) → List String
  | [] => []
  | (_, p) :: fs => names p ++ fieldVariables fs

end

end Pattern

end Sluice.Query
