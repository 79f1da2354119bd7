import Sluice.Query.Native
import Sluice.Query.Prelude

/-!
# Names in scope

Before a query is run, every variable, function, label and format in it must be known. A function
is known by its name and its number of arguments.
-/

namespace Sluice.Query

/-- A name that a term may use. -/
inductive Known where
  | variable (name : String)
  | function (name : String) (arity : Nat)
  | label (name : String)
deriving DecidableEq

/-- The functions whose arguments are run as terms. -/
def controls : List (String × Nat) :=
  [("empty", 0), ("error", 0), ("path", 1), ("last", 1)]

/-- What the parameters of a definition make known in its body. -/
def Parameter.known : Parameter → List Known
  | filter name => [.function name 0]
  | value name => [.variable name]

def builtins : List Known :=
  controls.map (fun c => .function c.1 c.2) ++ natives.map (fun n => .function n.1 n.2.1) ++
    prelude.map fun d => .function d.name d.params.length

mutual

def Term.closed (known : List Known) : Term → Bool
  | .identity | .descend | .number _ | .array none => true
  | .text format parts =>
    (format.isEmpty || Native.formats.contains format) && closedParts known parts
  | .array (some t) => t.closed known
  | .object fields => closedFields known fields
  | .negative t => t.closed known
  | .pipe l r => l.closed known && r.closed known
  | .bind source pattern body =>
    source.closed known && pattern.closed known &&
      body.closed (pattern.names.map Known.variable ++ known)
  | .binary _ l r => l.closed known && r.closed known
  | .choose branches otherwise => closedBranches known branches && closedOption known otherwise
  | .attempt body handler => body.closed known && closedOption known handler
  | .fold kind source pattern args =>
    source.closed known && pattern.closed known &&
      closedFold kind known (pattern.names.map Known.variable ++ known) args
  | .label name body => body.closed (.label name :: known)
  | .leave name => known.contains (.label name)
  | .define name params body rest =>
    body.closed (params.flatMap Parameter.known ++ .function name params.length :: known) &&
      rest.closed (.function name params.length :: known)
  | .call name args => known.contains (.function name args.length) && closedList known args
  | .named name => known.contains (.variable name)
  | .walk start steps => start.closed known && closedSteps known steps

def closedList (known : List Known) : List Term → Bool
  | [] => true
  | t :: ts => t.closed known && closedList known ts

/-- Whether there are as many arguments as a fold takes, and they use known names only; the first
one does not see the variables. -/
def closedFold (kind : Fold) (outer inner : List Known) : List Term → Bool
  | [start, update] => start.closed outer && update.closed inner
  | [start, update, shown] =>
    kind == .scan && start.closed outer && update.closed inner && shown.closed inner
  | _ => false

def closedOption (known : List Known) : Option Term → Bool
  | none => true
  | some t => t.closed known

def closedParts (known : List Known) : List Part → Bool
  | [] => true
  | .chars _ :: ps => closedParts known ps
  | .insert t :: ps => t.closed known && closedParts known ps

def closedFields (known : List Known) : List (Term × Option Term) → Bool
  | [] => true
  | (k, v) :: fs => k.closed known && closedOption known v && closedFields known fs

def closedBranches (known : List Known) : List (Term × Term) → Bool
  | [] => true
  | (c, b) :: bs => c.closed known && b.closed known && closedBranches known bs

def closedSteps (known : List Known) : List (Step × Bool) → Bool
  | [] => true
  | (.each, _) :: ss => closedSteps known ss
  | (.index t, _) :: ss => t.closed known && closedSteps known ss
  | (.slice start stop, _) :: ss =>
    closedOption known start && closedOption known stop && closedSteps known ss

def Pattern.closed (known : List Known) : Pattern → Bool
  | .named _ => true
  | .array items => closedPatterns known items
  | .object fields => closedKeys known fields

def closedPatterns (known : List Known) : List Pattern → Bool
  | [] => true
  | p :: ps => p.closed known && closedPatterns known ps

def closedKeys (known : List Known) : List (Term × Pattern) → Bool
  | [] => true
  | (t, p) :: fs => t.closed known && p.closed known && closedKeys known fs

end

end Sluice.Query
