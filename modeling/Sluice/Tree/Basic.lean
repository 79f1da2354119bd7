import Sluice.Token.Basic

/-!
# Parse trees

The shape of one line: calls and groups joined by pipes, with an optional name to which the
result is bound. The types leave no room for trees that no line has: a chain of stages associates
to the left, flags stand only where flags may stand, and a binding stands only outermost.
-/

namespace Sluice

/-- An argument as written: a string or number, or a bare word. -/
inductive Operand where
  | literal (value : Value) (span : Span)
  | word (name : String) (span : Span)
deriving DecidableEq

def Operand.span : Operand → Span
  | literal _ span | word _ span => span

/-- A flag `--name [value]`, or an argument `name=value` of an argument list. -/
structure FlagNode where
  name : String
  value : Option Operand
  span : Span
deriving DecidableEq

structure Call where
  name : String
  positional : List Operand
  flags : List FlagNode
  span : Span
deriving DecidableEq

mutual

/-- What stands between two pipes. -/
inductive Stage where
  | call (c : Call)
  /-- A chain in parentheses, with the flags behind them. -/
  | group (inner : Chain) (flags : List FlagNode) (span : Span)

/-- Stages joined by pipes, the first one innermost. -/
inductive Chain where
  | stage (s : Stage)
  | pipe (left : Chain) (right : Stage)

end

def Stage.span : Stage → Span
  | call c => c.span
  | group _ _ span => span

/-- Where a chain stands: from its first stage to its last. -/
def Chain.span : Chain → Span
  | stage s => s.span
  | pipe left right => ⟨left.span.start, right.span.stop⟩

def Chain.stages : Chain → List Stage
  | stage s => [s]
  | pipe left right => left.stages ++ [right]

mutual

def Stage.calls : Stage → List Call
  | .call c => [c]
  | .group inner _ _ => inner.calls

def Chain.calls : Chain → List Call
  | .stage s => s.calls
  | .pipe left right => left.calls ++ right.calls

end

/-- The name that a line binds, and where the name starts. -/
structure Target where
  name : String
  start : Nat
deriving DecidableEq

/-- A whole line. -/
structure Line where
  target : Option Target
  chain : Chain

def Line.span (line : Line) : Span :=
  match line.target with
  | some target => ⟨target.start, line.chain.span.stop⟩
  | none => line.chain.span

theorem Chain.stages_ne_nil (c : Chain) : c.stages ≠ [] := by
  cases c <;> simp [Chain.stages]

end Sluice
