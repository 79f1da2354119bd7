import Sluice.Tree.Basic

/-!
# Trees as nodes

The parts of a line as the nodes of one tree, of whatever kind they are. The type is wider than the
trees of lines: here a flag may hold a group, and a binding may stand within a call. `Line.node` says
which trees lines are.

The children of a node come in rows, each of which the text holds one behind the other: operands and
flags of a call are two rows, since they may alternate.
-/

namespace Sluice

/-- A node of a tree. -/
inductive Node where
  | literal (value : Value) (span : Span)
  | word (name : String) (span : Span)
  | flag (name : String) (value : Option Node) (span : Span)
  | call (name : String) (positional flags : List Node) (span : Span)
  | pipe (left right : Node)
  | group (inner : Node) (flags : List Node) (span : Span)
  | binding (target : String) (expr : Node) (span : Span)

namespace Node

def span : Node → Span
  | literal _ span | word _ span | flag _ _ span | call _ _ _ span | group _ _ span
  | binding _ _ span => span
  | pipe left right => ⟨left.span.start, right.span.stop⟩

/-- The children of a node, row by row. -/
def rows : Node → List (List Node)
  | literal _ _ | word _ _ => []
  | flag _ value _ => [value.toList]
  | call _ positional flags _ => [positional, flags]
  | pipe left right => [[left, right]]
  | group inner flags _ => [inner :: flags]
  | binding _ expr _ => [[expr]]

/-- The nodes of a tree: its root, and with every node the children. -/
inductive Has (tree : Node) : Node → Prop where
  | root : Has tree tree
  | child {n m : Node} {row : List Node} : Has tree n → row ∈ n.rows → m ∈ row → Has tree m

end Node

/-! ## The nodes of lines -/

def Operand.node : Operand → Node
  | literal value span => .literal value span
  | word name span => .word name span

def FlagNode.node (f : FlagNode) : Node :=
  .flag f.name (f.value.map Operand.node) f.span

def Call.node (c : Call) : Node :=
  .call c.name (c.positional.map Operand.node) (c.flags.map FlagNode.node) c.span

mutual

def Stage.node : Stage → Node
  | .call c => c.node
  | .group inner flags span => .group inner.node (flags.map FlagNode.node) span

def Chain.node : Chain → Node
  | .stage s => s.node
  | .pipe left right => .pipe left.node right.node

end

def Line.node (line : Line) : Node :=
  match line.target with
  | some target => .binding target.name line.chain.node line.span
  | none => line.chain.node

@[simp] theorem Operand.span_node (o : Operand) : o.node.span = o.span := by
  cases o <;> rfl

@[simp] theorem Stage.span_node (s : Stage) : s.node.span = s.span := by
  cases s <;> rfl

@[simp] theorem Chain.span_node : ∀ c : Chain, c.node.span = c.span
  | .stage s => s.span_node
  | .pipe left right => by
    change Span.mk left.node.span.start right.node.span.stop = _
    rw [Chain.span_node left, right.span_node]
    rfl

@[simp] theorem Line.span_node (line : Line) : line.node.span = line.span := by
  obtain ⟨target, chain⟩ := line
  cases target with
  | some target => rfl
  | none => exact chain.span_node

end Sluice
