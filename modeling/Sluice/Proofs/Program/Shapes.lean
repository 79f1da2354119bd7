import Sluice.Program.Build
import Sluice.Proofs.Tree.Nodes
import Sluice.Proofs.Tree.Positions

/-!
# Building from nodes

A builder that takes any tree of nodes has to say what to do with nodes where they do not belong: a
binding between pipes, a group among flags, a call as a value. Here it stops there (`Fallback`), or
where the building fails. On the trees of lines it never falls back and comes to the same as the
building of lines does (`Line.build_node`).
-/

namespace Sluice

/-- A node that stands where the builder has no use for its kind. -/
inductive Fallback where
  /-- No command and no group; the text would be refused at this byte. -/
  | stage (start : Nat)
  | flag (n : Node)
  | value (n : Node)

namespace Node

/-- What builds from nodes comes to. -/
abbrev Built := Except (Failure ⊕ Fallback)

def value : Node → Built Value
  | literal value _ => .ok value
  | word name span => .ok (Operand.word name span).value
  | n => .error (.inr (.value n))

def flagParts : Node → Built (String × Option Value)
  | flag name value _ =>
    match value with
    | some n => n.value.map fun v => (name, some v)
    | none => .ok (name, none)
  | n => .error (.inr (.flag n))

def splitFlags : List Node → Directives → Fields → Built (Directives × Fields)
  | [], d, fields => .ok (d, fields)
  | n :: ns, d, fields => do
    let (name, value) ← n.flagParts
    match d.set? name (value.map Value.toText) with
    | some d => splitFlags ns d fields
    | none => splitFlags ns d (fields.put name (value.getD (.bool true)))

/-- The flags behind a group, which have to be directives. -/
def groupDirectives : List Node → Directives → Built Directives
  | [], d => .ok d
  | n :: ns, d => do
    let (name, value) ← n.flagParts
    match d.set? name (value.map Value.toText) with
    | some d => groupDirectives ns d
    | none => .error (.inl (.invalidArguments "( )" (.notDirective name)))

def splitSubcommand (takes : Bool) : List Node → Option String × List Node
  | word sub span :: rest => if takes then (some sub, rest) else (none, word sub span :: rest)
  | nodes => (none, nodes)

def values : List Node → Built (List Value)
  | [] => .ok []
  | n :: ns => do
    let v ← n.value
    let vs ← values ns
    .ok (v :: vs)

def intent (registry : Registry) (piped : Bool) (name : String) (positional flags : List Node)
    (span : Span) : Built (Intent × Directives) := do
  let (directives, fields) ← splitFlags flags .none []
  let reading ← (Reading.ofName registry name (positional.isEmpty && fields.isEmpty)).mapError .inl
  let takes := ((registry.get? reading.command).map Command.takesSubcommand).getD false
  let (sub, operands) := splitSubcommand (takes && reading.subcommand.isNone) positional
  let vs ← values operands
  let intent := {
    name := reading.command
    subcommand := reading.subcommand.or sub
    positional := reading.supplied ++ vs
    flags := fields
    piped := piped
    span := span }
  .ok (intent, directives)

/-- The nodes between the pipes of the left spine, in order. -/
def flatten : Node → List Node
  | pipe left right => left.flatten ++ [right]
  | n => [n]

/-- How many commands, groups and nodes without use a tree has between its pipes and within its
groups. -/
def size : Node → Nat
  | pipe left right => left.size + right.size
  | group inner _ _ => inner.size + 1
  | _ => 1

def sizes : List Node → Nat
  | [] => 0
  | n :: ns => n.size + sizes ns

theorem sizes_append (ns ms : List Node) : sizes (ns ++ ms) = sizes ns + sizes ms := by
  induction ns with
  | nil => exact (Nat.zero_add _).symm
  | cons n ns ih => rw [List.cons_append, sizes, sizes, ih, Nat.add_assoc]

theorem sizes_flatten : ∀ n : Node, sizes n.flatten = n.size
  | pipe left right => by
    rw [flatten, sizes_append, sizes_flatten left]
    rfl
  | literal _ _ | word _ _ | flag _ _ _ | call _ _ _ _ | group _ _ _ | binding _ _ _ => by
    rw [flatten, sizes, sizes, Nat.add_zero]
    all_goals nofun

theorem size_pos : ∀ n : Node, 0 < n.size
  | pipe left right => Nat.lt_of_lt_of_le (size_pos left) (Nat.le_add_right _ _)
  | literal _ _ | word _ _ | flag _ _ _ | call _ _ _ _ | group _ _ _ | binding _ _ _ => by
    simp [size]

mutual

/-- The step of a node between pipes, and its directives. -/
def stage (registry : Registry) (piped : Bool) : Node → Built (Step × Directives)
  | call name positional flags span => do
    let (i, d) ← intent registry piped name positional flags span
    .ok (.command i, d)
  | group inner flags _ => do
    let p ← stages registry piped inner.flatten
    let d ← groupDirectives flags p.directives
    .ok (.group p.steps p.directives, d)
  | n => .error (.inr (.stage n.span.start))
termination_by n => (n.size, 0)
decreasing_by
  rw [sizes_flatten]
  exact Prod.Lex.left _ _ (Nat.lt_succ_self _)

/-- The pipeline of the nodes between pipes. Only the first can be without input, and only the
directives of the last one count. -/
def stages (registry : Registry) (piped : Bool) : List Node → Built Pipeline
  | [] => .ok ⟨[], .none⟩
  | n :: rest => do
    let (step, d) ← n.stage registry piped
    let p ← stages registry true rest
    .ok ⟨step :: p.steps, if rest.isEmpty then d else p.directives⟩
termination_by ns => (sizes ns, 1)
decreasing_by
  · rw [sizes]
    rcases Nat.eq_zero_or_pos (sizes rest) with h | h
    · rw [h]
      exact Prod.Lex.right _ Nat.zero_lt_one
    · exact Prod.Lex.left _ _ (Nat.lt_add_of_pos_right h)
  · rw [sizes]
    exact Prod.Lex.left _ _ (Nat.lt_add_of_pos_left n.size_pos)

end

def build (registry : Registry) : Node → Built Program
  | binding target expr _ => (stages registry false expr.flatten).map fun p => ⟨some target, p⟩
  | n => (stages registry false n.flatten).map fun p => ⟨none, p⟩

/-! ## Trees of lines -/

theorem value_node (o : Operand) : o.node.value = .ok o.value := by
  cases o <;> rfl

theorem flagParts_node (f : FlagNode) : f.node.flagParts = .ok (f.name, f.value?) := by
  obtain ⟨name, value, span⟩ := f
  cases value with
  | none => rfl
  | some o =>
      change o.node.value.map _ = _
      rw [value_node]
      rfl

theorem splitFlags_node (fs : List FlagNode) (d : Directives) (fields : Fields) :
    splitFlags (fs.map FlagNode.node) d fields = .ok (Sluice.splitFlags fs d fields) := by
  induction fs generalizing d fields with
  | nil => rfl
  | cons f fs ih =>
      rw [List.map_cons, splitFlags, flagParts_node, Sluice.splitFlags, FlagNode.direct?]
      change (match d.set? f.name (f.value?.map Value.toText) with | some d => _ | none => _) = _
      cases d.set? f.name (f.value?.map Value.toText) with
      | some d => exact ih d fields
      | none => exact ih d _

theorem groupDirectives_node (fs : List FlagNode) (d : Directives) :
    groupDirectives (fs.map FlagNode.node) d = (Sluice.groupDirectives fs d).mapError .inl := by
  induction fs generalizing d with
  | nil => rfl
  | cons f fs ih =>
      rw [List.map_cons, groupDirectives, flagParts_node, Sluice.groupDirectives, FlagNode.direct?]
      change (match d.set? f.name (f.value?.map Value.toText) with | some d => _ | none => _) = _
      cases d.set? f.name (f.value?.map Value.toText) with
      | some d => exact ih d
      | none => rfl

theorem splitSubcommand_node (takes : Bool) (os : List Operand) :
    splitSubcommand takes (os.map Operand.node) =
      ((Sluice.splitSubcommand takes os).1, (Sluice.splitSubcommand takes os).2.map Operand.node) := by
  cases os with
  | nil => rfl
  | cons o os =>
      cases o with
      | literal value span => rfl
      | word name span => cases takes <;> rfl

theorem values_node (os : List Operand) :
    values (os.map Operand.node) = .ok (os.map Operand.value) := by
  induction os with
  | nil => rfl
  | cons o os ih =>
      rw [List.map_cons, values, value_node, ih]
      rfl

theorem intent_node (registry : Registry) (piped : Bool) (c : Call) :
    intent registry piped c.name (c.positional.map Operand.node) (c.flags.map FlagNode.node) c.span =
      (Intent.ofCall registry piped c).mapError .inl := by
  unfold intent Intent.ofCall
  rw [splitFlags_node, List.isEmpty_map]
  change (Except.mapError Sum.inl (Reading.ofName registry c.name
    (c.positional.isEmpty && (Sluice.splitFlags c.flags .none []).2.isEmpty)) >>= _) =
      Except.mapError Sum.inl (_ >>= _)
  cases Reading.ofName registry c.name _ with
  | error e => rfl
  | ok reading =>
      simp only [Except.mapError, bind, Except.bind, splitSubcommand_node, values_node]

theorem stages_nil (registry : Registry) (piped : Bool) :
    stages registry piped [] = .ok ⟨[], .none⟩ := by
  rw [stages]

theorem stages_one (registry : Registry) (piped : Bool) (n : Node) :
    stages registry piped [n] =
      (n.stage registry piped >>= fun (step, d) => .ok ⟨[step], d⟩) := by
  rw [stages, stages_nil]
  rfl

/-- A node behind others is built on its own. -/
theorem stages_append (registry : Registry) {ns : List Node} (hns : ns ≠ []) (piped : Bool) (n : Node) :
    stages registry piped (ns ++ [n]) =
      (stages registry piped ns >>= fun p =>
        n.stage registry true >>= fun (step, d) => .ok ⟨p.steps ++ [step], d⟩) := by
  induction ns generalizing piped with
  | nil => exact absurd rfl hns
  | cons m ms ih =>
      rw [List.cons_append, stages, stages]
      cases m.stage registry piped with
      | error e => rfl
      | ok result =>
          obtain ⟨step, d⟩ := result
          cases ms with
          | nil =>
              rw [List.nil_append, stages_nil, stages_one]
              cases n.stage registry true with
              | error e => rfl
              | ok result => rfl
          | cons m' ms =>
              change (stages registry true (m' :: ms ++ [n]) >>= _) = (stages registry true (m' :: ms) >>= _) >>= _
              rw [ih (List.cons_ne_nil _ _)]
              cases stages registry true (m' :: ms) with
              | error e => rfl
              | ok p =>
                  change (n.stage registry true >>= _) >>= _ = n.stage registry true >>= _
                  cases n.stage registry true <;> rfl

theorem flatten_stage (s : Stage) : s.node.flatten = [s.node] := by
  cases s <;> rfl

theorem flatten_ne_nil : ∀ n : Node, n.flatten ≠ []
  | pipe left right => by simp [flatten]
  | literal _ _ | word _ _ | flag _ _ _ | call _ _ _ _ | group _ _ _ | binding _ _ _ => by
    simp [flatten]

mutual

theorem stage_node (registry : Registry) (piped : Bool) : ∀ s : Stage,
    s.node.stage registry piped = (s.build registry piped).mapError .inl
  | .call c => by
    rw [Stage.node, Call.node, stage, intent_node, Stage.build]
    cases Intent.ofCall registry piped c <;> rfl
  | .group inner flags span => by
    rw [Stage.node, stage, stages_node registry piped inner, Stage.build]
    cases inner.build registry piped with
    | error e => rfl
    | ok p =>
        change (groupDirectives _ p.directives >>= _) =
          Except.mapError Sum.inl ((Sluice.groupDirectives flags p.directives).map _)
        rw [groupDirectives_node]
        cases Sluice.groupDirectives flags p.directives <;> rfl

theorem stages_node (registry : Registry) (piped : Bool) : ∀ c : Chain,
    stages registry piped c.node.flatten = (c.build registry piped).mapError .inl
  | .stage s => by
    rw [Chain.node, flatten_stage, stages_one, stage_node registry piped s, Chain.build]
    cases s.build registry piped <;> rfl
  | .pipe left right => by
    rw [Chain.node, flatten, stages_append registry (flatten_ne_nil _), stages_node registry piped left,
      stage_node registry true right, Chain.build]
    cases left.build registry piped with
    | error e => rfl
    | ok p => cases right.build registry true <;> rfl

end

end Node

/-- On the tree of a line the builder of nodes comes to what the builder of lines does, and never
falls back. -/
theorem Line.build_node (registry : Registry) (line : Line) :
    line.node.build registry = (line.build registry).mapError .inl := by
  obtain ⟨target, chain⟩ := line
  have hstages := Node.stages_node registry false chain
  cases target with
  | some target =>
      change (Node.stages registry false chain.node.flatten).map _ = _
      rw [hstages, Line.build]
      cases chain.build registry false <;> rfl
  | none =>
      have hnode : chain.node.build registry =
          (Node.stages registry false chain.node.flatten).map fun p => ⟨none, p⟩ := by
        match chain with
        | .stage (.call _) | .stage (.group _ _ _) | .pipe _ _ => rfl
      change chain.node.build registry = _
      rw [hnode, hstages, Line.build]
      cases chain.build registry false <;> rfl

/-! ## Why building fails -/

/-- What building can fail for: a name without a command, or a flag behind a group that is no
directive. -/
inductive Failure.RefusesTree : Failure → Prop where
  | unknown (name : String) : RefusesTree (.unknownCommand name)
  | flag (name : String) : RefusesTree (.invalidArguments "( )" (.notDirective name))

section Build

variable {registry : Registry} {piped : Bool} {failure : Failure}

theorem refuses_of_ofName {name : String} {alone : Bool}
    (h : Reading.ofName registry name alone = .error failure) : failure.RefusesTree := by
  unfold Reading.ofName at h
  split at h
  · cases h
  · generalize (if registry.contains "invoke" then dotted? name else none) = parts at h
    cases parts with
    | some parts => cases h
    | none =>
        dsimp only at h
        split at h
        · cases h
        · cases h
          exact .unknown name

theorem refuses_of_ofCall {c : Call} (h : Intent.ofCall registry piped c = .error failure) :
    failure.RefusesTree := by
  unfold Intent.ofCall at h
  dsimp only at h
  cases hreading : Reading.ofName registry c.name
      (c.positional.isEmpty && (splitFlags c.flags .none []).2.isEmpty) with
  | error e =>
      rw [hreading] at h
      cases h
      exact refuses_of_ofName hreading
  | ok reading =>
      rw [hreading] at h
      cases h

theorem refuses_of_groupDirectives {fs : List FlagNode} {d : Directives}
    (h : groupDirectives fs d = .error failure) : failure.RefusesTree := by
  induction fs generalizing d with
  | nil => cases h
  | cons f fs ih =>
      rw [groupDirectives] at h
      cases hd : f.direct? d with
      | some d =>
          rw [hd] at h
          exact ih h
      | none =>
          rw [hd] at h
          cases h
          exact .flag f.name

mutual

theorem Stage.refuses_of_build : ∀ {stage : Stage} {piped : Bool},
    stage.build registry piped = .error failure → failure.RefusesTree
  | .call _, _, h => refuses_of_ofCall (map_eq_error h)
  | .group inner flags _, piped, h => by
    rw [Stage.build] at h
    cases hinner : inner.build registry piped with
    | error e =>
        rw [hinner] at h
        cases h
        exact Chain.refuses_of_build hinner
    | ok p =>
        rw [hinner] at h
        exact refuses_of_groupDirectives (map_eq_error h)

theorem Chain.refuses_of_build : ∀ {chain : Chain} {piped : Bool},
    chain.build registry piped = .error failure → failure.RefusesTree
  | .stage _, _, h => Stage.refuses_of_build (map_eq_error h)
  | .pipe left right, piped, h => by
    rw [Chain.build] at h
    cases hleft : left.build registry piped with
    | error e =>
        rw [hleft] at h
        cases h
        exact Chain.refuses_of_build hleft
    | ok p =>
        rw [hleft] at h
        exact Stage.refuses_of_build (map_eq_error h)

end

/-- A tree is refused for one of its names or flags, and never as bad syntax. -/
theorem Line.refuses_of_build {line : Line} (h : line.build registry = .error failure) :
    failure.RefusesTree :=
  Chain.refuses_of_build (map_eq_error h)

end Build

/-- Where a text has no tree, the position that is reported counts the characters in front of what is
wrong, and the column of a hint those up to the parenthesis that it is about. Where it has one,
building it never ends in a syntax error: with any registry, the builder of nodes finds every node
where it has a use for it. -/
theorem parse_located (source : String) :
    (∀ e, parse source = .error e → e.position ≤ source.length ∧ Located source e) ∧
      ∀ line, parse source = .ok line → ∀ registry,
        line.node.build registry = (line.build registry).mapError .inl ∧
          ∀ failure, line.build registry = .error failure →
            failure.RefusesTree ∧ ∀ e, failure ≠ .badSyntax e := by
  constructor
  · intro e h
    have hlocated := located_of_parse h
    exact ⟨hlocated.le, hlocated⟩
  · intro line _ registry
    refine ⟨line.build_node registry, fun failure h => ?_⟩
    have hrefuses := Line.refuses_of_build h
    refine ⟨hrefuses, fun e => ?_⟩
    cases hrefuses <;> exact nofun

/-- A group that nothing closes, behind characters of more than one byte. -/
def unclosedLine : String := "é | (日 x"

theorem parse_unclosedLine :
    parse unclosedLine = .error ⟨.unexpected .finish, 8, .groupClose 5⟩ := by
  have htokens : tokenize unclosedLine = .ok [⟨.word "é", "é", ⟨0, 2⟩⟩, ⟨.pipe, "|", ⟨3, 4⟩⟩,
      ⟨.openParen, "(", ⟨5, 6⟩⟩, ⟨.word "日", "日", ⟨6, 9⟩⟩, ⟨.word "x", "x", ⟨10, 11⟩⟩,
      ⟨.finish, "", ⟨11, 11⟩⟩] :=
    eq_ok_of_toOption (by decide +kernel)
  have hcolumn : Text.charOffset unclosedLine 5 = 4 := by decide
  have hposition : Text.charOffset unclosedLine 11 = 8 := by decide
  rw [parse, htokens]
  simp [Except.bind, Except.mapError, Except.map, Tree.line, Tree.startsWith, Tree.wholeChain, Tree.chain, Tree.stage,
    Tree.call, Tree.argumentList, Tree.arguments, Tree.endsStage, Tree.chainTail, Tree.operand,
    Token.Kind.isOperand, Tree.unexpected, Span.column, SyntaxError.inCharacters, hcolumn, hposition]

theorem parse_located_unclosedLine :
    parse unclosedLine = .error ⟨.unexpected .finish, 8, .groupClose 5⟩ ∧
      Located unclosedLine ⟨.unexpected .finish, 8, .groupClose 5⟩ :=
  ⟨parse_unclosedLine, ((parse_located unclosedLine).1 _ parse_unclosedLine).2⟩

end Sluice
