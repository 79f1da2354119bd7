import Sluice.Proofs.Program.Flattening

/-!
# Directives only show

Output directives are taken out of a tree before anything is made of it. A tree without its
directives builds to the program without its directives (`Line.build_plain`), so that trees that
differ in nothing else fail alike or have the same commands in the same groups. Which directives a
program has is decided by the flags of its last command and of the groups that end with it
(`Line.directives_of_build`).

Where the parts of a line stand is carried along as it is, or told by a function: with `id` places
count, and with a constant they do not.
-/

namespace Sluice

/-! ## Without directives -/

section Plain

variable (move : Span → Span)

def Operand.moved : Operand → Operand
  | literal value span => literal value (move span)
  | word name span => word name (move span)

def FlagNode.moved (f : FlagNode) : FlagNode :=
  ⟨f.name, f.value.map (Operand.moved move), move f.span⟩

def Intent.moved (i : Intent) : Intent :=
  { i with span := move i.span }

def FlagNode.isDirective (f : FlagNode) : Bool :=
  (f.direct? .none).isSome

/-- The flags that are no directives. -/
def plainFlags (fs : List FlagNode) : List FlagNode :=
  (fs.filter fun f => !f.isDirective).map (FlagNode.moved move)

/-- The call without its directives. -/
def Call.plain (c : Call) : Call :=
  ⟨c.name, c.positional.map (Operand.moved move), plainFlags move c.flags, move c.span⟩

mutual

/-- The stage without directives. -/
def Stage.plain : Stage → Stage
  | .call c => .call (c.plain move)
  | .group inner flags span => .group (Chain.plain inner) (plainFlags move flags) (move span)

def Chain.plain : Chain → Chain
  | .stage s => .stage (Stage.plain s)
  | .pipe left right => .pipe (Chain.plain left) (Stage.plain right)

end

/-- The line without directives. -/
def Line.plain (line : Line) : Line :=
  ⟨line.target.map fun t => ⟨t.name, (move ⟨t.start, t.start⟩).start⟩, line.chain.plain move⟩

mutual

def Step.plain : Step → Step
  | .command i => .command (i.moved move)
  | .group steps _ => .group (Step.allPlain steps) .none

def Step.allPlain : List Step → List Step
  | [] => []
  | s :: ss => Step.plain s :: Step.allPlain ss

end

def Pipeline.plain (p : Pipeline) : Pipeline :=
  ⟨Step.allPlain move p.steps, .none⟩

def Program.plain (p : Program) : Program :=
  ⟨p.target, p.pipeline.plain move⟩

end Plain

section Build

variable {move : Span → Span}

@[simp] theorem Operand.value_moved (o : Operand) : (o.moved move).value = o.value := by
  cases o with
  | literal value span => rfl
  | word name span =>
      have hsame : ∀ a b : Span, (word name a).value = (word name b).value := by
        intro a b
        unfold Operand.value
        split <;> split <;> simp_all
      exact hsame _ _

@[simp] theorem FlagNode.value?_moved (f : FlagNode) : (f.moved move).value? = f.value? := by
  simp [FlagNode.value?, FlagNode.moved, Function.comp_def]

@[simp] theorem FlagNode.direct?_moved (f : FlagNode) (d : Directives) :
    (f.moved move).direct? d = f.direct? d := by
  unfold FlagNode.direct?
  rw [FlagNode.value?_moved]
  rfl

/-- Whether a flag is a directive does not depend on the directives in front of it. -/
theorem FlagNode.isSome_direct? (f : FlagNode) (d : Directives) :
    (f.direct? d).isSome = f.isDirective := by
  unfold isDirective direct? Directives.set?
  split <;> rfl

theorem FlagNode.direct?_of_isDirective {f : FlagNode} (h : f.isDirective = true) (d : Directives) :
    ∃ e, f.direct? d = some e :=
  Option.isSome_iff_exists.1 ((f.isSome_direct? d).trans h)

theorem FlagNode.direct?_eq_none {f : FlagNode} (h : f.isDirective = false) (d : Directives) :
    f.direct? d = none := by
  have hnone := (f.isSome_direct? d).trans h
  simpa using hnone

theorem plainFlags_directive {f : FlagNode} (h : f.isDirective = true) (fs : List FlagNode) :
    plainFlags move (f :: fs) = plainFlags move fs := by
  simp [plainFlags, h]

theorem plainFlags_other {f : FlagNode} (h : f.isDirective = false) (fs : List FlagNode) :
    plainFlags move (f :: fs) = f.moved move :: plainFlags move fs := by
  simp [plainFlags, h]

theorem splitFlags_plain (fs : List FlagNode) (d e : Directives) (fields : Fields) :
    splitFlags (plainFlags move fs) d fields = (d, (splitFlags fs e fields).2) := by
  induction fs generalizing e fields with
  | nil => rfl
  | cons f fs ih =>
      cases h : f.isDirective with
      | true =>
          obtain ⟨e', he⟩ := FlagNode.direct?_of_isDirective h e
          rw [plainFlags_directive h, splitFlags, he]
          exact ih e' fields
      | false =>
          rw [plainFlags_other h, splitFlags, splitFlags, FlagNode.direct?_moved,
            FlagNode.direct?_eq_none h, FlagNode.direct?_eq_none h, FlagNode.value?_moved]
          exact ih e _

theorem groupDirectives_plain (fs : List FlagNode) (d e : Directives) :
    groupDirectives (plainFlags move fs) d = (groupDirectives fs e).map fun _ => d := by
  induction fs generalizing e with
  | nil => rfl
  | cons f fs ih =>
      cases h : f.isDirective with
      | true =>
          obtain ⟨e', he⟩ := FlagNode.direct?_of_isDirective h e
          rw [plainFlags_directive h, groupDirectives, he]
          exact ih e'
      | false =>
          rw [plainFlags_other h, groupDirectives, groupDirectives, FlagNode.direct?_moved,
            FlagNode.direct?_eq_none h, FlagNode.direct?_eq_none h]
          rfl

theorem splitSubcommand_moved (takes : Bool) (os : List Operand) :
    splitSubcommand takes (os.map (Operand.moved move)) =
      ((splitSubcommand takes os).1, (splitSubcommand takes os).2.map (Operand.moved move)) := by
  match os with
  | [] => rfl
  | .literal v span :: rest => rfl
  | .word sub span :: rest => cases takes <;> rfl

theorem Intent.ofCall_plain (registry : Registry) (piped : Bool) (c : Call) :
    Intent.ofCall registry piped (c.plain move) =
      (Intent.ofCall registry piped c).map fun (i, _) => (i.moved move, .none) := by
  unfold Intent.ofCall
  rw [Call.plain, splitFlags_plain c.flags .none .none []]
  dsimp only
  rw [List.isEmpty_map]
  cases Reading.ofName registry c.name _ with
  | error failure => rfl
  | ok reading =>
      change Except.ok _ = Except.ok _
      simp only [splitSubcommand_moved, List.map_map, Function.comp_def, Operand.value_moved]
      rfl

theorem Step.allPlain_append (ss ts : List Step) :
    Step.allPlain move (ss ++ ts) = Step.allPlain move ss ++ Step.allPlain move ts := by
  induction ss with
  | nil => rfl
  | cons s ss ih => simp [Step.allPlain, ih]

mutual

theorem Stage.build_plain (registry : Registry) : ∀ (stage : Stage) (piped : Bool),
    (stage.plain move).build registry piped =
      (stage.build registry piped).map fun (step, _) => (step.plain move, .none)
  | .call c, piped => by
    rw [Stage.plain, Stage.build, Stage.build, Intent.ofCall_plain]
    cases Intent.ofCall registry piped c <;> rfl
  | .group inner flags span, piped => by
    rw [Stage.plain, Stage.build, Stage.build, Chain.build_plain registry inner piped]
    cases inner.build registry piped with
    | error failure => rfl
    | ok p =>
        change (groupDirectives (plainFlags move flags) .none).map _ =
          ((groupDirectives flags p.directives).map _).map _
        rw [groupDirectives_plain flags .none p.directives]
        cases groupDirectives flags p.directives <;> rfl

theorem Chain.build_plain (registry : Registry) : ∀ (chain : Chain) (piped : Bool),
    (chain.plain move).build registry piped =
      (chain.build registry piped).map (Pipeline.plain move)
  | .stage s, piped => by
    rw [Chain.plain, Chain.build, Chain.build, Stage.build_plain registry s piped]
    cases s.build registry piped <;> rfl
  | .pipe left right, piped => by
    rw [Chain.plain, Chain.build, Chain.build, Chain.build_plain registry left piped]
    cases left.build registry piped with
    | error failure => rfl
    | ok p =>
        change ((right.plain move).build registry true).map _ = _
        rw [Stage.build_plain registry right true]
        cases right.build registry true with
        | error failure => rfl
        | ok r =>
            obtain ⟨step, d⟩ := r
            have hsteps : Step.allPlain move _ = _ := Step.allPlain_append p.steps [step]
            exact congrArg (fun ss => Except.ok (Pipeline.mk ss .none)) hsteps.symm

end

/-- A line without its directives builds to the program without its directives. -/
theorem Line.build_plain (registry : Registry) (line : Line) :
    (line.plain move).build registry = (line.build registry).map (Program.plain move) := by
  rw [Line.build, Line.build]
  change ((line.chain.plain move).build registry false).map _ = _
  rw [Chain.build_plain]
  cases line.chain.build registry false with
  | error failure => rfl
  | ok p =>
      have htarget : (line.plain move).target.map Target.name = line.target.map Target.name := by
        simp [Line.plain, Function.comp_def]
      exact congrArg (fun t => Except.ok (Program.mk t (p.plain move))) htarget

end Build

/-! ## Runs -/

section Run

variable {m : Type → Type} [Monad m] {move : Span → Span} {dispatch : Dispatcher m}

mutual

/-- A dispatcher that looks at no places does the same for a step without its directives. -/
theorem Step.run_plain (h : ∀ i input, dispatch (i.moved move) input = dispatch i input) :
    ∀ (s : Step) (input : Option Value) (begun : Nat),
      (s.plain move).run dispatch input begun = s.run dispatch input begun
  | .command i, input, begun => by
    rw [Step.plain, Step.run, Step.run, Intent.run, Intent.run, h]
    rfl
  | .group steps _, input, begun => by
    rw [Step.plain, Step.run, Step.run, Step.runAll_plain h steps]

theorem Step.runAll_plain (h : ∀ i input, dispatch (i.moved move) input = dispatch i input) :
    ∀ (ss : List Step) (input : Option Value) (begun : Nat),
      Step.runAll dispatch (Step.allPlain move ss) input begun =
        Step.runAll dispatch ss input begun
  | [], _, _ => rfl
  | s :: ss, input, begun => by
    rw [Step.allPlain, Step.runAll, Step.runAll, Step.run_plain h s]
    refine congrArg _ (funext fun p => ?_)
    split
    · exact Step.runAll_plain h ss _ _
    · rfl

end

theorem Pipeline.run_plain (h : ∀ i input, dispatch (i.moved move) input = dispatch i input)
    (p : Pipeline) (input : Option Value) :
    (p.plain move).run dispatch input = p.run dispatch input := by
  rw [Pipeline.run, Pipeline.run]
  exact congrArg (· >>= _) (Step.runAll_plain h p.steps input 0)

end Run

/-! ## Which directives count -/

namespace Directives

/-- What the last of the flags that ask for something asks for. -/
def last (slot : String) (fs : List FlagNode) : Option String :=
  ((fs.filter fun f => plainName f.name == slot).map fun f =>
    (f.value?.map Value.toText).getD "true").getLast?

/-- What flags ask for, the last one for each thing. -/
def ofFlags (fs : List FlagNode) : Directives :=
  ⟨last "output" fs, last "columns" fs, last "query" fs⟩

/-- What is asked for, or else what was asked for before. -/
def overlay (d e : Directives) : Directives :=
  ⟨d.output.or e.output, d.columns.or e.columns, d.query.or e.query⟩

theorem overlay_assoc (a b c : Directives) : (a.overlay b).overlay c = a.overlay (b.overlay c) := by
  simp [overlay, Option.or_assoc]

theorem last_append (slot : String) (fs gs : List FlagNode) :
    last slot (fs ++ gs) = (last slot gs).or (last slot fs) := by
  simp [last, List.getLast?_append]

theorem ofFlags_append (fs gs : List FlagNode) :
    ofFlags (fs ++ gs) = (ofFlags gs).overlay (ofFlags fs) := by
  simp [ofFlags, overlay, last_append]

theorem ofFlags_cons (f : FlagNode) (fs : List FlagNode) :
    ofFlags (f :: fs) = (ofFlags fs).overlay (ofFlags [f]) :=
  ofFlags_append [f] fs

end Directives

theorem FlagNode.direct?_eq_some {f : FlagNode} {d e : Directives} (h : f.direct? d = some e) :
    e = (Directives.ofFlags [f]).overlay d := by
  unfold direct? Directives.set? at h
  split at h
  · next hname =>
    cases h
    simp [Directives.ofFlags, Directives.last, Directives.overlay, hname]
  · next hname =>
    cases h
    simp [Directives.ofFlags, Directives.last, Directives.overlay, hname]
  · next hname =>
    cases h
    simp [Directives.ofFlags, Directives.last, Directives.overlay, hname]
  · cases h

theorem FlagNode.ofFlags_of_direct?_eq_none {f : FlagNode} {d : Directives}
    (h : f.direct? d = none) : Directives.ofFlags [f] = .none := by
  unfold direct? Directives.set? at h
  split at h
  · cases h
  · cases h
  · cases h
  · next houtput hcolumns hquery =>
    have hname : Directives.plainName f.name ≠ "output" ∧
        Directives.plainName f.name ≠ "columns" ∧ Directives.plainName f.name ≠ "query" :=
      ⟨houtput, hcolumns, hquery⟩
    simp [Directives.ofFlags, Directives.last, Directives.none, hname]

theorem splitFlags_directives (fs : List FlagNode) (d : Directives) (fields : Fields) :
    (splitFlags fs d fields).1 = (Directives.ofFlags fs).overlay d := by
  induction fs generalizing d fields with
  | nil => rfl
  | cons f fs ih =>
      rw [Directives.ofFlags_cons, Directives.overlay_assoc, splitFlags]
      cases h : f.direct? d with
      | none =>
          rw [FlagNode.ofFlags_of_direct?_eq_none h]
          exact ih d _
      | some e =>
          rw [← FlagNode.direct?_eq_some h]
          exact ih e fields

theorem groupDirectives_eq_ok {fs : List FlagNode} {d e : Directives}
    (h : groupDirectives fs d = .ok e) : e = (Directives.ofFlags fs).overlay d := by
  induction fs generalizing d with
  | nil =>
      cases h
      rfl
  | cons f fs ih =>
      rw [groupDirectives] at h
      cases hf : f.direct? d with
      | none => simp [hf] at h
      | some d' =>
          rw [hf] at h
          rw [Directives.ofFlags_cons, Directives.overlay_assoc, ← FlagNode.direct?_eq_some hf]
          exact ih h

mutual

/-- The flags of the call that a stage ends with, then those of the groups around it from the
innermost one outward. -/
def Stage.lastFlags : Stage → List FlagNode
  | .call c => c.flags
  | .group inner flags _ => inner.lastFlags ++ flags

def Chain.lastFlags : Chain → List FlagNode
  | .stage s => s.lastFlags
  | .pipe _ right => right.lastFlags

end

theorem Intent.directives_ofCall {registry : Registry} {piped : Bool} {c : Call} {i : Intent}
    {d : Directives} (h : Intent.ofCall registry piped c = .ok (i, d)) : d = .ofFlags c.flags := by
  unfold Intent.ofCall at h
  obtain ⟨reading, -, h⟩ := bind_eq_ok h
  cases h
  rw [splitFlags_directives]
  simp [Directives.overlay, Directives.none]

mutual

theorem Stage.directives_of_build {registry : Registry} {piped : Bool} :
    ∀ {stage : Stage} {step : Step} {d : Directives},
      stage.build registry piped = .ok (step, d) → d = .ofFlags stage.lastFlags
  | .call _, _, _, h => by
    obtain ⟨i, hi, -⟩ := Stage.build_call h
    exact Intent.directives_ofCall hi
  | .group _ _ _, _, _, h => by
    obtain ⟨p, hp, hd, -⟩ := Stage.build_group h
    rw [groupDirectives_eq_ok hd, Chain.directives_of_build hp, Stage.lastFlags,
      Directives.ofFlags_append]

theorem Chain.directives_of_build {registry : Registry} {piped : Bool} :
    ∀ {chain : Chain} {p : Pipeline}, chain.build registry piped = .ok p →
      p.directives = .ofFlags chain.lastFlags
  | .stage _, _, h => by
    obtain ⟨step, d, hs, rfl⟩ := Chain.build_stage h
    exact Stage.directives_of_build hs
  | .pipe _ _, _, h => by
    obtain ⟨q, step, d, -, hr, rfl⟩ := Chain.build_pipe h
    exact Stage.directives_of_build hr

end

/-- The directives of a program are those of its last stage, the last one for each thing. -/
theorem Line.directives_of_build {registry : Registry} {line : Line} {program : Program}
    (h : line.build registry = .ok program) :
    program.pipeline.directives = .ofFlags line.chain.lastFlags := by
  obtain ⟨p, hp, rfl⟩ := map_eq_ok h
  exact Chain.directives_of_build hp

end Sluice
