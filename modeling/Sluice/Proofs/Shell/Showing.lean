import Sluice.Proofs.Program.Directives
import Sluice.Proofs.Shell.Live
import Sluice.Proofs.Shell.Rollback

/-!
# What directives decide

Two lines whose trees differ only in output directives do the same: they make the same requests,
whatever is answered and wherever an interrupt comes, and leave the same session; they fail alike,
bind the same value or show the same value, and only how the value is shown can differ
(`Shell.showing_of_directives`).
-/

namespace Sluice

/-! ## Programs in lockstep -/

/-- Two programs make the same requests, whatever is answered, and where one is done the other is,
with a related result. -/
inductive Act.Lockstep {I : Interface} {α β : Type} (R : α → β → Prop) :
    Act I α → Act I β → Prop where
  | done {a : α} {b : β} : R a b → Lockstep R (.done a) (.done b)
  | stop : Lockstep R .stop .stop
  | ask {q : I.Request} {next : Option (I.Answer q) → Act I α}
      {next' : Option (I.Answer q) → Act I β} :
      (∀ answer, Lockstep R (next answer) (next' answer)) →
        Lockstep R (.ask q next) (.ask q next')

namespace Act

variable {I : Interface} {α β γ ω : Type} {R : α → β → Prop}

/-- Programs that begin alike are in lockstep if what follows is. -/
theorem lockstep_bind (m : Act I γ) {f : γ → Act I α} {g : γ → Act I β}
    (h : ∀ c, Lockstep R (f c) (g c)) : Lockstep R (m.bind f) (m.bind g) := by
  induction m with
  | done c => exact h c
  | stop => exact .stop
  | ask q next ih => exact .ask ih

/-- In every world, programs in lockstep leave the same world and come to related results. -/
theorem Lockstep.run {m : Act I α} {n : Act I β} (h : Lockstep R m n)
    (world : (q : I.Request) → ω → Option (I.Answer q) × ω) (w : ω) :
    Option.Rel R (m.run world w).1 (n.run world w).1 ∧ (m.run world w).2 = (n.run world w).2 := by
  induction h generalizing w with
  | done hab => exact ⟨.some hab, rfl⟩
  | stop => exact ⟨.none, rfl⟩
  | @ask q next next' _ ih =>
      rw [Act.run, Act.run]
      exact ih (world q w).1 (world q w).2

end Act

/-! ## Lines -/

namespace Shell

variable {shell : Shell} {line line' : String} {move : Span → Span}

/-- How two lines end that ask for the same: with one failure; with a name bound to one value, with
each line as the source of its own; or with one value shown in one way or another. -/
inductive EndsAlike (line line' : String) :
    Except PipelineFailure Outcome × Session → Except PipelineFailure Outcome × Session → Prop where
  | failed {failure : PipelineFailure} {s : Session} :
      EndsAlike line line' (.error failure, s) (.error failure, s)
  | bound {name time : String} {v : Value} {s : Session} :
      EndsAlike line line' (.ok (.bound name), s.setVariable time name v (Text.trim line))
        (.ok (.bound name), s.setVariable time name v (Text.trim line'))
  | shown {v : Value} {text text' : String} {warning warning' : Option String} {s : Session} :
      EndsAlike line line' (.ok (.shown v text warning), s) (.ok (.shown v text' warning'), s)

theorem exists_shown (v : Value) (d : Directives) (defaults : OutputDefaults) :
    ∃ text warning, Outcome.ofResult v d defaults = .shown v text warning := by
  unfold Outcome.ofResult
  split
  · exact ⟨_, _, rfl⟩
  · exact ⟨_, _, rfl⟩

/-- What a line does when its pipeline has come to an end. -/
def conclude (shell : Shell) (line : String) (program : Program) (p : Progress Value) :
    Act live (Except PipelineFailure Outcome) :=
  match p.result with
  | .error failure => .done (.error failure)
  | .ok v =>
    match program.target with
    | none => .done (.ok (.ofResult v program.pipeline.directives shell.output))
    | some name => (bindResult line name v).bind fun _ => .done (.ok (.bound name))

theorem runLine_eq_conclude {program : Program} (hline : isRemark line = false)
    (hprogram : shell.program line = .ok program) (dispatch : Dispatcher (Act live)) :
    shell.runLine dispatch line =
      (program.pipeline.run dispatch none).bind (shell.conclude line program) := by
  unfold runLine
  rw [hline, hprogram, if_neg Bool.false_ne_true]
  dsimp only
  refine congrArg (Act.bind _) (funext fun p => ?_)
  unfold conclude
  cases p.result with
  | error failure => rfl
  | ok v => cases program.target <;> rfl

theorem execute_eq_settle (shell : Shell) (line : String) (s : Session) :
    shell.execute line s =
      ((shell.runLine shell.dispatcher line).onSession s).bind fun r => .done (settle s r) := by
  refine congrArg (Act.bind _) (funext fun r => ?_)
  rcases r with ⟨_ | _ | _, s'⟩ <;> rfl

theorem lockstep_conclude {program program' : Program} (htarget : program.target = program'.target)
    (p : Progress Value) (before s : Session) :
    Act.Lockstep (EndsAlike line line')
      (((shell.conclude line program p).onSession s).bind fun r => .done (settle before r))
      (((shell.conclude line' program' p).onSession s).bind fun r => .done (settle before r)) := by
  unfold conclude
  rw [← htarget]
  cases p.result with
  | error failure => exact .done .failed
  | ok v =>
      cases program.target with
      | none =>
          obtain ⟨text, warning, hshown⟩ := exists_shown v program.pipeline.directives shell.output
          obtain ⟨text', warning', hshown'⟩ :=
            exists_shown v program'.pipeline.directives shell.output
          dsimp only
          rw [hshown, hshown']
          exact .done .shown
      | some name =>
          refine .ask fun answer => ?_
          cases answer with
          | none => exact .done .failed
          | some seconds => exact .done .bound

/-- A line's commands do not look at where they stand. -/
theorem dispatcher_moved (i : Intent) (input : Option Value) :
    shell.dispatcher (i.moved move) input = shell.dispatcher i input := rfl

/-- Lines whose programs are the same without directives are in lockstep. -/
theorem lockstep_execute (hline : isRemark line = false) (hline' : isRemark line' = false)
    (h : (shell.program line).map (Program.plain move) =
      (shell.program line').map (Program.plain move)) (s : Session) :
    Act.Lockstep (EndsAlike line line') (shell.execute line s) (shell.execute line' s) := by
  rw [execute_eq_settle, execute_eq_settle]
  cases hp : shell.program line with
  | error failure =>
      cases hp' : shell.program line' with
      | ok program' => simp [hp, hp', Except.map] at h
      | error failure' =>
          obtain rfl : failure = failure' := by simpa [hp, hp', Except.map] using h
          rw [runLine_of_program_error hline hp, runLine_of_program_error hline' hp']
          exact .done .failed
  | ok program =>
      cases hp' : shell.program line' with
      | error failure' => simp [hp, hp', Except.map] at h
      | ok program' =>
          have hplain : program.plain move = program'.plain move := by
            simpa [hp, hp', Except.map] using h
          have htarget : program.target = program'.target := by
            change (program.plain move).target = (program'.plain move).target
            rw [hplain]
          have hmoved : ∀ i input, shell.dispatcher (i.moved move) input = shell.dispatcher i input :=
            dispatcher_moved
          have hrun : program.pipeline.run shell.dispatcher none =
              program'.pipeline.run shell.dispatcher none := by
            rw [← Pipeline.run_plain hmoved program.pipeline,
              ← Pipeline.run_plain hmoved program'.pipeline]
            exact congrArg (fun p => p.pipeline.run shell.dispatcher none) hplain
          rw [runLine_eq_conclude hline hp, runLine_eq_conclude hline' hp', hrun,
            Act.onSession_bind, Act.onSession_bind, Act.bind_assoc, Act.bind_assoc]
          refine Act.lockstep_bind _ fun r => ?_
          rcases r with ⟨_ | p, s'⟩
          · exact .done .failed
          · exact lockstep_conclude htarget p s s'

/-- Trees that differ only in output directives, wherever in the tree these stand, build to the same
failure or to programs that differ only in directives. Their lines are in lockstep, so that in every
world they make the same requests and end alike. The directives that a program ends up with are the
last ones for each thing among the flags of the last command and of the groups that end with it. With
`id` the trees have to agree in their places as well, as they need not for their lines to end
alike. -/
theorem showing_of_directives (move : Span → Span) {tree tree' : Line}
    (h : tree.plain move = tree'.plain move) :
    (∀ registry, (tree.build registry).map (Program.plain move) =
      (tree'.build registry).map (Program.plain move)) ∧
    (∀ (shell : Shell) (line line' : String) (s : Session), parse line = .ok tree →
      parse line' = .ok tree' → isRemark line = false → isRemark line' = false →
        Act.Lockstep (EndsAlike line line') (shell.execute line s) (shell.execute line' s) ∧
        ∀ (ω : Type) (world : (q : ServiceRequest) → ω → Option q.Answer × ω) (w : ω),
          let r := (shell.execute line s).run (I := service) world w
          let r' := (shell.execute line' s).run (I := service) world w
          Option.Rel (EndsAlike line line') r.1 r'.1 ∧ r.2 = r'.2) ∧
    ∀ registry program, tree.build registry = .ok program →
      program.pipeline.directives = .ofFlags tree.chain.lastFlags := by
  have hbuild : ∀ registry, (tree.build registry).map (Program.plain move) =
      (tree'.build registry).map (Program.plain move) := by
    intro registry
    rw [← Line.build_plain, ← Line.build_plain, h]
  refine ⟨hbuild, fun shell line line' s hparse hparse' hline hline' => ?_,
    fun registry program hprogram => Line.directives_of_build hprogram⟩
  have hprogram : (shell.program line).map (Program.plain move) =
      (shell.program line').map (Program.plain move) := by
    unfold program
    rw [hparse, hparse']
    exact hbuild shell.registry
  have hlockstep := lockstep_execute hline hline' hprogram s
  exact ⟨hlockstep, fun ω world w => hlockstep.run world w⟩

/-- A line with a directive on a command and one on the group around it. -/
def directedLine : String := "(echo 1 --cx-output json) --output raw"

def directedTokens : List Token :=
  [⟨.openParen, "(", ⟨0, 1⟩⟩, ⟨.word "echo", "echo", ⟨1, 5⟩⟩, ⟨.number (.ofNat 1), "1", ⟨6, 7⟩⟩,
    ⟨.flag "cx-output", "--cx-output", ⟨8, 19⟩⟩, ⟨.word "json", "json", ⟨20, 24⟩⟩,
    ⟨.closeParen, ")", ⟨24, 25⟩⟩, ⟨.flag "output", "--output", ⟨26, 34⟩⟩,
    ⟨.word "raw", "raw", ⟨35, 38⟩⟩, ⟨.finish, "", ⟨38, 38⟩⟩]

def directedTree : Line :=
  ⟨none, .stage (.group (.stage (.call ⟨"echo", [.literal (.num (.ofNat 1)) ⟨6, 7⟩],
    [⟨"cx-output", some (.word "json" ⟨20, 24⟩), ⟨8, 24⟩⟩], ⟨1, 24⟩⟩))
    [⟨"output", some (.word "raw" ⟨35, 38⟩), ⟨26, 38⟩⟩] ⟨0, 38⟩)⟩

/-- The tree of the line `(echo 1)`. -/
def undirectedTree : Line :=
  ⟨none, .stage (.group (.stage (.call ⟨"echo", [.literal (.num (.ofNat 1)) ⟨6, 7⟩], [], ⟨1, 7⟩⟩))
    [] ⟨0, 8⟩)⟩

open Grammar in
theorem parse_directedLine : parse directedLine = .ok directedTree := by
  have htokens : tokenize directedLine = .ok directedTokens := eq_ok_of_toOption (by decide +kernel)
  have hjson := ReadsFlag.valued (t := directedTokens[3]) (v := directedTokens[4]) rfl (.word rfl)
  have hraw := ReadsFlag.valued (t := directedTokens[6]) (v := directedTokens[7]) rfl (.word rfl)
  have hone := ReadsOperand.number (t := directedTokens[2]) rfl
  have hecho := @ReadsCall.call true directedTokens[1] _ _ _ _ _ _ _ rfl .none
    (.operand hone (.flag hjson .nil fun _ h => nomatch h))
  have hgroup := ReadsStage.group (p := directedTokens[0]) (q := directedTokens[5]) rfl
    (.stage (.call hecho)) rfl (.flag hraw .nil)
  exact parse_of_reads htokens (.chain (.stage hgroup) (e := directedTokens[8]) rfl)

open Grammar in
theorem parse_undirectedLine : parse "(echo 1)" = .ok undirectedTree := by
  have htokens : tokenize "(echo 1)" = .ok [⟨.openParen, "(", ⟨0, 1⟩⟩,
      ⟨.word "echo", "echo", ⟨1, 5⟩⟩, ⟨.number (.ofNat 1), "1", ⟨6, 7⟩⟩,
      ⟨.closeParen, ")", ⟨7, 8⟩⟩, ⟨.finish, "", ⟨8, 8⟩⟩] := eq_ok_of_toOption (by decide +kernel)
  have hone := ReadsOperand.number (t := ⟨.number (.ofNat 1), "1", ⟨6, 7⟩⟩) rfl
  have hecho := @ReadsCall.call true ⟨.word "echo", "echo", ⟨1, 5⟩⟩ _ _ _ _ _ _ _ rfl .none
    (.operand hone .nil)
  have hgroup := ReadsStage.group (p := ⟨.openParen, "(", ⟨0, 1⟩⟩)
    (q := ⟨.closeParen, ")", ⟨7, 8⟩⟩) rfl (.stage (.call hecho)) rfl .nil
  exact parse_of_reads htokens (.chain (.stage hgroup) (e := ⟨.finish, "", ⟨8, 8⟩⟩) rfl)

theorem showing_of_directives_echo :
    let nowhere : Span → Span := fun _ => ⟨0, 0⟩
    let shell : Shell := ⟨.builtin [], ⟨"auto", 80⟩⟩
    directedTree.plain nowhere = undirectedTree.plain nowhere ∧
      parse directedLine = .ok directedTree ∧ parse "(echo 1)" = .ok undirectedTree ∧
      Act.Lockstep (EndsAlike directedLine "(echo 1)") (shell.execute directedLine .empty)
        (shell.execute "(echo 1)" .empty) ∧
      ∃ program, directedTree.build shell.registry = .ok program ∧
        program.pipeline.directives = ⟨some "raw", none, none⟩ := by
  intro nowhere shell
  have hplain : directedTree.plain nowhere = undirectedTree.plain nowhere := rfl
  obtain ⟨-, hexecute, hdirectives⟩ := showing_of_directives nowhere hplain
  refine ⟨hplain, parse_directedLine, parse_undirectedLine, ?_, ?_⟩
  · exact (hexecute shell directedLine "(echo 1)" .empty parse_directedLine parse_undirectedLine
      (by decide) (by decide)).1
  · exact ⟨_, rfl, hdirectives shell.registry _ rfl⟩

end Shell

end Sluice
