import Sluice.Proofs.Shell.Yielding

/-!
# Unknown commands come to light first

A line with a call that has no command, in whatever group, is refused as it is, whatever its other
calls are: nothing of it is dispatched. And a line that has a program has a command for every call,
so that its run fails for no unknown command (`Shell.unknown_before_running`).
-/

namespace Sluice.Shell

variable {shell : Shell} {line : String}

/-- What a line comes to that has no program. -/
theorem runLine_of_no_program {failure : Failure} (h : shell.program line = .error failure)
    (dispatch : Dispatcher (Act live)) :
    shell.runLine dispatch line =
      .done (if isRemark line then .ok .empty else .error ⟨none, failure⟩) := by
  cases hremark : isRemark line with
  | true =>
      unfold runLine
      rw [hremark]
      rfl
  | false => exact runLine_of_program_error hremark h dispatch

/-- A call without a command leaves the line without a program. -/
theorem no_program_of_unknown {tree : Line} (hparse : parse line = .ok tree) {c : Call}
    (hc : c ∈ tree.chain.calls) (hunknown : ¬ c.Known shell.registry) :
    ∃ failure, shell.program line = .error failure := by
  rw [program_of_parse shell hparse]
  cases hbuild : tree.build shell.registry with
  | error failure => exact ⟨failure, rfl⟩
  | ok program => exact absurd ((Line.names_of_build hbuild).1 c hc) hunknown

/-- No line that has a program comes to a failure for an unknown command. -/
theorem execute_recognized {ω : Type} (world : (q : ServiceRequest) → ω → Option q.Answer × ω)
    {program : Program} (hprogram : shell.program line = .ok program) (s : Session) (w : ω) :
    ∃ result s' w', (shell.execute line s).run (I := service) world w = (some (result, s'), w') ∧
      ∀ place name, result ≠ .error ⟨place, .unknownCommand name⟩ := by
  rw [run_execute]
  refine ⟨_, _, _, rfl, ?_⟩
  have hresult := (yields_runLine shell line).run (JobRequest.inWorld world) (s, w)
  change ∀ a ∈ ((shell.runLine shell.dispatcher line).runLive world s w).1, _ at hresult
  intro place name hfail
  rcases hrun : ((shell.runLine shell.dispatcher line).runLive world s w).1 with _ | failure | outcome
  · rw [hrun] at hfail
    cases hfail
  · rw [hrun] at hfail hresult
    have hunknown := (hresult _ rfl place name hfail).2
    rw [hprogram] at hunknown
    cases hunknown
  · rw [hrun] at hfail
    cases hfail

/-- A call with a name that stands for no command, in whatever group of a line, keeps the line from
running: it has no program, whatever its calls would do is not begun, and the session stays. It is
only for such a call that a line fails for an unknown command. In a line that has a program all
commands are registered, the rewritten ones included, and neither the pipeline nor the line fails for
an unknown command at any stage, whatever the services answer and wherever an interrupt comes. -/
theorem unknown_before_running (shell : Shell) {tree : Line} (hparse : parse line = .ok tree) :
    ((∃ c ∈ tree.chain.calls, ¬ c.Known shell.registry) →
      ∃ failure, shell.program line = .error failure ∧
        (∀ dispatch, shell.runLine dispatch line =
          .done (if isRemark line then .ok .empty else .error ⟨none, failure⟩)) ∧
        ∀ s, shell.execute line s =
          .done (if isRemark line then .ok .empty else .error ⟨none, failure⟩, s)) ∧
    (∀ name, shell.program line = .error (.unknownCommand name) →
      ∃ c ∈ tree.chain.calls, c.name = name ∧ ¬ c.Known shell.registry) ∧
    ∀ program, shell.program line = .ok program →
      (∀ i ∈ program.pipeline.commands, shell.registry.contains i.name = true) ∧
      ∀ (ω : Type) (world : (q : ServiceRequest) → ω → Option q.Answer × ω) (s : Session) (w : ω),
        (∀ p ∈ ((program.pipeline.run shell.dispatcher none).runLive world s w).1, p.Recognized) ∧
        ∃ result s' w',
          (shell.execute line s).run (I := service) world w = (some (result, s'), w') ∧
            ∀ place name, result ≠ .error ⟨place, .unknownCommand name⟩ := by
  refine ⟨?_, fun name hname => ?_, fun program hprogram => ⟨?_, fun ω world s w => ⟨?_, ?_⟩⟩⟩
  · rintro ⟨c, hc, hunknown⟩
    obtain ⟨failure, hfailure⟩ := no_program_of_unknown hparse hc hunknown
    refine ⟨failure, hfailure, runLine_of_no_program hfailure, fun s => ?_⟩
    rw [execute_eq_settle, runLine_of_no_program hfailure]
    cases isRemark line with
    | true => rfl
    | false => rfl
  · rw [program_of_parse shell hparse] at hname
    exact Line.exists_unknown_of_build hname
  · rw [program_of_parse shell hparse] at hprogram
    exact (Line.names_of_build hprogram).2
  · rw [program_of_parse shell hparse] at hprogram
    exact (yields_pipeline (Line.filled_of_build hprogram) (Line.names_of_build hprogram).2).run
      (JobRequest.inWorld world) (s, w)
  · exact execute_recognized world hprogram s w

def echoAndFormat : Shell :=
  ⟨⟨[("echo", .echo), ("format", .format)]⟩, ⟨"auto", 48⟩⟩

/-- The last group of the line names no command; once there is `var` it reads a variable. -/
theorem unknown_before_running_groupedLine :
    echoAndFormat.execute groupedLine .empty =
        .done (.error ⟨none, .unknownCommand "pets"⟩, .empty) ∧
      ∃ program, Shell.program ⟨.builtin [], ⟨"auto", 48⟩⟩ groupedLine = .ok program ∧
        program.pipeline.commands.map Intent.name = ["echo", "format", "var"] ∧
        ∀ i ∈ program.pipeline.commands, (Registry.builtin []).contains i.name = true := by
  have hunknown : ¬ (⟨"pets", [], [], ⟨23, 27⟩⟩ : Call).Known echoAndFormat.registry := by
    rintro (h | ⟨h, -⟩ | ⟨h, -⟩)
    · exact absurd h (by decide)
    · exact absurd h (by decide)
    · exact absurd h (by decide)
  have hpets : (⟨"pets", [], [], ⟨23, 27⟩⟩ : Call) ∈ groupedTree.chain.calls := by
    simp [groupedTree, Chain.calls, Stage.calls]
  constructor
  · obtain ⟨hrefused, -, -⟩ := unknown_before_running echoAndFormat parse_groupedLine
    obtain ⟨failure, hfailure, -, hexecute⟩ := hrefused ⟨_, hpets, hunknown⟩
    rw [program_of_parse echoAndFormat parse_groupedLine] at hfailure
    obtain rfl : failure = .unknownCommand "pets" := (Except.error.inj hfailure).symm
    exact hexecute .empty
  · have hprogram := program_of_parse ⟨.builtin [], ⟨"auto", 48⟩⟩ parse_groupedLine
    obtain ⟨-, -, hregistered⟩ :=
      unknown_before_running ⟨.builtin [], ⟨"auto", 48⟩⟩ parse_groupedLine
    exact ⟨_, hprogram, rfl, (hregistered _ hprogram).1⟩

end Sluice.Shell
