import Sluice.Proofs.Program.Flattening
import Sluice.Proofs.Shell.Orders
import Sluice.Proofs.Shell.Rollback
import Sluice.Proofs.Tree.Recognition

/-!
# Sessions that lines lead to

From an empty session, one line after the other, whatever the lines are, whatever the services answer
and wherever an interrupt comes (`Session.Reachable`): every such session is in order
(`Session.Reachable.valid`).

* The arguments of a line's commands are scalars, so that they are well-formed;
* a pipeline of such commands keeps the session in order, group by group;
* a line leaves what its pipeline left, with one variable set, or what was there before.
-/

namespace Sluice

/-! ## The arguments of a line -/

def Call.Plain (c : Call) : Prop :=
  ∀ o ∈ c.positional, o.value.Distinct

namespace Grammar

theorem ReadsOperand.distinct {t : Token} {o : Operand} (h : ReadsOperand t o) :
    o.value.Distinct := by
  cases h with
  | word _ => unfold Operand.value; split <;> simp_all
  | quoted _ => simp [Operand.value]
  | number _ => simp [Operand.value]
  | point _ => unfold Operand.value; split <;> simp_all

theorem ReadsArguments.distinct {greedy : Bool} {ts : List Token} {os : List Operand}
    {fs : List FlagNode} (h : ReadsArguments greedy ts os fs) : ∀ o ∈ os, o.value.Distinct := by
  induction h with
  | nil => nofun
  | operand ho _ ih => exact List.forall_mem_cons.2 ⟨ho.distinct, ih⟩
  | flag _ _ _ ih => exact ih

theorem ReadsItems.distinct {ts : List Token} {os : List Operand} {fs : List FlagNode}
    (h : ReadsItems ts os fs) : ∀ o ∈ os, o.value.Distinct := by
  have hitem : ∀ {ts os fs}, ReadsItem ts os fs → ∀ o ∈ os, o.value.Distinct := by
    rintro _ _ _ (ho | _)
    · exact List.forall_mem_singleton.2 ho.distinct
    · nofun
  induction h with
  | one h => exact hitem h
  | more h _ _ ih => exact List.forall_mem_append.2 ⟨hitem h, ih⟩

theorem ReadsCall.plain {greedy : Bool} {ts : List Token} {c : Call} (h : ReadsCall greedy ts c) :
    c.Plain := by
  obtain ⟨-, hl, ha⟩ := h
  refine List.forall_mem_append.2 ⟨?_, ha.distinct⟩
  cases hl with
  | none => nofun
  | empty _ _ _ => nofun
  | items _ _ hitems _ => exact hitems.distinct

mutual

theorem ReadsStage.plain {greedy : Bool} : ∀ {s : Stage} {ts : List Token},
    ReadsStage greedy ts s → ∀ c ∈ s.calls, c.Plain
  | .call _, _, .call h => List.forall_mem_singleton.2 h.plain
  | .group _ _ _, _, .group _ h _ _ => h.plain

theorem ReadsChain.plain {greedy : Bool} : ∀ {c : Chain} {ts : List Token},
    ReadsChain greedy ts c → ∀ call ∈ c.calls, call.Plain
  | .stage _, _, .stage h => h.plain
  | .pipe _ _, _, .pipe hl _ hr => List.forall_mem_append.2 ⟨hl.plain, hr.plain⟩

end

end Grammar

theorem Tree.plain_of_line {source : String} {ts : List Token} {tree : Line}
    (h : Tree.line source ts = .ok tree) : ∀ c ∈ tree.chain.calls, c.Plain := by
  have hwhole : ∃ rest, Tree.wholeChain source rest = .ok tree.chain := by
    unfold Tree.line at h
    split at h
    · cases h
    · split at h
      · split at h
        · split at h
          · cases h
          · split at h
            · cases h
            · obtain ⟨c, hc, rfl⟩ := map_eq_ok h
              exact ⟨_, hc⟩
        · obtain ⟨c, hc, rfl⟩ := map_eq_ok h
          exact ⟨_, hc⟩
      · obtain ⟨c, hc, rfl⟩ := map_eq_ok h
        exact ⟨_, hc⟩
  obtain ⟨rest, hwhole⟩ := hwhole
  obtain ⟨us, _, -, hus, -⟩ := Tree.wholeChain_sound hwhole
  exact Grammar.ReadsChain.plain hus

/-! ## The commands of a line -/

theorem Reading.distinct_supplied {registry : Registry} {name : String} {alone : Bool}
    {reading : Reading} (h : Reading.ofName registry name alone = .ok reading) :
    ∀ v ∈ reading.supplied, v.Distinct := by
  unfold Reading.ofName at h
  split at h
  · cases h
    nofun
  · split at h
    · cases h
      simp
    · split at h
      · cases h
        simp
      · cases h

theorem splitSubcommand_subset {takes : Bool} {operands : List Operand} {o : Operand}
    (h : o ∈ (splitSubcommand takes operands).2) : o ∈ operands := by
  unfold splitSubcommand at h
  split at h
  · split at h
    · exact List.mem_cons_of_mem _ h
    · exact h
  · exact h

theorem Intent.plain_ofCall {registry : Registry} {piped : Bool} {c : Call} (hc : c.Plain)
    {i : Intent} {d : Directives} (h : Intent.ofCall registry piped c = .ok (i, d)) : i.Plain := by
  unfold Intent.ofCall at h
  obtain ⟨reading, hreading, h⟩ := bind_eq_ok h
  cases h
  refine List.forall_mem_append.2 ⟨Reading.distinct_supplied hreading, fun v hv => ?_⟩
  obtain ⟨o, ho, rfl⟩ := List.mem_map.1 hv
  exact hc o (splitSubcommand_subset ho)

mutual

theorem Stage.plain_of_build {registry : Registry} {piped : Bool} :
    ∀ {stage : Stage} {step : Step} {d : Directives}, (∀ c ∈ stage.calls, c.Plain) →
      stage.build registry piped = .ok (step, d) → ∀ i ∈ step.commands, i.Plain
  | .call c, _, _, hc, h => by
    obtain ⟨i, hi, rfl⟩ := Stage.build_call h
    exact List.forall_mem_singleton.2 (Intent.plain_ofCall (hc c List.mem_cons_self) hi)
  | .group _ _ _, _, _, hc, h => by
    obtain ⟨p, hp, -, rfl⟩ := Stage.build_group h
    exact Chain.plain_of_build hc hp

theorem Chain.plain_of_build {registry : Registry} {piped : Bool} :
    ∀ {chain : Chain} {p : Pipeline}, (∀ c ∈ chain.calls, c.Plain) →
      chain.build registry piped = .ok p → ∀ i ∈ p.commands, i.Plain
  | .stage _, _, hc, h => by
    obtain ⟨step, d, hs, rfl⟩ := Chain.build_stage h
    rw [Pipeline.commands, Step.allCommands_singleton]
    exact Stage.plain_of_build hc hs
  | .pipe _ _, _, hc, h => by
    obtain ⟨q, step, d, hl, hr, rfl⟩ := Chain.build_pipe h
    obtain ⟨hleft, hright⟩ := List.forall_mem_append.1 hc
    rw [Pipeline.commands, Step.allCommands_append, Step.allCommands_singleton]
    exact List.forall_mem_append.2 ⟨Chain.plain_of_build hleft hl, Stage.plain_of_build hright hr⟩

end

theorem Shell.plain_of_program {shell : Shell} {line : String} {program : Program}
    (h : shell.program line = .ok program) : ∀ i ∈ program.pipeline.commands, i.Plain := by
  unfold Shell.program at h
  split at h
  · cases h
  · next tree htree =>
    obtain ⟨ts, -, hline⟩ := parse_eq_ok htree
    obtain ⟨p, hp, rfl⟩ := map_eq_ok h
    exact Chain.plain_of_build (Tree.plain_of_line hline) hp

/-! ## Runs -/

/-- The result of a run so far, if it has not failed, is well-formed. -/
def Progress.Plain (p : Progress Value) : Prop :=
  ∀ v, p.result = .ok v → v.Distinct

section Run

variable (shell : Shell)

theorem Intent.keeps_run {i : Intent} (hi : i.Plain) {input : Option Value}
    (hinput : ∀ v ∈ input, v.Distinct) (begun : Nat) :
    (i.run shell.dispatcher input begun).Keeps Progress.Plain := by
  have hdispatch := shell.registry.keeps_dispatch hi hinput
  refine Act.Keeps.bind hdispatch fun r hr => ?_
  cases r with
  | ok v =>
      rintro w ⟨⟩
      exact hr v rfl
  | error failure =>
      rintro w ⟨⟩

mutual

theorem Step.keeps_run : ∀ (s : Step) {input : Option Value} (begun : Nat),
    (∀ i ∈ s.commands, i.Plain) → (∀ v ∈ input, v.Distinct) →
      (s.run shell.dispatcher input begun).Keeps Progress.Plain
  | .command i, _, begun, hs, hinput => i.keeps_run shell (hs i List.mem_cons_self) hinput begun
  | .group steps _, _, begun, hs, hinput => by
    rw [Step.run]
    refine (Step.keeps_runAll steps begun hs hinput).bind fun p hp => ?_
    rintro v hv
    obtain ⟨r, hr, rfl⟩ := map_eq_ok hv
    cases r with
    | none => simp
    | some w => exact hp _ hr w rfl

theorem Step.keeps_runAll : ∀ (ss : List Step) {input : Option Value} (begun : Nat),
    (∀ i ∈ Step.allCommands ss, i.Plain) → (∀ v ∈ input, v.Distinct) →
      (Step.runAll shell.dispatcher ss input begun).Keeps
        fun p => ∀ r, p.result = .ok r → ∀ v ∈ r, v.Distinct
  | [], _, begun, _, hinput => by
    rintro r ⟨⟩
    exact hinput
  | s :: ss, _, begun, hs, hinput => by
    obtain ⟨hhead, htail⟩ := List.forall_mem_append.1 hs
    rw [Step.runAll]
    refine (Step.keeps_run s begun hhead hinput).bind fun p hp => ?_
    split
    · next v hv =>
      refine Step.keeps_runAll ss p.begun htail fun w hw => ?_
      cases hw
      exact hp v hv
    · rintro r ⟨⟩

end

theorem Pipeline.keeps_run {p : Pipeline} (hp : ∀ i ∈ p.commands, i.Plain) :
    (p.run shell.dispatcher none).Keeps Progress.Plain := by
  refine (Step.keeps_runAll shell p.steps 0 hp fun v hv => by cases hv).bind fun q hq => ?_
  intro v hv
  obtain ⟨r, hr, rfl⟩ := map_eq_ok hv
  cases r with
  | none => simp
  | some w => exact hq _ hr w rfl

theorem Shell.keeps_bindResult (line name : String) {v : Value} (hv : v.Distinct) :
    (bindResult line name v).Keeps fun _ => True := by
  refine (Act.Keeps.consult .clock).bind fun seconds _ => ?_
  refine Act.Keeps.session.bind fun s hs => ?_
  exact Act.Keeps.replace (hs.setVariable _ name _ hv)

theorem Shell.keeps_runLine (line : String) :
    (shell.runLine shell.dispatcher line).Keeps fun _ => True := by
  unfold runLine
  split
  · trivial
  · split
    · trivial
    · next program hprogram =>
      refine (Pipeline.keeps_run shell (plain_of_program hprogram)).bind fun p hp => ?_
      split
      · trivial
      · next v hv =>
        split
        · trivial
        · next name _ =>
          exact (keeps_bindResult line name (hp v hv)).bind fun _ _ => trivial

end Run

/-! ## Line after line -/

theorem Shell.valid_executeOrCancel {ω : Type} {world : (q : ServiceRequest) → ω → Option q.Answer × ω}
    (hworld : ServiceRequest.Fair world) (shell : Shell) (forestalled : Bool) (line : String)
    {s s' : Session} (hs : s.Valid) {w w' : ω} {result : Except PipelineFailure Outcome}
    (h : (shell.executeOrCancel forestalled line s).run (I := service) world w =
      (some (result, s'), w')) : s'.Valid := by
  unfold executeOrCancel at h
  split at h
  · cases h
    exact hs
  · rw [run_execute] at h
    have hleft := ((shell.keeps_runLine line).run hworld hs w).1
    generalize (shell.runLine shell.dispatcher line).runLive world s w = left at h hleft
    obtain ⟨r, left, w₁⟩ := left
    have hsettle : settle s (r, left) = (result, s') := Option.some.inj (congrArg Prod.fst h)
    rcases r with _ | _ | _
    · cases hsettle
      exact hs
    · cases hsettle
      exact hs
    · cases hsettle
      exact hleft

/-- Some lines, executed one after the other from an empty session, leave the session. The shell and
the world of services may be others for each line. -/
inductive Session.Reachable : Session → Prop where
  | start : Reachable .empty
  | line {s s' : Session} {ω : Type} {world : (q : ServiceRequest) → ω → Option q.Answer × ω}
      {shell : Shell} {forestalled : Bool} {line : String} {w w' : ω}
      {result : Except PipelineFailure Outcome} :
      Reachable s → ServiceRequest.Fair world →
        (shell.executeOrCancel forestalled line s).run (I := service) world w =
          (some (result, s'), w') → Reachable s'

theorem Session.Reachable.valid {s : Session} (h : s.Reachable) : s.Valid := by
  induction h with
  | start => exact Session.valid_empty
  | line _ hworld hrun ih => exact Shell.valid_executeOrCancel hworld _ _ _ ih hrun

end Sluice
