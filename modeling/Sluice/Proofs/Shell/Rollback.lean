import Sluice.Proofs.Shell.Live
import Sluice.Proofs.Tree.Recognition
import Sluice.Shell

/-!
# A line that fails leaves no trace

The commands of a line work on the live session, and an interrupt may come while any of them waits.
Whatever they did to the session before a line fails is undone, and a line that binds a name changes
nothing but that name beyond what its commands did.

* `Shell.run_execute` : how the outcome of a line follows from the run of its commands;
* `Shell.execute_restores` : the session after a failure, after a line that cannot be read, and after
  a binding.
-/

namespace Sluice

/-! ## One variable more -/

/-- The sessions differ at most in one variable, which is there in the second one. -/
structure Session.Sets (v : Variable) (s t : Session) : Prop where
  entry : t.entry? v.name = some v
  others : ∀ name, name ≠ v.name → t.entry? name = s.entry? name
  connections : t.byAlias = s.byAlias
  active : t.active = s.active

theorem Session.sets_setVariable (s : Session) (now name : String) (value : Value) (source : String) :
    Sets ⟨name, value, now, source⟩ s (s.setVariable now name value source) where
  entry := Keyed.value?_insert_self name (⟨name, value, now, source⟩ : Variable) s.byName
  others _ h := Keyed.value?_insert_of_ne h (⟨name, value, now, source⟩ : Variable) s.byName
  connections := rfl
  active := rfl

/-! ## The outcome of a line -/

theorem Outcome.ofResult_ne_bound (v : Value) (d : Directives) (defaults : OutputDefaults)
    (name : String) : Outcome.ofResult v d defaults ≠ .bound name := by
  unfold Outcome.ofResult
  split <;> simp

namespace Shell

variable {ω : Type} (world : (q : ServiceRequest) → ω → Option q.Answer × ω)

/-- The session that a line leaves, from what its run came to and where it left the session. -/
def settle (before : Session) :
    Option (Except PipelineFailure Outcome) × Session → Except PipelineFailure Outcome × Session
  | (some (.ok outcome), s) => (.ok outcome, s)
  | (some (.error failure), _) => (.error failure, before)
  | (none, _) => (.error ⟨none, .interrupted⟩, before)

theorem run_execute (shell : Shell) (line : String) (s : Session) (w : ω) :
    (shell.execute line s).run (I := service) world w =
      let r := (shell.runLine shell.dispatcher line).runLive world s w
      (some (settle s (r.1, r.2.1)), r.2.2) := by
  refine (Act.run_bind (I := service) world _ _ w).trans ?_
  rw [Act.run_onSession]
  rcases (shell.runLine shell.dispatcher line).runLive world s w with ⟨_ | _ | _, s', w'⟩ <;> rfl

theorem settle_error {before s' : Session} {r : Option (Except PipelineFailure Outcome) × Session}
    {failure : PipelineFailure} (h : settle before r = (.error failure, s')) : s' = before := by
  rcases r with ⟨_ | _ | _, s⟩ <;> simp_all [settle]

theorem settle_ok {before s' : Session} {r : Option (Except PipelineFailure Outcome) × Session}
    {outcome : Outcome} (h : settle before r = (.ok outcome, s')) : r = (some (.ok outcome), s') := by
  rcases r with ⟨_ | _ | _, s⟩ <;> simp_all [settle]

theorem runLine_of_program_error {shell : Shell} {line : String} {failure : Failure}
    (hline : isRemark line = false) (h : shell.program line = .error failure)
    (dispatch : Dispatcher (Act live)) :
    shell.runLine dispatch line = .done (.error ⟨none, failure⟩) := by
  rw [runLine, hline, h]
  rfl

theorem runLive_bindResult (line name : String) (v : Value) (s : Session) (w : ω) :
    (bindResult line name v).runLive world s w =
      match world .clock w with
      | (some seconds, w) =>
        (some (), (s.setVariable (timestamp seconds) name v (Text.trim line), w))
      | (none, w) => (none, (s, w)) := by
  rw [bindResult, Act.runLive_bind, Act.runLive_consult]
  rcases world .clock w with ⟨_ | seconds, w'⟩
  · rfl
  · rfl

/-- What has happened when a line has bound a name. -/
theorem runLine_bound {shell : Shell} {dispatch : Dispatcher (Act live)} {line name : String}
    {s s' : Session} {w w' : ω}
    (h : (shell.runLine dispatch line).runLive world s w = (some (.ok (.bound name)), (s', w'))) :
    ∃ program begun v after w₁ seconds, shell.program line = .ok program ∧
      program.target = some name ∧
      (program.pipeline.run dispatch none).runLive world s w =
        (some ⟨begun, .ok v⟩, (after, w₁)) ∧
      world .clock w₁ = (some seconds, w') ∧
      s' = after.setVariable (timestamp seconds) name v (Text.trim line) := by
  unfold runLine at h
  split at h
  · cases h
  · cases hp : shell.program line with
    | error failure =>
        rw [hp] at h
        cases h
    | ok program =>
        rw [hp] at h
        simp only [Act.runLive_bind] at h
        rcases hr : (program.pipeline.run dispatch none).runLive world s w with
          ⟨_ | ⟨begun, _ | v⟩, after, w₁⟩
        · rw [hr] at h
          cases h
        · rw [hr] at h
          cases h
        · rw [hr] at h
          cases ht : program.target with
          | none =>
              rw [ht] at h
              obtain ⟨hout, -⟩ := Prod.mk.inj h
              injection hout with hout
              injection hout with hout
              exact absurd hout (Outcome.ofResult_ne_bound _ _ _ _)
          | some target =>
              rw [ht] at h
              simp only [Act.runLive_bind, runLive_bindResult] at h
              rcases hc : world .clock w₁ with ⟨_ | seconds, w₂⟩
              · rw [hc] at h
                cases h
              · rw [hc] at h
                cases h
                exact ⟨program, begun, v, after, w₁, seconds, rfl, ht, hr, hc, rfl⟩

/-- Whatever the services answer, wherever an interrupt comes and whatever the commands of a line
have done to the session by then: after a failure the session is what it was before the line; a line
that cannot be read asks nobody for anything, and its outcome has nothing to do with what commands
would do; and behind a binding stands the session that the commands left, with the one name set. -/
theorem execute_restores (shell : Shell) (forestalled : Bool) (line : String) (s : Session) (w : ω) :
    ∃ result s' w',
      (shell.executeOrCancel forestalled line s).run (I := service) world w =
        (some (result, s'), w') ∧
      (∀ failure, result = .error failure → s' = s) ∧
      (∀ failure, isRemark line = false → shell.program line = .error failure →
        w' = w ∧ (forestalled = false → result = .error ⟨none, failure⟩) ∧
          ∀ dispatch, shell.runLine dispatch line = .done (.error ⟨none, failure⟩)) ∧
      (∀ name, result = .ok (.bound name) →
        ∃ program begun v after w₁ seconds, shell.program line = .ok program ∧
          program.target = some name ∧
          (program.pipeline.run shell.dispatcher none).runLive world s w =
            (some ⟨begun, .ok v⟩, (after, w₁)) ∧
          world .clock w₁ = (some seconds, w') ∧
          s' = after.setVariable (timestamp seconds) name v (Text.trim line) ∧
          Session.Sets ⟨name, v, timestamp seconds, Text.trim line⟩ after s') := by
  unfold executeOrCancel
  split
  · next hf =>
    refine ⟨_, s, w, rfl, fun _ _ => rfl, fun failure hline hp => ⟨rfl, ?_, ?_⟩, fun name h => ?_⟩
    · intro h
      rw [hf] at h
      cases h
    · exact runLine_of_program_error hline hp
    · cases h
  · next hf =>
    rcases hr : (shell.runLine shell.dispatcher line).runLive world s w with ⟨r, left, w'⟩
    rcases hs : settle s (r, left) with ⟨result, s'⟩
    have hrun := run_execute world shell line s w
    simp only [hr, hs] at hrun
    refine ⟨result, s', w', hrun, fun failure h => ?_, fun failure hline hp => ?_, fun name h => ?_⟩
    · rw [h] at hs
      exact settle_error hs
    · rw [runLine_of_program_error hline hp] at hr
      cases hr
      obtain ⟨rfl, rfl⟩ := Prod.mk.inj hs
      exact ⟨rfl, fun _ => rfl, runLine_of_program_error hline hp⟩
    · rw [h] at hs
      obtain ⟨rfl, rfl⟩ := Prod.mk.inj (settle_ok hs)
      obtain ⟨program, begun, v, after, w₁, seconds, hp, ht, hpipe, hclock, rfl⟩ :=
        runLine_bound world hr
      exact ⟨program, begun, v, after, w₁, seconds, hp, ht, hpipe, hclock, rfl,
        after.sets_setVariable (timestamp seconds) name v (Text.trim line)⟩

/-- Scripts are found and never end. -/
def hangingScripts : (q : ServiceRequest) → Unit → Option q.Answer × Unit
  | .asset _ name, w => (some (.ok ⟨systemSpace, name, name⟩), w)
  | _, w => (none, w)

def varAndScript : Shell :=
  ⟨⟨[("script", .asset .script), ("var", .var)]⟩, ⟨"auto", 48⟩⟩

def oneVariable : Session :=
  ⟨[("x", ⟨"x", .bool true, "", ""⟩)], [], none⟩

def clearThenRun : Program :=
  ⟨none, ⟨[.command ⟨"var", some "clear", [], [], false, ⟨0, 9⟩⟩,
    .command ⟨"script", some "run", [.str "a"], [], true, ⟨12, 24⟩⟩], .none⟩⟩

open Grammar in
theorem parse_clearThenRun : parse "var clear | script run a" =
    .ok ⟨none, .pipe (.stage (.call ⟨"var", [.word "clear" ⟨4, 9⟩], [], ⟨0, 9⟩⟩))
      (.call ⟨"script", [.word "run" ⟨19, 22⟩, .word "a" ⟨23, 24⟩], [], ⟨12, 24⟩⟩)⟩ := by
  have htokens : tokenize "var clear | script run a" =
      .ok [⟨.word "var", "var", ⟨0, 3⟩⟩, ⟨.word "clear", "clear", ⟨4, 9⟩⟩, ⟨.pipe, "|", ⟨10, 11⟩⟩,
        ⟨.word "script", "script", ⟨12, 18⟩⟩, ⟨.word "run", "run", ⟨19, 22⟩⟩,
        ⟨.word "a", "a", ⟨23, 24⟩⟩, ⟨.finish, "", ⟨24, 24⟩⟩] :=
    eq_ok_of_toOption (by decide +kernel)
  have hclear : ReadsCall true [⟨.word "var", "var", ⟨0, 3⟩⟩, ⟨.word "clear", "clear", ⟨4, 9⟩⟩]
      ⟨"var", [.word "clear" ⟨4, 9⟩], [], ⟨0, 9⟩⟩ :=
    .call rfl .none (.operand (.word rfl) .nil)
  have hscript : ReadsCall true [⟨.word "script", "script", ⟨12, 18⟩⟩,
      ⟨.word "run", "run", ⟨19, 22⟩⟩, ⟨.word "a", "a", ⟨23, 24⟩⟩]
      ⟨"script", [.word "run" ⟨19, 22⟩, .word "a" ⟨23, 24⟩], [], ⟨12, 24⟩⟩ :=
    .call rfl .none (.operand (.word rfl) (.operand (.word rfl) .nil))
  exact parse_of_reads htokens (.chain
    (.pipe (b := ⟨.pipe, "|", ⟨10, 11⟩⟩) (.stage (.call hclear)) rfl (.call hscript))
    (e := ⟨.finish, "", ⟨24, 24⟩⟩) rfl)

theorem program_clearThenRun :
    varAndScript.program "var clear | script run a" = .ok clearThenRun := by
  unfold program
  rw [parse_clearThenRun]
  rfl

/-- The first command has cleared the variables when the interrupt comes, and yet they are kept. -/
theorem execute_restores_cleared :
    (clearThenRun.pipeline.run varAndScript.dispatcher none).runLive hangingScripts oneVariable () =
        (none, (⟨[], [], none⟩, ())) ∧
      (varAndScript.executeOrCancel false "var clear | script run a" oneVariable).run
        (I := service) hangingScripts () = (some (.error ⟨none, .interrupted⟩, oneVariable), ()) := by
  have hstops : ((clearThenRun.pipeline.run varAndScript.dispatcher none).runLive hangingScripts
      oneVariable ()).1.isNone = true := by decide +kernel
  have hleft : ((clearThenRun.pipeline.run varAndScript.dispatcher none).runLive hangingScripts
      oneVariable ()).2.1 = ⟨[], [], none⟩ := by decide +kernel
  have hpipe : (clearThenRun.pipeline.run varAndScript.dispatcher none).runLive hangingScripts
      oneVariable () = (none, (⟨[], [], none⟩, ())) :=
    Prod.ext (Option.isNone_iff_eq_none.1 hstops) (Prod.ext hleft rfl)
  have hline : (varAndScript.runLine varAndScript.dispatcher "var clear | script run a").runLive
      hangingScripts oneVariable () = (none, (⟨[], [], none⟩, ())) := by
    rw [runLine, if_neg (by decide), program_clearThenRun]
    simp only [Act.runLive_bind, hpipe]
  have hexec := run_execute hangingScripts varAndScript "var clear | script run a" oneVariable ()
  rw [hline] at hexec
  obtain ⟨result, s', w', hrun, herr, -, -⟩ :=
    execute_restores hangingScripts varAndScript false "var clear | script run a" oneVariable ()
  have hfail : result = .error ⟨none, .interrupted⟩ :=
    congrArg Prod.fst (Option.some.inj (congrArg Prod.fst (hrun.symm.trans hexec)))
  rw [herr _ hfail, hfail] at hrun
  exact ⟨hpipe, hrun⟩

end Shell

end Sluice
