import Sluice.Proofs.Order.Failures
import Sluice.Proofs.Program.Flattening
import Sluice.Proofs.Program.Names
import Sluice.Proofs.Shell.Showing

/-!
# Programs that yield to interrupts

A line's commands do not go on behind an interrupt: the first request without an answer is the last
one. And none of them comes to a failure for an unknown command. `Act.Yields` says both of a program,
by recursion on the program; it holds of every command that is registered
(`Registry.yields_dispatch`), and of every line whose names have been resolved
(`Shell.yields_runLine`).
-/

namespace Sluice

variable {α β : Type}

/-! ## Results without an unknown command -/

/-- The result is no failure for an unknown command. -/
def Recognized (r : Except Failure α) : Prop :=
  ∀ name, r ≠ .error (.unknownCommand name)

theorem recognized_ok (a : α) : Recognized (.ok a) := nofun

namespace Recognized

theorem bind {r : Except Failure α} {f : α → Except Failure β} (hr : Recognized r)
    (hf : ∀ a, Recognized (f a)) : Recognized (r >>= f) := by
  cases r with
  | error failure =>
      rintro name ⟨⟩
      exact hr name rfl
  | ok a => exact hf a

theorem map {r : Except Failure α} (hr : Recognized r) (f : α → β) : Recognized (r.map f) := by
  intro name h
  exact hr name (map_eq_error h)

end Recognized

section Templates

variable (s : Session)

theorem recognized_lookup (expression : String) : Recognized (s.lookup expression) :=
  fun _ h => failsOnly_lookup s expression _ h

theorem recognized_writeOut (ps : List Template.Piece) : Recognized (Template.writeOut s ps) := by
  induction ps with
  | nil => exact nofun
  | cons p ps ih =>
      cases p with
      | literal text => exact ih.map _
      | expression expr =>
          rw [Template.writeOut]
          cases h : s.lookup (String.ofList expr) with
          | error failure =>
              rintro name ⟨⟩
              exact recognized_lookup s _ name h
          | ok v => exact ih.map _

theorem recognized_resolveText (text : String) : Recognized (Template.resolve s text) := by
  unfold Template.resolve
  dsimp only
  split
  · exact recognized_lookup s _
  · exact (recognized_writeOut s _).map _

mutual

theorem recognized_resolve : ∀ v : Value, Recognized (v.resolve s)
  | .str text => recognized_resolveText s text
  | .seq items => (recognized_resolveItems items).map _
  | .map fields => (recognized_resolveFields fields).map _
  | .null | .bool _ | .num _ => nofun

theorem recognized_resolveItems : ∀ xs : List Value, Recognized (Value.resolveItems s xs)
  | [] => nofun
  | x :: xs => by
    rw [Value.resolveItems]
    cases h : x.resolve s with
    | error failure =>
        rintro name ⟨⟩
        exact recognized_resolve x name h
    | ok v => exact (recognized_resolveItems xs).map _

theorem recognized_resolveFields :
    ∀ fs : List (String × Value), Recognized (Value.resolveFields s fs)
  | [] => nofun
  | (k, x) :: fs => by
    rw [Value.resolveFields]
    cases h : x.resolve s with
    | error failure =>
        rintro name ⟨⟩
        exact recognized_resolve x name h
    | ok v => exact (recognized_resolveFields fs).map _

end

end Templates

/-! ## Reading orders -/

namespace Order

variable (args : Arguments)

theorem recognized_refuse (fault : ArgumentFault) :
    Recognized (.error (args.refuse fault) : Except Failure α) := nofun

theorem recognized_check (shape : Shape) : Recognized (shape.check args) := by
  unfold Shape.check
  split
  · exact recognized_refuse args _
  · exact recognized_ok _

theorem recognized_needText (index : Nat) (what : String) :
    Recognized (args.needText index what) := by
  unfold Arguments.needText
  split
  · exact recognized_ok _
  · exact recognized_refuse args _

theorem recognized_alone (order : Order) : Recognized (alone order args) :=
  (recognized_check args _).bind fun _ => recognized_ok order

theorem recognized_withText (what : String) (make : String → Order) :
    Recognized (withText what make args) :=
  (recognized_check args _).bind fun _ =>
    (recognized_needText args 0 what).bind fun text => recognized_ok (make text)

theorem recognized_sessionName : Recognized (sessionName args) := by
  refine (recognized_needText args 0 "name").bind fun name => ?_
  split
  · exact recognized_ok name
  · exact recognized_refuse args _

theorem recognized_readConnect : Recognized (readConnect args) := by
  refine (recognized_check args _).bind fun _ => ?_
  refine (recognized_needText args 0 "source").bind fun source => ?_
  split
  · exact nofun
  · split
    · exact nofun
    · exact nofun

theorem recognized_readVar : Recognized (readVar args) := by
  unfold readVar
  split
  · exact recognized_alone args _
  · exact recognized_withText args _ _
  · exact recognized_withText args _ _
  · exact recognized_alone args _
  · exact nofun

theorem recognized_readSession : Recognized (readSession args) := by
  unfold readSession
  split
  · exact recognized_alone args _
  · exact (recognized_check args _).bind fun _ =>
      (recognized_sessionName args).bind fun name => recognized_ok _
  · exact (recognized_check args _).bind fun _ =>
      (recognized_sessionName args).bind fun name => recognized_ok _
  · exact (recognized_check args _).bind fun _ =>
      (recognized_sessionName args).bind fun name => recognized_ok _
  · exact recognized_alone args _
  · exact nofun

theorem recognized_readAsset (kind : AssetKind) : Recognized (readAsset kind args) := by
  unfold readAsset
  split
  · exact recognized_alone args _
  · refine (recognized_check args _).bind fun _ => ?_
    split
    · exact recognized_refuse args _
    · cases kind <;> exact recognized_ok _
  · exact nofun

theorem recognized_readInvoke : Recognized (readInvoke args) :=
  (recognized_check args _).bind fun _ => (recognized_needText args 0 "alias").bind fun _ =>
    (recognized_needText args 1 "action").bind fun _ => recognized_ok _

theorem recognized_readWorkspace : Recognized (readWorkspace args) := by
  unfold readWorkspace
  split
  · exact recognized_alone args _
  · exact recognized_withText args _ _
  · exact recognized_withText args _ _
  · exact nofun

theorem recognized_readEcho : Recognized (readEcho args) := by
  refine (recognized_check args _).bind fun _ => ?_
  split
  · exact recognized_ok _
  · exact recognized_refuse args _

theorem recognized_read (command : Command) : Recognized (Order.read command args) := by
  cases command with
  | connect => exact recognized_readConnect args
  | connections => exact recognized_alone args _
  | disconnect => exact recognized_withText args _ _
  | var => exact recognized_readVar args
  | inspect => exact recognized_withText args _ _
  | session => exact recognized_readSession args
  | asset kind => exact recognized_readAsset args kind
  | invoke => exact recognized_readInvoke args
  | workspace => exact recognized_readWorkspace args
  | echo => exact recognized_readEcho args
  | format => exact recognized_alone args _
  | help => exact recognized_alone args _

end Order

/-- The only name that a command can be unknown by is its own. -/
theorem Intent.recognized_order {registry : Registry} {i : Intent}
    (h : registry.contains i.name = true) (s : Session) (piped : Bool) :
    Recognized (i.order registry s piped) := by
  obtain ⟨command, hcommand⟩ := Option.isSome_iff_exists.1 h
  unfold Intent.order
  rw [hcommand]
  have hargs : Recognized (i.resolve s) :=
    (recognized_resolveItems s _).bind fun _ =>
      (recognized_resolveFields s _).bind fun _ => recognized_ok _
  refine hargs.bind fun args => (Order.recognized_read args command).bind fun order => ?_
  split
  · exact nofun
  · exact recognized_ok _

/-! ## Jobs -/

/-- Every interrupt ends the job at once, and it does not fail for an unknown command. -/
def Job.Yields (m : Job α) : Prop :=
  Act.Yields Recognized m.run

theorem Job.yields_iff (m : Job α) :
    m.Yields ↔ m.FailsAs fun failure => ∀ name, failure ≠ .unknownCommand name :=
  ⟨fun h => Act.Yields.mono h fun _ hr _ heq name hname => hr name (hname ▸ heq),
    fun h => Act.Yields.mono h fun _ hr name heq => hr _ heq name rfl⟩

theorem Registry.yields_dispatch {registry : Registry} {i : Intent}
    (h : registry.contains i.name = true) (input : Option Value) :
    Job.Yields (registry.dispatch i input) := by
  refine (Job.yields_iff _).2 (Job.FailsAs.session.bind fun s => ?_)
  refine Job.FailsAs.bind (.ofExcept fun _ heq name hname => ?_) fun r => ?_
  · exact Intent.recognized_order h s _ name (hname ▸ heq)
  · refine (Order.failsAs_execute registry r.2 input r.1).mono fun failure hwork name hname => ?_
    rw [hname] at hwork
    exact hwork

/-! ## Pipelines and lines -/

/-- The run has not failed for an unknown command, at whatever stage. -/
def Progress.Recognized {α : Type} (p : Progress α) : Prop :=
  ∀ place name, p.result ≠ .error ⟨place, .unknownCommand name⟩

namespace Shell

variable {shell : Shell}

theorem yields_runCommands {is : List Intent}
    (h : ∀ i ∈ is, shell.registry.contains i.name = true) (input : Option Value) (begun : Nat) :
    (runCommands shell.dispatcher is input begun).Yields Progress.Recognized := by
  induction is generalizing input begun with
  | nil => exact nofun
  | cons i is ih =>
      rw [List.forall_mem_cons] at h
      refine Act.Yields.bind (Registry.yields_dispatch h.1 input) fun r hr => ?_
      cases r with
      | ok v => exact ih h.2 (some v) (begun + 1)
      | error failure =>
          rintro place name ⟨⟩
          exact hr name rfl

theorem yields_pipeline {p : Pipeline} (hp : p.Filled)
    (h : ∀ i ∈ p.commands, shell.registry.contains i.name = true) :
    (p.run shell.dispatcher none).Yields Progress.Recognized := by
  rw [Pipeline.run_eq_runCommands shell.dispatcher hp none]
  refine Act.Yields.bind (yields_runCommands h none 0) fun p hp => ?_
  intro place name hfail
  exact hp place name (map_eq_error hfail)

theorem yields_bindResult (line name : String) (v : Value) :
    (bindResult line name v).Yields fun _ => True := by
  refine Act.Yields.bind (.perform (I := live) (.consult .clock)) fun seconds _ => ?_
  refine Act.Yields.bind (.perform (I := live) .session) fun s _ => ?_
  exact .perform (I := live) (.replace _)

theorem yields_conclude (line : String) (program : Program) {p : Progress Value}
    (hp : p.Recognized) :
    (shell.conclude line program p).Yields fun r =>
      ∀ place name, r ≠ .error ⟨place, .unknownCommand name⟩ := by
  unfold conclude
  cases hresult : p.result with
  | error failure =>
      rintro place name ⟨⟩
      exact hp place name hresult
  | ok v =>
      cases program.target with
      | none => exact nofun
      | some name => exact (yields_bindResult line name v).bind fun _ _ => nofun

theorem program_of_parse (shell : Shell) {line : String} {tree : Line} (h : parse line = .ok tree) :
    shell.program line = tree.build shell.registry := by
  unfold program
  rw [h]

theorem program_eq_ok {line : String} {program : Program} (h : shell.program line = .ok program) :
    ∃ tree, parse line = .ok tree ∧ tree.build shell.registry = .ok program := by
  cases hparse : parse line with
  | error e =>
      unfold Shell.program at h
      rw [hparse] at h
      cases h
  | ok tree =>
      rw [program_of_parse shell hparse] at h
      exact ⟨tree, rfl, h⟩

/-- A line does not go on behind an interrupt, and it fails for an unknown command only if it has no
program for that reason. -/
theorem yields_runLine (shell : Shell) (line : String) :
    (shell.runLine shell.dispatcher line).Yields fun r =>
      ∀ place name, r = .error ⟨place, .unknownCommand name⟩ →
        place = none ∧ shell.program line = .error (.unknownCommand name) := by
  cases hremark : isRemark line with
  | true =>
      unfold runLine
      rw [if_pos hremark]
      exact nofun
  | false =>
      cases hprogram : shell.program line with
      | error failure =>
          rw [runLine_of_program_error hremark hprogram]
          rintro place name ⟨⟩
          exact ⟨rfl, rfl⟩
      | ok program =>
          obtain ⟨tree, -, hbuild⟩ := program_eq_ok hprogram
          have hcommands := (Line.names_of_build hbuild).2
          rw [runLine_eq_conclude hremark hprogram]
          have hrun := yields_pipeline (Line.filled_of_build hbuild) hcommands
          refine (hrun.bind fun p hp => yields_conclude line program hp).mono ?_
          exact fun r hr place name h => absurd h (hr place name)

end Shell

end Sluice
