import Sluice.Program.Build
import Sluice.Program.Run
import Sluice.Proofs.Results

/-!
# Groups do not show in a run

A pipeline runs its commands as they follow one another from left to right, whatever groups stand
around them, as long as no group is empty:

* `Pipeline.run_eq_runCommands` : in any monad, a run is the left fold over the commands;
* `Threads` : commands that all succeed, each on the result of the one before it;
* `run_recording` : what a run dispatches, what it hands on, and where it stops.

The pipelines of built lines have no empty groups (`Line.filled_of_build`).
-/

namespace Sluice

/-! ## Pipelines without empty groups -/

mutual

/-- Every group inside holds a step. -/
def Step.Filled : Step → Prop
  | .command _ => True
  | .group steps _ => steps ≠ [] ∧ Step.AllFilled steps

def Step.AllFilled : List Step → Prop
  | [] => True
  | s :: ss => s.Filled ∧ Step.AllFilled ss

end

/-- Neither the pipeline nor a group inside it is empty. -/
def Pipeline.Filled (p : Pipeline) : Prop :=
  p.steps ≠ [] ∧ Step.AllFilled p.steps

theorem Step.allFilled_append {ss ts : List Step} :
    Step.AllFilled (ss ++ ts) ↔ Step.AllFilled ss ∧ Step.AllFilled ts := by
  induction ss with
  | nil => simp [Step.AllFilled]
  | cons s ss ih => simp [Step.AllFilled, ih, and_assoc]

mutual

theorem Step.commands_ne_nil : ∀ {s : Step}, s.Filled → s.commands ≠ []
  | .command _, _ => by simp [Step.commands]
  | .group steps _, h => by
    rw [Step.commands]
    exact Step.allCommands_ne_nil h.1 h.2

theorem Step.allCommands_ne_nil : ∀ {ss : List Step}, ss ≠ [] → Step.AllFilled ss →
    Step.allCommands ss ≠ []
  | [], h, _ => absurd rfl h
  | s :: ss, _, h => by
    rw [Step.allCommands]
    exact List.append_ne_nil_of_left_ne_nil (Step.commands_ne_nil h.1) _

end

/-! ## What building amounts to -/

section Build

variable {registry : Registry} {piped : Bool}

theorem Stage.build_call {c : Call} {step : Step} {d : Directives}
    (h : (Stage.call c).build registry piped = .ok (step, d)) :
    ∃ i, Intent.ofCall registry piped c = .ok (i, d) ∧ step = .command i := by
  obtain ⟨⟨i, d'⟩, hi, heq⟩ := map_eq_ok h
  cases heq
  exact ⟨i, hi, rfl⟩

theorem Stage.build_group {inner : Chain} {flags : List FlagNode} {span : Span} {step : Step}
    {d : Directives} (h : (Stage.group inner flags span).build registry piped = .ok (step, d)) :
    ∃ p, inner.build registry piped = .ok p ∧ groupDirectives flags p.directives = .ok d ∧
      step = .group p.steps p.directives := by
  rw [Stage.build] at h
  cases hp : inner.build registry piped with
  | error e => simp [hp] at h
  | ok p =>
      rw [hp] at h
      obtain ⟨d', hd, heq⟩ := map_eq_ok h
      cases heq
      exact ⟨p, rfl, hd, rfl⟩

theorem Chain.build_stage {s : Stage} {p : Pipeline}
    (h : (Chain.stage s).build registry piped = .ok p) :
    ∃ step d, s.build registry piped = .ok (step, d) ∧ p = ⟨[step], d⟩ := by
  obtain ⟨⟨step, d⟩, hs, rfl⟩ := map_eq_ok h
  exact ⟨step, d, hs, rfl⟩

theorem Chain.build_pipe {left : Chain} {right : Stage} {p : Pipeline}
    (h : (Chain.pipe left right).build registry piped = .ok p) :
    ∃ q step d, left.build registry piped = .ok q ∧ right.build registry true = .ok (step, d) ∧
      p = ⟨q.steps ++ [step], d⟩ := by
  rw [Chain.build] at h
  cases hl : left.build registry piped with
  | error e => simp [hl] at h
  | ok q =>
      rw [hl] at h
      obtain ⟨⟨step, d⟩, hr, rfl⟩ := map_eq_ok h
      exact ⟨q, step, d, rfl, hr, rfl⟩

end Build

mutual

theorem Stage.filled_of_build {registry : Registry} {piped : Bool} :
    ∀ {stage : Stage} {step : Step} {d : Directives},
      stage.build registry piped = .ok (step, d) → step.Filled
  | .call _, _, _, h => by
    obtain ⟨i, -, rfl⟩ := Stage.build_call h
    exact trivial
  | .group _ _ _, _, _, h => by
    obtain ⟨p, hp, -, rfl⟩ := Stage.build_group h
    exact Chain.filled_of_build hp

theorem Chain.filled_of_build {registry : Registry} {piped : Bool} :
    ∀ {chain : Chain} {p : Pipeline}, chain.build registry piped = .ok p → p.Filled
  | .stage _, _, h => by
    obtain ⟨step, d, hs, rfl⟩ := Chain.build_stage h
    exact ⟨List.cons_ne_nil _ _, Stage.filled_of_build hs, trivial⟩
  | .pipe _ _, _, h => by
    obtain ⟨q, step, d, hl, hr, rfl⟩ := Chain.build_pipe h
    have hfill := Chain.filled_of_build hl
    exact ⟨by simp, Step.allFilled_append.2 ⟨hfill.2, Stage.filled_of_build hr, trivial⟩⟩

end

theorem Line.filled_of_build {registry : Registry} {line : Line} {program : Program}
    (h : line.build registry = .ok program) : program.pipeline.Filled := by
  obtain ⟨p, hp, rfl⟩ := map_eq_ok h
  exact Chain.filled_of_build hp

/-! ## The fold -/

section Fold

variable {m : Type → Type} [Monad m] [LawfulMonad m] (dispatch : Dispatcher m)

/-- The end of a run: a result that never came into being is null. -/
def Progress.close (p : Progress (Option Value)) : Progress Value :=
  ⟨p.begun, p.result.map fun v => v.getD .null⟩

/-- The result at hand, as the next command's input. -/
def Progress.reopen (p : Progress Value) : Progress (Option Value) :=
  ⟨p.begun, p.result.map some⟩

@[simp] theorem Progress.close_reopen (p : Progress Value) : p.reopen.close = p := by
  obtain ⟨begun, result⟩ := p
  cases result <;> rfl

/-- Goes on with more commands unless the run has failed. -/
def Progress.andThen (rest : List Intent) (p : Progress (Option Value)) :
    m (Progress (Option Value)) :=
  match p.result with
  | .ok v => runCommands dispatch rest v p.begun
  | .error failure => return ⟨p.begun, .error failure⟩

theorem runCommands_append (is js : List Intent) (input : Option Value) (begun : Nat) :
    runCommands dispatch (is ++ js) input begun =
      runCommands dispatch is input begun >>= Progress.andThen dispatch js := by
  induction is generalizing input begun with
  | nil => simp [runCommands, Progress.andThen]
  | cons i is ih =>
      simp only [List.cons_append, runCommands, bind_assoc]
      refine bind_congr fun r => ?_
      cases r with
      | ok v => exact ih _ _
      | error failure => simp [Progress.andThen]

/-- The result of one command or more is there. -/
theorem reopen_close_runCommands (i : Intent) (is : List Intent) (input : Option Value)
    (begun : Nat) :
    (fun p => p.close.reopen) <$> runCommands dispatch (i :: is) input begun =
      runCommands dispatch (i :: is) input begun := by
  induction is generalizing i input begun with
  | nil =>
      simp only [runCommands, map_bind]
      refine bind_congr fun r => ?_
      cases r <;> simp [Progress.close, Progress.reopen, Except.map]
  | cons j is ih =>
      rw [runCommands]
      simp only [map_bind]
      refine bind_congr fun r => ?_
      cases r with
      | ok v => exact ih j _ _
      | error failure => simp [Progress.close, Progress.reopen, Except.map]

mutual

theorem Step.run_eq_runCommands : ∀ (s : Step), s.Filled → ∀ (input : Option Value) (begun : Nat),
    s.run dispatch input begun = Progress.close <$> runCommands dispatch s.commands input begun
  | .command i, _, input, begun => by
    simp only [Step.run, Intent.run, Step.commands, runCommands, map_bind]
    refine bind_congr fun r => ?_
    cases r <;> simp [Progress.close, Except.map]
  | .group steps _, h, input, begun => by
    rw [Step.run, Step.commands, Step.runAll_eq_runCommands steps h.2, map_eq_pure_bind]
    rfl

/-- Between two steps the result is there, since no step is empty; a group's end, which would put
null in the place of a missing result, changes nothing. -/
theorem Step.runAll_eq_runCommands : ∀ (ss : List Step), Step.AllFilled ss →
    ∀ (input : Option Value) (begun : Nat),
      Step.runAll dispatch ss input begun = runCommands dispatch (Step.allCommands ss) input begun
  | [], _, input, begun => rfl
  | s :: ss, h, input, begun => by
    obtain ⟨i, is, hi⟩ := List.exists_cons_of_ne_nil (Step.commands_ne_nil h.1)
    rw [Step.runAll, Step.allCommands, runCommands_append, Step.run_eq_runCommands s h.1, hi]
    conv => rhs; rw [← reopen_close_runCommands dispatch i is]
    rw [bind_map_left, bind_map_left]
    refine bind_congr (m := m) fun p => ?_
    have hss := fun v b => Step.runAll_eq_runCommands ss h.2 v b
    cases hp : p.result <;> simp [Progress.andThen, Progress.close, Progress.reopen, hp, Except.map, hss]

end

theorem Pipeline.run_eq_runCommands {p : Pipeline} (hp : p.Filled) (input : Option Value) :
    p.run dispatch input = Progress.close <$> runCommands dispatch p.commands input 0 := by
  rw [Pipeline.run, Step.runAll_eq_runCommands dispatch p.steps hp.2, map_eq_pure_bind]
  rfl

end Fold

/-! ## What a run dispatches -/

section Record

variable {σ : Type}

/-- One dispatch as it happened. -/
structure Dispatched (σ : Type) where
  intent : Intent
  input : Option Value
  before : σ
  answer : Except Failure Value
  after : σ

/-- A dispatcher that also keeps a record of what it did. -/
def recording (react : Dispatcher (StateM σ)) : Dispatcher (StateM (σ × List (Dispatched σ))) :=
  fun i input (s, record) =>
    let (answer, s') := (react i input).run s
    (answer, (s', record ++ [⟨i, input, s, answer, s'⟩]))

/-- Dispatches that all succeed, each on the result and in the state that the one before it left. -/
inductive Threads (react : Dispatcher (StateM σ)) :
    Option Value → σ → List (Dispatched σ) → Option Value → σ → Prop where
  | nil {input : Option Value} {s : σ} : Threads react input s [] input s
  | cons {i : Intent} {input out : Option Value} {v : Value} {s s₁ s₂ : σ}
      {record : List (Dispatched σ)} :
      (react i input).run s = (.ok v, s₁) → Threads react (some v) s₁ record out s₂ →
        Threads react input s (⟨i, input, s, .ok v, s₁⟩ :: record) out s₂

/-- The record of commands that run one after the other, with where the run stands at its end. -/
inductive Trail (react : Dispatcher (StateM σ)) (is : List Intent) (input : Option Value) (s : σ)
    (begun : Nat) : List (Dispatched σ) → Progress Value → σ → Prop where
  /-- All commands have been dispatched, in order and each once; the last one's result is left. -/
  | complete {record : List (Dispatched σ)} {v : Value} {s' : σ} :
      record.map Dispatched.intent = is → Threads react input s record (some v) s' →
        Trail react is input s begun record ⟨begun + is.length, .ok v⟩ s'
  /-- The commands in front of the failing one and that one have been dispatched, nothing else. -/
  | failed {done : List (Dispatched σ)} {i : Intent} {rest : List Intent} {mid : Option Value}
      {s₁ s' : σ} {failure : Failure} :
      is = done.map Dispatched.intent ++ i :: rest → Threads react input s done mid s₁ →
        (react i mid).run s₁ = (.error failure, s') →
          Trail react is input s begun (done ++ [⟨i, mid, s₁, .error failure, s'⟩])
            ⟨begun + done.length + 1,
              .error ⟨some ⟨begun + done.length + 1, i.label⟩, failure⟩⟩ s'

theorem Trail.cons {react : Dispatcher (StateM σ)} {i : Intent} {is : List Intent}
    {input : Option Value} {v : Value} {s s₁ s' : σ} {begun : Nat} {record : List (Dispatched σ)}
    {p : Progress Value} (h : (react i input).run s = (.ok v, s₁))
    (ht : Trail react is (some v) s₁ (begun + 1) record p s') :
    Trail react (i :: is) input s begun (⟨i, input, s, .ok v, s₁⟩ :: record) p s' := by
  cases ht with
  | complete his hth =>
      rw [show begun + 1 + is.length = begun + (i :: is).length by simp; omega]
      exact .complete (by rw [List.map_cons, his]) (.cons h hth)
  | @failed done j rest mid s₂ _ failure his hth hj =>
      have hstage : begun + 1 + done.length + 1 =
          begun + (Dispatched.mk i input s (.ok v) s₁ :: done).length + 1 := by
        rw [List.length_cons]
        omega
      rw [hstage]
      exact .failed (by rw [List.map_cons, his]; rfl) (.cons h hth) hj

theorem Trail.failed_head {react : Dispatcher (StateM σ)} {i : Intent} {is : List Intent}
    {input : Option Value} {s s' : σ} {begun : Nat} {failure : Failure}
    (h : (react i input).run s = (.error failure, s')) :
    Trail react (i :: is) input s begun [⟨i, input, s, .error failure, s'⟩]
      ⟨begun + 1, .error ⟨some ⟨begun + 1, i.label⟩, failure⟩⟩ s' := by
  have hnil : Threads react input s [] input s := .nil
  have hsplit : i :: is = [].map (@Dispatched.intent σ) ++ i :: is := rfl
  exact .failed hsplit hnil h

theorem run_recording {react : Dispatcher (StateM σ)} {i : Intent} {input : Option Value} {s s' : σ}
    {answer : Except Failure Value} (h : (react i input).run s = (answer, s'))
    (old : List (Dispatched σ)) :
    (recording react i input).run (s, old) =
      (answer, (s', old ++ [⟨i, input, s, answer, s'⟩])) := by
  change (((react i input).run s).1, ((react i input).run s).2,
    old ++ [⟨i, input, s, ((react i input).run s).1, ((react i input).run s).2⟩]) = _
  rw [h]

/-- Recording does not change a run, and its record is a trail. -/
theorem runCommands_recording (react : Dispatcher (StateM σ)) (i : Intent) (is : List Intent)
    (input : Option Value) (begun : Nat) (s : σ) (old : List (Dispatched σ)) :
    ∃ record p s', (runCommands react (i :: is) input begun).run s = (Progress.reopen p, s') ∧
      (runCommands (recording react) (i :: is) input begun).run (s, old) =
        (p.reopen, (s', old ++ record)) ∧
      Trail react (i :: is) input s begun record p s' := by
  induction is generalizing i input begun s old with
  | nil =>
      cases hr : (react i input).run s with
      | mk answer s₁ =>
          rw [runCommands, runCommands, StateT.run_bind, StateT.run_bind, hr, run_recording hr]
          cases answer with
          | ok v => exact ⟨_, ⟨begun + 1, .ok v⟩, s₁, rfl, rfl, .complete rfl (.cons hr .nil)⟩
          | error failure => exact ⟨_, _, s₁, rfl, rfl, Trail.failed_head hr⟩
  | cons j is ih =>
      cases hr : (react i input).run s with
      | mk answer s₁ =>
          rw [runCommands, runCommands, StateT.run_bind, StateT.run_bind, hr, run_recording hr]
          cases answer with
          | error failure => exact ⟨_, _, s₁, rfl, rfl, Trail.failed_head hr⟩
          | ok v =>
              obtain ⟨record, p, s', hplain, hkept, ht⟩ :=
                ih j (some v) (begun + 1) s₁ (old ++ [⟨i, input, s, .ok v, s₁⟩])
              rw [List.append_assoc] at hkept
              exact ⟨_ :: record, p, s', hplain, hkept, ht.cons hr⟩

/-- What a pipeline dispatches is a trail of its commands. -/
theorem Pipeline.run_recording {p : Pipeline} (hp : p.Filled) (react : Dispatcher (StateM σ))
    (input : Option Value) (s : σ) :
    ∃ record q s', (p.run react input).run s = (q, s') ∧
      (p.run (recording react) input).run (s, []) = (q, (s', record)) ∧
      Trail react p.commands input s 0 record q s' := by
  obtain ⟨i, is, hi⟩ := List.exists_cons_of_ne_nil (Step.allCommands_ne_nil hp.1 hp.2)
  obtain ⟨record, q, s', hplain, hkept, ht⟩ := runCommands_recording react i is input 0 s []
  refine ⟨record, q, s', ?_, ?_, ?_⟩
  · rw [Pipeline.run_eq_runCommands react hp, StateT.run_map, Pipeline.commands, hi, hplain]
    change (q.reopen.close, s') = _
    rw [q.close_reopen]
  · rw [Pipeline.run_eq_runCommands (recording react) hp, StateT.run_map, Pipeline.commands, hi, hkept]
    change (q.reopen.close, (s', record)) = _
    rw [q.close_reopen]
  · rw [Pipeline.commands, hi]
    exact ht

/-- A run is the left fold over the commands in order, whatever groups stand around them. It
dispatches them one after the other up to the first failure, hands each the result of the one before
it, and reports a failure with the number and the label of its command. -/
theorem Pipeline.run_eq_fold {p : Pipeline} (hp : p.Filled) :
    (∀ (m : Type → Type) [Monad m] [LawfulMonad m] (dispatch : Dispatcher m) (input : Option Value),
      p.run dispatch input = Progress.close <$> runCommands dispatch p.commands input 0) ∧
    (∀ (σ : Type) (react : Dispatcher (StateM σ)) (input : Option Value) (s : σ),
      ∃ record q s', (p.run react input).run s = (q, s') ∧
        (p.run (recording react) input).run (s, []) = (q, (s', record)) ∧
        Trail react p.commands input s 0 record q s') ∧
    p.commands.length = p.count :=
  ⟨fun _ _ _ dispatch input => Pipeline.run_eq_runCommands dispatch hp input,
    fun _ react input s => Pipeline.run_recording hp react input s,
    Step.length_allCommands p.steps⟩

/-- `a | (b | (c)) | d` -/
def nestedGroups : Pipeline :=
  let command (name : String) : Step := .command ⟨name, none, [], [], true, ⟨0, 0⟩⟩
  ⟨[command "a", .group [command "b", .group [command "c"] .none] .none, command "d"], .none⟩

/-- Counts what it is asked, and fails at `c`. -/
def failingAtC : Dispatcher (StateM Nat) :=
  fun i _ n => if i.name = "c" then (.error .interrupted, n + 1) else (.ok (.str i.name), n + 1)

theorem run_eq_fold_nestedGroups :
    nestedGroups.Filled ∧
      (nestedGroups.run failingAtC none).run 0 =
        (⟨3, .error ⟨some ⟨3, "c"⟩, .interrupted⟩⟩, 3) ∧
      (∃ record, Trail failingAtC nestedGroups.commands none 0 0 record
        ⟨3, .error ⟨some ⟨3, "c"⟩, .interrupted⟩⟩ 3) ∧
      nestedGroups.commands.length = nestedGroups.count := by
  have hfill : nestedGroups.Filled := by
    simp [nestedGroups, Pipeline.Filled, Step.AllFilled, Step.Filled]
  have hrun : (nestedGroups.run failingAtC none).run 0 =
      (⟨3, .error ⟨some ⟨3, "c"⟩, .interrupted⟩⟩, 3) := rfl
  obtain ⟨-, hstate, hcount⟩ := Pipeline.run_eq_fold hfill
  obtain ⟨record, q, s', hplain, -, ht⟩ := hstate Nat failingAtC none 0
  obtain ⟨rfl, rfl⟩ := Prod.mk.inj (hrun.symm.trans hplain)
  exact ⟨hfill, hrun, ⟨record, ht⟩, hcount⟩

end Record

end Sluice
