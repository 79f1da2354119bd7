import Sluice.Order.Execution

/-!
# How orders fail

An order that is carried out is ended at once by an interrupt, and it fails for what it finds in the
session or for what a service answers, never for its arguments (`Order.failsAs_execute`).

* `Act.Yields` : interrupts end a program, and its results have a property;
* `Failure.AtWork` : the failures of work on an order;
* `Job.FailsAs` : interrupts end a job, and its failures have a property.
-/

namespace Sluice

variable {α β : Type}

/-- Every interrupt ends the program at once, and what the program comes to has a property. -/
def Act.Yields {I : Interface} (P : α → Prop) : Act I α → Prop
  | done a => P a
  | stop => True
  | ask _ next => next none = stop ∧ ∀ a, (next (some a)).Yields P

namespace Act.Yields

variable {I : Interface} {P : α → Prop} {Q : β → Prop}

theorem bind {m : Act I α} {f : α → Act I β} (hm : m.Yields P) (hf : ∀ a, P a → (f a).Yields Q) :
    (m.bind f).Yields Q := by
  induction m with
  | done a => exact hf a hm
  | stop => trivial
  | ask q next ih =>
      refine ⟨?_, fun a => ih (some a) (hm.2 a)⟩
      change (next none).bind f = stop
      rw [hm.1]
      rfl

theorem mono {Q : α → Prop} {m : Act I α} (hm : m.Yields P) (h : ∀ a, P a → Q a) : m.Yields Q := by
  rw [← bind_done m]
  exact hm.bind fun a ha => h a ha

theorem perform (q : I.Request) : (Act.perform q).Yields (fun _ => True) :=
  ⟨rfl, fun _ => trivial⟩

/-- A result of a run has the property. -/
theorem run {ω : Type} {m : Act I α} (hm : m.Yields P)
    (world : (q : I.Request) → ω → Option (I.Answer q) × ω) (w : ω) :
    ∀ a ∈ (m.run world w).1, P a := by
  induction m generalizing w with
  | done a =>
      intro b hb
      cases hb
      exact hm
  | stop => exact nofun
  | ask q next ih =>
      intro b hb
      rw [Act.run] at hb
      rcases hq : world q w with ⟨_ | a, w'⟩
      · rw [hq] at hb
        dsimp only at hb
        rw [hm.1] at hb
        cases hb
      · rw [hq] at hb
        exact ih (some a) (hm.2 a) w' b hb

end Act.Yields

/-! ## Failures -/

/-- The result is a value, or a failure with a property. -/
def FailsOnly (P : Failure → Prop) (r : Except Failure α) : Prop :=
  ∀ failure, r = .error failure → P failure

theorem failsOnly_ok {P : Failure → Prop} (a : α) : FailsOnly P (.ok a) := by
  rintro _ ⟨⟩

theorem failsOnly_error {P : Failure → Prop} {failure : Failure} (h : P failure) :
    FailsOnly P (.error failure : Except Failure α) := by
  rintro _ ⟨⟩
  exact h

/-- The failure is one of work on an order, and not of reading one. -/
def Failure.AtWork : Failure → Prop
  | commandFailed .. | undefinedVariable _ | invalidPath .. => True
  | _ => False

theorem failsOnly_lookup (s : Session) (expression : String) :
    FailsOnly Failure.AtWork (s.lookup expression) := by
  unfold Session.lookup
  split
  · exact failsOnly_error trivial
  · next path _ =>
    split
    · exact failsOnly_error trivial
    · next v _ =>
      cases path.lookup v with
      | error fault => exact failsOnly_error trivial
      | ok u => exact failsOnly_ok u

/-! ## Jobs -/

/-- Every interrupt ends the job at once, and its failures have a property. -/
def Job.FailsAs (P : Failure → Prop) (m : Job α) : Prop :=
  Act.Yields (FailsOnly P) m.run

namespace Job.FailsAs

variable {P : Failure → Prop}

theorem pure (a : α) : FailsAs P (pure a : Job α) :=
  failsOnly_ok a

theorem fail {failure : Failure} (h : P failure) : FailsAs P (Job.fail failure : Job α) :=
  failsOnly_error h

theorem bind {m : Job α} {f : α → Job β} (hm : FailsAs P m) (hf : ∀ a, FailsAs P (f a)) :
    FailsAs P (m >>= f) := by
  refine Act.Yields.bind hm fun r hr => ?_
  cases r with
  | ok a => exact hf a
  | error failure => exact failsOnly_error (hr failure rfl)

theorem lift (q : JobRequest) :
    FailsAs P (ExceptT.lift (Act.perform (I := live) q) : Job q.Answer) :=
  Act.Yields.bind (.perform (I := live) q) fun a _ => failsOnly_ok a

theorem ask (q : ServiceRequest) : FailsAs P (Job.ask q) := lift (.consult q)

theorem session : FailsAs P Job.session := lift .session

theorem replace (s : Session) : FailsAs P (Job.replace s) := lift (.replace s)

theorem ofExcept {r : Except Failure α} (h : FailsOnly P r) : FailsAs P (ofExcept r) := by
  cases r with
  | ok a => exact FailsAs.pure a
  | error failure => exact FailsAs.fail (h failure rfl)

theorem now : FailsAs P Job.now :=
  (ask .clock).bind fun _ => FailsAs.pure _

theorem expect (label : String) (r : Except ServiceFault α) :
    FailsAs Failure.AtWork (Job.expect label r) := by
  cases r with
  | ok a => exact FailsAs.pure a
  | error fault => exact FailsAs.fail trivial

theorem mono {Q : Failure → Prop} {m : Job α} (hm : FailsAs P m)
    (h : ∀ failure, P failure → Q failure) : FailsAs Q m :=
  Act.Yields.mono hm fun _ hr failure heq => h failure (hr failure heq)

end Job.FailsAs

/-! ## Orders -/

namespace Order

open Job

theorem failsAs_openConnection (source name : String) :
    FailsAs Failure.AtWork (openConnection source name) := by
  refine (FailsAs.ask _).bind fun reached => (FailsAs.expect _ _).bind fun _ => ?_
  refine FailsAs.now.bind fun time => FailsAs.session.bind fun s => ?_
  exact (FailsAs.replace _).bind fun _ => FailsAs.pure _

theorem failsAs_closeConnection (name : String) :
    FailsAs Failure.AtWork (closeConnection name) := by
  refine FailsAs.session.bind fun s => ?_
  split
  · exact FailsAs.fail trivial
  · exact (FailsAs.replace _).bind fun _ => FailsAs.pure _

theorem failsAs_runAction (name action : String) (value : Option Value) (parameters : Fields)
    (input : Option Value) :
    FailsAs Failure.AtWork (runAction name action value parameters input) := by
  refine FailsAs.session.bind fun s => ?_
  split
  · exact FailsAs.fail trivial
  · exact (FailsAs.ask _).bind fun _ => FailsAs.expect _ _

theorem failsAs_startFlow (label reference : String) (parameters : Fields) :
    FailsAs Failure.AtWork (startFlow label reference parameters) := by
  refine (FailsAs.ask _).bind fun _ => (FailsAs.expect _ _).bind fun asset => ?_
  refine FailsAs.session.bind fun s => ?_
  exact (FailsAs.ask _).bind fun _ => FailsAs.expect _ _

theorem failsOnly_queryConnection (label : String) (s : Session) (on : Option String) :
    FailsOnly Failure.AtWork (queryConnection label s on) := by
  unfold queryConnection
  split
  · split
    · exact failsOnly_ok _
    · exact failsOnly_error trivial
  · split
    · exact failsOnly_ok _
    · exact failsOnly_error trivial

theorem failsAs_startQuery (label reference : String) (on : Option String) (parameters : Fields) :
    FailsAs Failure.AtWork (startQuery label reference on parameters) := by
  refine (FailsAs.ask _).bind fun _ => (FailsAs.expect _ _).bind fun asset => ?_
  refine FailsAs.session.bind fun s => ?_
  refine (FailsAs.ofExcept (failsOnly_queryConnection label s on)).bind fun c => ?_
  refine (FailsAs.ask _).bind fun _ => (FailsAs.expect _ _).bind fun text => ?_
  exact (FailsAs.ask _).bind fun _ => FailsAs.expect _ _

theorem failsAs_startScript (label reference : String) (parameters : Fields)
    (input : Option Value) :
    FailsAs Failure.AtWork (startScript label reference parameters input) := by
  refine (FailsAs.ask _).bind fun _ => (FailsAs.expect _ _).bind fun asset => ?_
  exact (FailsAs.ask _).bind fun _ => FailsAs.expect _ _

theorem failsAs_save (label name : String) : FailsAs Failure.AtWork (save label name) := by
  refine FailsAs.session.bind fun s => (FailsAs.ask _).bind fun _ => ?_
  exact (FailsAs.expect _ _).bind fun _ => FailsAs.pure _

theorem failsAs_load (label name : String) : FailsAs Failure.AtWork (load label name) := by
  refine (FailsAs.ask _).bind fun _ => (FailsAs.expect _ _).bind fun document => ?_
  refine FailsAs.session.bind fun s => ?_
  split
  · exact FailsAs.fail trivial
  · exact (FailsAs.replace _).bind fun _ => FailsAs.pure _

theorem failsAs_delete (label name : String) (sure : Bool) :
    FailsAs Failure.AtWork (delete label name sure) := by
  have hdelete : FailsAs Failure.AtWork (do
      expect label (← ask (.deleteSession name))
      return .map [("removed", .str name)] : Job Value) :=
    (FailsAs.ask _).bind fun _ => (FailsAs.expect _ _).bind fun _ => FailsAs.pure _
  unfold delete
  split
  · refine (FailsAs.ask _).bind fun consent => ?_
    split
    · exact FailsAs.pure _
    · exact hdelete
  · exact hdelete

/-- No order goes on behind an interrupt, and it fails for what comes of the work. -/
theorem failsAs_execute (registry : Registry) (label : String) (input : Option Value)
    (order : Order) : FailsAs Failure.AtWork (order.execute registry label input) := by
  cases order with
  | connect source name => exact failsAs_openConnection source name
  | connections => exact FailsAs.session.bind fun _ => FailsAs.pure _
  | disconnect name => exact failsAs_closeConnection name
  | listVariables => exact FailsAs.session.bind fun _ => FailsAs.pure _
  | getVariable reference =>
      exact FailsAs.session.bind fun s => FailsAs.ofExcept (failsOnly_lookup s reference)
  | removeVariable name =>
      refine FailsAs.session.bind fun s => ?_
      split
      · exact FailsAs.fail trivial
      · exact (FailsAs.replace _).bind fun _ => FailsAs.pure _
  | clearVariables =>
      exact FailsAs.session.bind fun s => (FailsAs.replace _).bind fun _ => FailsAs.pure _
  | inspect reference =>
      exact FailsAs.session.bind fun s =>
        (FailsAs.ofExcept (failsOnly_lookup s reference)).bind fun _ => FailsAs.pure _
  | listSessions =>
      exact (FailsAs.ask _).bind fun _ => (FailsAs.expect _ _).bind fun _ => FailsAs.pure _
  | saveSession name => exact failsAs_save label name
  | loadSession name => exact failsAs_load label name
  | deleteSession name sure => exact failsAs_delete label name sure
  | sessionStatus => exact FailsAs.session.bind fun _ => FailsAs.pure _
  | listAssets kind => exact (FailsAs.ask _).bind fun _ => FailsAs.pure _
  | runFlow reference parameters => exact failsAs_startFlow label reference parameters
  | runQuery reference on parameters => exact failsAs_startQuery label reference on parameters
  | runScript reference parameters => exact failsAs_startScript label reference parameters input
  | invoke name action value parameters =>
      exact failsAs_runAction name action value parameters input
  | listRoots => exact (FailsAs.ask _).bind fun _ => FailsAs.pure _
  | addRoot path =>
      exact (FailsAs.ask _).bind fun _ => (FailsAs.ask _).bind fun _ =>
        (FailsAs.expect _ _).bind fun _ => FailsAs.pure _
  | removeRoot reference =>
      exact (FailsAs.ask _).bind fun _ => (FailsAs.expect _ _).bind fun _ => FailsAs.pure _
  | echo value => exact FailsAs.pure value
  | format => exact FailsAs.pure _
  | help => exact FailsAs.pure _

end Order

end Sluice
