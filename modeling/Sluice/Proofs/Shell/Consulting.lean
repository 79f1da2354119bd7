import Sluice.Proofs.Prompt.Lines
import Sluice.Proofs.Shell.Yielding
import Sluice.Repl

/-!
# What a line asks of its services

A line that is executed consults services, one after the other. Each consultation is recorded with
its answer and with the operator's lines that it took (`Consults`). Services that are considerate
take none but for a confirmation, which takes the line that answers it (`Station.run_consults`), and
a consultation that is interrupted is the last one of its line, which then has failed and has left
the session as it was (`Consults.interrupted`).
-/

namespace Sluice

variable {ω σ α β : Type}

/-! ## Interrupts decide -/

theorem Act.Yields.surrenders {P : Except PipelineFailure Outcome → Prop}
    {m : Act live (Except PipelineFailure Outcome)} (hm : m.Yields P) (before s : Session) :
    ((m.onSession s).bind fun r => .done (Shell.settle before r)).Surrenders (fun _ => True)
      (.error ⟨none, .interrupted⟩, before) := by
  induction m generalizing s with
  | done a => exact .done _
  | stop => exact .done _
  | ask q next ih =>
      cases q with
      | consult q =>
          have hnone : ((next none).onSession s).bind (fun r => .done (Shell.settle before r)) =
              .done (.error ⟨none, .interrupted⟩, before) := by
            rw [hm.1]
            rfl
          refine .ask (fun _ => hnone) fun answer => ?_
          cases answer with
          | none =>
              change (((next none).onSession s).bind _).Surrenders _ _
              rw [hnone]
              exact .done _
          | some a => exact ih (some a) (hm.2 a) s
      | session => exact ih (some s) (hm.2 s) s
      | replace t => exact ih (some ()) (hm.2 ()) t

/-- The first interrupt ends a line, which has failed, and puts the session back. -/
theorem Shell.surrenders_execute (shell : Shell) (line : String) (s : Session) :
    (shell.execute line s).Surrenders (fun _ => True) (.error ⟨none, .interrupted⟩, s) := by
  rw [execute_eq_settle]
  exact (yields_runLine shell line).surrenders s s

/-! ## Consultations -/

structure Consultation where
  request : ServiceRequest
  /-- There is none if an interrupt came. -/
  answer : Option request.Answer
  /-- The operator's lines that were taken meanwhile. -/
  taken : List String

/-- The consultation took no line, or it was a question to the operator and took the one line that
answers it. -/
inductive Consultation.Regular : Consultation → Prop where
  | aside {q : ServiceRequest} {answer : Option q.Answer} : Regular ⟨q, answer, []⟩
  | answered {question line : String} :
      Regular ⟨.confirm question, some (Prompt.agrees line), [line]⟩

theorem Consultation.Regular.taken_of_interrupted {c : Consultation} (h : c.Regular)
    (hnone : c.answer = none) : c.taken = [] := by
  cases h with
  | aside => rfl
  | answered => cases hnone

/-- The lines that consultations took, in order. -/
def Consultation.allTaken (log : List Consultation) : List String :=
  log.flatMap Consultation.taken

section Consults

variable (world : (q : HostRequest) → ω → Option q.Answer × ω) (waiting : ω → List String)
  (meet : (q : ServiceRequest) → σ → Act host (Option q.Answer × σ))

/-- A program over services consults them, one after the other, and comes to a result, while the
services and the machine change. -/
inductive Consults : Act service α → σ → ω → List Consultation → Option α → σ → ω → Prop where
  | done {a : α} {services : σ} {w : ω} : Consults (.done a) services w [] (some a) services w
  | stop {services : σ} {w : ω} : Consults .stop services w [] none services w
  | ask {q : ServiceRequest} {next : Option q.Answer → Act service α} {services services₁ services' : σ}
      {w w₁ w' : ω} {answer : Option q.Answer} {taken : List String} {log : List Consultation}
      {r : Option α} :
      (meet q services).run (I := host) world w = (some (answer, services₁), w₁) →
      waiting w = taken ++ waiting w₁ →
      Consults (next answer) services₁ w₁ log r services' w' →
        Consults (.ask (I := service) q next) services w (⟨q, answer, taken⟩ :: log) r services' w'

end Consults

namespace Consults

variable {world : (q : HostRequest) → ω → Option q.Answer × ω} {waiting : ω → List String}
  {meet : (q : ServiceRequest) → σ → Act host (Option q.Answer × σ)}
  {m : Act service α} {services services' : σ} {w w' : ω} {log : List Consultation} {r : Option α}

/-- The consultations take the lines that are gone. -/
theorem waiting_eq (h : Consults world waiting meet m services w log r services' w') :
    waiting w = Consultation.allTaken log ++ waiting w' := by
  induction h with
  | done => rfl
  | stop => rfl
  | ask _ hw _ ih =>
      rw [hw, ih, ← List.append_assoc]
      rfl

/-- If interrupts decide what the program comes to, then it comes to something, and an interrupted
consultation is the last one. -/
theorem interrupted (h : Consults world waiting meet m services w log r services' w') {r₀ : α}
    (hm : m.Surrenders (fun _ => True) r₀) :
    r.isSome = true ∧ ∀ before c after, log = before ++ c :: after → c.answer = none →
      after = [] ∧ r = some r₀ := by
  induction h with
  | done => exact ⟨rfl, fun before c after heq => by simp at heq⟩
  | stop => cases hm
  | @ask q next services services₁ services' w w₁ w' answer taken log r hrun hw hrest ih =>
      obtain ⟨hnone, hnext⟩ : (True → next none = .done r₀) ∧
          ∀ a, (next a).Surrenders (fun _ => True) r₀ := by
        cases hm with
        | ask hnone hnext => exact ⟨hnone, hnext⟩
      obtain ⟨hsome, hlast⟩ := ih (hnext answer)
      refine ⟨hsome, fun before c after heq hc => ?_⟩
      cases before with
      | cons b before => exact hlast before c after (List.cons.inj heq).2 hc
      | nil =>
          obtain ⟨rfl, rfl⟩ := List.cons.inj heq
          obtain rfl : answer = none := hc
          rw [hnone trivial] at hrest
          cases hrest
          exact ⟨rfl, rfl⟩

end Consults

/-! ## Considerate services -/

/-- Services that take no line from the operator, except that they may put a confirmation to the
operator, at the prompt. An interrupt while they wait leaves them as they were, without an answer. -/
structure Station.Considerate (station : Station σ) : Prop where
  quiet : ∀ q services, (∀ question, q ≠ .confirm question) → (station.meet q services).Quiet
  confirm : ∀ question services, (station.meet (.confirm question) services).Quiet ∨
    station.meet (.confirm question) services =
      (Prompt.confirm question).attempt.bind fun answer => .done (answer, services)
  surrenders : ∀ q services,
    (station.meet q services).Surrenders HostRequest.Waits (none, services)

namespace Station

variable {station : Station σ} {world : (q : HostRequest) → ω → Option q.Answer × ω}
  {waiting : ω → List String}

theorem Considerate.within (h : station.Considerate) (q : ServiceRequest) (services : σ) :
    (station.meet q services).Within HostRequest.Outward := by
  by_cases hconfirm : ∃ question, q = .confirm question
  · obtain ⟨question, rfl⟩ := hconfirm
    rcases h.confirm question services with hquiet | hasks
    · exact hquiet.within
    · have hquestion : (Prompt.confirm question).AsksOnly HostRequest.Outward :=
        Prompt.asksOnly_confirm (fun _ => trivial) trivial question
      rw [hasks]
      exact hquestion.within.attempt.bind fun _ => .done _
  · exact (h.quiet q services fun question heq => hconfirm ⟨question, heq⟩).within

/-- A consultation ends and is regular. -/
theorem Considerate.run_meet (hqueues : Prompt.Queues world waiting) (h : station.Considerate)
    (q : ServiceRequest) (services : σ) (w : ω) :
    ∃ answer services' taken w',
      (station.meet q services).run (I := host) world w = (some (answer, services'), w') ∧
        waiting w = taken ++ waiting w' ∧ (⟨q, answer, taken⟩ : Consultation).Regular := by
  have hquiet (hq : (station.meet q services).Quiet) : ∃ answer services' taken w',
      (station.meet q services).run (I := host) world w = (some (answer, services'), w') ∧
        waiting w = taken ++ waiting w' ∧ (⟨q, answer, taken⟩ : Consultation).Regular := by
    obtain ⟨⟨answer, services'⟩, w', hrun, hw'⟩ := hq.run hqueues w
    exact ⟨answer, services', [], w', hrun, hw'.symm, .aside⟩
  by_cases hconfirm : ∃ question, q = .confirm question
  · obtain ⟨question, rfl⟩ := hconfirm
    rcases h.confirm question services with hq | hasks
    · exact hquiet hq
    · obtain ⟨answer, taken, w', hrun, hw', htaken⟩ := Prompt.run_confirm hqueues question w
      refine ⟨answer, services, taken, w', ?_, hw', ?_⟩
      · rw [hasks]
        refine (Host.run_bind world _ _ w).trans ?_
        rw [hrun]
        rfl
      · rcases htaken with ⟨line, rfl, rfl⟩ | ⟨rfl, -⟩
        · exact .answered
        · exact .aside
  · exact hquiet (h.quiet q services fun question heq => hconfirm ⟨question, heq⟩)

/-- A program runs on considerate services to its end, by regular consultations. If an interrupt
comes while it waits, then one of them has no answer. -/
theorem run_consults (hqueues : Prompt.Queues world waiting) (hstation : station.Considerate)
    (m : Act service α) (services : σ) (w : ω) :
    ∃ log r services' w',
      (m.through station.meet services).run (I := host) world w = (some (r, services'), w') ∧
        Consults world waiting station.meet m services w log r services' w' ∧
        (∀ c ∈ log, c.Regular) ∧
        ((m.through station.meet services).Interrupted world w → ∃ c ∈ log, c.answer = none) := by
  induction m generalizing services w with
  | done a =>
      exact ⟨[], some a, services, w, rfl, .done, fun c hc => absurd hc List.not_mem_nil,
        fun h => by cases h⟩
  | stop =>
      exact ⟨[], none, services, w, rfl, .stop, fun c hc => absurd hc List.not_mem_nil,
        fun h => by cases h⟩
  | ask q next ih =>
      obtain ⟨answer, services₁, taken, w₁, hmeet, hw₁, hregular⟩ :=
        hstation.run_meet hqueues q services w
      obtain ⟨log, r, services', w', hrun, hconsults, hlog, hinterrupted⟩ := ih answer services₁ w₁
      refine ⟨⟨q, answer, taken⟩ :: log, r, services', w', ?_, .ask hmeet hw₁ hconsults,
        List.forall_mem_cons.2 ⟨hregular, hlog⟩, fun h => ?_⟩
      · refine (Host.run_bind world (station.meet q services) _ w).trans ?_
        rw [hmeet]
        exact hrun
      · rcases Act.Interrupted.of_bind (m := station.meet q services) h with hnow | hlater
        · obtain ⟨w₂, hnone⟩ := (hstation.surrenders q services).run_interrupted hnow
          cases hmeet.symm.trans hnone
          exact ⟨_, List.mem_cons_self, rfl⟩
        · obtain ⟨a, w₂, hrun₂, hlater⟩ := hlater
          cases hmeet.symm.trans hrun₂
          obtain ⟨c, hc, hnone⟩ := hinterrupted hlater
          exact ⟨c, List.mem_cons_of_mem _ hc, hnone⟩

end Station

end Sluice
