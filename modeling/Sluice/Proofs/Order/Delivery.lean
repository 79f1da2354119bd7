import Sluice.Dispatch
import Sluice.Proofs.Order.Reading
import Sluice.Proofs.Shell.Live

/-!
# Where another command's result goes

A command that accepts another command's result hands it on as it is: `format` returns it, `invoke`
passes it to the action as the parameter `input`, and `script run` feeds it to the script. Only
`flow run` accepts a result and drops it: whatever it is, the flow runs on the same parameters and
variables (`Order.execute_delivers`).

* `Job.runLive_bind`, `Job.runLive_ask` : jobs run part by part;
* `Order.runLive_runAction`, `Order.runLive_startScript` : what the two callers come to;
* `Order.read_of_acceptsInput` : the orders that may be carried out on a result.
-/

namespace Sluice

variable {ω α β : Type}

/-! ## Jobs in a world -/

namespace Job

variable (world : (q : ServiceRequest) → ω → Option q.Answer × ω)

/-- What comes of a job: its result, unless it was interrupted, and the session and the world as it
left them. -/
def runLive (m : Job α) (s : Session) (w : ω) : Option (Except Failure α) × (Session × ω) :=
  Act.runLive world m.run s w

theorem runLive_bind (m : Job α) (f : α → Job β) (s : Session) (w : ω) :
    (m >>= f).runLive world s w =
      match m.runLive world s w with
      | (some (.ok a), (s, w)) => (f a).runLive world s w
      | (some (.error e), (s, w)) => (some (.error e), (s, w))
      | (none, (s, w)) => (none, (s, w)) := by
  refine (Act.runLive_bind world m.run _ s w).trans ?_
  unfold runLive
  rcases m.run.runLive world s w with ⟨_ | _ | a, s', w'⟩ <;> rfl

theorem runLive_ask (q : ServiceRequest) (f : q.Answer → Job α) (s : Session) (w : ω) :
    (ask q >>= f).runLive world s w =
      match world q w with
      | (some a, w) => (f a).runLive world s w
      | (none, w) => (none, (s, w)) := by
  have hask : (ask q).runLive world s w =
      match world q w with
      | (some a, w) => (some (.ok a), (s, w))
      | (none, w) => (none, (s, w)) := by
    refine (Act.runLive_bind world (Act.perform (I := live) (.consult q)) _ s w).trans ?_
    rw [Act.runLive_consult]
    rcases world q w with ⟨_ | a, w'⟩ <;> rfl
  rw [runLive_bind, hask]
  rcases world q w with ⟨_ | a, w'⟩ <;> rfl

@[simp] theorem runLive_session (f : Session → Job α) (s : Session) (w : ω) :
    (session >>= f).runLive world s w = (f s).runLive world s w := rfl

end Job

/-! ## Commands in a world -/

/-- The order of a call of a command that there is, on arguments that are found. -/
theorem Intent.order_of_command {registry : Registry} {i : Intent} {s : Session} {command : Command}
    {args : Arguments} (hcommand : registry.get? i.name = some command)
    (hargs : i.resolve s = .ok args) (piped : Bool) :
    i.order registry s piped = (do
      let order ← Order.read command args
      if piped && !command.acceptsInput args.subcommand then .error (args.refuse .noInput)
      return (order, args.label)) := by
  unfold Intent.order
  rw [hcommand, hargs]
  rfl

namespace Registry

variable (world : (q : ServiceRequest) → ω → Option q.Answer × ω) {registry : Registry} {i : Intent}
  {input : Option Value} {s : Session}

theorem runLive_dispatch {order : Order} {label : String}
    (h : i.order registry s input.isSome = .ok (order, label)) (w : ω) :
    (registry.dispatch i input).runLive world s w =
      (order.execute registry label input).runLive world s w := by
  unfold dispatch
  rw [Job.runLive_session, h]
  rfl

theorem runLive_dispatch_error {failure : Failure}
    (h : i.order registry s input.isSome = .error failure) (w : ω) :
    (registry.dispatch i input).runLive world s w = (some (.error failure), (s, w)) := by
  unfold dispatch
  rw [Job.runLive_session, h]
  rfl

end Registry

/-! ## Calls -/

/-- The request has a collaborator do the work of a command. -/
def ServiceRequest.isCall : ServiceRequest → Bool
  | runAction .. | runQuery .. | runFlow .. | runScript .. => true
  | _ => false

/-- A world that also keeps a record of the calls. -/
def ServiceRequest.recorded (world : (q : ServiceRequest) → ω → Option q.Answer × ω)
    (q : ServiceRequest) : ω × List ServiceRequest → Option q.Answer × (ω × List ServiceRequest)
  | (w, calls) => ((world q w).1, ((world q w).2, if q.isCall then calls ++ [q] else calls))

/-- A command's call carries another command's result, in the place that it has there. -/
def Command.Carries (v : Value) : Command → ServiceRequest → Prop
  | invoke, .runAction _ _ parameters => parameters.get? "input" = some v
  | asset .script, .runScript _ input _ => input = some v
  | _, _ => False

/-- The calls made for a command carry a value, and a result that has been returned without a call is
the value itself, which only `format` may return. -/
structure Delivered (command : Command) (v : Value) (calls : List ServiceRequest)
    (result : Option (Except Failure Value)) : Prop where
  carried : ∀ q ∈ calls, command.Carries v q
  returned : calls = [] → ∀ a, result = some (.ok a) → command = .format ∧ a = v

/-- In every world and on every session a job delivers a value for a command. -/
def Job.Delivers (command : Command) (v : Value) (m : Job Value) : Prop :=
  ∀ (ω : Type) (world : (q : ServiceRequest) → ω → Option q.Answer × ω) (s t : Session) (w u : ω)
    (calls : List ServiceRequest) (result : Option (Except Failure Value)),
    m.runLive (ServiceRequest.recorded world) s (w, []) = (result, (t, (u, calls))) →
      Delivered command v calls result

namespace Delivered

variable {command : Command} {v : Value} {result : Option (Except Failure Value)}

/-- Nothing is delivered by what fails or is interrupted before its call. -/
theorem nothing (h : ∀ a, result ≠ some (.ok a)) : Delivered command v [] result :=
  ⟨fun _ hq => absurd hq List.not_mem_nil, fun _ a ha => absurd ha (h a)⟩

theorem call {q : ServiceRequest} (h : command.Carries v q) : Delivered command v [q] result :=
  ⟨fun _ hq => List.mem_singleton.1 hq ▸ h, fun hnil => absurd hnil (List.cons_ne_nil _ _)⟩

end Delivered

namespace Order

open Job

section Runs

variable (world : (q : ServiceRequest) → ω → Option q.Answer × ω)

/-- What a service answers to the last request of a job. -/
def settled (label : String) (s : Session) :
    Option (Except ServiceFault Value) × ω → Option (Except Failure Value) × (Session × ω)
  | (some r, w) => (some (r.mapError fun fault => .commandFailed label (.service fault)), (s, w))
  | (none, w) => (none, (s, w))

theorem runLive_callAction (label source action : String) (parameters : Fields) (s : Session)
    (w : ω) :
    (ask (.runAction source action parameters) >>= expect label).runLive world s w =
      settled label s (world (.runAction source action parameters) w) := by
  refine (runLive_ask world (.runAction source action parameters) _ s w).trans ?_
  rcases world (.runAction source action parameters) w with ⟨_ | _ | a, w'⟩ <;> rfl

theorem runLive_callScript (label path : String) (input : Option Value) (parameters : Fields)
    (s : Session) (w : ω) :
    (ask (.runScript path input parameters) >>= expect label).runLive world s w =
      settled label s (world (.runScript path input parameters) w) := by
  refine (runLive_ask world (.runScript path input parameters) _ s w).trans ?_
  rcases world (.runScript path input parameters) w with ⟨_ | _ | a, w'⟩ <;> rfl

/-- The parameters of an action's request: those given, a value that stands without a name, and
another command's result. -/
def actionParameters (value : Option Value) (parameters : Fields) (input : Option Value) : Fields :=
  let parameters := (value.map (Fields.put parameters "value")).getD parameters
  (input.map (Fields.put parameters "input")).getD parameters

theorem runLive_runAction (name action : String) (value : Option Value) (parameters : Fields)
    (input : Option Value) (s : Session) (w : ω) :
    (runAction name action value parameters input).runLive world s w =
      match s.connection? name with
      | none => (some (.error (.commandFailed s!"{name}.{action}" (.notConnected name))), (s, w))
      | some c =>
        settled s!"{name}.{action}" s
          (world (.runAction c.source action (actionParameters value parameters input)) w) := by
  unfold runAction
  rw [runLive_session]
  cases s.connection? name with
  | none => rfl
  | some c =>
      exact runLive_callAction world _ c.source action _ s w

theorem runLive_startScript (label reference : String) (parameters : Fields) (input : Option Value)
    (s : Session) (w : ω) :
    (startScript label reference parameters input).runLive world s w =
      match world (.asset .script reference) w with
      | (some (.ok asset), w) => settled label s (world (.runScript asset.path input parameters) w)
      | (some (.error fault), w) => (some (.error (.commandFailed label (.service fault))), (s, w))
      | (none, w) => (none, (s, w)) := by
  refine (runLive_ask world (.asset .script reference) _ s w).trans ?_
  rcases world (.asset .script reference) w with ⟨_ | fault | asset, w'⟩
  · rfl
  · rfl
  · exact runLive_callScript world label asset.path input parameters s w'

theorem world_of_settled {label : String} {s t : Session} {w : ω}
    {answer : Option (Except ServiceFault Value) × ω} {r : Option (Except Failure Value)}
    (h : settled label s answer = (r, (t, w))) : answer.2 = w := by
  rcases answer with ⟨_ | a, w'⟩ <;> cases h <;> rfl

end Runs

/-! ## Deliveries -/

theorem delivers_format (registry : Registry) (label : String) (v : Value) :
    (execute registry label (some v) .format).Delivers .format v := by
  intro ω world s t w u calls result h
  cases h
  refine ⟨fun q hq => absurd hq List.not_mem_nil, fun _ a ha => ?_⟩
  cases ha
  exact ⟨rfl, rfl⟩

theorem delivers_runAction (name action : String) (value : Option Value) (parameters : Fields)
    (v : Value) : (runAction name action value parameters (some v)).Delivers .invoke v := by
  intro ω world s t w u calls result h
  rw [runLive_runAction] at h
  cases hc : s.connection? name with
  | none =>
      rw [hc] at h
      cases h
      exact .nothing (by simp)
  | some c =>
      rw [hc] at h
      obtain rfl : [_] = calls := congrArg Prod.snd (world_of_settled h)
      exact .call (by simp [Command.Carries, actionParameters])

theorem delivers_startScript (label reference : String) (parameters : Fields) (v : Value) :
    (startScript label reference parameters (some v)).Delivers (.asset .script) v := by
  intro ω world s t w u calls result h
  rw [runLive_startScript] at h
  -- to look for the script is no call
  have hbefore : (ServiceRequest.recorded world (.asset .script reference) (w, [])).2.2 = [] := rfl
  generalize ServiceRequest.recorded world (.asset .script reference) (w, []) = found at h hbefore
  obtain ⟨found, w₁, before⟩ := found
  obtain rfl : before = [] := hbefore
  rcases found with _ | fault | asset
  · cases h
    exact .nothing (by simp)
  · cases h
    exact .nothing (by simp)
  · obtain rfl : [_] = calls := congrArg Prod.snd (world_of_settled h)
    exact .call (by simp [Command.Carries])

/-! ## Commands that accept a result -/

theorem read_of_acceptsInput {command : Command} {args : Arguments} {order : Order}
    (hread : read command args = .ok order)
    (haccepts : command.acceptsInput args.subcommand = true) :
    (command = .format ∧ order = .format) ∨
    (command = .invoke ∧ ∃ name action value parameters,
      order = .invoke name action value parameters) ∨
    (command = .asset .script ∧ ∃ reference parameters, order = .runScript reference parameters) ∨
    (command = .asset .flow ∧ ∃ reference parameters, order = .runFlow reference parameters) := by
  cases readsAs_of_read hread with
  | format => exact .inl ⟨rfl, rfl⟩
  | invoke _ _ => exact .inr (.inl ⟨rfl, _, _, _, _, rfl⟩)
  | runScript _ _ => exact .inr (.inr (.inl ⟨rfl, _, _, rfl⟩))
  | runFlow _ _ => exact .inr (.inr (.inr ⟨rfl, _, _, rfl⟩))
  | @listAssets kind hsub => cases kind <;> simp [Command.acceptsInput, hsub] at haccepts
  | _ => cases haccepts

/-- A command that accepts another command's result delivers it as it is, unless it runs a flow;
then it comes to the same as without that result. -/
theorem execute_delivers {command : Command} {args : Arguments} {order : Order}
    (hread : read command args = .ok order)
    (haccepts : command.acceptsInput args.subcommand = true) (registry : Registry) (label : String)
    (v : Value) :
    (command ≠ .asset .flow → (order.execute registry label (some v)).Delivers command v) ∧
    (command = .asset .flow →
      order.execute registry label (some v) = order.execute registry label none) := by
  rcases read_of_acceptsInput hread haccepts with ⟨rfl, rfl⟩ |
    ⟨rfl, name, action, value, parameters, rfl⟩ | ⟨rfl, reference, parameters, rfl⟩ |
    ⟨rfl, reference, parameters, rfl⟩
  · exact ⟨fun _ => delivers_format registry label v, fun h => by cases h⟩
  · exact ⟨fun _ => delivers_runAction name action value parameters v, fun h => by cases h⟩
  · exact ⟨fun _ => delivers_startScript label reference parameters v, fun h => by cases h⟩
  · exact ⟨fun h => absurd rfl h, fun _ => rfl⟩

/-- A call of the action `act` with a parameter that is also named `input`. -/
def piped : Arguments :=
  ⟨"invoke", none, [.str "c", .str "act"], [("input", .null)]⟩

/-- A session with one connection. -/
def connected : Session :=
  ⟨[], [("c", ⟨"c", "db", ""⟩)], some "c"⟩

/-- Services whose actions return their parameters, and nothing else is answered. -/
def returning : (q : ServiceRequest) → Unit → Option q.Answer × Unit
  | .runAction _ _ parameters, w => (some (.ok (.map parameters)), w)
  | _, w => (none, w)

theorem execute_delivers_invoke :
    read .invoke piped = .ok (.invoke "c" "act" none [("input", .null)]) ∧
    Command.invoke.acceptsInput piped.subcommand = true ∧
    Delivered .invoke (.bool true) [.runAction "db" "act" [("input", .bool true)]]
      (some (.ok (.map [("input", .bool true)]))) := by
  have hread : read .invoke piped = .ok (.invoke "c" "act" none [("input", .null)]) := by rfl
  refine ⟨hread, rfl, ?_⟩
  have hdelivers := (execute_delivers hread rfl (.builtin []) "invoke" (.bool true)).1 (by decide)
  exact hdelivers Unit returning connected connected () () _ _ rfl

end Order

end Sluice
