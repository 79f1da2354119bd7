import Sluice.Proofs.Order.Delivery
import Sluice.Proofs.Session.Valid

/-!
# What commands leave of a session

Every command gets the live session to write on, and few write on it. In every world a command that
does not succeed leaves the session as it was, and one that succeeds changes no more than it is
meant to: to connect changes the entry of one alias and makes it the active one, to disconnect drops
one alias, `var rm` drops one variable, `var clear` all of them, and `session load` puts the session
of a document there. All other commands leave the session as it was (`Order.execute_frame`).

* `Job.Leaves`, `Job.Quiet` : what a job leaves of a session, and that it leaves everything;
* `Order.leaves_execute` : one case for each order;
* `Order.changes_of_readsAs` : a command's order does what the command is meant to do.
-/

namespace Sluice

variable {α β : Type}

/-! ## Parts of a session -/

theorem Keyed.erase_insert_self (key : α → String) (x : α) (xs : List α) :
    erase key (key x) (insert key x xs) = erase key (key x) xs := by
  induction xs with
  | nil => simp [insert, erase]
  | cons y ys ih =>
      unfold insert
      split
      · simp [erase]
      · split
        · next heq => simp [erase, heq]
        · rw [erase, List.filter_cons, erase, List.filter_cons]
          exact congrArg (fun rest => if key y != key x then y :: rest else rest) ih

namespace Session

/-- From `s` to `t` the entry of an alias is set and the alias made the active one; everything else
stays. -/
structure Connects (source name : String) (s t : Session) : Prop where
  entry : ∃ time, t.connection? name = some ⟨name, source, time⟩
  others : t.byAlias.filter (·.1 != name) = s.byAlias.filter (·.1 != name)
  active : t.active = some name
  bindings : t.byName = s.byName

/-- From `s` to `t` an alias that is there is dropped, and with it the active alias if it is the
same; everything else stays. -/
structure Disconnects (name : String) (s t : Session) : Prop where
  entry : (s.connection? name).isSome = true
  connections : t.byAlias = s.byAlias.filter (·.1 != name)
  active : t.active = if s.active = some name then none else s.active
  bindings : t.byName = s.byName

/-- From `s` to `t` a variable that is there is dropped; everything else stays. -/
structure Forgets (name : String) (s t : Session) : Prop where
  entry : (s.entry? name).isSome = true
  bindings : t.byName = s.byName.filter (·.1 != name)
  connections : t.byAlias = s.byAlias
  active : t.active = s.active

theorem connects_addConnection (s : Session) (now name source : String) :
    s.Connects source name (s.addConnection now name source) where
  entry := ⟨now, connection?_addConnection s now name source⟩
  others := Keyed.erase_insert_self Prod.fst (name, (⟨name, source, now⟩ : Connection)) s.byAlias
  active := rfl
  bindings := rfl

theorem disconnects_removeConnection {s : Session} {name : String} {c : Connection}
    (h : s.connection? name = some c) : s.Disconnects name (s.removeConnection name) := by
  rw [removeConnection, h]
  exact ⟨by rw [h]; rfl, rfl, rfl, rfl⟩

theorem forgets_removeVariable {s : Session} {name : String} {v : Variable}
    (h : s.entry? name = some v) : s.Forgets name (s.removeVariable name) :=
  ⟨by rw [h]; rfl, rfl, rfl, rfl⟩

end Session

/-! ## Jobs -/

namespace Job

/-- In every world, if the job succeeds on a session then its answer and the session that is left
have a property, and otherwise the session is left as it was. -/
def Leaves (m : Job α) (s : Session) (P : α → Session → Prop) : Prop :=
  ∀ (ω : Type) (world : (q : ServiceRequest) → ω → Option q.Answer × ω) (w : ω),
    match m.runLive world s w with
    | (some (.ok a), (t, _)) => P a t
    | (_, (t, _)) => t = s

def Quiet (m : Job α) : Prop :=
  ∀ s, m.Leaves s fun _ t => t = s

variable {s : Session} {P : α → Session → Prop} {Q : β → Session → Prop}

/-- Behind a quiet part everything is still to come. -/
theorem Quiet.then {m : Job α} {f : α → Job β} (hm : m.Quiet) (hf : ∀ a, (f a).Leaves s Q) :
    (m >>= f).Leaves s Q := by
  intro ω world w
  have hquiet := hm s ω world w
  rw [runLive_bind]
  generalize m.runLive world s w = left at hquiet ⊢
  rcases left with ⟨_ | _ | a, t, u⟩
  · exact hquiet
  · exact hquiet
  · obtain rfl : t = s := hquiet
    exact hf a ω world u

theorem Leaves.mono {P' : α → Session → Prop} {m : Job α} (hm : m.Leaves s P)
    (h : ∀ a t, P a t → P' a t) : m.Leaves s P' := by
  intro ω world w
  have hleft := hm ω world w
  generalize m.runLive world s w = left at hleft ⊢
  rcases left with ⟨_ | _ | a, t, u⟩
  · exact hleft
  · exact hleft
  · exact h a t hleft

theorem Leaves.session {f : Session → Job α} (h : (f s).Leaves s P) :
    (Job.session >>= f).Leaves s P := by
  intro ω world w
  rw [runLive_session]
  exact h ω world w

theorem Leaves.pure {a : α} (h : P a s) : (Pure.pure a : Job α).Leaves s P :=
  fun _ _ _ => h

theorem Leaves.fail (failure : Failure) : (Job.fail failure : Job α).Leaves s P :=
  fun _ _ _ => rfl

/-- The session is replaced as the last step. -/
theorem Leaves.replace {t : Session} {a : α} (h : P a t) :
    (Job.replace t >>= fun _ => Pure.pure a).Leaves s P :=
  fun _ _ _ => h

namespace Quiet

theorem bind {m : Job α} {f : α → Job β} (hm : m.Quiet) (hf : ∀ a, (f a).Quiet) :
    (m >>= f).Quiet :=
  fun s => hm.then fun a => hf a s

theorem pure (a : α) : (Pure.pure a : Job α).Quiet :=
  fun _ => .pure rfl

theorem fail (failure : Failure) : (Job.fail failure : Job α).Quiet :=
  fun _ => .fail failure

theorem ask (q : ServiceRequest) : (Job.ask q).Quiet := by
  intro s ω world w
  have hask := runLive_ask world q Pure.pure s w
  rw [bind_pure] at hask
  rw [hask]
  rcases world q w with ⟨_ | a, u⟩ <;> rfl

theorem session : Job.session.Quiet :=
  fun _ _ _ _ => rfl

theorem ofExcept (r : Except Failure α) : (MonadExcept.ofExcept r : Job α).Quiet := by
  cases r with
  | ok a => exact Quiet.pure a
  | error failure => exact Quiet.fail failure

theorem expect (label : String) (r : Except ServiceFault α) : (Job.expect label r).Quiet := by
  cases r with
  | ok a => exact Quiet.pure a
  | error fault => exact Quiet.fail _

theorem now : Job.now.Quiet :=
  (ask .clock).bind fun _ => Quiet.pure _

end Quiet

end Job

namespace Order

open Job

/-! ## Orders -/

/-- What an order does to a session if it succeeds. -/
def Effect (s t : Session) : Order → Prop
  | connect source name => s.Connects source name t
  | disconnect name => s.Disconnects name t
  | removeVariable name => s.Forgets name t
  | clearVariables => t = { s with byName := [] }
  | loadSession _ => ∃ document, Session.ofSnapshot document = .ok t
  | _ => t = s

theorem leaves_openConnection (source name : String) (s : Session) :
    (openConnection source name).Leaves s fun _ t => s.Connects source name t := by
  refine (Quiet.ask _).then fun reached => (Quiet.expect _ _).then fun _ => ?_
  refine Quiet.now.then fun time => Leaves.session ?_
  exact .replace (Session.connects_addConnection s time name source)

theorem leaves_closeConnection (name : String) (s : Session) :
    (closeConnection name).Leaves s fun _ t => s.Disconnects name t := by
  refine Leaves.session ?_
  cases hc : s.connection? name with
  | none => exact .fail _
  | some c => exact .replace (Session.disconnects_removeConnection hc)

theorem leaves_removeVariable (registry : Registry) (label name : String) (input : Option Value)
    (s : Session) :
    (execute registry label input (.removeVariable name)).Leaves s fun _ t => s.Forgets name t := by
  refine Leaves.session ?_
  cases hv : s.entry? name with
  | none => exact .fail _
  | some v => exact .replace (Session.forgets_removeVariable hv)

theorem leaves_load (label name : String) (s : Session) :
    (load label name).Leaves s fun _ t => ∃ document, Session.ofSnapshot document = .ok t := by
  refine (Quiet.ask _).then fun answer => (Quiet.expect _ _).then fun document => ?_
  refine Leaves.session ?_
  split
  · exact .fail _
  · next t hrestore => exact .replace ⟨document, Session.restore_eq_ok hrestore⟩

theorem quiet_runAction (name action : String) (value : Option Value) (parameters : Fields)
    (input : Option Value) : (runAction name action value parameters input).Quiet := by
  refine Quiet.session.bind fun s => ?_
  split
  · exact Quiet.fail _
  · exact (Quiet.ask _).bind fun _ => Quiet.expect _ _

theorem quiet_startFlow (label reference : String) (parameters : Fields) :
    (startFlow label reference parameters).Quiet := by
  refine (Quiet.ask _).bind fun _ => (Quiet.expect _ _).bind fun asset => ?_
  refine Quiet.session.bind fun s => ?_
  exact (Quiet.ask _).bind fun _ => Quiet.expect _ _

theorem quiet_startQuery (label reference : String) (on : Option String) (parameters : Fields) :
    (startQuery label reference on parameters).Quiet := by
  refine (Quiet.ask _).bind fun _ => (Quiet.expect _ _).bind fun asset => ?_
  refine Quiet.session.bind fun s => (Quiet.ofExcept _).bind fun c => ?_
  refine (Quiet.ask _).bind fun _ => (Quiet.expect _ _).bind fun text => ?_
  exact (Quiet.ask _).bind fun _ => Quiet.expect _ _

theorem quiet_startScript (label reference : String) (parameters : Fields)
    (input : Option Value) : (startScript label reference parameters input).Quiet := by
  refine (Quiet.ask _).bind fun _ => (Quiet.expect _ _).bind fun asset => ?_
  exact (Quiet.ask _).bind fun _ => Quiet.expect _ _

theorem quiet_save (label name : String) : (save label name).Quiet := by
  refine Quiet.session.bind fun s => (Quiet.ask _).bind fun _ => ?_
  exact (Quiet.expect _ _).bind fun _ => Quiet.pure _

theorem quiet_delete (label name : String) (sure : Bool) : (delete label name sure).Quiet := by
  have hdelete : (do
      expect label (← Job.ask (.deleteSession name))
      return .map [("removed", .str name)] : Job Value).Quiet :=
    (Quiet.ask _).bind fun _ => (Quiet.expect _ _).bind fun _ => Quiet.pure _
  cases sure with
  | true => exact hdelete
  | false =>
      refine (Quiet.ask _).bind fun agreed => ?_
      cases agreed with
      | true => exact hdelete
      | false => exact Quiet.pure _

/-- An order that fails or is interrupted leaves the session as it was, and one that succeeds has
its effect. -/
theorem leaves_execute (registry : Registry) (label : String) (input : Option Value) (order : Order)
    (s : Session) : (order.execute registry label input).Leaves s fun _ t => order.Effect s t := by
  cases order with
  | connect source name => exact leaves_openConnection source name s
  | connections => exact Quiet.session.bind (fun _ => Quiet.pure _) s
  | disconnect name => exact leaves_closeConnection name s
  | listVariables => exact Quiet.session.bind (fun _ => Quiet.pure _) s
  | getVariable reference => exact Quiet.session.bind (fun _ => Quiet.ofExcept _) s
  | removeVariable name => exact leaves_removeVariable registry label name input s
  | clearVariables => exact Leaves.session (.replace rfl)
  | inspect reference =>
      exact Quiet.session.bind (fun _ => (Quiet.ofExcept _).bind fun _ => Quiet.pure _) s
  | listSessions =>
      exact (Quiet.ask _).bind (fun _ => (Quiet.expect _ _).bind fun _ => Quiet.pure _) s
  | saveSession name => exact quiet_save label name s
  | loadSession name => exact leaves_load label name s
  | deleteSession name sure => exact quiet_delete label name sure s
  | sessionStatus => exact Quiet.session.bind (fun _ => Quiet.pure _) s
  | listAssets kind => exact (Quiet.ask _).bind (fun _ => Quiet.pure _) s
  | runFlow reference parameters => exact quiet_startFlow label reference parameters s
  | runQuery reference on parameters => exact quiet_startQuery label reference on parameters s
  | runScript reference parameters => exact quiet_startScript label reference parameters input s
  | invoke name action value parameters =>
      exact quiet_runAction name action value parameters input s
  | listRoots => exact (Quiet.ask _).bind (fun _ => Quiet.pure _) s
  | addRoot path =>
      exact (Quiet.ask _).bind (fun _ => (Quiet.ask _).bind fun _ =>
        (Quiet.expect _ _).bind fun _ => Quiet.pure _) s
  | removeRoot reference =>
      exact (Quiet.ask _).bind (fun _ => (Quiet.expect _ _).bind fun _ => Quiet.pure _) s
  | echo value => exact Quiet.pure value s
  | format => exact Quiet.pure _ s
  | help => exact Quiet.pure _ s

end Order

/-! ## Commands -/

/-- What a command that succeeds has done to a session: five of them change it, each in its own
way. -/
def Command.Changes (command : Command) (args : Arguments) (s t : Session) : Prop :=
  match command, args.subcommand with
  | connect, _ => ∃ source name,
      args.text? 0 = some source ∧ args.flagText? "as" = some name ∧ s.Connects source name t
  | disconnect, _ => ∃ name, args.text? 0 = some name ∧ s.Disconnects name t
  | var, some "rm" => ∃ name, args.text? 0 = some name ∧ s.Forgets name t
  | var, some "clear" => t = { s with byName := [] }
  | session, some "load" => ∃ document, Session.ofSnapshot document = .ok t
  | _, _ => t = s

namespace Order

variable {args : Arguments} {order : Order} {s t : Session}

/-- The order that a command is read as has no effect that the command is not meant to have. -/
theorem changes_of_readsAs {command : Command} (hread : ReadsAs args command order)
    (h : order.Effect s t) : command.Changes args s t := by
  cases hread with
  | connect hsource hname => exact ⟨_, _, hsource, hname, h⟩
  | disconnect hname => exact ⟨_, hname, h⟩
  | removeVariable hsub hname =>
      unfold Command.Changes
      rw [hsub]
      exact ⟨_, hname, h⟩
  | listVariables hsub | getVariable hsub _ | clearVariables hsub | listSessions hsub
    | saveSession hsub _ | loadSession hsub _ | deleteSession hsub _ | sessionStatus hsub =>
      unfold Command.Changes
      rw [hsub]
      exact h
  | _ => exact h

/-- In every world, a command whose arguments are in order leaves the session as it was unless it
succeeds, and if it succeeds it has done no more to the session than it is meant to. -/
theorem execute_frame {command : Command} (hread : read command args = .ok order)
    (registry : Registry) (label : String) (input : Option Value) (s : Session) :
    (order.execute registry label input).Leaves s fun _ t => command.Changes args s t :=
  (leaves_execute registry label input order s).mono fun _ _ =>
    changes_of_readsAs (readsAs_of_read hread)

/-- A connection to another source under an alias that is there already. -/
def reconnection : Arguments :=
  ⟨"connect", none, [.str "mirror"], [("as", .str "db")]⟩

/-- A session with a variable and two connections, the other of which is active. -/
def beforeReconnection : Session :=
  ⟨[("x", ⟨"x", .null, "", ""⟩)],
    [("api", ⟨"api", "petstore", ""⟩), ("db", ⟨"db", "main", ""⟩)], some "api"⟩

/-- Services at the beginning of time that reach every source, and nothing else is answered. -/
def reaching : (q : ServiceRequest) → Unit → Option q.Answer × Unit
  | .clock, w => (some (0 : Nat), w)
  | .reach _, w => (some (.ok ()), w)
  | _, w => (none, w)

theorem execute_frame_reconnection :
    read .connect reconnection = .ok (.connect "mirror" "db") ∧
    Command.connect.Changes reconnection beforeReconnection
      ⟨[("x", ⟨"x", .null, "", ""⟩)],
        [("api", ⟨"api", "petstore", ""⟩), ("db", ⟨"db", "mirror", timestamp 0⟩)],
        some "db"⟩ := by
  have hread : read .connect reconnection = .ok (.connect "mirror" "db") := by rfl
  have hleft := execute_frame hread (.builtin []) "connect" none beforeReconnection
  exact ⟨hread, hleft Unit reaching ()⟩

end Order

end Sluice
