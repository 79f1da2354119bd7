import Sluice.Dispatch
import Sluice.Proofs.Order.Delivery
import Sluice.Proofs.Order.Failures

/-!
# Arguments that were found to be in order

A command holds its arguments against what it declares before it does anything, and takes them once
more when it is carried out, each where it has a use for it. The second time nothing can be wrong
with them: no list is indexed outside, no subcommand is unknown and nothing is missing
(`Command.validation_complete`). So a command that refuses its arguments has done nothing yet.

* `Shape.indexed?` : the check, with lists that can be indexed outside;
* `Command.validate` : what is said of the arguments before anything is done;
* `Command.take` : what a command takes from its arguments when it is carried out;
* `Command.Agrees` : how the two stand to each other, and to `Order.read`.
-/

namespace Sluice

/-! ## Shapes -/

namespace Shape

variable (shape : Shape) (args : Arguments)

/-- The check by comparison of numbers; `none` if a list is then indexed outside. -/
def indexed? : Option (Except Failure Unit) :=
  let given := args.positional.length
  if given < shape.required.length then
    shape.required[given]?.map fun what => .error (args.refuse (.missing what))
  else if shape.most < given then
    args.positional[shape.most]?.map fun extra => .error (args.refuse (.unexpected extra.toText))
  else
    match args.flags.keys.find? fun k => !shape.flags.contains k with
    | some unknown =>
      if shape.openFlags then some (.ok ()) else some (.error (args.refuse (.unknownFlag unknown)))
    | none => some (.ok ())

/-- No list is indexed outside. -/
theorem indexed?_eq : shape.indexed? args = some (shape.check args) := by
  unfold indexed? check fault?
  dsimp only
  by_cases hfew : args.positional.length < shape.required.length
  · rw [if_pos hfew, List.getElem?_eq_getElem hfew]
    rfl
  · rw [if_neg hfew, List.getElem?_eq_none (Nat.le_of_not_lt hfew)]
    by_cases hmany : shape.most < args.positional.length
    · rw [if_pos hmany, List.getElem?_eq_getElem hmany]
      rfl
    · rw [if_neg hmany, List.getElem?_eq_none (Nat.le_of_not_lt hmany)]
      cases args.flags.keys.find? fun k => !shape.flags.contains k with
      | none => cases shape.openFlags <;> rfl
      | some unknown => cases shape.openFlags <;> rfl

variable {shape args}

/-- What has the shape has all the positional arguments that have to be there. -/
theorem length_le_of_check (h : shape.check args = .ok ()) :
    shape.required.length ≤ args.positional.length := by
  refine Nat.le_of_not_lt fun hfew => ?_
  unfold check fault? at h
  rw [List.getElem?_eq_getElem hfew] at h
  cases h

end Shape

/-- An argument that is there has a text. -/
theorem Arguments.exists_needText {args : Arguments} (index : Nat) (what : String)
    (h : index < args.positional.length) : ∃ text, args.needText index what = .ok text := by
  unfold needText text?
  rw [List.getElem?_eq_getElem h]
  exact ⟨_, rfl⟩

namespace Command

/-! ## Validation -/

def choices : Command → List String
  | var => ["list", "get", "rm", "clear"]
  | session => ["list", "save", "load", "rm", "status"]
  | asset _ => ["list", "run"]
  | workspace => ["list", "add", "remove"]
  | _ => []

/-- The shape of the arguments that a command takes under a subcommand, if it is one of its own. -/
def shape? : Command → Option String → Option Shape
  | connect, _ => some Order.connectShape
  | disconnect, _ => some (.positional ["alias"])
  | inspect, _ => some (.positional ["name"])
  | invoke, _ => some Order.invokeShape
  | echo, _ => some (.positional ["value"])
  | connections, _ | format, _ | help, _ => some .bare
  | var, some "list" | var, some "clear" => some .bare
  | var, some "get" | var, some "rm" => some (.positional ["name"])
  | session, some "list" | session, some "status" => some .bare
  | session, some "save" | session, some "load" => some (.positional ["name"])
  | session, some "rm" => some Order.deleteShape
  | asset _, some "list" => some .bare
  | asset _, some "run" => some Order.runShape
  | workspace, some "list" => some .bare
  | workspace, some "add" => some (.positional ["path"])
  | workspace, some "remove" => some (.positional ["root"])
  | _, _ => none

/-- The alias of a new connection, which has to be an identifier. -/
def demandAlias (args : Arguments) : Except Failure Unit :=
  match args.flagText? "as" with
  | none => .error (.invalidArguments "connect" .missingAlias)
  | some name =>
    if Text.isIdentifier name then .ok ()
    else .error (.invalidArguments "connect" (.invalidAlias name))

/-- The asset that is asked for, by its position or by its flag. -/
def reference (args : Arguments) : Except Failure String :=
  match args.text? 0 <|> args.flagText? "name" with
  | none => .error (args.refuse (.missing "name"))
  | some reference => .ok reference

/-- What a command demands of arguments that have the shape. -/
def demand (command : Command) (args : Arguments) : Except Failure Unit :=
  match command, args.subcommand with
  | connect, _ => demandAlias args
  | session, some "save" | session, some "load" | session, some "rm" =>
    (Order.sessionName args).map fun _ => ()
  | asset _, some "run" => (reference args).map fun _ => ()
  | _, _ => .ok ()

/-- What is said of the arguments of a command before anything is done. -/
def validate (command : Command) (args : Arguments) : Except Failure Unit :=
  match command.shape? args.subcommand with
  | none => .error (args.badSubcommand command.choices)
  | some shape => do
    shape.check args
    command.demand args

/-! ## Carrying out -/

/-- What a command takes from its arguments when it is carried out, each where it needs it; `none`
if a list is indexed outside. -/
def take (command : Command) (args : Arguments) : Option (Except Failure Order) :=
  match command with
  | connect => some do
    let source ← args.needText 0 "source"
    match args.flagText? "as" with
    | none => .error (.invalidArguments "connect" .missingAlias)
    | some name => .ok (.connect source name)
  | connections => some (.ok .connections)
  | disconnect => some ((args.needText 0 "alias").map .disconnect)
  | var => some <|
    match args.subcommand with
    | some "list" => .ok .listVariables
    | some "get" => (args.needText 0 "name").map .getVariable
    | some "rm" => (args.needText 0 "name").map .removeVariable
    | some "clear" => .ok .clearVariables
    | _ => .error (args.badSubcommand ["list", "get", "rm", "clear"])
  | inspect => some ((args.needText 0 "name").map .inspect)
  | session => some <|
    match args.subcommand with
    | some "list" => .ok .listSessions
    | some "save" => (Order.sessionName args).map .saveSession
    | some "load" => (Order.sessionName args).map .loadSession
    | some "rm" => (Order.sessionName args).map fun name => .deleteSession name (args.isSet "yes")
    | some "status" => .ok .sessionStatus
    | _ => .error (args.badSubcommand ["list", "save", "load", "rm", "status"])
  | asset kind => some <|
    match args.subcommand with
    | some "list" => .ok (.listAssets kind)
    | some "run" => (reference args).map fun reference =>
      match kind with
      | .flow => .runFlow reference (args.parameters ["name"])
      | .query => .runQuery reference (args.flagText? "on") (args.parameters ["name", "on"])
      | .script => .runScript reference (args.parameters ["name"])
    | _ => .error (args.badSubcommand ["list", "run"])
  | invoke => some do
    let name ← args.needText 0 "alias"
    let action ← args.needText 1 "action"
    return .invoke name action args.positional[2]? args.flags
  | workspace => some <|
    match args.subcommand with
    | some "list" => .ok .listRoots
    | some "add" => (args.needText 0 "path").map .addRoot
    | some "remove" => (args.needText 0 "root").map .removeRoot
    | _ => .error (args.badSubcommand ["list", "add", "remove"])
  | echo => args.positional[0]?.map fun value => .ok (.echo value)
  | format => some (.ok .format)
  | help => some (.ok .help)

/-- Carries out a command on arguments that it takes as it goes. -/
def execute (command : Command) (registry : Registry) (args : Arguments) (input : Option Value) :
    Option (Job Value) :=
  (command.take args).map fun taken => do
    let order ← ofExcept taken
    order.execute registry args.label input

/-! ## Agreement -/

/-- Either the arguments are refused, also when they are read as an order, or the order that they
are read as is taken from them without a fault. -/
inductive Agrees (command : Command) (args : Arguments) : Prop where
  | refused (failure : Failure) (hvalidate : command.validate args = .error failure)
      (hread : Order.read command args = .error failure)
  | taken (order : Order) (hvalidate : command.validate args = .ok ())
      (htake : command.take args = some (.ok order)) (hread : Order.read command args = .ok order)

namespace Agrees

variable {command : Command} {args : Arguments} {shape : Shape} {order : Order}

theorem unknown (hshape : command.shape? args.subcommand = none)
    (hread : Order.read command args = .error (args.badSubcommand command.choices)) :
    command.Agrees args := by
  refine .refused _ ?_ hread
  rw [validate, hshape]

/-- A command that checks a shape and goes on with a demand. -/
theorem of_check {rest : Except Failure Order}
    (hshape : command.shape? args.subcommand = some shape)
    (hread : Order.read command args = shape.check args >>= fun _ => rest)
    (hrest : shape.check args = .ok () →
      (∃ failure, command.demand args = .error failure ∧ rest = .error failure) ∨
      ∃ order, command.demand args = .ok () ∧ command.take args = some (.ok order) ∧
        rest = .ok order) : command.Agrees args := by
  have hvalidate : command.validate args = shape.check args >>= fun _ => command.demand args := by
    rw [validate, hshape]
  cases hcheck : shape.check args with
  | error failure =>
      rw [hcheck] at hvalidate hread
      exact .refused failure hvalidate hread
  | ok =>
      rw [hcheck] at hvalidate hread
      rcases hrest hcheck with ⟨failure, hdemand, hfails⟩ | ⟨order, hdemand, htake, hreads⟩
      · exact .refused failure (hvalidate.trans hdemand) (hread.trans hfails)
      · exact .taken order (hvalidate.trans hdemand) htake (hread.trans hreads)

theorem alone (hshape : command.shape? args.subcommand = some .bare)
    (hdemand : command.demand args = .ok ()) (htake : command.take args = some (.ok order))
    (hread : Order.read command args = Order.alone order args) : command.Agrees args :=
  .of_check hshape hread fun _ => .inr ⟨order, hdemand, htake, rfl⟩

theorem withText {what : String} {make : String → Order}
    (hshape : command.shape? args.subcommand = some (.positional [what]))
    (hdemand : command.demand args = .ok ())
    (htake : command.take args = some ((args.needText 0 what).map make))
    (hread : Order.read command args = Order.withText what make args) : command.Agrees args := by
  refine .of_check hshape hread fun hcheck => .inr ?_
  obtain ⟨text, htext⟩ := Arguments.exists_needText 0 what (Shape.length_le_of_check hcheck)
  refine ⟨make text, hdemand, ?_, ?_⟩
  · rw [htake, htext]
    rfl
  · rw [htext]
    rfl

/-- A command that takes what it has demanded. -/
theorem demanded {α : Type} {found : Except Failure α} {make : α → Order}
    (hshape : command.shape? args.subcommand = some shape)
    (hdemand : command.demand args = found.map fun _ => ())
    (htake : command.take args = some (found.map make))
    (hread : Order.read command args = shape.check args >>= fun _ => found.map make) :
    command.Agrees args := by
  refine .of_check hshape hread fun _ => ?_
  cases found with
  | error failure => exact .inl ⟨failure, hdemand, rfl⟩
  | ok a => exact .inr ⟨make a, hdemand, htake, rfl⟩

end Agrees

variable (args : Arguments)

theorem agrees_connect : connect.Agrees args := by
  refine .of_check rfl rfl fun hcheck => ?_
  obtain ⟨source, hsource⟩ :=
    Arguments.exists_needText 0 "source" (Shape.length_le_of_check hcheck)
  have htake : connect.take args = some (match args.flagText? "as" with
      | none => .error (.invalidArguments "connect" .missingAlias)
      | some name => .ok (.connect source name)) := by
    show some (args.needText 0 "source" >>= _) = _
    rw [hsource]
    rfl
  rw [htake, hsource]
  show (∃ failure, demandAlias args = _ ∧ _) ∨ ∃ order, demandAlias args = _ ∧ _
  unfold demandAlias
  cases args.flagText? "as" with
  | none => exact .inl ⟨_, rfl, rfl⟩
  | some name =>
      by_cases hname : Text.isIdentifier name = true
      · exact .inr ⟨.connect source name, if_pos hname, rfl, if_pos hname⟩
      · exact .inl ⟨_, if_neg hname, if_neg hname⟩

theorem agrees_var : var.Agrees args := by
  -- a case for each subcommand, and one for all other texts
  obtain ⟨name, sub, positional, flags⟩ := args
  by_cases hlist : sub = some "list"
  · subst hlist
    exact .alone rfl rfl rfl rfl
  by_cases hget : sub = some "get"
  · subst hget
    exact .withText rfl rfl rfl rfl
  by_cases hrm : sub = some "rm"
  · subst hrm
    exact .withText rfl rfl rfl rfl
  by_cases hclear : sub = some "clear"
  · subst hclear
    exact .alone rfl rfl rfl rfl
  refine .unknown ?_ ?_
  · simp [shape?, *]
  · show Order.readVar _ = _
    unfold Order.readVar
    split <;> first | contradiction | rfl

theorem agrees_session : session.Agrees args := by
  obtain ⟨name, sub, positional, flags⟩ := args
  by_cases hlist : sub = some "list"
  · subst hlist
    exact .alone rfl rfl rfl rfl
  by_cases hsave : sub = some "save"
  · subst hsave
    exact .demanded rfl rfl rfl rfl
  by_cases hload : sub = some "load"
  · subst hload
    exact .demanded rfl rfl rfl rfl
  by_cases hrm : sub = some "rm"
  · subst hrm
    exact .demanded rfl rfl rfl rfl
  by_cases hstatus : sub = some "status"
  · subst hstatus
    exact .alone rfl rfl rfl rfl
  refine .unknown ?_ ?_
  · simp [shape?, *]
  · show Order.readSession _ = _
    unfold Order.readSession
    split <;> first | contradiction | rfl

theorem agrees_asset (kind : AssetKind) : (asset kind).Agrees args := by
  obtain ⟨name, sub, positional, flags⟩ := args
  by_cases hlist : sub = some "list"
  · subst hlist
    exact .alone rfl rfl rfl rfl
  by_cases hrun : sub = some "run"
  · subst hrun
    refine .demanded rfl rfl rfl (congrArg (Order.runShape.check _ >>= ·) (funext fun _ => ?_))
    unfold reference
    generalize (Arguments.text? _ 0 <|> Arguments.flagText? _ "name") = found
    cases found with
    | none => rfl
    | some reference => cases kind <;> rfl
  refine .unknown ?_ ?_
  · simp [shape?, *]
  · show Order.readAsset kind _ = _
    unfold Order.readAsset
    split <;> first | contradiction | rfl

theorem agrees_invoke : invoke.Agrees args := by
  refine .of_check rfl rfl fun hcheck => .inr ?_
  have hlength : 2 ≤ args.positional.length := Shape.length_le_of_check hcheck
  obtain ⟨name, hname⟩ := Arguments.exists_needText 0 "alias" (Nat.lt_of_succ_lt hlength)
  obtain ⟨action, haction⟩ := Arguments.exists_needText 1 "action" hlength
  refine ⟨.invoke name action args.positional[2]? args.flags, rfl, ?_, ?_⟩
  · simp only [take]
    rw [hname, haction]
    rfl
  · rw [hname, haction]
    rfl

theorem agrees_workspace : workspace.Agrees args := by
  obtain ⟨name, sub, positional, flags⟩ := args
  by_cases hlist : sub = some "list"
  · subst hlist
    exact .alone rfl rfl rfl rfl
  by_cases hadd : sub = some "add"
  · subst hadd
    exact .withText rfl rfl rfl rfl
  by_cases hremove : sub = some "remove"
  · subst hremove
    exact .withText rfl rfl rfl rfl
  refine .unknown ?_ ?_
  · simp [shape?, *]
  · show Order.readWorkspace _ = _
    unfold Order.readWorkspace
    split <;> first | contradiction | rfl

theorem agrees_echo : echo.Agrees args := by
  obtain ⟨name, sub, positional, flags⟩ := args
  refine .of_check rfl rfl fun hcheck => .inr ?_
  cases positional with
  | nil => exact absurd (Shape.length_le_of_check hcheck) (Nat.not_succ_le_zero 0)
  | cons value rest => exact ⟨.echo value, rfl, rfl, rfl⟩

/-- What a command says of its arguments agrees with what it takes from them. -/
theorem agrees (command : Command) : command.Agrees args := by
  cases command with
  | connect => exact agrees_connect args
  | connections => exact .alone rfl rfl rfl rfl
  | disconnect => exact .withText rfl rfl rfl rfl
  | var => exact agrees_var args
  | inspect => exact .withText rfl rfl rfl rfl
  | session => exact agrees_session args
  | asset kind => exact agrees_asset args kind
  | invoke => exact agrees_invoke args
  | workspace => exact agrees_workspace args
  | echo => exact agrees_echo args
  | format => exact .alone rfl rfl rfl rfl
  | help => exact .alone rfl rfl rfl rfl

end Command

/-! ## Commands -/

theorem Job.FailsAs.of_runLive {ω α : Type} {P : Failure → Prop} {m : Job α} (h : m.FailsAs P)
    {world : (q : ServiceRequest) → ω → Option q.Answer × ω} {s : Session} {w : ω}
    {failure : Failure} (hfails : (m.runLive world s w).1 = some (.error failure)) : P failure :=
  Act.Yields.run h (JobRequest.inWorld world) (s, w) _ hfails failure rfl

/-- A command in two steps: what is wrong with its arguments, or what comes of them. `none` if a
list is indexed outside. -/
def Command.handle (command : Command) (registry : Registry) (args : Arguments)
    (input : Option Value) : Option (Job Value) :=
  match command.validate args with
  | .error failure => some (Job.fail failure)
  | .ok () =>
    if input.isSome && !command.acceptsInput args.subcommand then
      some (Job.fail (args.refuse .noInput))
    else command.execute registry args input

section

variable {ω : Type} (world : (q : ServiceRequest) → ω → Option q.Answer × ω) {registry : Registry}
  {i : Intent} {command : Command} {s : Session} {args : Arguments} {input : Option Value}

theorem Command.execute_of_taken {order : Order} (htake : command.take args = some (.ok order)) :
    command.execute registry args input = some (order.execute registry args.label input) := by
  rw [execute, htake]
  rfl

/-- A command is run in the two steps. -/
theorem Registry.dispatch_eq_handle (hcommand : registry.get? i.name = some command)
    (hargs : i.resolve s = .ok args) (input : Option Value) :
    ∃ job, command.handle registry args input = some job ∧
      ∀ (ω : Type) (world : (q : ServiceRequest) → ω → Option q.Answer × ω) (w : ω),
        (registry.dispatch i input).runLive world s w = job.runLive world s w := by
  have horder := Intent.order_of_command hcommand hargs input.isSome
  cases Command.agrees args command with
  | refused failure hvalidate hread =>
      rw [hread] at horder
      exact ⟨Job.fail failure, by rw [Command.handle, hvalidate],
        fun ω world w => runLive_dispatch_error world horder w⟩
  | taken order hvalidate htake hread =>
      rw [hread] at horder
      cases hpiped : input.isSome && !command.acceptsInput args.subcommand with
      | true =>
          replace horder := horder.trans (if_pos hpiped)
          refine ⟨Job.fail (args.refuse .noInput), ?_,
            fun ω world w => runLive_dispatch_error world horder w⟩
          rw [Command.handle, hvalidate]
          exact if_pos hpiped
      | false =>
          have hpiped : ¬ (input.isSome && !command.acceptsInput args.subcommand) = true := by
            simp [hpiped]
          replace horder := horder.trans (if_neg hpiped)
          refine ⟨order.execute registry args.label input, ?_,
            fun ω world w => runLive_dispatch world horder w⟩
          rw [Command.handle, hvalidate, ← Command.execute_of_taken htake]
          exact if_neg hpiped

/-- A command that refuses its arguments has left the session and the world as they were. -/
theorem Registry.runLive_dispatch_refusal {w : ω} {name : String} {fault : ArgumentFault}
    (h : ((registry.dispatch i input).runLive world s w).1 =
      some (.error (.invalidArguments name fault))) :
    ((registry.dispatch i input).runLive world s w).2 = (s, w) := by
  cases horder : i.order registry s input.isSome with
  | error failure => rw [runLive_dispatch_error world horder]
  | ok taken =>
      rw [runLive_dispatch world horder] at h
      exact ((Order.failsAs_execute registry taken.2 input taken.1).of_runLive h).elim

end

/-- What is wrong with the arguments of a command is said before anything is done. The check of a
shape indexes no list outside. Arguments that a command has found in order it can take when it is
carried out, so that an order comes of them and not a refusal, and no list is indexed outside; and
however the work ends, it does not end with a refusal. So it is with every command that is called,
since it is run in these two steps; and where it ends with a refusal, neither the session nor the
world has changed. -/
theorem Command.validation_complete (registry : Registry) (input : Option Value) :
    (∀ (shape : Shape) (args : Arguments), shape.indexed? args = some (shape.check args)) ∧
    (∀ (command : Command) (args : Arguments), command.validate args = .ok () →
      ∃ order job, command.take args = some (.ok order) ∧
        command.execute registry args input = some job ∧
        ∀ (ω : Type) (world : (q : ServiceRequest) → ω → Option q.Answer × ω) (s : Session) (w : ω)
          (name : String) (fault : ArgumentFault),
          (job.runLive world s w).1 ≠ some (.error (.invalidArguments name fault))) ∧
    (∀ (i : Intent) (s : Session) (command : Command) (args : Arguments),
      registry.get? i.name = some command → i.resolve s = .ok args →
        ∃ job, command.handle registry args input = some job ∧
          ∀ (ω : Type) (world : (q : ServiceRequest) → ω → Option q.Answer × ω) (w : ω),
            (registry.dispatch i input).runLive world s w = job.runLive world s w) ∧
    ∀ (i : Intent) (s : Session) (ω : Type)
      (world : (q : ServiceRequest) → ω → Option q.Answer × ω) (w : ω) (name : String)
      (fault : ArgumentFault),
      ((registry.dispatch i input).runLive world s w).1 =
          some (.error (.invalidArguments name fault)) →
        ((registry.dispatch i input).runLive world s w).2 = (s, w) := by
  refine ⟨Shape.indexed?_eq, fun command args hvalidate => ?_,
    fun i s command args hcommand hargs => Registry.dispatch_eq_handle hcommand hargs input,
    fun i s ω world w name fault hfails => Registry.runLive_dispatch_refusal world hfails⟩
  cases command.agrees args with
  | refused failure hrefused hread =>
      rw [hvalidate] at hrefused
      cases hrefused
  | taken order _ htake hread =>
      refine ⟨order, _, htake, execute_of_taken htake, fun ω world s w name fault hfails => ?_⟩
      exact (Order.failsAs_execute registry args.label input order).of_runLive hfails

def Arguments.numbered : Arguments :=
  ⟨"query", some "run", [], [("name", .ofNat 7), ("limit", .ofNat 3)]⟩

theorem Command.validation_complete_numbered :
    (asset .query).validate .numbered = .ok () ∧
      ∃ order job, order = .runQuery "7" none [("limit", .ofNat 3)] ∧
        (asset .query).take .numbered = some (.ok order) ∧
        (asset .query).execute (.builtin []) .numbered none = some job := by
  have hvalidate : (asset .query).validate .numbered = .ok () := rfl
  obtain ⟨order, job, htake, hexecute, -⟩ :=
    (validation_complete (.builtin []) none).2.1 (asset .query) .numbered hvalidate
  have horder : (asset .query).take .numbered =
      some (.ok (.runQuery "7" none [("limit", .ofNat 3)])) := rfl
  rw [horder] at htake
  cases htake
  exact ⟨hvalidate, _, job, rfl, horder, hexecute⟩

end Sluice
