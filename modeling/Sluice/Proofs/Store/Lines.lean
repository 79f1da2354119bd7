import Sluice.Proofs.Shell.Single

/-!
# The lines that save and load sessions

What the lines `session save name` and `session load name` do, from their text to the one request
that each of them makes of the services (`Shell.execute_save`, `Shell.execute_load`).
-/

namespace Sluice

/-! ## The two lines -/

/-- The command of a line of the words `session`, a subcommand and a name. -/
def Intent.onSaved (sub name : String) (place span : Span) : Intent :=
  ⟨"session", some sub, [(Operand.word name place).value], [], false, span⟩

theorem Text.words_session (sub name : String) :
    Text.words "session" [sub, name] = s!"session {sub} {name}" := by
  refine String.toList_inj.1 ?_
  simp [Text.words, toString]

namespace Shell

variable {shell : Shell} {name : String}

theorem ofCall_session {registry : Registry} (h : registry.get? "session" = some .session)
    (sub name : String) (a b span : Span) :
    Intent.ofCall registry false ⟨"session", [.word sub a, .word name b], [], span⟩ =
      .ok (.onSaved sub name b span, .none) := by
  have hreading : Reading.ofName registry "session" false = .ok ⟨"session", none, []⟩ := by
    rw [Reading.ofName, Registry.contains, h]
    rfl
  unfold Intent.ofCall
  change (Reading.ofName registry "session" false).bind _ = _
  rw [hreading]
  simp [Except.bind, h, Command.takesSubcommand, splitSubcommand, Intent.onSaved]

theorem program_session (hsession : shell.registry.get? "session" = some .session) {sub : String}
    (hsub : Text.isIdentifier sub = true) (hname : Text.isIdentifier name = true) :
    ∃ place span, shell.program s!"session {sub} {name}" =
      .ok ⟨none, ⟨[.command (.onSaved sub name place span)], .none⟩⟩ := by
  have hwords : ∀ n ∈ ["session", sub, name], Text.isIdentifier n = true := by
    simp [hsub, hname]
    decide
  obtain ⟨spans, span, hlength, hparse⟩ := parse_words hwords
  obtain ⟨a, b, rfl⟩ : ∃ a b, spans = [a, b] :=
    match spans, hlength with
    | [a, b], _ => ⟨a, b, rfl⟩
  refine ⟨b, span, ?_⟩
  unfold program
  rw [← Text.words_session, hparse]
  dsimp only
  rw [Line.build, Chain.build, Stage.build]
  dsimp only [List.zipWith]
  rw [ofCall_session hsession]
  rfl

/-- What the order of such a command is read from. -/
def savedArguments (sub name : String) (place : Span) : Arguments :=
  ⟨"session", some sub, [(Operand.word name place).value], []⟩

theorem order_session {registry : Registry} (h : registry.get? "session" = some .session)
    (hname : Text.isIdentifier name = true) (sub : String) (s : Session) (place span : Span) :
    (Intent.onSaved sub name place span).order registry s false =
      (Order.readSession (savedArguments sub name place)).map
        (·, (savedArguments sub name place).label) := by
  have hresolve : (Intent.onSaved sub name place span).resolve s = .ok (savedArguments sub name place) := by
    change (Value.resolveItems s [_]).bind _ = _
    rw [Value.resolveItems, Value.resolve_word s hname]
    rfl
  unfold Intent.order
  dsimp only [Intent.onSaved]
  rw [h]
  change Except.bind ((Intent.onSaved sub name place span).resolve s) _ = _
  rw [hresolve]
  change (Order.readSession (savedArguments sub name place)).bind _ = _
  cases Order.readSession (savedArguments sub name place) with
  | error failure => rfl
  | ok order => rfl

theorem sessionName_saved (hname : Text.isIdentifier name = true) (sub : String) (place : Span) :
    Order.sessionName (savedArguments sub name place) = .ok name := by
  have htext : (savedArguments sub name place).needText 0 "name" = .ok name := by
    change Except.ok (Operand.word name place).value.toText = _
    rw [Value.toText_word]
  unfold Order.sessionName
  rw [htext]
  change (if Text.isIdentifier name = true then _ else _) = _
  rw [if_pos hname]

theorem readSession_save (hname : Text.isIdentifier name = true) (place : Span) :
    Order.readSession (savedArguments "save" name place) = .ok (.saveSession name) := by
  change (Order.sessionName (savedArguments "save" name place)).bind _ = _
  rw [sessionName_saved hname]
  rfl

theorem readSession_load (hname : Text.isIdentifier name = true) (place : Span) :
    Order.readSession (savedArguments "load" name place) = .ok (.loadSession name) := by
  change (Order.sessionName (savedArguments "load" name place)).bind _ = _
  rw [sessionName_saved hname]
  rfl

/-- The line of a subcommand and a name does what the order does that is read from them. -/
theorem execute_session (hsession : shell.registry.get? "session" = some .session) {sub : String}
    (hsub : Text.isIdentifier sub = true) (hname : Text.isIdentifier name = true) {order : Order}
    (horder : ∀ place, Order.readSession (savedArguments sub name place) = .ok order) (s : Session) :
    ∃ place span, shell.execute s!"session {sub} {name}" s =
      ((order.execute shell.registry (savedArguments sub name place).label none).run.onSession s).bind
        fun r => .done (shell.settleSingle (.onSaved sub name place span) .none s r) := by
  have hcommand : Text.isIdentifier "session" = true := by decide
  obtain ⟨place, span, hprogram⟩ := program_session hsession hsub hname
  have hline := isRemark_words hcommand [sub, name]
  rw [Text.words_session] at hline
  have hread := order_session hsession hname sub s place span
  rw [horder] at hread
  exact ⟨place, span, execute_single hline hprogram hread⟩

/-! ## What the lines do -/

/-- The failure of a command that is a line of its own. -/
def singleFailure (label : String) (fault : CommandFault) : PipelineFailure :=
  ⟨some ⟨1, label⟩, .commandFailed label fault⟩

/-- How the line that saves the session ends, from the answer to its request. -/
def saved (shell : Shell) (name : String) (s : Session) :
    Option (Except ServiceFault Unit) → Except PipelineFailure Outcome × Session
  | some (.ok ()) => (.ok (.ofResult (.map (("saved", .str name) :: s.counts)) .none shell.output), s)
  | some (.error fault) => (.error (singleFailure "session save" (.service fault)), s)
  | none => (.error ⟨none, .interrupted⟩, s)

/-- How the line that loads a saved session ends, from the answer to its request. -/
def loaded (shell : Shell) (name : String) (s : Session) :
    Option (Except ServiceFault Value) → Except PipelineFailure Outcome × Session
  | some (.ok document) =>
    match Session.ofSnapshot document with
    | .ok t => (.ok (.ofResult (.map (("loaded", .str name) :: t.counts)) .none shell.output), t)
    | .error fault => (.error (singleFailure "session load" (.snapshot fault)), s)
  | some (.error fault) => (.error (singleFailure "session load" (.service fault)), s)
  | none => (.error ⟨none, .interrupted⟩, s)

theorem loaded_of_ok (shell : Shell) (name : String) {document : Value} {t : Session}
    (h : Session.ofSnapshot document = .ok t) (s : Session) :
    ∃ outcome, shell.loaded name s (some (.ok document)) = (.ok outcome, t) := by
  unfold loaded
  dsimp only
  rw [h]
  exact ⟨_, rfl⟩

theorem loaded_of_error (shell : Shell) (name : String) {document : Value} {fault : SnapshotFault}
    (h : Session.ofSnapshot document = .error fault) (s : Session) :
    ∃ failure, shell.loaded name s (some (.ok document)) = (.error failure, s) := by
  unfold loaded
  dsimp only
  rw [h]
  exact ⟨_, rfl⟩

/-- The line asks for the session to be saved, and leaves it as it is. -/
theorem execute_save (hsession : shell.registry.get? "session" = some .session)
    (hname : Text.isIdentifier name = true) (s : Session) :
    shell.execute s!"session save {name}" s =
      Act.ask (I := service) (.saveSession name s.snapshot) fun answer =>
        .done (shell.saved name s answer) := by
  have hsub : Text.isIdentifier "save" = true := by decide
  obtain ⟨place, span, hexecute⟩ := execute_session hsession hsub hname (readSession_save hname) s
  refine hexecute.trans ?_
  refine congrArg (Act.ask (I := service) (.saveSession name s.snapshot)) (funext fun answer => ?_)
  rcases answer with _ | _ | _
  · rfl
  · rfl
  · rfl

/-- The order to load asks for the saved session and restores the session from what comes. -/
theorem onSession_load (label name : String) (s : Session) :
    (Order.load label name).run.onSession s =
      Act.ask (I := service) (.loadSession name) fun
        | none => .done (none, s)
        | some (.error fault) => .done (some (.error (.commandFailed label (.service fault))), s)
        | some (.ok document) =>
          match s.restore document with
          | (.error fault, _) => .done (some (.error (.commandFailed label (.snapshot fault))), s)
          | (.ok (), t) => .done (some (.ok (.map (("loaded", .str name) :: t.counts))), t) := by
  refine congrArg (Act.ask (I := service) (.loadSession name)) (funext fun answer => ?_)
  rcases answer with _ | _ | document
  · rfl
  · rfl
  · dsimp only
    change ((match s.restore document with
      | (.error fault, _) => Job.fail (.commandFailed label (.snapshot fault))
      | (.ok (), t) => do
        Job.replace t
        return .map (("loaded", .str name) :: t.counts) : Job Value).run.onSession s) = _
    rcases s.restore document with ⟨_ | _, t⟩
    · rfl
    · rfl

/-- The line asks for the saved session, and puts what comes into the place of the session. -/
theorem execute_load (hsession : shell.registry.get? "session" = some .session)
    (hname : Text.isIdentifier name = true) (s : Session) :
    shell.execute s!"session load {name}" s =
      Act.ask (I := service) (.loadSession name) fun answer =>
        .done (shell.loaded name s answer) := by
  have hsub : Text.isIdentifier "load" = true := by decide
  obtain ⟨place, span, hexecute⟩ := execute_session hsession hsub hname (readSession_load hname) s
  refine hexecute.trans ?_
  refine (congrArg (Act.bind · _) (onSession_load _ name s)).trans ?_
  refine congrArg (Act.ask (I := service) (.loadSession name)) (funext fun answer => ?_)
  rcases answer with _ | _ | document
  · rfl
  · rfl
  · unfold loaded Session.restore
    dsimp only
    cases Session.ofSnapshot document with
    | error fault => rfl
    | ok t => rfl

end Shell

end Sluice
