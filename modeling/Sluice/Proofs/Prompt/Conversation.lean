import Sluice.Proofs.Prompt.Interrupts
import Sluice.Proofs.Prompt.Services
import Sluice.Sandbox.World

/-!
# Every line is used once

The conversation with the operator, turn by turn, with interrupts at any moment. The lines that it
takes are those of its turns, in order: a statement that is executed, with the answers to the
confirmations that it asks for; a statement that ends the conversation; or what an interrupt at the
prompt discards. Between the turns nothing waits for an interrupt, and one that is raised while
nothing waits changes nothing that comes later (`Station.turns_use_lines`).

* `Station.Happens` : what one turn does;
* `Station.run_turn` : every turn does one of these things;
* `Station.Goes` : hence turn follows turn.
-/

namespace Sluice

variable {ω σ : Type}

/-! ## Turns -/

/-- What became of the lines of one turn. -/
inductive Turn where
  /-- A statement was executed, which consulted services and came to a result. -/
  | executed (typed : List String) (log : List Consultation)
      (result : Except PipelineFailure Outcome)
  /-- An interrupt at the prompt discarded what had been typed. -/
  | discarded (typed : List String)
  /-- The statement was the last one. -/
  | farewell (typed : List String)
  /-- There was no statement any more. -/
  | ended

def Turn.lines : Turn → List String
  | executed typed log _ => typed ++ Consultation.allTaken log
  | discarded typed | farewell typed => typed
  | ended => []

namespace Station

/-- Shows and records what a line came to. -/
def wrapUp (station : Station σ) (line : String) (result : Except PipelineFailure Outcome) :
    Act host Unit :=
  match station.history with
  | some home => (report result).bind fun _ => History.addOutcome home line result
  | none => report result

section Turns

variable (station : Station σ) (m : Machine ω) (placing : Placing) (waiting : ω → List String)
  (limit : Nat)

/-- One turn, from a standing and a machine to those of the next turn, if there is one.

* An interrupt that comes while a line is waited for discards what has been typed of the statement, and
all else is as it was.
* The input is at its end, or the statement ends the conversation, and no interrupt was seen.
* The statement, the lines joined, is executed on the session: it consults services, which take no
line or, for a confirmation, the line that answers it. If an interrupt is raised and seen while one of
them is waited for, then it has no answer. It takes no line then and is the last one; the statement
has failed, and the session is as it was. Nothing waits for an interrupt before the statement has
begun, nor while what it came to is shown. -/
inductive Happens : Standing σ → Attended ω → Turn → Option (Standing σ) → Attended ω → Prop where
  | discarded {now : Standing σ} {typed : List String} {s s₁ s' : Attended ω}
      (read : (Prompt.readStatement limit).run (I := host) (m.attended placing)
        (m.listening placing s) = (none, s₁))
      (reads : Prompt.ReadsTo (m.attended placing) (waiting ∘ Attended.machine) s typed none s₁)
      (came : s₁.interrupts.come = true) (rest : waiting s'.machine = waiting s₁.machine) :
      Happens now s (.discarded typed) (some now) s'
  | ended {now : Standing σ} {s s₁ s' : Attended ω}
      (read : (Prompt.readStatement limit).run (I := host) (m.attended placing)
        (m.listening placing s) = (some none, s₁))
      (reads : Prompt.ReadsTo (m.attended placing) (waiting ∘ Attended.machine) s [] (some none) s₁)
      (calm : ¬ m.Disturbs placing (Prompt.readStatement limit) (m.listening placing s))
      (rest : waiting s'.machine = waiting s₁.machine) :
      Happens now s .ended none s'
  | farewell {now : Standing σ} {typed : List String} {statement : String} {s s₁ s' : Attended ω}
      (read : (Prompt.readStatement limit).run (I := host) (m.attended placing)
        (m.listening placing s) = (some (some statement), s₁))
      (reads : Prompt.ReadsTo (m.attended placing) (waiting ∘ Attended.machine) s typed
        (some (some statement)) s₁)
      (calm : ¬ m.Disturbs placing (Prompt.readStatement limit) (m.listening placing s))
      (ends : endsTalk statement = true) (rest : waiting s'.machine = waiting s₁.machine) :
      Happens now s (.farewell typed) none s'
  | executed {now : Standing σ} {typed : List String} {statement : String}
      {s s₁ s₂ s₃ s' : Attended ω} {log : List Consultation}
      {result : Except PipelineFailure Outcome} {session : Session} {services : σ}
      (read : (Prompt.readStatement limit).run (I := host) (m.attended placing)
        (m.listening placing s) = (some (some statement), s₁))
      (reads : Prompt.ReadsTo (m.attended placing) (waiting ∘ Attended.machine) s typed
        (some (some statement)) s₁)
      (calm : ¬ m.Disturbs placing (Prompt.readStatement limit) (m.listening placing s))
      (goesOn : endsTalk statement = false)
      (before : (m.relieved placing s₁).interrupts = .idle)
      (begins : s₂ = m.listening placing (m.relieved placing s₁))
      (kept : waiting s₂.machine = waiting s₁.machine)
      (consults : Consults (m.attended placing) (waiting ∘ Attended.machine) station.meet
        (station.shell.execute statement now.session) now.services s₂ log
        (some (result, session)) services s₃)
      (regular : ∀ c ∈ log, c.Regular)
      (noticed : m.Disturbs placing (station.execute statement now) s₂ →
        (∃ c ∈ log, c.answer = none) ∧ s₃.interrupts.come = true)
      (last : ∀ before c after, log = before ++ c :: after → c.answer = none → c.taken = [] ∧
        after = [] ∧ result = .error ⟨none, .interrupted⟩ ∧ session = now.session)
      (after : (m.relieved placing s₃).interrupts = .idle)
      (shown : (station.wrapUp statement result).run (I := host) (m.attended placing)
        (m.relieved placing s₃) = (some (), s'))
      (rest : waiting s'.machine = waiting s₃.machine) :
      Happens now s (.executed typed log result) (some ⟨session, services⟩) s'

/-- Turn follows turn, up to a number of turns, unless one of them is the last. Between them nothing
waits for an interrupt. -/
inductive Goes : Nat → Standing σ → Attended ω → List Turn → Standing σ → Attended ω → Prop where
  | out {now : Standing σ} {s : Attended ω} (idle : s.interrupts = .idle) : Goes 0 now s [] now s
  | last {n : Nat} {now : Standing σ} {turn : Turn} {s s' : Attended ω}
      (idle : s.interrupts = .idle) (idle' : s'.interrupts = .idle) :
      (station.turn limit now).run (I := host) (m.attended placing) s = (some none, s') →
      station.Happens m placing waiting limit now s turn none s' → Goes (n + 1) now s [turn] now s'
  | more {n : Nat} {now now₁ now' : Standing σ} {turn : Turn} {turns : List Turn}
      {s s₁ s' : Attended ω} (idle : s.interrupts = .idle) :
      (station.turn limit now).run (I := host) (m.attended placing) s = (some (some now₁), s₁) →
      station.Happens m placing waiting limit now s turn (some now₁) s₁ →
      Goes n now₁ s₁ turns now' s' → Goes (n + 1) now s (turn :: turns) now' s'

end Turns

variable {station : Station σ} {m : Machine ω} {placing : Placing} {waiting : ω → List String}
  {limit : Nat}

theorem Happens.waiting_eq {now : Standing σ} {s s' : Attended ω} {turn : Turn}
    {next : Option (Standing σ)} (h : station.Happens m placing waiting limit now s turn next s') :
    waiting s.machine = turn.lines ++ waiting s'.machine := by
  cases h with
  | discarded _ hreads _ hrest =>
      cases hreads with
      | interrupted htyped _ _ => exact hrest ▸ htyped.taken
  | ended _ hreads _ hrest =>
      cases hreads with
      | ended hs hs₁ => exact hs.trans (hs₁.symm.trans hrest.symm)
  | farewell _ hreads _ _ hrest =>
      cases hreads with
      | statement htyped _ _ => exact hrest ▸ htyped.taken
  | executed _ hreads _ _ _ _ hkept hconsults _ _ _ _ _ hrest =>
      cases hreads with
      | statement htyped _ _ =>
          refine htyped.taken.trans ?_
          rw [Turn.lines, List.append_assoc, hrest]
          exact congrArg _ (hkept.symm.trans hconsults.waiting_eq)

theorem Goes.waiting_eq {n : Nat} {now now' : Standing σ} {s s' : Attended ω} {turns : List Turn}
    (h : station.Goes m placing waiting limit n now s turns now' s') :
    waiting s.machine = turns.flatMap Turn.lines ++ waiting s'.machine := by
  induction h with
  | out => rfl
  | last _ _ _ hturn => rw [hturn.waiting_eq, List.flatMap_singleton]
  | more _ _ hturn _ ih => rw [hturn.waiting_eq, ih, List.flatMap_cons, List.append_assoc]

/-! ## What is written -/

theorem quiet_printLine (text : String) : (Host.printLine text).Quiet :=
  .tell trivial

theorem quiet_complainLine (text : String) : (Host.complainLine text).Quiet :=
  .tell trivial

theorem quiet_report (result : Except PipelineFailure Outcome) : (report result).Quiet := by
  unfold report
  split
  · exact .done ()
  · exact .done ()
  · next text warning =>
    cases warning with
    | none => exact quiet_printLine text
    | some w => exact (quiet_complainLine _).bind fun _ => quiet_printLine text
  · exact quiet_complainLine _

theorem quiet_addOutcome (home line : String) (result : Except PipelineFailure Outcome) :
    (History.addOutcome home line result).Quiet := by
  refine Act.Quiet.time.bind fun seconds => ?_
  dsimp only
  split
  · next r _ =>
    have hmake : (Host.tell (.makeDirectory (History.directory home))).Quiet := .tell trivial
    have happend : (Host.tell (.appendFile (History.file home) r.text)).Quiet :=
      .tell trivial
    exact hmake.bind fun _ => happend
  · exact .done ()

theorem quiet_wrapUp (station : Station σ) (line : String)
    (result : Except PipelineFailure Outcome) : (station.wrapUp line result).Quiet := by
  unfold wrapUp
  split
  · exact (quiet_report result).bind fun _ => quiet_addOutcome _ line result
  · exact quiet_report result

theorem runLine_eq_wrapUp (station : Station σ) (line : String) (now : Standing σ) :
    station.runLine line now = (station.executeOrCancel line now).bind fun r =>
      (station.wrapUp line r.1).bind fun _ => .done (r.1.isOk, r.2) := by
  refine congrArg (Act.bind _) (funext fun r => ?_)
  obtain ⟨result, now'⟩ := r
  unfold wrapUp
  cases station.history with
  | none => rfl
  | some home => exact (Act.bind_assoc _ _ _).symm

/-- What follows when a statement has been read, or not. -/
def respond (station : Station σ) (now : Standing σ) :
    Option (Option String) → Act host (Option (Standing σ))
  | none => (Host.printLine "").bind fun _ => .done (some now)
  | some none => .done none
  | some (some statement) =>
    if endsTalk statement then .done none
    else (station.runLine statement now).bind fun r => .done (some r.2)

theorem turn_eq_respond (station : Station σ) (limit : Nat) (now : Standing σ) :
    station.turn limit now =
      (Host.interruptible (Prompt.readStatement limit).attempt).bind (station.respond now) := by
  refine congrArg (Act.bind _) (funext fun r => ?_)
  rcases r with _ | _ | statement
  · rfl
  · rfl
  · unfold respond
    dsimp only
    split
    · rfl
    · rfl

/-! ## One turn -/

/-- A statement is executed to its end, by regular consultations. An interrupt leaves one of them
without an answer, which is the end of the statement and leaves the session as it was. -/
theorem run_execute_consults {world : (q : HostRequest) → ω → Option q.Answer × ω}
    (hqueues : Prompt.Queues world waiting) (hstation : station.Considerate) (statement : String)
    (now : Standing σ) (w : ω) :
    ∃ log result session services w',
      (station.execute statement now).run (I := host) world w =
        (some (result, ⟨session, services⟩), w') ∧
      Consults world waiting station.meet (station.shell.execute statement now.session)
        now.services w log (some (result, session)) services w' ∧
      (∀ c ∈ log, c.Regular) ∧
      ((station.execute statement now).Interrupted world w → ∃ c ∈ log, c.answer = none) ∧
      ∀ before c after, log = before ++ c :: after → c.answer = none → c.taken = [] ∧
        after = [] ∧ result = .error ⟨none, .interrupted⟩ ∧ session = now.session := by
  obtain ⟨log, r, services, w', hrun, hconsults, hlog, hinterrupted⟩ :=
    run_consults hqueues hstation (station.shell.execute statement now.session) now.services w
  obtain ⟨hsome, hlast⟩ :=
    hconsults.interrupted (station.shell.surrenders_execute statement now.session)
  obtain ⟨⟨result, session⟩, rfl⟩ := Option.isSome_iff_exists.1 hsome
  refine ⟨log, result, session, services, w', ?_, hconsults, hlog, fun h => ?_,
    fun before c after heq hnone => ?_⟩
  · refine (Host.run_bind world _ _ w).trans ?_
    rw [hrun]
    rfl
  · rcases Act.Interrupted.of_bind h with hthrough | ⟨a, w₁, hrun₁, hreturn⟩
    · exact hinterrupted hthrough
    · -- nothing is asked behind the last consultation
      cases hrun.symm.trans hrun₁
      cases hreturn
  · obtain ⟨hafter, hresult⟩ := hlast before c after heq hnone
    obtain ⟨rfl, rfl⟩ := Prod.mk.inj (Option.some.inj hresult)
    have hmem : c ∈ log := by simp [heq]
    exact ⟨(hlog c hmem).taken_of_interrupted hnone, hafter, rfl, rfl⟩

theorem Considerate.within_execute (hstation : station.Considerate) (statement : String)
    (now : Standing σ) : (station.execute statement now).Within HostRequest.Outward := by
  have hthrough := Act.Within.through (m := station.shell.execute statement now.session)
    hstation.within now.services
  refine hthrough.bind fun r => ?_
  rcases r with ⟨_ | ⟨result, session⟩, services⟩
  · exact .done _
  · exact .done _

/-- A statement that is executed in a race with the next interrupt happens as a turn does. -/
theorem run_statement_happens (hqueues : m.Queues waiting) (hstation : station.Considerate)
    (now : Standing σ) {typed : List String} {statement : String} {s s₁ : Attended ω}
    (hread : (Prompt.readStatement limit).run (I := host) (m.attended placing)
      (m.listening placing s) = (some (some statement), s₁))
    (hreads : Prompt.ReadsTo (m.attended placing) (waiting ∘ Attended.machine) s typed
      (some (some statement)) s₁)
    (hcalm : ¬ m.Disturbs placing (Prompt.readStatement limit) (m.listening placing s))
    (hends : endsTalk statement = false) (hidle : (m.relieved placing s₁).interrupts = .idle) :
    ∃ turn next s', (station.runLine statement now).run (I := host) (m.attended placing)
        (m.relieved placing s₁) = (some next, s') ∧
      station.Happens m placing waiting limit now s turn (some next.2) s' ∧
      s'.interrupts = .idle := by
  have hqueued := hqueues.attended placing
  obtain ⟨log, result, session, services, s₃, hexecute, hconsults, hlog, hnoticed, hlast⟩ :=
    run_execute_consults hqueued hstation statement now (m.listening placing (m.relieved placing s₁))
  have hwithin := hstation.within_execute statement now
  have hrelieved := Machine.idle_relieved hwithin hidle hexecute
  obtain ⟨_, s', hwrap, hs'⟩ :=
    (station.quiet_wrapUp statement result).run hqueued (m.relieved placing s₃)
  have hidle' := Machine.idle_run (station.quiet_wrapUp statement result).within hrelieved hwrap
  have hkept : waiting (m.listening placing (m.relieved placing s₁)).machine =
      waiting s₁.machine :=
    (hqueued.others .listen _ nofun).trans (hqueued.others .stopListening s₁ nofun)
  refine ⟨.executed typed log result, (result.isOk, ⟨session, services⟩), s', ?_,
    .executed hread hreads hcalm hends hidle rfl hkept hconsults hlog (fun h => ?_) hlast hrelieved
      hwrap (hs'.trans (hqueued.others .stopListening s₃ nofun)), hidle'⟩
  · have hcancel : (station.executeOrCancel statement now).run (I := host) (m.attended placing)
        (m.relieved placing s₁) = (some (result, ⟨session, services⟩), m.relieved placing s₃) :=
      Machine.run_interruptible hexecute
    rw [runLine_eq_wrapUp, Host.run_bind_of_eq _ hcancel, Host.run_bind_of_eq _ hwrap]
    rfl
  · have hinterrupted := (Machine.interrupted_iff hwithin (m.waiters_listening placing _)).2 h
    have hcome := Machine.come_of_interrupted hwithin hinterrupted
    rw [hexecute] at hcome
    exact ⟨hnoticed hinterrupted, hcome⟩

/-- Every turn happens, and nothing waits for an interrupt behind it. -/
theorem run_turn (hqueues : m.Queues waiting) (hstation : station.Considerate)
    (placing : Placing) (now : Standing σ) {s : Attended ω} (hidle : s.interrupts = .idle)
    (hlimit : (waiting s.machine).length < limit) :
    ∃ turn next s', (station.turn limit now).run (I := host) (m.attended placing) s =
        (some next, s') ∧
      station.Happens m placing waiting limit now s turn next s' ∧ s'.interrupts = .idle := by
  have hqueued := hqueues.attended placing
  have hlistening : (waiting ∘ Attended.machine) (m.listening placing s) = waiting s.machine :=
    hqueued.others .listen s nofun
  obtain ⟨typed, r, s₁, hread, hreads⟩ :=
    Prompt.run_statement hqueued (w := m.listening placing s) (hlistening.symm ▸ hlimit)
  replace hreads := hreads.of_waiting_eq hlistening
  have hrelieved : waiting (m.relieved placing s₁).machine = waiting s₁.machine :=
    hqueued.others .stopListening s₁ nofun
  have hasks := Prompt.asksOnly_readStatement limit
  have hidle₁ := Machine.idle_relieved hasks.within hidle hread
  have hcalm (h : m.Disturbs placing (Prompt.readStatement limit) (m.listening placing s)) :
      r = none := by
    have hinterrupted :=
      (Machine.interrupted_iff hasks.within (m.waiters_listening placing s)).2 h
    exact (congrArg Prod.fst hread).symm.trans (hasks.run_interrupted hinterrupted)
  have hattempt : (Prompt.readStatement limit).attempt.run (I := host) (m.attended placing)
      (m.listening placing s) = (some r, s₁) := by
    rw [Host.run_attempt, hread]
  rw [turn_eq_respond, Host.run_bind_of_eq _ (Machine.run_interruptible hattempt)]
  rcases r with _ | _ | statement
  · have hquiet := quiet_printLine ""
    obtain ⟨_, s', hrun, hs'⟩ := hquiet.run hqueued (m.relieved placing s₁)
    have hcame : s₁.interrupts.come = true := by
      cases hreads with
      | @interrupted _ w₀ _ _ _ hnone =>
          have hcome := Machine.come_of_eq_none (congrArg Prod.fst hnone)
          rwa [hnone] at hcome
    refine ⟨.discarded typed, some now, s', ?_, .discarded hread hreads hcame (hs'.trans hrelieved),
      Machine.idle_run hquiet.within hidle₁ hrun⟩
    rw [respond, Host.run_bind_of_eq _ hrun]
    rfl
  · cases hreads with
    | ended hs hs₁ =>
        exact ⟨.ended, none, _, rfl, .ended hread (.ended hs hs₁) (fun h => nomatch hcalm h) hrelieved,
          hidle₁⟩
  · rw [respond]
    cases hends : endsTalk statement with
    | true =>
        exact ⟨.farewell typed, none, _, rfl,
          .farewell hread hreads (fun h => nomatch hcalm h) hends hrelieved, hidle₁⟩
    | false =>
        rw [if_neg Bool.false_ne_true]
        obtain ⟨turn, next, s', hrun, hhappens, hidle'⟩ :=
          run_statement_happens hqueues hstation now hread hreads (fun h => nomatch hcalm h) hends
            hidle₁
        exact ⟨turn, some next.2, s', Host.run_bind_of_eq _ hrun _, hhappens, hidle'⟩

/-! ## All turns -/

theorem run_turns (hqueues : m.Queues waiting) (hstation : station.Considerate)
    (placing : Placing) (n : Nat) (now : Standing σ) {s : Attended ω} (hidle : s.interrupts = .idle)
    (hlimit : (waiting s.machine).length < limit) :
    ∃ turns now' s', (station.turns limit n now).run (I := host) (m.attended placing) s =
        (some now', s') ∧
      station.Goes m placing waiting limit n now s turns now' s' := by
  induction n generalizing now s with
  | zero => exact ⟨[], now, s, rfl, .out hidle⟩
  | succ n ih =>
      obtain ⟨turn, next, s₁, hturn, hhappens, hidle₁⟩ :=
        run_turn hqueues hstation placing now hidle hlimit
      have hrun : (station.turns limit (n + 1) now).run (I := host) (m.attended placing) s =
          (next.elim (.done now) (station.turns limit n)).run (I := host) (m.attended placing) s₁ := by
        refine (Host.run_bind _ (station.turn limit now) _ s).trans ?_
        rw [hturn]
        cases next with
        | none => rfl
        | some now₁ => rfl
      rw [hrun]
      cases next with
      | none => exact ⟨[turn], now, s₁, rfl, .last hidle hidle₁ hturn hhappens⟩
      | some now₁ =>
          -- later turns have fewer lines before them
          have hfewer : (waiting s₁.machine).length < limit := by
            rw [hhappens.waiting_eq, List.length_append] at hlimit
            omega
          obtain ⟨turns, now', s', hrest, hgoes⟩ := ih now₁ hidle₁ hfewer
          exact ⟨turn :: turns, now', s', hrest, .more hidle hturn hhappens hgoes⟩

/-- The conversation goes on turn by turn, whatever services answer and however interrupts are placed.
The lines that are taken are, in order, those of the turns: each is used once, as a part of one
statement that is executed or that ends the conversation, as the answer to one confirmation, or as a
part of an unfinished statement that an interrupt at the prompt discards. An interrupt takes no line
and ends one statement; the next turn goes on with the session as it was. Nothing waits for an
interrupt between the turns, and the conversation is the same however many interrupts are raised
while nothing waits. -/
theorem turns_use_lines (hqueues : m.Queues waiting) (hstation : station.Considerate)
    (placing : Placing) (n : Nat) (now : Standing σ) {s : Attended ω}
    (hidle : s.interrupts = .idle) (hlimit : (waiting s.machine).length < limit) :
    ∃ turns now' s', (station.turns limit n now).run (I := host) (m.attended placing) s =
        (some now', s') ∧
      station.Goes m placing waiting limit n now s turns now' s' ∧
      waiting s.machine = turns.flatMap Turn.lines ++ waiting s'.machine ∧
      ∀ placing', (∀ q t, (station.turns limit n now).Asks (m.attended placing) s q t →
          t.interrupts.waiters ≠ [] → placing t.requests = placing' t.requests) →
        (station.turns limit n now).run (I := host) (m.attended placing') s = (some now', s') := by
  obtain ⟨turns, now', s', hrun, hgoes⟩ :=
    run_turns hqueues hstation placing n now hidle hlimit
  exact ⟨turns, now', s', hrun, hgoes, hgoes.waiting_eq,
    fun placing' hagree => (Machine.run_eq_of_agree hagree).trans hrun⟩

end Station

/-! ## A conversation on the machine in memory -/

namespace Sandbox.World

theorem lines_changed (w : World) (files : Except FileFault Files) :
    (w.changed files).2.lines = w.lines := by
  cases files with
  | error fault => rfl
  | ok files => rfl

theorem queues_machine : machine.Queues lines where
  readLine w := by
    change w.lines = Prompt.lineIn (some w.nextLine.1) ++ w.nextLine.2.lines
    unfold nextLine
    cases h : w.lines with
    | nil => simp [Prompt.lineIn, h]
    | cons line rest => simp [Prompt.lineIn]
  ending w h := by
    change w.nextLine.1 = none at h
    unfold nextLine at h
    split at h
    · assumption
    · cases h
  others q w h := by
    cases q with
    | writeFile path text => exact w.lines_changed _
    | appendFile path text => exact w.lines_changed _
    | removeFile path => exact w.lines_changed _
    | makeDirectory path => exact w.lines_changed _
    | readLine => exact absurd rfl h
    | _ => rfl
  abandoned _ _ := rfl

end Sandbox.World

namespace Station

/-- A station with all commands, on the services of the local machine. -/
def askingFirst : Station (List Root) :=
  ⟨⟨.builtin [], ⟨"auto", 48⟩⟩, (Local.mk [] ⟨"sessions"⟩ .operator).meet, none⟩

/-- A machine on which the operator begins a statement, and then removes a saved session and agrees to
it. -/
def removal : Attended Sandbox.World :=
  ⟨⟨0, [], ⟨[], []⟩, ["f(", "session rm s", "y", "exit"], "", ""⟩, .idle, 0⟩

/-- An interrupt comes while the second line is waited for, and some before anything waits. -/
def secondLine (early : Nat) : Placing := fun r =>
  if r = 0 then ⟨early, false⟩
  else if r = 4 then ⟨1, false⟩
  else ⟨0, true⟩

theorem run_readStatement_removal :
    let begun := (Prompt.readStatement 8).run (I := host)
      (Sandbox.World.machine.attended (secondLine 0))
      (Sandbox.World.machine.listening (secondLine 0) removal)
    begun.1 = none ∧ begun.2.machine.lines = ["session rm s", "y", "exit"] := by
  decide +kernel

theorem eq_discarded_of_happens {now : Standing (List Root)} {turn : Turn}
    {next : Option (Standing (List Root))} {s : Attended Sandbox.World}
    (h : askingFirst.Happens Sandbox.World.machine (secondLine 0) Sandbox.World.lines 8 now removal turn
      next s) : turn = .discarded ["f("] := by
  obtain ⟨hnone, hleft⟩ := run_readStatement_removal
  cases h with
  | discarded hread hreads =>
      cases hreads with
      | interrupted htyped =>
          rw [hread] at hleft
          have hlines : ["f("] ++ ["session rm s", "y", "exit"] = _ :=
            htyped.taken.trans (congrArg (_ ++ ·) hleft)
          rw [List.append_cancel_right hlines]
  | ended hread => rw [hread] at hnone; cases hnone
  | farewell hread => rw [hread] at hnone; cases hnone
  | executed hread => rw [hread] at hnone; cases hnone

/-- The interrupt discards what has been typed of the first statement, and the early ones nothing. -/
theorem turns_use_lines_removal :
    Sandbox.World.machine.Queues Sandbox.World.lines ∧ askingFirst.Considerate ∧
    removal.interrupts = .idle ∧ removal.machine.lines.length < 8 ∧
    ∃ turns now s,
      (∀ early, (askingFirst.turns 8 4 ⟨.empty, []⟩).run (I := host)
        (Sandbox.World.machine.attended (secondLine early)) removal = (some now, s)) ∧
      askingFirst.Goes Sandbox.World.machine (secondLine 0) Sandbox.World.lines 8 4 ⟨.empty, []⟩
        removal (.discarded ["f("] :: turns) now s ∧
      ["session rm s", "y", "exit"] = turns.flatMap Turn.lines ++ s.machine.lines := by
  have hconsiderate : askingFirst.Considerate := Local.considerate _ _ _
  have hlimit : removal.machine.lines.length < 8 := by decide
  obtain ⟨turns, now, s, -, hgoes, hlines, hagree⟩ :=
    turns_use_lines Sandbox.World.queues_machine hconsiderate (secondLine 0) 4 ⟨.empty, []⟩
      (s := removal) rfl hlimit
  obtain ⟨turns, rfl⟩ : ∃ rest, turns = .discarded ["f("] :: rest := by
    cases hgoes with
    | last _ _ _ hturn => exact ⟨_, congrArg (· :: _) (eq_discarded_of_happens hturn)⟩
    | more _ _ hturn _ => exact ⟨_, congrArg (· :: _) (eq_discarded_of_happens hturn)⟩
  refine ⟨Sandbox.World.queues_machine, hconsiderate, rfl, hlimit, turns, now, s,
    fun early => hagree _ fun q t ht hwaits => ?_, hgoes, (List.cons.inj hlines).2⟩
  rcases Machine.eq_or_lt_of_asks ht with rfl | hlt
  · exact absurd rfl hwaits
  · -- behind the first request the interrupts are placed alike
    have hne : t.requests ≠ 0 := Nat.ne_zero_of_lt hlt
    rw [secondLine, secondLine, if_neg hne, if_neg hne]

end Station

end Sluice
