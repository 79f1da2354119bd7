import Sluice.Prompt
import Sluice.Proofs.Running

/-!
# Who takes the operator's lines

The lines that the operator types wait until they are asked for, and an interrupt takes none
(`Prompt.Queues`). On such a machine, with interrupts at any requests, a question takes at most the
one line that answers it (`Prompt.run_confirm`), and a statement takes lines while it is unfinished,
until it is complete, the input ends or an interrupt comes (`Prompt.run_statement`). Programs that
are quiet take no lines (`Act.Quiet.run`). An interrupt that is noticed where a request is waited for
may decide what the program comes to (`Act.Surrenders.run_interrupted`).
-/

namespace Sluice

variable {ω σ α β : Type}

/-! ## Lines that wait -/

namespace Prompt

/-- The line that is gone with the answer to a request for one. -/
def lineIn : Option (Option String) → List String
  | some (some line) => [line]
  | _ => []

/-- The operator's lines wait in order, those that are yet to be typed included. A request for a line
takes the first one, and only where none is left is the input at its end. A request that is
interrupted takes no line, and neither does any other request. -/
structure Queues (world : (q : HostRequest) → ω → Option q.Answer × ω)
    (waiting : ω → List String) : Prop where
  readLine : ∀ w, waiting w = lineIn (world .readLine w).1 ++ waiting (world .readLine w).2
  ending : ∀ w, (world .readLine w).1 = some none → waiting w = []
  others : ∀ q w, q ≠ .readLine → waiting (world q w).2 = waiting w

end Prompt

/-! ## Programs that take none -/

/-- The request is about the machine, and not about who waits for interrupts. -/
def HostRequest.Outward : HostRequest → Prop
  | listen | stopListening => False
  | _ => True

/-- The same, and the request takes no line from the operator. -/
def HostRequest.Aside : HostRequest → Prop
  | readLine | listen | stopListening => False
  | _ => True

theorem HostRequest.Aside.outward {q : HostRequest} (h : q.Aside) : q.Outward := by
  cases q with
  | listen => exact h
  | stopListening => exact h
  | _ => trivial

theorem HostRequest.Aside.ne_readLine {q : HostRequest} (h : q.Aside) : q ≠ .readLine := by
  rintro rfl
  exact h

namespace Act

/-- All requests of the program are of one kind. -/
inductive Within (kind : HostRequest → Prop) : Act host α → Prop where
  | done (a : α) : Within kind (done a)
  | stop : Within kind stop
  | ask {q : HostRequest} {next : Option q.Answer → Act host α} :
      kind q → (∀ a, Within kind (next a)) → Within kind (ask (I := host) q next)

/-- The program makes requests of one kind only, and an interrupt ends it while it waits. -/
inductive AsksOnly (kind : HostRequest → Prop) : Act host α → Prop where
  | done (a : α) : AsksOnly kind (done a)
  | stop : AsksOnly kind stop
  | ask {q : HostRequest} {next : Option q.Answer → Act host α} :
      kind q → (q.Waits → next none = stop) → (∀ a, AsksOnly kind (next a)) →
        AsksOnly kind (ask (I := host) q next)

/-- The program asks for no line and comes to its end, whatever is interrupted. -/
inductive Quiet : Act host α → Prop where
  | done (a : α) : Quiet (done a)
  | ask {q : HostRequest} {next : Option q.Answer → Act host α} :
      q.Aside → (∀ a, Quiet (next a)) → Quiet (ask (I := host) q next)

/-- An interrupt of a request that is waited for makes `r` the result at once. -/
inductive Surrenders {I : Interface} (waits : I.Request → Prop) (r : α) : Act I α → Prop where
  | done (a : α) : Surrenders waits r (done a)
  | ask {q : I.Request} {next : Option (I.Answer q) → Act I α} :
      (waits q → next none = .done r) → (∀ a, Surrenders waits r (next a)) →
        Surrenders waits r (ask q next)

namespace Within

variable {kind : HostRequest → Prop}

theorem bind {m : Act host α} {f : α → Act host β} (hm : m.Within kind)
    (hf : ∀ a, (f a).Within kind) : (m.bind f).Within kind := by
  induction hm with
  | done a => exact hf a
  | stop => exact .stop
  | ask hq _ ih => exact .ask hq ih

theorem attempt {m : Act host α} (hm : m.Within kind) : m.attempt.Within kind := by
  induction hm with
  | done a => exact .done _
  | stop => exact .done none
  | ask hq _ ih => exact .ask hq ih

theorem through {I : Interface} {m : Act I α}
    {meet : (q : I.Request) → σ → Act host (Option (I.Answer q) × σ)}
    (hmeet : ∀ q s, (meet q s).Within kind) (s : σ) : (m.through meet s).Within kind := by
  induction m generalizing s with
  | done a => exact .done _
  | stop => exact .done _
  | ask q next ih => exact (hmeet q s).bind fun r => ih r.1 r.2

/-- What requests of one kind keep, the program keeps. -/
theorem run_keeps {world : (q : HostRequest) → ω → Option q.Answer × ω} (keeps : ω → Prop)
    (hkeeps : ∀ q w, kind q → keeps w → keeps (world q w).2) {m : Act host α}
    (hm : m.Within kind) {w : ω} (h : keeps w) : keeps (m.run (I := host) world w).2 := by
  induction hm generalizing w with
  | done a => exact h
  | stop => exact h
  | @ask q next hq _ ih => exact ih _ (hkeeps q w hq h)

end Within

namespace AsksOnly

variable {kind : HostRequest → Prop}

theorem bind {m : Act host α} {f : α → Act host β} (hm : m.AsksOnly kind)
    (hf : ∀ a, (f a).AsksOnly kind) : (m.bind f).AsksOnly kind := by
  induction hm with
  | done a => exact hf a
  | stop => exact .stop
  | ask hq hstop _ ih =>
      exact .ask hq (fun hwaits => congrArg (fun m => m.bind f) (hstop hwaits)) ih

theorem request {q : HostRequest} (hq : kind q) : (Host.ask q).AsksOnly kind := by
  refine .ask hq (fun _ => rfl) fun a => ?_
  cases a with
  | none => exact .stop
  | some answer => exact .done answer

theorem mono {kind' : HostRequest → Prop} {m : Act host α} (hm : m.AsksOnly kind)
    (h : ∀ q, kind q → kind' q) : m.AsksOnly kind' := by
  induction hm with
  | done a => exact .done a
  | stop => exact .stop
  | ask hq hstop _ ih => exact .ask (h _ hq) hstop ih

theorem within {m : Act host α} (hm : m.AsksOnly kind) : m.Within kind := by
  induction hm with
  | done a => exact .done a
  | stop => exact .stop
  | ask hq _ _ ih => exact .ask hq ih

theorem quiet_attempt {m : Act host α} (hm : m.AsksOnly HostRequest.Aside) : m.attempt.Quiet := by
  induction hm with
  | done a => exact .done _
  | stop => exact .done none
  | ask hq _ _ ih => exact .ask hq ih

theorem surrenders_attempt {m : Act host α} (hm : m.AsksOnly kind) :
    m.attempt.Surrenders HostRequest.Waits none := by
  induction hm with
  | done a => exact .done _
  | stop => exact .done none
  | ask _ hstop _ ih => exact .ask (fun hwaits => congrArg Act.attempt (hstop hwaits)) ih

end AsksOnly

namespace Quiet

theorem bind {m : Act host α} {f : α → Act host β} (hm : m.Quiet) (hf : ∀ a, (f a).Quiet) :
    (m.bind f).Quiet := by
  induction hm with
  | done a => exact hf a
  | ask hq _ ih => exact .ask hq ih

theorem tell {q : HostRequest} (hq : q.Aside) : (Host.tell q).Quiet :=
  .ask hq fun _ => .done ()

theorem time : Host.time.Quiet :=
  .ask trivial fun _ => .done _

theorem within {m : Act host α} (hm : m.Quiet) : m.Within HostRequest.Outward := by
  induction hm with
  | done a => exact .done a
  | ask hq _ ih => exact .ask hq.outward ih

/-- A quiet program comes to its end and leaves all lines waiting. -/
theorem run {world : (q : HostRequest) → ω → Option q.Answer × ω} {waiting : ω → List String}
    (hqueues : Prompt.Queues world waiting) {m : Act host α} (hm : m.Quiet) (w : ω) :
    ∃ a w', m.run (I := host) world w = (some a, w') ∧ waiting w' = waiting w := by
  induction hm generalizing w with
  | done a => exact ⟨a, w, rfl, rfl⟩
  | @ask q next hq _ ih =>
      obtain ⟨a, w', hrun, hw'⟩ := ih (world q w).1 (world q w).2
      exact ⟨a, w', hrun, hw'.trans (hqueues.others q w hq.ne_readLine)⟩

end Quiet

end Act

/-! ## Interrupts -/

namespace Act

variable (world : (q : HostRequest) → ω → Option q.Answer × ω)

/-- An interrupt comes while the program waits. -/
inductive Interrupted : Act host α → ω → Prop where
  | now {q : HostRequest} {next : Option q.Answer → Act host α} {w : ω} :
      q.Waits → (world q w).1 = none → Interrupted (ask (I := host) q next) w
  | later {q : HostRequest} {next : Option q.Answer → Act host α} {w : ω} :
      Interrupted (next (world q w).1) (world q w).2 → Interrupted (ask (I := host) q next) w

variable {world}

/-- An interrupt that comes while a sequence waits comes in one of its parts. -/
theorem Interrupted.of_bind {m : Act host α} {f : α → Act host β} {w : ω}
    (h : (m.bind f).Interrupted world w) :
    m.Interrupted world w ∨
      ∃ a w', m.run (I := host) world w = (some a, w') ∧ (f a).Interrupted world w' := by
  induction m generalizing w with
  | done a => exact .inr ⟨a, w, rfl, h⟩
  | stop => cases h
  | ask q next ih =>
      cases h with
      | now hwaits hnone => exact .inl (.now hwaits hnone)
      | later hlater =>
          rcases ih _ hlater with hm | hf
          · exact .inl (.later hm)
          · exact .inr hf

theorem AsksOnly.run_interrupted {kind : HostRequest → Prop} {m : Act host α} {w : ω}
    (hm : m.AsksOnly kind) (h : m.Interrupted world w) : (m.run (I := host) world w).1 = none := by
  induction h with
  | @now q next w hwaits hnone =>
      cases hm with
      | ask _ hstop _ =>
          have hstopped : next (world q w).1 = .stop := (congrArg next hnone).trans (hstop hwaits)
          exact congrArg (fun m => (m.run (I := host) world (world q w).2).1) hstopped
  | later _ ih =>
      cases hm with
      | ask _ _ hnext => exact ih (hnext _)

theorem Surrenders.bind {I : Interface} {waits : I.Request → Prop} {r : α} {r' : β} {m : Act I α}
    {f : α → Act I β} (hm : m.Surrenders waits r) (hr : f r = .done r')
    (hf : ∀ a, (f a).Surrenders waits r') : (m.bind f).Surrenders waits r' := by
  induction hm with
  | done a => exact hf a
  | ask hnone _ ih =>
      exact .ask (fun hwaits => (congrArg (fun m => m.bind f) (hnone hwaits)).trans hr) ih

theorem Surrenders.run_interrupted {r : α} {m : Act host α} {w : ω}
    (hm : m.Surrenders HostRequest.Waits r) (h : m.Interrupted world w) :
    ∃ w', m.run (I := host) world w = (some r, w') := by
  induction h with
  | @now q next w hwaits hnone =>
      cases hm with
      | ask hsurrender _ =>
          have hdone : next (world q w).1 = .done r :=
            (congrArg next hnone).trans (hsurrender hwaits)
          exact ⟨_, congrArg (fun m => m.run (I := host) world (world q w).2) hdone⟩
  | later _ ih =>
      cases hm with
      | ask _ hnext => exact ih (hnext _)

end Act

/-! ## Questions and statements -/

namespace Prompt

open Host

variable {world : (q : HostRequest) → ω → Option q.Answer × ω} {waiting : ω → List String}

theorem confirm_eq (question : String) :
    confirm question = (tell (.print s!"{question} [y/N] ")).bind fun _ =>
      (ask .readLine).bind fun answer => .done ((answer.map agrees).getD false) := rfl

theorem readMore_finished {text : String} (h : needsMore text = false) (limit : Nat) :
    readMore limit text = .done text := by
  cases limit with
  | zero => rfl
  | succ limit =>
      rw [readMore, h]
      rfl

theorem asksOnly_confirm {kind : HostRequest → Prop} (hprint : ∀ text, kind (.print text))
    (hread : kind .readLine) (question : String) : (confirm question).AsksOnly kind := by
  rw [confirm_eq]
  refine .ask (hprint _) (fun hwaits => hwaits.elim) fun _ => ?_
  have hreadLine : (ask .readLine).AsksOnly kind := .request hread
  exact hreadLine.bind fun _ => .done _

/-- An interrupt while the operator is asked leaves the question without an answer. -/
theorem surrenders_confirm (question : String) :
    (confirm question).attempt.Surrenders HostRequest.Waits none := by
  rw [confirm_eq]
  refine .ask (fun hwaits => hwaits.elim) fun _ => .ask (fun _ => rfl) fun answer => ?_
  cases answer with
  | none => exact .done _
  | some line? => exact .done _

/-- What is still unfinished goes on with the next line. -/
theorem readMore_unfinished {text : String} (h : needsMore text = true) (limit : Nat) :
    readMore (limit + 1) text = (tell (.print continuation)).bind fun _ =>
      (ask .readLine).bind
        (·.elim (.done text) fun line => readMore limit (text ++ "\n" ++ line)) := by
  rw [readMore, if_pos h]
  refine congrArg (Act.bind _) (funext fun _ => congrArg (Act.bind _) (funext fun answer => ?_))
  cases answer with
  | none => rfl
  | some line => rfl

theorem readStatement_eq (limit : Nat) :
    readStatement limit = (tell (.print invitation)).bind fun _ =>
      (ask .readLine).bind
        (·.elim (.done none) fun line =>
          (readMore limit line).bind fun text => .done (some text)) := by
  refine congrArg (Act.bind _) (funext fun _ => congrArg (Act.bind _) (funext fun answer => ?_))
  cases answer with
  | none => rfl
  | some line => rfl

theorem asksOnly_invited (text : String) {next : Option String → Act host α}
    (hnext : ∀ answer, (next answer).AsksOnly HostRequest.Outward) :
    ((tell (.print text)).bind fun _ => (ask .readLine).bind next).AsksOnly HostRequest.Outward := by
  have hread : (ask .readLine).AsksOnly HostRequest.Outward := .request trivial
  exact .ask trivial (fun hwaits => hwaits.elim) fun _ => hread.bind hnext

theorem asksOnly_readMore (limit : Nat) (text : String) :
    (readMore limit text).AsksOnly HostRequest.Outward := by
  induction limit generalizing text with
  | zero => exact .done text
  | succ limit ih =>
      cases hmore : needsMore text with
      | false =>
          rw [readMore_finished hmore]
          exact .done text
      | true =>
          rw [readMore_unfinished hmore]
          refine asksOnly_invited _ fun answer => ?_
          cases answer with
          | none => exact .done text
          | some line => exact ih _

theorem asksOnly_readStatement (limit : Nat) :
    (readStatement limit).AsksOnly HostRequest.Outward := by
  rw [readStatement_eq]
  refine asksOnly_invited _ fun answer => ?_
  cases answer with
  | none => exact .done none
  | some line => exact (asksOnly_readMore limit line).bind fun _ => .done _

/-- What comes of a request for a line behind an invitation. -/
theorem Queues.run_invited (hqueues : Queues world waiting) (text : String)
    (next : Option String → Act host α) (w : ω) :
    ∃ answer w', waiting w = lineIn answer ++ waiting w' ∧
      (answer = some none → waiting w = []) ∧ (∃ w₀, world .readLine w₀ = (answer, w')) ∧
      ((tell (.print text)).bind fun _ => (ask .readLine).bind next).run (I := host) world w =
        match answer with
        | some line? => (next line?).run (I := host) world w'
        | none => (none, w') := by
  have hprint := hqueues.others (.print text) w nofun
  have hread := hqueues.readLine (world (.print text) w).2
  have hending := hqueues.ending (world (.print text) w).2
  rw [hprint] at hread hending
  refine ⟨_, _, hread, hending, ⟨_, rfl⟩, ?_⟩
  rw [Host.run_tell]
  refine (Host.run_ask world .readLine next _).trans ?_
  rcases world .readLine (world (.print text) w).2 with ⟨_ | line?, w'⟩
  · rfl
  · rfl

/-- A question takes the line that answers it, or none: it is interrupted, or the input has ended and
no answer is a no. -/
theorem run_confirm (hqueues : Queues world waiting) (question : String) (w : ω) :
    ∃ answer taken w', (confirm question).attempt.run (I := host) world w = (some answer, w') ∧
      waiting w = taken ++ waiting w' ∧
      ((∃ line, taken = [line] ∧ answer = some (agrees line)) ∨
        (taken = [] ∧ (answer = none ∨ (answer = some false ∧ waiting w = [])))) := by
  obtain ⟨answer, w', hw', hending, hrun⟩ : ∃ answer w', waiting w = lineIn answer ++ waiting w' ∧
      (answer = some none → waiting w = []) ∧
      (confirm question).run (I := host) world w =
        match answer with
        | some line? => (some ((line?.map agrees).getD false), w')
        | none => (none, w') := by
    rw [confirm_eq]
    obtain ⟨answer, w', hw', hending, -, hrun⟩ :=
      hqueues.run_invited _ (fun answer => .done ((answer.map agrees).getD false)) w
    exact ⟨answer, w', hw', hending, hrun⟩
  rw [Host.run_attempt, hrun]
  rcases answer with _ | _ | line
  · exact ⟨none, [], w', rfl, hw', .inr ⟨rfl, .inl rfl⟩⟩
  · exact ⟨some false, [], w', rfl, hw', .inr ⟨rfl, .inr ⟨rfl, hending rfl⟩⟩⟩
  · dsimp only
    rw [Option.map_some, Option.getD_some]
    exact ⟨some (agrees line), [line], w', rfl, hw', .inl ⟨line, rfl, rfl⟩⟩

/-- The text of a statement that is typed in lines. -/
def joined (typed : List String) : String :=
  "\n".intercalate typed

theorem joined_cons (text line : String) (typed : List String) :
    joined ((text ++ "\n" ++ line) :: typed) = joined (text :: line :: typed) := by
  unfold joined
  rw [String.intercalate_cons_append, String.intercalate_cons_cons]

@[simp] theorem joined_singleton (line : String) : joined [line] = line := by
  simp [joined]

/-- Lines are taken behind a text that is unfinished before each of them. They are all that there is
to take if it is unfinished behind them, and an interrupt comes only while it is. -/
theorem run_readMore_queued (hqueues : Queues world waiting) {limit : Nat} (text : String) {w : ω}
    (hlimit : (waiting w).length < limit) :
    ∃ typed r w', (readMore limit text).run (I := host) world w = (r, w') ∧
      waiting w = typed ++ waiting w' ∧
      (∀ count < typed.length, needsMore (joined (text :: typed.take count)) = true) ∧
      ((r = none ∧ needsMore (joined (text :: typed)) = true ∧
          ∃ w₀, world .readLine w₀ = (none, w')) ∨
        (r = some (joined (text :: typed)) ∧
          (needsMore (joined (text :: typed)) = true → waiting w' = []))) := by
  induction limit generalizing text w with
  | zero => exact absurd hlimit (Nat.not_lt_zero _)
  | succ limit ih =>
      cases hmore : needsMore text with
      | false =>
          rw [readMore_finished hmore]
          refine ⟨[], some text, w, rfl, rfl, nofun, .inr ⟨?_, fun h => ?_⟩⟩
          · rw [joined_singleton]
          · rw [joined_singleton, hmore] at h
            cases h
      | true =>
          rw [readMore_unfinished hmore]
          obtain ⟨answer, w₁, hw₁, hending, hread, hrun⟩ := hqueues.run_invited continuation
            (·.elim (.done text) fun line => readMore limit (text ++ "\n" ++ line)) w
          rcases answer with _ | _ | line
          · refine ⟨[], none, w₁, hrun, hw₁, nofun, .inl ⟨rfl, ?_, hread⟩⟩
            rwa [joined_singleton]
          · refine ⟨[], some text, w₁, hrun, hw₁, nofun, .inr ⟨?_, fun _ => ?_⟩⟩
            · rw [joined_singleton]
            · rw [← hending rfl]
              exact hw₁.symm
          · have hlength := congrArg List.length hw₁
            rw [lineIn, List.length_append, List.length_singleton] at hlength
            have hfewer : (waiting w₁).length < limit := by omega
            obtain ⟨typed, r, w', hrest, hw', hopen, hend⟩ := ih (text ++ "\n" ++ line) hfewer
            rw [joined_cons] at hend
            refine ⟨line :: typed, r, w', hrun.trans hrest, ?_, fun count hcount => ?_, hend⟩
            · rw [hw₁, hw']
              rfl
            · cases count with
              | zero =>
                  rw [List.take_zero, joined_singleton]
                  exact hmore
              | succ count =>
                  rw [List.take_succ_cons, ← joined_cons]
                  exact hopen count (Nat.lt_of_succ_lt_succ hcount)

/-- The lines that are typed for a statement have been taken, and before each but the first of them
the statement was unfinished. -/
structure Typed (waiting : ω → List String) (w : ω) (typed : List String) (w' : ω) : Prop where
  taken : waiting w = typed ++ waiting w'
  unfinished : ∀ count, 0 < count → count < typed.length →
    needsMore (joined (typed.take count)) = true

/-- How the reading of a statement ends. The request for a line is interrupted, which discards what has
been typed of the statement: nothing, or what is unfinished. The input is at its end, and there is no
statement. Or the typed lines are the statement; it is complete, or the input has ended. -/
inductive ReadsTo (world : (q : HostRequest) → ω → Option q.Answer × ω) (waiting : ω → List String)
    (w : ω) : List String → Option (Option String) → ω → Prop where
  | interrupted {typed : List String} {w₀ w' : ω} : Typed waiting w typed w' →
      (typed ≠ [] → needsMore (joined typed) = true) → world .readLine w₀ = (none, w') →
        ReadsTo world waiting w typed none w'
  | ended {w' : ω} : waiting w = [] → waiting w' = [] → ReadsTo world waiting w [] (some none) w'
  | statement {typed : List String} {w' : ω} : Typed waiting w typed w' → typed ≠ [] →
      (needsMore (joined typed) = true → waiting w' = []) →
        ReadsTo world waiting w typed (some (some (joined typed))) w'

/-- What has been read is the same from where the same lines wait. -/
theorem ReadsTo.of_waiting_eq {w w₀ w' : ω} {typed : List String} {r : Option (Option String)}
    (h : ReadsTo world waiting w₀ typed r w') (hw : waiting w₀ = waiting w) :
    ReadsTo world waiting w typed r w' := by
  cases h with
  | interrupted htyped hopen hread =>
      exact .interrupted ⟨hw.symm.trans htyped.taken, htyped.unfinished⟩ hopen hread
  | ended hw₀ hw' => exact .ended (hw.symm.trans hw₀) hw'
  | statement htyped hne hend =>
      exact .statement ⟨hw.symm.trans htyped.taken, htyped.unfinished⟩ hne hend

/-- If there can be more lines in a statement than wait, then this is how its reading ends. -/
theorem run_statement (hqueues : Queues world waiting) {limit : Nat} {w : ω}
    (hlimit : (waiting w).length < limit) :
    ∃ typed r w', (readStatement limit).run (I := host) world w = (r, w') ∧
      ReadsTo world waiting w typed r w' := by
  rw [readStatement_eq]
  obtain ⟨answer, w₁, hw₁, hending, hread, hrun⟩ := hqueues.run_invited invitation
    (·.elim (.done none) fun line => (readMore limit line).bind fun text => .done (some text)) w
  rcases answer with _ | _ | line
  · obtain ⟨w₀, hread⟩ := hread
    exact ⟨[], none, w₁, hrun, .interrupted ⟨hw₁, nofun⟩ (fun h => absurd rfl h) hread⟩
  · refine ⟨[], some none, w₁, hrun, .ended (hending rfl) ?_⟩
    rw [← hending rfl]
    exact hw₁.symm
  · have hlength := congrArg List.length hw₁
    rw [lineIn, List.length_append, List.length_singleton] at hlength
    have hfewer : (waiting w₁).length < limit := by omega
    obtain ⟨typed, r, w', hmore, hw', hopen, hend⟩ := run_readMore_queued hqueues line hfewer
    have htyped : Typed waiting w (line :: typed) w' := by
      refine ⟨?_, fun count hpos hcount => ?_⟩
      · rw [hw₁, hw']
        rfl
      · obtain ⟨count, rfl⟩ := Nat.exists_eq_add_one_of_ne_zero (Nat.ne_zero_of_lt hpos)
        exact hopen count (Nat.lt_of_succ_lt_succ hcount)
    have hstatement := hrun.trans (Host.run_bind world (readMore limit line) _ w₁)
    rw [hmore] at hstatement
    rcases hend with ⟨rfl, hunfinished, w₀, hinterrupted⟩ | ⟨rfl, hall⟩
    · exact ⟨_, none, w', hstatement, .interrupted htyped (fun _ => hunfinished) hinterrupted⟩
    · exact ⟨_, _, w', hstatement, .statement htyped (List.cons_ne_nil _ _) hall⟩

end Prompt

end Sluice
