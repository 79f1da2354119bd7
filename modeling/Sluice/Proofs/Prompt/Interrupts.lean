import Sluice.Interrupts
import Sluice.Proofs.Prompt.Lines

/-!
# Interrupts in time and out of time

A program that an interrupt may end is the only one that waits for one, and when it has come to its
end nothing waits any more (`Machine.idle_relieved`). A request is given up only after an interrupt
that has come since (`Machine.come_of_eq_none`), and the program is interrupted exactly if an interrupt
is raised and then seen before there is an answer (`Machine.interrupted_iff`). One that is raised while
nothing waits might as well not have been raised, whatever it is that runs and goes on running
(`Machine.run_eq_of_agree`).
-/

namespace Sluice

variable {ω α : Type}

/-! ## Who waits -/

namespace Interrupts

theorem raised_of_waiters {i : Interrupts} (h : i.waiters = []) (n : Nat) : i.raised n = i := by
  induction n with
  | zero => rfl
  | succ n ih =>
      obtain ⟨_⟩ := i
      cases h
      rw [raised, ih]
      rfl

theorem length_raised (i : Interrupts) (n : Nat) :
    (i.raised n).waiters.length = i.waiters.length := by
  induction n with
  | zero => rfl
  | succ n ih => rw [raised, raise, List.length_map, ih]

theorem waiters_raised {i : Interrupts} (h : i.waiters ≠ []) (n : Nat) : (i.raised n).waiters ≠ [] := by
  have hlength := i.length_raised n
  intro hnil
  rw [hnil] at hlength
  exact h (List.eq_nil_of_length_eq_zero hlength.symm)

/-- What has come for the latest to wait is not undone by further interrupts. -/
theorem come_raised {i : Interrupts} (h : i.come = true) (n : Nat) : (i.raised n).come = true := by
  induction n with
  | zero => exact h
  | succ n ih =>
      unfold come at ih
      cases hwaiters : (i.raised n).waiters with
      | nil => simp [hwaiters] at ih
      | cons first rest => simp [raised, raise, come, hwaiters]

theorem come_or_pos_of_come_raised {i : Interrupts} {n : Nat} (h : (i.raised n).come = true) :
    i.come = true ∨ 0 < n := by
  cases n with
  | zero => exact .inl h
  | succ n => exact .inr n.succ_pos

theorem come_raised_of_waiters {i : Interrupts} (h : i.waiters ≠ []) {n : Nat} (hn : 0 < n) :
    (i.raised n).come = true := by
  obtain ⟨n, rfl⟩ := Nat.exists_eq_add_one_of_ne_zero (Nat.ne_zero_of_lt hn)
  cases hwaiters : (i.raised n).waiters with
  | nil => exact absurd hwaiters (waiters_raised h n)
  | cons first rest => simp [raised, raise, come, hwaiters]

theorem heed_of_outward {q : HostRequest} (h : q.Outward) (i : Interrupts) : i.heed q = i := by
  cases q with
  | listen => cases h
  | stopListening => cases h
  | _ => rfl

end Interrupts

/-! ## One request -/

/-- The operator's lines wait on the machine, those that are yet to be typed included. A request for a
line takes the first one, and only where none is left is the input at its end. No other request takes
a line, and neither does one that is given up. -/
structure Machine.Queues (m : Machine ω) (waiting : ω → List String) : Prop where
  readLine : ∀ w, waiting w =
    Prompt.lineIn (some (m.answer .readLine w).1) ++ waiting (m.answer .readLine w).2
  ending : ∀ w, (m.answer .readLine w).1 = (none : Option String) → waiting w = []
  others : ∀ q w, q ≠ .readLine → waiting (m.answer q w).2 = waiting w
  abandoned : ∀ q w, waiting (m.abandon q w) = waiting w

namespace Machine

variable {m : Machine ω} {placing placing' : Placing} {q : HostRequest} {s : Attended ω}

theorem attended_cases (m : Machine ω) (placing : Placing) (q : HostRequest) (s : Attended ω) :
    (q.Waits ∧ (s.interrupts.raised (placing s.requests).raises).come = true ∧
      (placing s.requests).answered = false ∧ m.attended placing q s = (none, ⟨m.abandon q s.machine,
        s.interrupts.raised (placing s.requests).raises, s.requests + 1⟩)) ∨
    m.attended placing q s = (some (m.answer q s.machine).1, ⟨(m.answer q s.machine).2,
      (s.interrupts.raised (placing s.requests).raises).heed q, s.requests + 1⟩) := by
  unfold attended
  dsimp only
  split
  · next h => exact .inl ⟨h.1, h.2.1, h.2.2, rfl⟩
  · exact .inr rfl

theorem attended_of_not_waits (h : ¬ q.Waits) :
    m.attended placing q s = (some (m.answer q s.machine).1, ⟨(m.answer q s.machine).2,
      (s.interrupts.raised (placing s.requests).raises).heed q, s.requests + 1⟩) := by
  rcases m.attended_cases placing q s with ⟨hwaits, -⟩ | hanswered
  · exact absurd hwaits h
  · exact hanswered

theorem interrupts_attended (h : q.Outward) :
    (m.attended placing q s).2.interrupts =
      s.interrupts.raised (placing s.requests).raises := by
  rcases m.attended_cases placing q s with ⟨-, -, -, heq⟩ | heq
  · rw [heq]
  · rw [heq, Interrupts.heed_of_outward h]

theorem attended_eq_none_iff : (m.attended placing q s).1 = none ↔
    q.Waits ∧ (s.interrupts.raised (placing s.requests).raises).come = true ∧
      (placing s.requests).answered = false := by
  unfold attended
  dsimp only
  split
  · next h => exact ⟨fun _ => h, fun _ => rfl⟩
  · next h => exact ⟨nofun, fun h' => absurd h' h⟩

/-- A request is given up only if an interrupt has come for the latest to wait. -/
theorem come_of_eq_none (h : (m.attended placing q s).1 = none) :
    (m.attended placing q s).2.interrupts.come = true := by
  rcases m.attended_cases placing q s with ⟨-, hcome, -, heq⟩ | heq
  · rwa [heq]
  · rw [heq] at h
    cases h

/-- While nothing waits, it makes no difference what interrupts are raised. -/
theorem attended_eq_of_agree (h : s.interrupts.waiters ≠ [] → placing s.requests = placing' s.requests) :
    m.attended placing q s = m.attended placing' q s := by
  by_cases hwaiters : s.interrupts.waiters = []
  · have hcome : ¬ (s.interrupts.come = true) := by simp [Interrupts.come, hwaiters]
    unfold attended
    simp [Interrupts.raised_of_waiters hwaiters, hcome]
  · unfold attended
    rw [h hwaiters]

theorem Queues.attended {waiting : ω → List String} (hqueues : m.Queues waiting)
    (placing : Placing) : Prompt.Queues (m.attended placing) (waiting ∘ Attended.machine) where
  readLine s := by
    rcases m.attended_cases placing .readLine s with ⟨-, -, -, heq⟩ | heq
    · rw [heq]
      exact (hqueues.abandoned .readLine s.machine).symm
    · rw [heq]
      exact hqueues.readLine s.machine
  ending s h := by
    rcases m.attended_cases placing .readLine s with ⟨-, -, -, heq⟩ | heq
    · rw [heq] at h
      cases h
    · rw [heq] at h
      exact hqueues.ending s.machine (Option.some.inj h)
  others q s hq := by
    rcases m.attended_cases placing q s with ⟨-, -, -, heq⟩ | heq
    · rw [heq]
      exact hqueues.abandoned q s.machine
    · rw [heq]
      exact hqueues.others q s.machine hq

end Machine

/-! ## Programs -/

/-- A program that runs in a world makes a request in some state. -/
inductive Act.Asks (world : (q : HostRequest) → ω → Option q.Answer × ω) :
    Act host α → ω → HostRequest → ω → Prop where
  | here {q : HostRequest} {next : Option q.Answer → Act host α} {w : ω} :
      Asks world (ask (I := host) q next) w q w
  | later {q q' : HostRequest} {next : Option q.Answer → Act host α} {w w' : ω} :
      Asks world (next (world q w).1) (world q w).2 q' w' →
        Asks world (ask (I := host) q next) w q' w'

namespace Machine

variable {m : Machine ω} {placing placing' : Placing} {s : Attended ω}

theorem requests_attended (m : Machine ω) (placing : Placing) (q : HostRequest) (s : Attended ω) :
    (m.attended placing q s).2.requests = s.requests + 1 := by
  rcases m.attended_cases placing q s with ⟨-, -, -, heq⟩ | heq
  · rw [heq]
  · rw [heq]

/-- After its first request a program makes none at the same count. -/
theorem eq_or_lt_of_asks {act : Act host α} {q : HostRequest} {t : Attended ω}
    (h : act.Asks (m.attended placing) s q t) : t = s ∨ s.requests < t.requests := by
  induction h with
  | here => exact .inl rfl
  | @later q q' next s t _ ih =>
      have hnext := m.requests_attended placing q s
      rcases ih with rfl | hlt
      · exact .inr (by omega)
      · exact .inr (by omega)

/-- Interrupts that are raised while nothing waits make no difference, neither then nor later: a
program runs alike if interrupts are placed alike wherever something waits. -/
theorem run_eq_of_agree {act : Act host α}
    (h : ∀ q t, act.Asks (m.attended placing) s q t → t.interrupts.waiters ≠ [] →
      placing t.requests = placing' t.requests) :
    act.run (I := host) (m.attended placing') s = act.run (I := host) (m.attended placing) s := by
  induction act generalizing s with
  | done a => rfl
  | stop => rfl
  | ask q next ih =>
      have hnow : m.attended placing q s = m.attended placing' q s :=
        attended_eq_of_agree (h q s .here)
      change (next (m.attended placing' q s).1).run (I := host) (m.attended placing')
        (m.attended placing' q s).2 = (next (m.attended placing q s).1).run (I := host)
          (m.attended placing) (m.attended placing q s).2
      rw [← hnow]
      exact ih _ fun q t ht => h q t (.later ht)

/-- A program that leaves the waiting for interrupts to others does not change how many wait. -/
theorem length_waiters_run {act : Act host α} (hact : act.Within HostRequest.Outward) :
    (act.run (I := host) (m.attended placing) s).2.interrupts.waiters.length =
      s.interrupts.waiters.length := by
  refine hact.run_keeps (fun t : Attended ω => t.interrupts.waiters.length = s.interrupts.waiters.length)
    (fun q t hq ht => ?_) rfl
  rw [interrupts_attended hq, Interrupts.length_raised, ht]

theorem idle_run {act : Act host α} (hact : act.Within HostRequest.Outward)
    (hidle : s.interrupts = .idle) {r : Option α} {s' : Attended ω}
    (h : act.run (I := host) (m.attended placing) s = (r, s')) : s'.interrupts = .idle := by
  have hlength : (act.run (I := host) (m.attended placing) s).2.interrupts.waiters.length =
      s.interrupts.waiters.length := length_waiters_run hact
  rw [h, hidle] at hlength
  exact congrArg Interrupts.mk (List.eq_nil_of_length_eq_zero hlength)

theorem come_run {act : Act host α} (hact : act.Within HostRequest.Outward)
    (h : s.interrupts.come = true) :
    (act.run (I := host) (m.attended placing) s).2.interrupts.come = true := by
  refine hact.run_keeps (fun t : Attended ω => t.interrupts.come = true) (fun q t hq ht => ?_) h
  rw [interrupts_attended hq]
  exact Interrupts.come_raised ht _

/-- An interrupt has come when a program begins, or is raised while it runs, and then a request of it
is waited for, and the interrupt is seen before there is an answer. -/
def Disturbs (m : Machine ω) (placing : Placing) (act : Act host α) (s : Attended ω) : Prop :=
  ∃ q t, act.Asks (m.attended placing) s q t ∧ q.Waits ∧ (placing t.requests).answered = false ∧
    (s.interrupts.come = true ∨ ∃ r, s.requests ≤ r ∧ r ≤ t.requests ∧ 0 < (placing r).raises)

theorem interrupted_of_asks {act : Act host α} (hact : act.Within HostRequest.Outward)
    (hwaiters : s.interrupts.waiters ≠ []) {q : HostRequest} {t : Attended ω}
    (h : act.Asks (m.attended placing) s q t) (hwaits : q.Waits)
    (hlate : (placing t.requests).answered = false)
    (hcome : s.interrupts.come = true ∨
      ∃ r, s.requests ≤ r ∧ r ≤ t.requests ∧ 0 < (placing r).raises) :
    act.Interrupted (m.attended placing) s := by
  induction h with
  | here =>
      refine .now hwaits (attended_eq_none_iff.2 ⟨hwaits, ?_, hlate⟩)
      rcases hcome with hcome | ⟨r, hfrom, hto, hraises⟩
      · exact Interrupts.come_raised hcome _
      · obtain rfl := Nat.le_antisymm hfrom hto
        exact Interrupts.come_raised_of_waiters hwaiters hraises
  | @later q q' next s t _ ih =>
      cases hact with
      | ask hq hnext =>
          refine .later (ih (hnext _) ?_ hwaits hlate ?_)
          · rw [interrupts_attended hq]
            exact Interrupts.waiters_raised hwaiters _
          · rw [interrupts_attended hq, requests_attended]
            rcases hcome with hcome | ⟨r, hfrom, hto, hraises⟩
            · exact .inl (Interrupts.come_raised hcome _)
            · rcases Nat.eq_or_lt_of_le hfrom with rfl | hlater
              · exact .inl (Interrupts.come_raised_of_waiters hwaiters hraises)
              · exact .inr ⟨r, hlater, hto, hraises⟩

theorem disturbs_of_interrupted {act : Act host α} (hact : act.Within HostRequest.Outward)
    (h : act.Interrupted (m.attended placing) s) : m.Disturbs placing act s := by
  induction h with
  | @now q next s hwaits hnone =>
      obtain ⟨-, hcome, hlate⟩ := attended_eq_none_iff.1 hnone
      exact ⟨q, s, .here, hwaits, hlate, (Interrupts.come_or_pos_of_come_raised hcome).imp_right
        fun hraises => ⟨s.requests, Nat.le_refl _, Nat.le_refl _, hraises⟩⟩
  | @later q next s _ ih =>
      cases hact with
      | ask hq hnext =>
          obtain ⟨q', t, hasks, hwaits, hlate, hcome⟩ := ih (hnext _)
          have hlater : s.requests + 1 ≤ t.requests := by
            rw [← m.requests_attended placing q s]
            rcases eq_or_lt_of_asks hasks with rfl | hlt
            · exact Nat.le_refl _
            · exact Nat.le_of_lt hlt
          rw [interrupts_attended hq, requests_attended] at hcome
          refine ⟨q', t, .later hasks, hwaits, hlate, ?_⟩
          rcases hcome with hcome | ⟨r, hfrom, hto, hraises⟩
          · exact (Interrupts.come_or_pos_of_come_raised hcome).imp_right
              fun hraises => ⟨s.requests, Nat.le_refl _, by omega, hraises⟩
          · exact .inr ⟨r, by omega, hto, hraises⟩

/-- What waits for an interrupt while a program runs sees one that comes, or the answers first. -/
theorem interrupted_iff {act : Act host α} (hact : act.Within HostRequest.Outward)
    (hwaiters : s.interrupts.waiters ≠ []) :
    act.Interrupted (m.attended placing) s ↔ m.Disturbs placing act s :=
  ⟨disturbs_of_interrupted hact, fun ⟨_, _, hasks, hwaits, hlate, hcome⟩ =>
    interrupted_of_asks hact hwaiters hasks hwaits hlate hcome⟩

/-- Where a program is interrupted, an interrupt has come for the latest to wait. -/
theorem come_of_interrupted {act : Act host α} (hact : act.Within HostRequest.Outward)
    (h : act.Interrupted (m.attended placing) s) :
    (act.run (I := host) (m.attended placing) s).2.interrupts.come = true := by
  induction h with
  | @now q next s _ hnone =>
      cases hact with
      | ask _ hnext =>
          show ((next (m.attended placing q s).1).run (I := host) (m.attended placing)
            (m.attended placing q s).2).2.interrupts.come = true
          exact come_run (hnext _) (come_of_eq_none hnone)
  | later _ ih =>
      cases hact with
      | ask _ hnext => exact ih (hnext _)

/-- The state when a program that an interrupt may end has begun to wait for one. -/
def listening (m : Machine ω) (placing : Placing) (s : Attended ω) : Attended ω :=
  (m.attended placing .listen s).2

/-- The state when it waits no longer. -/
def relieved (m : Machine ω) (placing : Placing) (s : Attended ω) : Attended ω :=
  (m.attended placing .stopListening s).2

theorem run_interruptible {act : Act host α} {a : α} {s' : Attended ω}
    (h : act.run (I := host) (m.attended placing) (m.listening placing s) = (some a, s')) :
    (Host.interruptible act).run (I := host) (m.attended placing) s =
      (some a, m.relieved placing s') :=
  Host.run_interruptible (m.attended placing) h

theorem waiters_listening (m : Machine ω) (placing : Placing) (s : Attended ω) :
    (m.listening placing s).interrupts.waiters ≠ [] := by
  unfold listening
  rw [attended_of_not_waits (q := .listen) not_false]
  exact List.cons_ne_nil _ _

/-- Nothing waits any more when a program has ended that an interrupt may end. -/
theorem idle_relieved {act : Act host α} (hact : act.Within HostRequest.Outward)
    (hidle : s.interrupts = .idle) {r : Option α} {s' : Attended ω}
    (h : act.run (I := host) (m.attended placing) (m.listening placing s) = (r, s')) :
    (m.relieved placing s').interrupts = .idle := by
  have hlisten : (m.listening placing s).interrupts = Interrupts.idle.next := by
    unfold listening
    rw [attended_of_not_waits (q := .listen) not_false, hidle]
    exact congrArg Interrupts.next (Interrupts.raised_of_waiters rfl _)
  have hlength : (act.run (I := host) (m.attended placing)
      (m.listening placing s)).2.interrupts.waiters.length =
      (m.listening placing s).interrupts.waiters.length := length_waiters_run hact
  rw [h, hlisten] at hlength
  unfold relieved
  rw [attended_of_not_waits (q := .stopListening) not_false]
  show Interrupts.mk (s'.interrupts.raised _).waiters.tail = _
  rw [List.eq_nil_of_length_eq_zero (l := (s'.interrupts.raised _).waiters.tail)]
  · rfl
  · rw [List.length_tail, Interrupts.length_raised, hlength]
    rfl

end Machine

end Sluice
