import Sluice.Host

/-!
# Interrupts

An interrupt wakes all that wait for one, and is kept for nobody else. Where it comes while an answer
is waited for, there is a race between the two (`Machine.attended`), and the request is given up if
the interrupt is seen first.
-/

namespace Sluice

/-! ## Who waits -/

/-- Those that wait for the next interrupt, the latest first: whether it has come. -/
structure Interrupts where
  waiters : List Bool
deriving DecidableEq

namespace Interrupts

def idle : Interrupts := ⟨[]⟩

/-- An interrupt wakes all that wait. -/
def raise (i : Interrupts) : Interrupts :=
  ⟨i.waiters.map fun _ => true⟩

/-- Interrupts, one after the other. -/
def raised (i : Interrupts) : Nat → Interrupts
  | 0 => i
  | n + 1 => (i.raised n).raise

/-- One more waits for the next interrupt. -/
def next (i : Interrupts) : Interrupts :=
  ⟨false :: i.waiters⟩

/-- The latest waits no longer. -/
def drop (i : Interrupts) : Interrupts :=
  ⟨i.waiters.tail⟩

def come (i : Interrupts) : Bool :=
  i.waiters.head?.getD false

/-- What becomes of those that wait with a request. -/
def heed (i : Interrupts) : HostRequest → Interrupts
  | .listen => i.next
  | .stopListening => i.drop
  | _ => i

end Interrupts

/-! ## Machines with an operator -/

/-- A machine as it is without interrupts, and what is left of it when a request is given up. -/
structure Machine (ω : Type) where
  answer : (q : HostRequest) → ω → q.Answer × ω
  abandon : HostRequest → ω → ω

/-- What goes on while a request is made. -/
structure Moment where
  /-- How many interrupts are raised. -/
  raises : Nat
  /-- Whether there is an answer before an interrupt is seen. -/
  answered : Bool

/-- How interrupts are placed: what goes on during each request, counted from the beginning. -/
abbrev Placing := Nat → Moment

/-- A machine whose operator raises interrupts. -/
structure Attended (ω : Type) where
  machine : ω
  interrupts : Interrupts
  /-- How many requests have been made. -/
  requests : Nat

/-- Answers a request. It is given up if it is waited for and an interrupt has come for the latest to
wait, unless the answer is there first. -/
def Machine.attended {ω : Type} (m : Machine ω) (placing : Placing) (q : HostRequest)
    (s : Attended ω) : Option q.Answer × Attended ω :=
  let moment := placing s.requests
  let interrupts := s.interrupts.raised moment.raises
  if q.Waits ∧ interrupts.come = true ∧ moment.answered = false then
    (none, ⟨m.abandon q s.machine, interrupts, s.requests + 1⟩)
  else
    let (a, w) := m.answer q s.machine
    (some a, ⟨w, interrupts.heed q, s.requests + 1⟩)

end Sluice
