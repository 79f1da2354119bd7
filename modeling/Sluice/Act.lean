/-!
# Acts

A program that talks to the world outside is data: it is done, or it has stopped, or it makes a
request and goes on with the answer. A request may be interrupted while it is under way; then there
is no answer. What may be requested is an `Interface`. An act is run against any world that
answers (`run`), or its requests are met by acts of a lower interface (`through`).
-/

namespace Sluice

/-- Requests, and what kind of answer each has. -/
structure Interface where
  Request : Type
  Answer : Request → Type

/-- A program that makes requests. -/
inductive Act (I : Interface) (α : Type) : Type where
  | done (result : α)
  /-- An interrupt ended the program. -/
  | stop
  | ask (request : I.Request) (next : Option (I.Answer request) → Act I α)

namespace Act

variable {I J : Interface} {α β σ ω : Type}

/-- The second program goes on where the first is done. -/
def bind : Act I α → (α → Act I β) → Act I β
  | done a, f => f a
  | stop, _ => stop
  | ask q next, f => ask q fun answer => (next answer).bind f

instance : Monad (Act I) where
  pure := done
  bind := bind

/-- Makes a request; an interrupt ends the program. -/
def perform (q : I.Request) : Act I (I.Answer q) :=
  ask q fun
    | some answer => done answer
    | none => stop

/-- Makes a request whose answer does not matter, interrupted or not. -/
def emit (q : I.Request) : Act I Unit :=
  ask q fun _ => done ()

/-- Runs a program to its end; `none` if an interrupt ended it. -/
def attempt : Act I α → Act I (Option α)
  | done a => done (some a)
  | stop => done none
  | ask q next => ask q fun answer => (next answer).attempt

/-- Runs a program in a world that changes with each request and may interrupt any of them. -/
def run (world : (q : I.Request) → ω → Option (I.Answer q) × ω) : Act I α → ω → Option α × ω
  | done a, w => (some a, w)
  | stop, w => (none, w)
  | ask q next, w =>
    match world q w with
    | (answer, w) => (next answer).run world w

/-- Meets each request by an act of another interface, with a state of their own; the state
outlives an interrupt. -/
def through (meet : (q : I.Request) → σ → Act J (Option (I.Answer q) × σ)) :
    Act I α → σ → Act J (Option α × σ)
  | done a, s => done (some a, s)
  | stop, s => done (none, s)
  | ask q next, s => (meet q s).bind fun (answer, s) => (next answer).through meet s

/-! ## Laws -/

theorem bind_done (m : Act I α) : m.bind done = m := by
  induction m with
  | done => rfl
  | stop => rfl
  | ask q next ih => exact congrArg (ask q) (funext ih)

theorem bind_assoc {γ : Type} (m : Act I α) (f : α → Act I β) (g : β → Act I γ) :
    (m.bind f).bind g = m.bind fun a => (f a).bind g := by
  induction m with
  | done => rfl
  | stop => rfl
  | ask q next ih => exact congrArg (ask q) (funext ih)

instance : LawfulMonad (Act I) :=
  LawfulMonad.mk' (Act I) (fun m => bind_done m) (fun _ _ => rfl) (fun m f g => bind_assoc m f g)

theorem attempt_bind_done (m : Act I α) (f : α → β) :
    (m.bind fun a => done (f a)).attempt = m.attempt.bind fun a => done (a.map f) := by
  induction m with
  | done => rfl
  | stop => rfl
  | ask q next ih => exact congrArg (ask q) (funext ih)

/-- Running a sequence runs its parts one after the other in the same world. -/
theorem run_bind (world : (q : I.Request) → ω → Option (I.Answer q) × ω) (m : Act I α)
    (f : α → Act I β) (w : ω) :
    (m.bind f).run world w =
      match m.run world w with
      | (some a, w) => (f a).run world w
      | (none, w) => (none, w) := by
  induction m generalizing w with
  | done => rfl
  | stop => rfl
  | ask q next ih => exact ih _ _

/-- An attempt leaves the world as the program itself does, and always ends. -/
theorem run_attempt (world : (q : I.Request) → ω → Option (I.Answer q) × ω) (m : Act I α) (w : ω) :
    m.attempt.run world w = (some (m.run world w).1, (m.run world w).2) := by
  induction m generalizing w with
  | done => rfl
  | stop => rfl
  | ask q next ih => exact ih _ _

end Act

end Sluice
