import Sluice.Job

/-!
# Programs over the live session

The session that a program works on can be kept beside the world that serves it, as one world of
services and session together.

* `JobRequest.inWorld` : that world;
* `Act.run_onSession` : a program run on a session is a program run in that world.
-/

namespace Sluice

variable {ω α β : Type}

/-- A world of services with the live session beside it. -/
def JobRequest.inWorld (world : (q : ServiceRequest) → ω → Option q.Answer × ω) :
    (q : JobRequest) → Session × ω → Option q.Answer × (Session × ω)
  | .consult q, (s, w) => ((world q w).1, (s, (world q w).2))
  | .session, (s, w) => (some s, (s, w))
  | .replace s, (_, w) => (some (), (s, w))

namespace Act

variable (world : (q : ServiceRequest) → ω → Option q.Answer × ω)

/-- What comes of a program that works on a session: its result, unless it was interrupted, and the
session and the world as it left them. -/
def runLive (m : Act live α) (s : Session) (w : ω) : Option α × (Session × ω) :=
  m.run (I := live) (JobRequest.inWorld world) (s, w)

@[simp] theorem runLive_done (a : α) (s : Session) (w : ω) :
    (done a : Act live α).runLive world s w = (some a, (s, w)) := rfl

theorem runLive_bind (m : Act live α) (f : α → Act live β) (s : Session) (w : ω) :
    (m >>= f).runLive world s w =
      match m.runLive world s w with
      | (some a, (s, w)) => (f a).runLive world s w
      | (none, (s, w)) => (none, (s, w)) := by
  unfold runLive
  refine (run_bind (I := live) (JobRequest.inWorld world) m f (s, w)).trans ?_
  rcases m.run (I := live) (JobRequest.inWorld world) (s, w) with ⟨_ | a, s, w⟩ <;> rfl

@[simp] theorem runLive_consult (q : ServiceRequest) (s : Session) (w : ω) :
    (perform (I := live) (.consult q)).runLive world s w = ((world q w).1, (s, (world q w).2)) := by
  rcases h : world q w with ⟨_ | a, w'⟩
  · simp only [runLive, perform, run, JobRequest.inWorld, h]
    rfl
  · simp only [runLive, perform, run, JobRequest.inWorld, h]
    rfl

@[simp] theorem runLive_session (s : Session) (w : ω) :
    (perform (I := live) .session).runLive world s w = (some s, (s, w)) := rfl

@[simp] theorem runLive_replace (t s : Session) (w : ω) :
    (perform (I := live) (.replace t)).runLive world s w = (some (), (t, w)) := rfl

/-- The parts of a sequence are run on the session one after the other. -/
theorem onSession_bind (m : Act live α) (f : α → Act live β) (s : Session) :
    (m.bind f).onSession s =
      (m.onSession s).bind fun
        | (some a, s) => (f a).onSession s
        | (none, s) => .done (none, s) := by
  induction m generalizing s with
  | done a => rfl
  | stop => rfl
  | ask q next ih =>
      refine Eq.trans ?_ (bind_assoc _ _ _).symm
      exact congrArg (bind (JobRequest.meet q s)) (funext fun r => ih r.1 r.2)

/-- Interrupted or not, a program run on a session ends, with the session as it left it. -/
theorem run_onSession (m : Act live α) (s : Session) (w : ω) :
    (m.onSession s).run (I := service) world w =
      (some ((m.runLive world s w).1, (m.runLive world s w).2.1), (m.runLive world s w).2.2) := by
  induction m generalizing s w with
  | done a => rfl
  | stop => rfl
  | ask q next ih =>
      cases q with
      | consult q => exact ih (world q w).1 s (world q w).2
      | session => exact ih (some s) s w
      | replace t => exact ih (some ()) t w

end Act

end Sluice
