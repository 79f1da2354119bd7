import Sluice.Config.Load
import Sluice.Prompt
import Sluice.Script
import Sluice.Service
import Sluice.Store
import Sluice.Workspace.Assets

/-!
# Services of the local machine

How commands are served by the machine that the shell runs on: sessions are files, scripts are
processes, assets lie in directories, and there is no way to reach any source. The roots of the
workspace are the state of these services; they outlive the lines that change them, also those
that fail later on.
-/

namespace Sluice

/-- Who answers questions. -/
inductive Consent where
  | always
  | never
  /-- The operator at the terminal. -/
  | operator
deriving DecidableEq

/-- What local services need to know. -/
structure Local where
  interpreters : Script.Interpreters
  store : Store
  consent : Consent

namespace Local

open Host

/-- The local services for a configuration. `consent` holds unless the configuration agrees to
everything. -/
def ofConfig (config : Config) (home : String) (consent : Consent) : Local where
  interpreters := config.interpreters
  store := ⟨Location.join home "sessions"⟩
  consent := if config.assumeYes then .always else consent

/-- The fault of everything that needs a source. -/
def unreachable (what : String) : ServiceFault :=
  .unavailable s!"cannot {what}: no blueprint runtime is attached"

/-- Answers a question. -/
def agree (services : Local) (question : String) : Act host Bool :=
  match services.consent with
  | .always => return true
  | .never => return false
  | .operator => Prompt.confirm question

def changed (roots : List Root) :
    Except ServiceFault (Root × List Root) → Except ServiceFault Root × List Root
  | .ok (root, roots) => (.ok root, roots)
  | .error fault => (.error fault, roots)

def serve (services : Local) : (q : ServiceRequest) → List Root → Act host (q.Answer × List Root)
  | .clock, roots => do return (← time, roots)
  | .reach source, roots => return (.error (unreachable s!"connect to {source}"), roots)
  | .runAction _ action _, roots => return (.error (unreachable s!"run action {action}"), roots)
  | .runQuery .., roots => return (.error (unreachable "run a query"), roots)
  | .runFlow path _ _, roots => return (.error (unreachable s!"run flow {path}"), roots)
  | .runScript path input parameters, roots => do
    return (← Script.run services.interpreters path input parameters, roots)
  | .queryText path, roots => do
    return ((← ask (.readFile path)).mapError ServiceFault.file, roots)
  | .saveSession name document, roots => do return (← services.store.save name document, roots)
  | .loadSession name, roots => do return (← services.store.load name, roots)
  | .savedSessions, roots => do return (← services.store.list, roots)
  | .deleteSession name, roots => do return (← services.store.delete name, roots)
  | .confirm question, roots => do return (← services.agree question, roots)
  | .expand path, roots => do return (← Expansion.expand path, roots)
  | .roots, roots => return (roots, roots)
  | .addRoot path, roots => do return changed roots (← Workspace.addRoot path roots)
  | .removeRoot reference, roots => do return changed roots (← Workspace.removeRoot reference roots)
  | .assets kind, roots => do return (← Workspace.assets kind roots, roots)
  | .asset kind reference, roots => do return (← Workspace.find kind roots reference, roots)

/-- Serves a request that may be interrupted; the roots then stay as they were. -/
def meet (services : Local) (q : ServiceRequest) (roots : List Root) :
    Act host (Option q.Answer × List Root) := do
  match ← (services.serve q roots).attempt with
  | some (answer, roots) => return (some answer, roots)
  | none => return (none, roots)

/-- A service that leaves the roots as they are is an attempt at its answer. -/
theorem meet_of_serve {services : Local} {q : ServiceRequest} {roots : List Root}
    {m : Act host q.Answer}
    (h : services.serve q roots = m.bind fun answer => .done (answer, roots)) :
    services.meet q roots = m.attempt.bind fun answer => .done (answer, roots) := by
  unfold meet
  rw [h, Act.attempt_bind_done]
  refine (Act.bind_assoc m.attempt _ _).trans ?_
  congr 1
  funext answer
  cases answer with
  | none => rfl
  | some answer => rfl

end Local

end Sluice
