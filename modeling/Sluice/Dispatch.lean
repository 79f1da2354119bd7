import Sluice.Order.Execution
import Sluice.Order.Reading
import Sluice.Program.Basic

/-!
# Dispatch

One command of a pipeline, from its name to its result: templates are resolved, positional
arguments first, then the order is read, then the order is carried out. Nothing has happened yet
when a template or an argument is refused.
-/

namespace Sluice

/-- The arguments of a command with their templates resolved. -/
def Intent.resolve (s : Session) (i : Intent) : Except Failure Arguments := do
  let positional ← Value.resolveItems s i.positional
  let flags ← Value.resolveFields s i.flags
  return ⟨i.name, i.subcommand, positional, flags⟩

/-- The order that a command stands for, and the name it goes by. Another command's result is
refused where there is no use for it. -/
def Intent.order (registry : Registry) (s : Session) (i : Intent) (piped : Bool) :
    Except Failure (Order × String) :=
  match registry.get? i.name with
  | none => .error (.unknownCommand i.name)
  | some command => do
    let args ← i.resolve s
    let order ← Order.read command args
    if piped && !command.acceptsInput args.subcommand then .error (args.refuse .noInput)
    return (order, args.label)

/-- Runs one command of a pipeline on the result of the one before it. -/
def Registry.dispatch (registry : Registry) (i : Intent) (input : Option Value) : Job Value := do
  let (order, label) ← ofExcept (i.order registry (← Job.session) input.isSome)
  order.execute registry label input

end Sluice
