/-!
# Output directives

The flags `--output`, `--columns` and `--query` say how a result is shown. They may also be
written with `cx-` in front, for commands that have parameters of the same names. They never
reach a command.
-/

namespace Sluice

/-- What was asked for, as written. -/
structure Directives where
  output : Option String
  columns : Option String
  query : Option String
deriving DecidableEq, Inhabited

namespace Directives

def none : Directives :=
  ⟨.none, .none, .none⟩

/-- A flag's name without the `cx-` in front. -/
def plainName (flag : String) : String :=
  match flag.toList with
  | 'c' :: 'x' :: '-' :: rest => String.ofList rest
  | _ => flag

/-- Records a flag if it is a directive; one without a value has the value `true`. -/
def set? (d : Directives) (flag : String) (value : Option String) : Option Directives :=
  let text := value.getD "true"
  match plainName flag with
  | "output" => some { d with output := some text }
  | "columns" => some { d with columns := some text }
  | "query" => some { d with query := some text }
  | _ => .none

end Directives

end Sluice
