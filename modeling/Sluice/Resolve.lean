import Sluice.Failure
import Sluice.Session.Basic
import Sluice.Template

/-!
# Resolving templates

Before a command sees its arguments, the templates in them are replaced by what their paths lead
to. A text that is one template and nothing else but blanks around it becomes the value itself,
whatever its type; in any other text the values are written out in place.
-/

namespace Sluice

/-- The value at the end of a path that starts at a variable of the session. -/
def Session.lookup (s : Session) (expression : String) : Except Failure Value :=
  match Path.read expression with
  | .error fault => .error (.invalidPath (Text.trim expression) fault)
  | .ok path =>
    match s.value? path.root with
    | none => .error (.undefinedVariable path.root)
    | some v => (path.lookup v).mapError (.invalidPath path.display)

namespace Template

/-- The expression of a text that is a single template with only blanks around it. -/
def sole? : List Piece → Option (List Char)
  | [.literal lead, .expression expr, .literal trail] =>
    if (lead ++ trail).all Text.isBlank then some expr else none
  | _ => none

def writeOut (s : Session) : List Piece → Except Failure (List Char)
  | [] => .ok []
  | .literal text :: rest => (writeOut s rest).map (text ++ ·)
  | .expression expr :: rest =>
    match s.lookup (String.ofList expr) with
    | .error e => .error e
    | .ok v => (writeOut s rest).map (v.toText.toList ++ ·)

def resolve (s : Session) (text : String) : Except Failure Value :=
  let parts := pieces text.toList
  match sole? parts with
  | some expr => s.lookup (String.ofList expr)
  | none => (writeOut s parts).map fun cs => .str (String.ofList cs)

end Template

namespace Value

mutual

/-- A value with the templates in all its texts replaced; keys stay as they are. -/
def resolve (s : Session) : Value → Except Failure Value
  | .str text => Template.resolve s text
  | .seq items => (resolveItems s items).map .seq
  | .map fields => (resolveFields s fields).map .map
  | v => .ok v

/-- Item by item; the first failure counts. -/
def resolveItems (s : Session) : List Value → Except Failure (List Value)
  | [] => .ok []
  | x :: xs =>
    match x.resolve s with
    | .error e => .error e
    | .ok v => (resolveItems s xs).map (v :: ·)

def resolveFields (s : Session) : List (String × Value) → Except Failure (List (String × Value))
  | [] => .ok []
  | (k, x) :: xs =>
    match x.resolve s with
    | .error e => .error e
    | .ok v => (resolveFields s xs).map ((k, v) :: ·)

end

end Value

end Sluice
