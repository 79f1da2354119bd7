import Sluice.Text.Blank
import Sluice.Text.Search
import Sluice.Value.Writer

/-!
# Paths into values

A path such as `pets[0].name` starts at a variable and steps into fields of mappings and items of
sequences. `Path.read` understands the text of a path, `Path.display` writes it without blanks, and
`Path.lookup` follows it from the variable's value.
-/

namespace Sluice

/-- One step into a value. -/
inductive Path.Step where
  | field (name : String)
  | index (n : Nat)
deriving DecidableEq

structure Path where
  root : String
  steps : List Path.Step
deriving DecidableEq

inductive PathFault where
  | noRoot
  | emptyField
  | unclosedIndex
  | badIndex
  | noStep
  | missingField (walked name : String)
  | outOfBounds (index : Nat) (walked : String) (length : Nat)
  | notMapping (type walked : String)
  | notSequence (type walked : String)
deriving DecidableEq

def PathFault.message : PathFault → String
  | noRoot => "expected a variable name"
  | emptyField => "empty field name after '.'"
  | unclosedIndex => "unclosed '['"
  | badIndex => "index must be a non-negative integer"
  | noStep => "expected '.' or '['"
  | missingField walked name => s!"'{walked}' has no field '{name}'"
  | outOfBounds index walked length =>
    s!"index {index} out of bounds for '{walked}' (length {length})"
  | notMapping type walked => s!"cannot access a field of {type} '{walked}'"
  | notSequence type walked => s!"cannot index into {type} '{walked}'"

/-- The name of a value's type that operators see. -/
def Value.typeName : Value → String
  | .null => "null"
  | .bool _ => "bool"
  | .num _ => "number"
  | .str _ => "text"
  | .seq _ => "sequence"
  | .map _ => "mapping"

namespace Path

/-! ## Reading -/

def endsName (c : Char) : Bool :=
  c == '.' || c == '['

/-- A name up to the next step, and what follows it. -/
def takeName (cs : List Char) : List Char × List Char :=
  (cs.takeWhile fun c => !endsName c, cs.dropWhile fun c => !endsName c)

/-- A machine-sized index: digits, with blanks around them and a plus in front allowed. -/
def readIndex? (cs : List Char) : Option Nat :=
  let ds := match Text.trimChars cs with
    | '+' :: ds => ds
    | ds => ds
  if ds.isEmpty || !ds.all Text.isDigit then none
  else
    let n := ds.foldl (fun n c => n * 10 + (c.toNat - 48)) 0
    if n < 0x10000000000000000 then some n else none

def readSteps (cs : List Char) : Except PathFault (List Step) :=
  match cs with
  | [] => .ok []
  | '.' :: after =>
    have : (takeName after).2.length ≤ after.length := (List.dropWhile_sublist _).length_le
    if (takeName after).1.isEmpty then .error .emptyField
    else (readSteps (takeName after).2).map (.field (String.ofList (takeName after).1) :: ·)
  | '[' :: after =>
    match h : Text.cut? [']'] after with
    | none => .error .unclosedIndex
    | some (inside, rest) =>
      have := Text.cut?_after_length_le h
      match readIndex? inside with
      | none => .error .badIndex
      | some n => (readSteps rest).map (.index n :: ·)
  | _ => .error .noStep
termination_by cs.length

/-- The path that a text stands for, blanks around it ignored. -/
def read (text : String) : Except PathFault Path :=
  let (root, rest) := takeName (Text.trimChars text.toList)
  if !Text.isIdentifierChars root then .error .noRoot
  else (readSteps rest).map fun steps => ⟨String.ofList root, steps⟩

/-! ## Writing -/

def Step.display : Step → String
  | field name => s!".{name}"
  | index n => s!"[{n}]"

def display (p : Path) : String :=
  p.steps.foldl (fun text step => text ++ step.display) p.root

/-! ## Following -/

/-- One step from a value that was reached by `walked`. -/
def Step.follow (step : Step) (walked : String) (v : Value) : Except PathFault Value :=
  match step, v with
  | field name, .map fields =>
    match Fields.get? fields name with
    | some w => .ok w
    | none => .error (.missingField walked name)
  | index n, .seq items =>
    match items[n]? with
    | some w => .ok w
    | none => .error (.outOfBounds n walked items.length)
  | field _, v => .error (.notMapping v.typeName walked)
  | index _, v => .error (.notSequence v.typeName walked)

def follow : List Step → String → Value → Except PathFault Value
  | [], _, v => .ok v
  | step :: steps, walked, v =>
    match step.follow walked v with
    | .ok w => follow steps (walked ++ step.display) w
    | .error fault => .error fault

def lookup (p : Path) (v : Value) : Except PathFault Value :=
  follow p.steps p.root v

end Path

end Sluice
