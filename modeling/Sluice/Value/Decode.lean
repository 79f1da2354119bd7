import Sluice.Text.Hidden
import Sluice.Value.Writer

/-!
# Records from values

A record is read from a mapping, or from a sequence that gives its fields in order. Fields of a
mapping are read in the order in which they stand there; unknown ones are passed over; only then
are the fields that are still missing complained about, in the order of the record.
-/

namespace Sluice.Value

/-- Why a value is not the record that was asked for. -/
inductive DecodeFault where
  | missingField (name : String)
  | wrongType (found : Value) (expected : String)
  | wrongValue (found : Int) (expected : String)
  | wrongLength (found : Nat) (expected : String)
deriving DecidableEq

/-- A character inside a quoted text of a message; one that does not show is given by its number. -/
def quoteChar (c : Char) : List Char :=
  match c with
  | '"' => ['\\', '"']
  | '\\' => ['\\', '\\']
  | '\n' => ['\\', 'n']
  | '\r' => ['\\', 'r']
  | '\t' => ['\\', 't']
  | '\x00' => ['\\', '0']
  | c =>
    if Text.isHidden c then
      ['\\', 'u', '\x7b'] ++ (Nat.toDigits 16 c.toNat) ++ ['\x7d']
    else [c]

/-- How messages name a value of the wrong type. -/
def describe : Value → String
  | .null => "null"
  | .bool b => s!"boolean `{b}`"
  | .num (.int i _) => s!"integer `{i}`"
  | .num (.double d h) => s!"floating point `{String.ofList (Number.double d h).chars}`"
  | .str s => s!"string \"{String.ofList (s.toList.flatMap quoteChar)}\""
  | .seq _ => "sequence"
  | .map _ => "map"

def DecodeFault.message : DecodeFault → String
  | missingField name => s!"missing field `{name}`"
  | wrongType found expected => s!"invalid type: {found.describe}, expected {expected}"
  | wrongValue found expected => s!"invalid value: integer `{found}`, expected {expected}"
  | wrongLength found expected => s!"invalid length {found}, expected {expected}"

/-! ## Parts -/

def asText : Value → Except DecodeFault String
  | .str s => .ok s
  | v => .error (.wrongType v "a string")

def asText? : Value → Except DecodeFault (Option String)
  | .null => .ok none
  | v => v.asText.map some

/-- A natural number that fits a word. -/
def asCount : Value → Except DecodeFault Nat
  | .num (.int i _) => if i < 0 then .error (.wrongValue i "u64") else .ok i.toNat
  | v => .error (.wrongType v "u64")

/-- A sequence, item by item. -/
def asItems {α : Type} (item : Value → Except DecodeFault α) : Value → Except DecodeFault (List α)
  | .seq items => items.mapM item
  | v => .error (.wrongType v "a sequence")

/-! ## Records -/

/-- One field of a record that is put together in a state. -/
structure FieldRule (σ : Type) where
  name : String
  required : Bool
  read : Value → σ → Except DecodeFault σ

def readPositional {σ : Type} (expected : String) (index : Nat) :
    List (FieldRule σ) → List Value → σ → Except DecodeFault σ
  | [], _, s => .ok s
  | r :: rs, x :: xs, s => (r.read x s).bind (readPositional expected (index + 1) rs xs)
  | r :: rs, [], s =>
    if r.required then .error (.wrongLength index expected)
    else readPositional expected (index + 1) rs [] s

def readFields {σ : Type} (rules : List (FieldRule σ)) : Fields → σ → Except DecodeFault σ
  | [], s => .ok s
  | (k, x) :: fs, s =>
    match rules.find? fun r => r.name == k with
    | some r => (r.read x s).bind (readFields rules fs)
    | none => readFields rules fs s

def readRecord {σ : Type} (type : String) (rules : List (FieldRule σ)) (start : σ) :
    Value → Except DecodeFault σ
  | .map fields => do
    let s ← readFields rules fields start
    match rules.find? fun r => r.required && !(Fields.keys fields).contains r.name with
    | some r => .error (.missingField r.name)
    | none => .ok s
  | .seq items => do
    let expected := s!"struct {type} with {rules.length} elements"
    let s ← readPositional expected 0 rules items start
    if rules.length < items.length then .error (.wrongLength items.length "fewer elements in array")
    else .ok s
  | v => .error (.wrongType v s!"struct {type}")

end Sluice.Value
