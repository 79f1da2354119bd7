import Sluice.Query.Access
import Sluice.Text.Search

/-!
# Arithmetic on data

The operators of a query between two data. Integers stay exact under `+`, `-`, `*` and `%`, a
quotient is always a double, and texts, sequences and mappings have operations of their own.
-/

namespace Sluice.Query

/-- The arithmetic operators. -/
inductive ArithOp where
  | add
  | sub
  | mul
  | div
  | rem
deriving DecidableEq

def ArithOp.sign : ArithOp → String
  | add => "+"
  | sub => "-"
  | mul => "*"
  | div => "/"
  | rem => "%"

namespace Quantity

def viaFloat (f : Float → Float → Float) (a b : Quantity) : Quantity :=
  double (.ofFloat (f a.toDouble.toFloat b.toDouble.toFloat))

/-- The remainder of a division toward zero, exact, with the sign of the dividend. -/
def floatRem (a b : Double) : Double :=
  if !a.isFinite || isNaN b || b.mantissa = 0 then .ofFloat (0.0 / 0.0)
  else if !b.isFinite then a
  else
    -- Both over the common denominator of their ratios.
    let x := a.ratio.1 * b.ratio.2
    let y := b.ratio.1 * a.ratio.2
    .ofRatio a.isNegative (x % y) (a.ratio.2 * b.ratio.2)

def add : Quantity → Quantity → Quantity
  | int a, int b => int (a + b)
  | a, b => viaFloat (· + ·) a b

def sub : Quantity → Quantity → Quantity
  | int a, int b => int (a - b)
  | a, b => viaFloat (· - ·) a b

def mul : Quantity → Quantity → Quantity
  | int a, int b => int (a * b)
  | a, b => viaFloat (· * ·) a b

def rem : Quantity → Quantity → Quantity
  | int a, int b => int (Int.tmod a b)
  | a, b => double (floatRem a.toDouble b.toDouble)

/-- The other sign; a decimal keeps its digits. -/
def neg : Quantity → Quantity
  | int a => int (-a)
  | double d => double d.neg
  | decimal digits d =>
    decimal (match digits.toList with
      | '-' :: rest => String.ofList rest
      | rest => String.ofList ('-' :: rest)) d.neg

end Quantity

/-! ## Texts and mappings -/

/-- The pieces of a text between the occurrences of a separator, or its characters if the
separator is empty. -/
def splitText (separator : List Char) : Nat → List Char → List (List Char)
  | 0, cs => [cs]
  | n + 1, cs =>
    match Text.cut? separator cs with
    | none => [cs]
    | some (before, after) => before :: splitText separator n after

/-- The pieces of a text as data; a text without characters has none. -/
def splitData (s separator : String) : Datum :=
  let pieces := if s.isEmpty then [] else if separator.isEmpty then s.toList.map fun c => [c]
    else splitText separator.toList s.length s.toList
  .arr (pieces.map fun p => .str (String.ofList p))

/-- Puts the fields of the second mapping into the first. -/
def mergeFields (xs ys : List (Datum × Datum)) : List (Datum × Datum) :=
  ys.foldl (fun acc f => Datum.putField f.1 f.2 acc) xs

/-- The same, merging the mappings that stand under one key down to a depth. -/
def mergeDeep : Nat → List (Datum × Datum) → List (Datum × Datum) → List (Datum × Datum)
  | 0, xs, ys => mergeFields xs ys
  | n + 1, xs, ys => ys.foldl (fun acc f =>
      match field? f.1 acc, f.2 with
      | some (.obj old), .obj new => Datum.putField f.1 (.obj (mergeDeep n old new)) acc
      | _, value => Datum.putField f.1 value acc) xs

/-! ## Operators -/

def cannotCalculate (op : ArithOp) (a b : Datum) : Trouble :=
  .raised (.str s!"cannot calculate {a.json} {op.sign} {b.json}")

def fitsWord (n : Int) : Bool :=
  -0x8000000000000000 ≤ n && n < 0x8000000000000000

/-- The result of an operator, or an error if it is not for these data. -/
def arithmetic (op : ArithOp) (a b : Datum) : Except Trouble Datum :=
  match op, a, b with
  | .add, .null, b => .ok b
  | .add, a, .null => .ok a
  | .add, .num a, .num b => .ok (.num (a.add b))
  | .add, .str a, .str b => .ok (.str (a ++ b))
  | .add, .arr a, .arr b => .ok (.arr (a ++ b))
  | .add, .obj a, .obj b => .ok (.obj (mergeFields a b))
  | .sub, .num a, .num b => .ok (.num (a.sub b))
  | .sub, .arr a, .arr b => .ok (.arr (a.filter fun x => !b.any x.same))
  | .mul, .num a, .num b => .ok (.num (a.mul b))
  | .mul, .str s, .num (.int n) | .mul, .num (.int n), .str s =>
    if !fitsWord n then .error (cannotCalculate op a b)
    else if n ≤ 0 then .ok .null
    else .ok (.str (String.join (List.replicate n.toNat s)))
  | .mul, .obj xs, .obj ys => .ok (.obj (mergeDeep (Datum.obj ys).depth xs ys))
  | .div, .num a, .num b => .ok (.num (.viaFloat (· / ·) a b))
  | .div, .str a, .str b => .ok (splitData a b)
  | .rem, .num (.int _), .num (.int 0) => .error (cannotCalculate op a b)
  | .rem, .num a, .num b => .ok (.num (a.rem b))
  | _, _, _ => .error (cannotCalculate op a b)

def negate : Datum → Except Trouble Datum
  | .num q => .ok (.num q.neg)
  | d => .error (cannotUse d "number")

end Sluice.Query
