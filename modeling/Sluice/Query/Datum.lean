import Sluice.Value.Reader
import Sluice.Value.Writer

/-!
# Data inside a query

A query computes with more than a `Value` can hold: integers of any size, infinities and NaN,
decimals that keep the digits they were written with, and mappings whose keys need not be texts.
`Datum.ofValue` takes a value in, and `Datum.toValue` brings a result out through its JSON text,
so that what has no JSON form comes out as that text.
-/

namespace Sluice.Query

/-- A number in a query. -/
inductive Quantity where
  | int (i : Int)
  | double (d : Double)
  /-- A decimal as it was written, and the double that it stands for. -/
  | decimal (digits : String) (d : Double)
deriving DecidableEq, Inhabited

/-- A piece of data in a query. -/
inductive Datum where
  | null
  | bool (b : Bool)
  | num (q : Quantity)
  | str (s : String)
  | arr (items : List Datum)
  | obj (fields : List (Datum × Datum))
deriving Inhabited

/-! ## Numbers -/

/-- A double as it is written: the fewest digits, with an exponent when the first digit stands
far from the point. -/
def doubleChars (d : Double) : List Char :=
  if d.isFinite then
    if d.mantissa = 0 then (if d.isNegative then ['-'] else []) ++ ['0', '.', '0']
    else
      let s := d.shortest
      let digits := decimalDigits s.digits
      let e := s.power + digits.length - 1
      let body :=
        if -5 ≤ e && e ≤ 15 then Double.withPoint digits (e + 1)
        else
          (match digits with
            | [] => []
            | [d] => [d]
            | d :: ds => d :: '.' :: ds) ++ 'e' :: intChars e
      if d.isNegative then '-' :: body else body
  else if d.fractionBits ≠ 0 then "NaN".toList
  else if d.isNegative then "-Infinity".toList
  else "Infinity".toList

def notANumber : Double :=
  ⟨0x7ff8000000000000⟩

namespace Quantity

def toDouble : Quantity → Double
  | int i => .ofInt i
  | double d => d
  | decimal _ d => d

def chars : Quantity → List Char
  | int i => intChars i
  | double d => doubleChars d
  | decimal digits _ => digits.toList

end Quantity

/-- The place of a double in the order of the reals; both zeros have the same place. -/
def doublePlace (d : Double) : Int :=
  let magnitude : Int := (d.bits.toNat % 0x8000000000000000 : Nat)
  if d.isNegative then -magnitude else magnitude

def isNaN (d : Double) : Bool :=
  !d.isFinite && d.fractionBits ≠ 0

/-- The order of doubles: a NaN stands before everything, also before itself. -/
def compareDoubles (a b : Double) : Ordering :=
  if isNaN a then .lt
  else if isNaN b then .gt
  else compare (doublePlace a) (doublePlace b)

def Quantity.compare : Quantity → Quantity → Ordering
  | int a, int b => Ord.compare a b
  | a, b => compareDoubles a.toDouble b.toDouble

namespace Datum

def ofInt (i : Int) : Datum :=
  .num (.int i)

def ofDouble (d : Double) : Datum :=
  .num (.double d)

def key (name : String) : Datum :=
  .str name

/-! ## Text -/

/-- A text in quotes; the control character 7F is escaped like those below the space. -/
def quotedText (s : String) : List Char :=
  (quoted s).flatMap fun c => if c = '\x7f' then "\\u007f".toList else [c]

mutual

def chars : Datum → List Char
  | null => "null".toList
  | bool true => "true".toList
  | bool false => "false".toList
  | num q => q.chars
  | str s => quotedText s
  | arr xs => '[' :: (itemChars xs ++ [']'])
  | obj fs => '{' :: (fieldChars fs ++ ['}'])

def itemChars : List Datum → List Char
  | [] => []
  | [x] => chars x
  | x :: xs => chars x ++ ',' :: itemChars xs

def fieldChars : List (Datum × Datum) → List Char
  | [] => []
  | [(k, x)] => chars k ++ ':' :: chars x
  | (k, x) :: fs => chars k ++ ':' :: (chars x ++ ',' :: fieldChars fs)

end

def json (d : Datum) : String :=
  String.ofList d.chars

/-- A text as it stands, anything else as JSON. -/
def text : Datum → String
  | str s => s
  | d => d.json

/-! ## Values in and out -/

mutual

def ofValue : Value → Datum
  | .null => null
  | .bool b => bool b
  | .num (.int i _) => num (.int i)
  | .num (.double d _) => num (.decimal (String.ofList (d.chars Double.jsonLayout)) d)
  | .str s => str s
  | .seq xs => arr (ofItems xs)
  | .map fs => obj (ofFields fs)

def ofItems : List Value → List Datum
  | [] => []
  | x :: xs => ofValue x :: ofItems xs

def ofFields : List (String × Value) → List (Datum × Datum)
  | [] => []
  | (k, x) :: fs => (str k, ofValue x) :: ofFields fs

end

/-- A datum as a value: what its JSON text reads as, or that text. -/
def toValue (d : Datum) : Value :=
  (Value.read? d.json).getD (.str d.json)

/-! ## Order -/

mutual

/-- How many sequences and mappings stand around the innermost part. -/
def depth : Datum → Nat
  | arr xs => depthItems xs + 1
  | obj fs => depthFields fs + 1
  | _ => 0

def depthItems : List Datum → Nat
  | [] => 0
  | x :: xs => max (depth x) (depthItems xs)

def depthFields : List (Datum × Datum) → Nat
  | [] => 0
  | (k, x) :: fs => max (max (depth k) (depth x)) (depthFields fs)

end

/-- The place of a datum's type in the order. -/
def rank : Datum → Nat
  | null => 0
  | bool _ => 1
  | num _ => 2
  | str _ => 3
  | arr _ => 4
  | obj _ => 5

/-- Lists compared item by item. -/
def compareLists {α : Type} (cmp : α → α → Ordering) : List α → List α → Ordering
  | [], [] => .eq
  | [], _ :: _ => .lt
  | _ :: _, [] => .gt
  | x :: xs, y :: ys => (cmp x y).then (compareLists cmp xs ys)

/-- Puts an item into a list sorted downwards, in front of the first one that it is not less
than. -/
def place {α : Type} (less : α → α → Bool) (x : α) : List α → List α
  | [] => [x]
  | y :: ys => if less x y then y :: place less x ys else x :: y :: ys

/-- Up to how many items are sorted by insertion. -/
def fewItems : Nat := 20

/-- Sorts by a key, keeping the order of equal keys. A few items are inserted one after another, so
that of keys that are less than themselves, as NaN is, the later ones come first. -/
def sortOn {α : Type} (cmp : Datum → Datum → Ordering) (key : α → Datum) (xs : List α) : List α :=
  if xs.length ≤ fewItems then
    (xs.foldl (fun acc x => place (fun a b => cmp (key a) (key b) == .lt) x acc) []).reverse
  else xs.mergeSort fun a b => cmp (key a) (key b) != .gt

/-- The order of data no deeper than a bound. Mappings are compared by their sorted keys first and
then by the values under them. -/
def compareWithin : Nat → Datum → Datum → Ordering
  | 0, a, b => compare a.rank b.rank
  | n + 1, a, b =>
    match a, b with
    | bool a, bool b => compare a.toNat b.toNat
    | num a, num b => a.compare b
    | str a, str b => compare a b
    | arr xs, arr ys => compareLists (compareWithin n) xs ys
    | obj xs, obj ys =>
      let xs := sortOn (compareWithin n) Prod.fst xs
      let ys := sortOn (compareWithin n) Prod.fst ys
      (compareLists (compareWithin n) (xs.map Prod.fst) (ys.map Prod.fst)).then
        (compareLists (compareWithin n) (xs.map Prod.snd) (ys.map Prod.snd))
    | a, b => compare a.rank b.rank

/-- The order of data: null, booleans, numbers, texts, sequences, mappings. -/
def compare (a b : Datum) : Ordering :=
  compareWithin (max a.depth b.depth + 1) a b

/-- Equality of data; a NaN equals nothing. -/
def same (a b : Datum) : Bool :=
  match a, b with
  | str a, str b => a == b
  | a, b => a.compare b == .eq

/-- Everything but null and false counts as true. -/
def isTrue : Datum → Bool
  | null | bool false => false
  | _ => true

def typeName : Datum → String
  | null => "null"
  | bool _ => "boolean"
  | num _ => "number"
  | str _ => "string"
  | arr _ => "array"
  | obj _ => "object"

end Datum

end Sluice.Query
