import Sluice.Query.Access

/-!
# Reading data

The notation of data in text: JSON, and besides comments from `#` to the end of the line, numbers
with a plus sign or with zeros in front, numbers that are not finite by their names, and mappings
whose keys are any data. Decimals keep their digits. A text may hold several data, which are read
one after another, so that the first of them are there even if what follows is no data. Every call
is given fuel, of which the length of the text leaves plenty.
-/

namespace Sluice.Query

def digitsValue (ds : List Char) : Nat :=
  ds.foldl (fun n c => n * 10 + (c.toNat - 48)) 0

namespace Quantity

def digits? (cs : List Char) : Option (List Char × List Char) :=
  match cs.takeWhile Char.isDigit with
  | [] => none
  | ds => some (ds, cs.dropWhile Char.isDigit)

/-- A fraction at the front, if there is one: its digits with the point. -/
def fraction? (cs : List Char) : Option (List Char × List Char) :=
  match cs with
  | '.' :: rest => (digits? rest).map fun (ds, rest) => ('.' :: ds, rest)
  | cs => some ([], cs)

/-- An exponent at the front, if there is one: how it is written, its sign and its digits. -/
def exponent? (cs : List Char) : Option ((List Char × Bool × List Char) × List Char) :=
  match cs with
  | e :: rest =>
    if e == 'e' || e == 'E' then
      let (sign, unsigned) := match rest with
        | '+' :: rest => (['+'], rest)
        | '-' :: rest => (['-'], rest)
        | rest => ([], rest)
      (digits? unsigned).map fun (ds, rest) => ((e :: sign ++ ds, sign == ['-'], ds), rest)
    else some (([], false, []), cs)
  | [] => some (([], false, []), [])

/-- A number at the front, without a sign of its own. A point or an exponent has to be followed by
digits. Digits alone are an integer, anything else keeps how it is written. -/
def read? (negative : Bool) (cs : List Char) : Option (Quantity × List Char) := do
  let (whole, rest) ← digits? cs
  let (fraction, rest) ← fraction? rest
  let ((exponent, down, power), rest) ← exponent? rest
  if fraction.isEmpty && exponent.isEmpty then
    let n : Int := digitsValue whole
    some (.int (if negative then -n else n), rest)
  else
    let power : Int := if down then -(digitsValue power : Int) else digitsValue power
    let places : Int := (fraction.length - 1 : Nat)
    let written := (if negative then ['-'] else []) ++ whole ++ fraction ++ exponent
    some (.decimal (String.ofList written)
      (.ofDecimal negative (digitsValue (whole ++ fraction.drop 1)) (power - places)), rest)

end Quantity

namespace Datum

namespace Reader

def skipFrom (comment : Bool) : List Char → List Char
  | [] => []
  | c :: cs =>
    if comment then skipFrom (c != '\n') cs
    else if c == '#' then skipFrom true cs
    else if Value.Reader.isBlank c then skipFrom false cs
    else c :: cs

def skip (cs : List Char) : List Char :=
  skipFrom false cs

/-- What stands for itself, and the data that it stands for. -/
def words : List (String × Datum) :=
  [("null", .null), ("true", .bool true), ("false", .bool false),
    ("NaN", .num (.double notANumber)), ("Infinity", .num (.double (.infinity false))),
    ("-Infinity", .num (.double (.infinity true)))]

def scalar? (cs : List Char) : Option (Datum × List Char) :=
  match words.find? fun w => w.1.toList.isPrefixOf cs with
  | some (word, d) => some (d, cs.drop word.length)
  | none =>
    match cs with
    | '-' :: rest => (Quantity.read? true rest).map fun (q, rest) => (.num q, rest)
    | '+' :: rest => (Quantity.read? false rest).map fun (q, rest) => (.num q, rest)
    | cs => (Quantity.read? false cs).map fun (q, rest) => (.num q, rest)

mutual

def datum? : Nat → List Char → Option (Datum × List Char)
  | 0, _ => none
  | n + 1, cs =>
    match skip cs with
    | '"' :: rest =>
      match Value.Reader.stringBody rest with
      | .ok (s, r) => some (.str (String.ofList s), r.1)
      | .error _ => none
    | '[' :: rest =>
      match skip rest with
      | ']' :: rest => some (.arr [], rest)
      | rest => (items? n rest).map fun (xs, rest) => (.arr xs, rest)
    | '\x7b' :: rest =>
      match skip rest with
      | '\x7d' :: rest => some (.obj [], rest)
      | rest => (fields? n [] rest).map fun (fs, rest) => (.obj fs, rest)
    | cs => scalar? cs

def items? : Nat → List Char → Option (List Datum × List Char)
  | 0, _ => none
  | n + 1, cs => do
    let (x, rest) ← datum? n cs
    match skip rest with
    | ',' :: rest => (items? n rest).map fun (xs, rest) => (x :: xs, rest)
    | ']' :: rest => some ([x], rest)
    | _ => none

/-- Fields behind those that are known, up to the closing brace. -/
def fields? : Nat → List (Datum × Datum) → List Char → Option (List (Datum × Datum) × List Char)
  | 0, _, _ => none
  | n + 1, known, cs => do
    let (key, rest) ← datum? n cs
    match skip rest with
    | ':' :: rest =>
      let (value, rest) ← datum? n rest
      match skip rest with
      | ',' :: rest => fields? n (putField key value known) rest
      | '\x7d' :: rest => some (putField key value known, rest)
      | _ => none
    | _ => none

end

/-- The data of a text, one after another; an error where something else stands. -/
def stream (failure : Trouble) : Nat → List Char → Results Datum
  | 0, _ => .fault failure
  | n + 1, cs =>
    match skip cs with
    | [] => .done
    | cs =>
      match datum? (2 * cs.length + 2) cs with
      | none => .fault failure
      | some (d, rest) =>
        match skip rest with
        | [] => .one d
        | rest => .next (.ok d) fun _ => stream failure n rest

end Reader

def readAll (text : String) : Results Datum :=
  Reader.stream (.raised (.str s!"cannot parse {(Datum.str text).json} as JSON"))
    (text.length + 1) text.toList

end Datum

end Sluice.Query
