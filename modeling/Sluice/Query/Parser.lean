import Sluice.Query.Reader
import Sluice.Query.Term
import Sluice.Text.Blank

/-!
# Reading a query

A reader by recursive descent, straight from characters, so that a term inside a text is read like
any other. From loose to tight the operators are `|` and bindings, `,`, the assignments, `//`, `or`,
`and`, `==` and `!=`, the other comparisons, `+` and `-`, `*` and `/`, `%`. Definitions and labels
may stand wherever an operand may, and reach as far to the right as they can. Every call is given
fuel, of which the length of the query leaves plenty.
-/

namespace Sluice.Query

namespace Parser

/-! ## Characters and words -/

/-- Drops blanks and comments at the front. A comment goes on in the next line if an odd number of
backslashes stands at the end of its line; `none` is outside of a comment, `some odd` inside. -/
def skipFrom (comment : Option Bool) : List Char → List Char
  | [] => []
  | c :: cs =>
    match comment with
    | some odd =>
      if c == '\n' then skipFrom (if odd then some false else none) cs
      else if c == '\r' && cs.head? == some '\n' then skipFrom (some odd) cs
      else skipFrom (some (c == '\\' && !odd)) cs
    | none =>
      if c == '#' then skipFrom (some false) cs
      else if Text.isBlank c then skipFrom none cs
      else c :: cs

def skip (cs : List Char) : List Char :=
  skipFrom none cs

/-- What is left behind a mark. -/
def mark? (mark : String) (cs : List Char) : Option (List Char) :=
  let cs := skip cs
  if mark.toList.isPrefixOf cs then some (cs.drop mark.length) else none

def startsName (c : Char) : Bool :=
  c.isAlpha || c == '_'

def inName (c : Char) : Bool :=
  c.isAlphanum || c == '_'

def name? (cs : List Char) : Option (String × List Char) :=
  match cs with
  | c :: _ =>
    if startsName c then some (String.ofList (cs.takeWhile inName), cs.dropWhile inName) else none
  | [] => none

/-- A name at the very front, perhaps behind the name of a module and two colons. -/
def qualified? (cs : List Char) : Option (String × List Char) := do
  let (name, rest) ← name? cs
  match rest with
  | ':' :: ':' :: rest => (name? rest).map fun (inner, rest) => (s!"{name}::{inner}", rest)
  | rest => some (name, rest)

/-- Words that cannot be called. -/
def reserved : List String :=
  ["def", "if", "then", "elif", "else", "end", "as", "reduce", "foreach", "try", "catch", "label",
    "import", "include", "and", "or", "break"]

/-- What is left behind a word. -/
def word? (word : String) (cs : List Char) : Option (List Char) := do
  let (name, rest) ← name? (skip cs)
  if name = word then some rest else none

def dollar? (cs : List Char) : Option (String × List Char) :=
  (mark? "$" cs).bind qualified?

def hexFour? (cs : List Char) : Option (Nat × List Char) :=
  match cs with
  | a :: b :: c :: d :: rest => do
    let a ← Value.Reader.hexValue? a
    let b ← Value.Reader.hexValue? b
    let c ← Value.Reader.hexValue? c
    let d ← Value.Reader.hexValue? d
    some (((a * 16 + b) * 16 + c) * 16 + d, rest)
  | _ => none

def escape? (cs : List Char) : Option (Char × List Char) :=
  match cs with
  | '"' :: rest => some ('"', rest)
  | '\\' :: rest => some ('\\', rest)
  | '/' :: rest => some ('/', rest)
  | 'b' :: rest => some ('\x08', rest)
  | 'f' :: rest => some ('\x0c', rest)
  | 'n' :: rest => some ('\n', rest)
  | 'r' :: rest => some ('\r', rest)
  | 't' :: rest => some ('\t', rest)
  | 'u' :: rest => do
    let (n, rest) ← hexFour? rest
    if n.isValidChar then some (Char.ofNat n, rest) else none
  | _ => none

/-! ## Operators -/

/-- The operators by their signs; a longer sign stands before its beginning. -/
def signs : List (String × BinaryOp) :=
  [("//=", .change .default), ("//", .otherwise), ("|=", .change .through),
    ("+=", .change (.arith .add)), ("-=", .change (.arith .sub)), ("*=", .change (.arith .mul)),
    ("/=", .change (.arith .div)), ("%=", .change (.arith .rem)), ("==", .order .equal),
    ("!=", .order .unequal), ("<=", .order .atMost), (">=", .order .atLeast),
    ("<", .order .less), (">", .order .greater), ("=", .change .set), ("+", .arith .add),
    ("-", .arith .sub), ("*", .arith .mul), ("/", .arith .div), ("%", .arith .rem), (",", .both)]

/-- How tightly an operator binds. -/
def level : BinaryOp → Nat
  | .both => 1
  | .change _ => 2
  | .otherwise => 3
  | .or => 4
  | .and => 5
  | .order .equal | .order .unequal => 6
  | .order _ => 7
  | .arith .add | .arith .sub => 8
  | .arith .mul | .arith .div => 9
  | .arith .rem => 10

def operator? (cs : List Char) : Option (BinaryOp × List Char) :=
  let cs := skip cs
  match signs.find? fun s => s.1.toList.isPrefixOf cs with
  | some (sign, op) => some (op, cs.drop sign.length)
  | none =>
    match name? cs with
    | some ("and", rest) => some (.and, rest)
    | some ("or", rest) => some (.or, rest)
    | _ => none

/-- A bar that is not the beginning of `|=`. -/
def bar? (cs : List Char) : Option (List Char) :=
  match skip cs with
  | '|' :: '=' :: _ => none
  | '|' :: rest => some rest
  | _ => none

def parameters? : Nat → List Char → Option (List Parameter × List Char)
  | 0, _ => none
  | n + 1, cs => do
    let (param, rest) ← match dollar? cs with
      | some (name, rest) => some (Parameter.value name, rest)
      | none => (name? (skip cs)).map fun (name, rest) => (Parameter.filter name, rest)
    match mark? ";" rest with
    | some rest => (parameters? n rest).map fun (params, rest) => (param :: params, rest)
    | none => (mark? ")" rest).map fun rest => ([param], rest)

/-- A term with its steps, if there are any. -/
def walked (t : Term) : List (Step × Bool) → Term
  | [] => t
  | steps => .walk t steps.reverse

def nameKey (name : String) : Term :=
  .text "" [.chars name]

/-! ## Terms -/

mutual

/-- A whole term: terms joined by bars and bindings. Inside a mapping a comma ends it. -/
def pipe? (comma : Bool) : Nat → List Char → Option (Term × List Char)
  | 0, _ => none
  | n + 1, cs => do
    let (left, rest) ← binary? (if comma then 1 else 2) n cs
    match bar? rest, word? "as" rest with
    | some rest, _ => (pipe? comma n rest).map fun (right, rest) => (.pipe left right, rest)
    | none, some rest => do
      let (pattern, rest) ← pattern? n rest
      let rest ← bar? rest
      (pipe? comma n rest).map fun (body, rest) => (.bind left pattern body, rest)
    | none, none => some (left, rest)

/-- Operands joined by operators that bind at least so tightly. -/
def binary? (least : Nat) : Nat → List Char → Option (Term × List Char)
  | 0, _ => none
  | n + 1, cs => do
    let (left, rest) ← operand? n cs
    climb? least left n rest

/-- The operators and operands that follow a term. -/
def climb? (least : Nat) (left : Term) : Nat → List Char → Option (Term × List Char)
  | 0, _ => none
  | n + 1, cs =>
    match operator? cs with
    | none => some (left, cs)
    | some (op, rest) =>
      if level op < least then some (left, cs)
      else do
        let above := match op with
          | .change _ => level op
          | _ => level op + 1
        let (right, rest) ← binary? above n rest
        climb? least (.binary op left right) n rest

/-- A term between operators: signs, a definition or label with all that follows, or an atom. -/
def operand? : Nat → List Char → Option (Term × List Char)
  | 0, _ => none
  | n + 1, cs =>
    match mark? "-" cs with
    | some rest => (operand? n rest).map fun (t, rest) => (.negative t, rest)
    | none =>
      match name? (skip cs) with
      | some ("def", rest) => do
        let (name, rest) ← qualified? (skip rest)
        let (params, rest) ← match mark? "(" rest with
          | some rest => parameters? n rest
          | none => some ([], rest)
        let rest ← mark? ":" rest
        let (body, rest) ← pipe? true n rest
        let rest ← mark? ";" rest
        let (next, rest) ← pipe? true n rest
        some (.define name params body next, rest)
      | some ("label", rest) => do
        let (name, rest) ← dollar? rest
        let rest ← bar? rest
        (pipe? true n rest).map fun (body, rest) => (.label name body, rest)
      | _ => do
        let (t, rest) ← atom? n cs
        steps? t [] n rest

def steps? (t : Term) (steps : List (Step × Bool)) : Nat → List Char → Option (Term × List Char)
  | 0, _ => none
  | n + 1, cs =>
    match skip cs with
    | '?' :: rest =>
      match steps with
      | (step, _) :: earlier => steps? t ((step, true) :: earlier) n rest
      | [] => steps? (.attempt t none) [] n rest
    | '[' :: rest => do
      let (step, rest) ← bracket? n rest
      steps? t ((step, false) :: steps) n rest
    | '.' :: c :: rest =>
      if startsName c then do
        let (name, rest) ← name? (c :: rest)
        steps? t ((.index (nameKey name), false) :: steps) n rest
      else
        match skip (c :: rest), quoted? n (c :: rest) with
        | '[' :: rest, _ => do
          let (step, rest) ← bracket? n rest
          steps? t ((step, false) :: steps) n rest
        | _, some (key, rest) => steps? t ((.index key, false) :: steps) n rest
        | _, none => some (walked t steps, cs)
    | _ => some (walked t steps, cs)

def quoted? : Nat → List Char → Option (Term × List Char)
  | 0, _ => none
  | n + 1, cs =>
    match skip cs with
    | '"' :: rest => (parts? [] n rest).map fun (parts, rest) => (.text "" parts, rest)
    | '@' :: rest => do
      let (name, rest) ← name? rest
      let rest ← mark? "\"" rest
      (parts? [] n rest).map fun (parts, rest) => (.text name parts, rest)
    | _ => none

def bracket? : Nat → List Char → Option (Step × List Char)
  | 0, _ => none
  | n + 1, cs =>
    match mark? "]" cs, mark? ":" cs with
    | some rest, _ => some (.each, rest)
    | none, some rest => do
      let (stop, rest) ← pipe? true n rest
      (mark? "]" rest).map fun rest => (.slice none (some stop), rest)
    | none, none => do
      let (start, rest) ← pipe? true n cs
      match mark? "]" rest with
      | some rest => some (.index start, rest)
      | none =>
        let rest ← mark? ":" rest
        match mark? "]" rest with
        | some rest => some (.slice (some start) none, rest)
        | none =>
          let (stop, rest) ← pipe? true n rest
          (mark? "]" rest).map fun rest => (.slice (some start) (some stop), rest)

/-- The parts of a text up to its closing quote; `run` holds the last characters in reverse. -/
def parts? (run : List Char) : Nat → List Char → Option (List Part × List Char)
  | 0, _ => none
  | n + 1, cs =>
    let flushed (parts : List Part) : List Part :=
      if run.isEmpty then parts else .chars (String.ofList run.reverse) :: parts
    match cs with
    | [] => none
    | '"' :: rest => some (flushed [], rest)
    | '\\' :: '(' :: rest => do
      let (t, rest) ← pipe? true n rest
      let rest ← mark? ")" rest
      let (parts, rest) ← parts? [] n rest
      some (flushed (.insert t :: parts), rest)
    | '\\' :: rest => do
      let (c, rest) ← escape? rest
      parts? (c :: run) n rest
    | c :: rest => parts? (c :: run) n rest

/-- A term that is not made by operators or steps. -/
def atom? : Nat → List Char → Option (Term × List Char)
  | 0, _ => none
  | n + 1, cs =>
    match skip cs with
    | [] => none
    | '.' :: '.' :: rest => some (.descend, rest)
    | '.' :: rest =>
      -- A key behind the point is read as a step.
      if rest.head?.any startsName || (quoted? n rest).isSome then some (.identity, '.' :: rest)
      else some (.identity, rest)
    | '"' :: rest => (parts? [] n rest).map fun (parts, rest) => (.text "" parts, rest)
    | '(' :: rest => do
      let (t, rest) ← pipe? true n rest
      (mark? ")" rest).map fun rest => (t, rest)
    | '[' :: rest =>
      match mark? "]" rest with
      | some rest => some (.array none, rest)
      | none => do
        let (t, rest) ← pipe? true n rest
        (mark? "]" rest).map fun rest => (.array (some t), rest)
    | '\x7b' :: rest =>
      match mark? "\x7d" rest with
      | some rest => some (.object [], rest)
      | none => (fields? n rest).map fun (fields, rest) => (.object fields, rest)
    | '$' :: rest => (qualified? rest).map fun (name, rest) => (.named name, rest)
    | '@' :: rest => do
      let (name, rest) ← name? rest
      match mark? "\"" rest with
      | some rest => (parts? [] n rest).map fun (parts, rest) => (.text name parts, rest)
      | none => some (.call ("@" ++ name) [], rest)
    | c :: rest =>
      if c.isDigit then (Quantity.read? false (c :: rest)).map fun (q, rest) => (.number q, rest)
      else do
        let (name, rest) ← qualified? (c :: rest)
        named? name n rest

/-- A term that begins with a word, behind the word. -/
def named? (name : String) : Nat → List Char → Option (Term × List Char)
  | 0, _ => none
  | n + 1, cs =>
    match name with
    | "if" => do
      let (branches, otherwise, rest) ← branches? n cs
      some (.choose branches otherwise, rest)
    | "try" => do
      let (body, rest) ← operand? n cs
      match word? "catch" rest with
      | none => some (.attempt body none, rest)
      | some rest => (operand? n rest).map fun (h, rest) => (.attempt body (some h), rest)
    | "reduce" => fold? .reduce n cs
    | "foreach" => fold? .scan n cs
    | "break" => (dollar? cs).map fun (name, rest) => (.leave name, rest)
    | name =>
      if reserved.contains name then none
      else
        match mark? "(" cs with
        | some rest => (arguments? n rest).map fun (args, rest) => (.call name args, rest)
        | none => some (.call name [], cs)

/-- A fold behind its first word. -/
def fold? (kind : Fold) : Nat → List Char → Option (Term × List Char)
  | 0, _ => none
  | n + 1, cs => do
    let (source, rest) ← operand? n cs
    let (pattern, rest) ← (word? "as" rest).bind (pattern? n)
    match mark? "(" rest with
    | some rest =>
      (arguments? n rest).map fun (args, rest) => (.fold kind source pattern args, rest)
    | none => some (.fold kind source pattern [], rest)

def branches? : Nat → List Char → Option (List (Term × Term) × Option Term × List Char)
  | 0, _ => none
  | n + 1, cs => do
    let (condition, rest) ← pipe? true n cs
    let (branch, rest) ← (word? "then" rest).bind (pipe? true n)
    match word? "elif" rest, word? "else" rest with
    | some rest, _ =>
      let (branches, otherwise, rest) ← branches? n rest
      some ((condition, branch) :: branches, otherwise, rest)
    | none, some rest =>
      let (last, rest) ← pipe? true n rest
      (word? "end" rest).map fun rest => ([(condition, branch)], some last, rest)
    | none, none => (word? "end" rest).map fun rest => ([(condition, branch)], none, rest)

def arguments? : Nat → List Char → Option (List Term × List Char)
  | 0, _ => none
  | n + 1, cs => do
    let (t, rest) ← pipe? true n cs
    match mark? ";" rest with
    | some rest => (arguments? n rest).map fun (ts, rest) => (t :: ts, rest)
    | none => (mark? ")" rest).map fun rest => ([t], rest)

/-- The fields of a mapping, up to its closing brace; the last one may have a comma behind it. -/
def fields? : Nat → List Char → Option (List (Term × Option Term) × List Char)
  | 0, _ => none
  | n + 1, cs => do
    let (field, rest) ← field? n cs
    match mark? "," rest, mark? "\x7d" rest with
    | some rest, _ =>
      match mark? "\x7d" rest with
      | some rest => some ([field], rest)
      | none => (fields? n rest).map fun (fields, rest) => (field :: fields, rest)
    | none, some rest => some ([field], rest)
    | none, none => none

/-- One field of a mapping. A variable alone stands for a field of its name. -/
def field? : Nat → List Char → Option ((Term × Option Term) × List Char)
  | 0, _ => none
  | n + 1, cs => do
    let (key, value, needed, rest) ← match dollar? cs, mark? "(" cs with
      | some (name, rest), _ =>
        if (mark? ":" rest).isSome then some (.named name, none, true, rest)
        else some (nameKey name, some (.named name), false, rest)
      | none, some rest => do
        let (key, rest) ← pipe? true n rest
        (mark? ")" rest).map fun rest => (key, none, true, rest)
      | none, none => (key? n cs).map fun (key, rest) => (key, none, false, rest)
    match mark? ":" rest with
    | some rest => (pipe? false n rest).map fun (value, rest) => ((key, some value), rest)
    | none => if needed then none else some ((key, value), rest)

def key? : Nat → List Char → Option (Term × List Char)
  | 0, _ => none
  | n + 1, cs =>
    match quoted? n cs with
    | some found => some found
    | none => (qualified? (skip cs)).map fun (name, rest) => (nameKey name, rest)

/-- What a value is taken apart into. -/
def pattern? : Nat → List Char → Option (Pattern × List Char)
  | 0, _ => none
  | n + 1, cs =>
    match skip cs with
    | '$' :: rest => (qualified? rest).map fun (name, rest) => (.named name, rest)
    | '[' :: rest => (patterns? n rest).map fun (ps, rest) => (.array ps, rest)
    | '\x7b' :: rest => (keyed? n rest).map fun (fs, rest) => (.object fs, rest)
    | _ => none

def patterns? : Nat → List Char → Option (List Pattern × List Char)
  | 0, _ => none
  | n + 1, cs => do
    let (p, rest) ← pattern? n cs
    match mark? "," rest with
    | some rest => (patterns? n rest).map fun (ps, rest) => (p :: ps, rest)
    | none => (mark? "]" rest).map fun rest => ([p], rest)

def keyed? : Nat → List Char → Option (List (Term × Pattern) × List Char)
  | 0, _ => none
  | n + 1, cs => do
    let (field, rest) ← match dollar? cs, mark? "(" cs with
      | some (name, rest), _ => some ((nameKey name, Pattern.named name), rest)
      | none, some rest => do
        let (key, rest) ← pipe? true n rest
        let rest ← (mark? ")" rest).bind (mark? ":")
        (pattern? n rest).map fun (p, rest) => ((key, p), rest)
      | none, none => do
        let (key, rest) ← key? n cs
        let rest ← mark? ":" rest
        (pattern? n rest).map fun (p, rest) => ((key, p), rest)
    match mark? "," rest with
    | some rest => (keyed? n rest).map fun (fs, rest) => (field :: fs, rest)
    | none => (mark? "\x7d" rest).map fun rest => ([field], rest)

end

end Parser

def parse? (source : String) : Option Term := do
  let cs := source.toList
  let (t, rest) ← Parser.pipe? true (10 * cs.length + 30) cs
  if (Parser.skip rest).isEmpty then some t else none

end Sluice.Query
