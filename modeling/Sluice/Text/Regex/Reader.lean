import Sluice.Text.Blank
import Sluice.Text.Regex.Basic

/-!
# Reading regular expressions

An expression as it is written. Groups are numbered from one by their opening parentheses; a name
may be given once only. Letters in a group switch modes on and off for what follows in the group
around them. What would look ahead or behind, refer back to a group, or combine classes is refused,
and so is an escaped letter without a meaning. Every call is given fuel, of which the length of the
expression leaves plenty.
-/

namespace Sluice.Text.Regex

/-- How an expression is read. -/
structure Mode where
  ignoreCase : Bool
  /-- Anchors match at the lines of a text. -/
  multiLine : Bool
  /-- A point matches line feeds. -/
  dotAll : Bool
  /-- Repetitions are lazy, and greedy with a question mark behind them. -/
  swapGreed : Bool
  /-- Lines may end in a carriage return. -/
  returns : Bool
  /-- Blanks and comments are passed over. -/
  ignoreBlanks : Bool
deriving DecidableEq

def Mode.plain : Mode := ⟨false, false, false, false, false, false⟩

def Mode.switch? (m : Mode) (on : Bool) : Char → Option Mode
  | 'i' => some { m with ignoreCase := on }
  | 'm' => some { m with multiLine := on }
  | 's' => some { m with dotAll := on }
  | 'U' => some { m with swapGreed := on }
  | 'R' => some { m with returns := on }
  | 'x' => some { m with ignoreBlanks := on }
  | 'u' => some m
  | _ => none

namespace Reader

/-- Drops blanks and comments at the front, if they are to be passed over. -/
def skipFrom (comment : Bool) : List Char → List Char
  | [] => []
  | c :: cs =>
    if comment then skipFrom (c != '\n') cs
    else if c == '#' then skipFrom true cs
    else if isBlank c then skipFrom false cs
    else c :: cs

/-- Drops blanks and comments at the front, if they are to be passed over. -/
def skip (m : Mode) (cs : List Char) : List Char :=
  if m.ignoreBlanks then skipFrom false cs else cs

def single (m : Mode) (c : Char) : Regex :=
  .set (if m.ignoreCase then Ranges.foldCase [(c, c)] else [(c, c)])

/-! ## Numbers -/

def hexDigit? (c : Char) : Option Nat :=
  if '0' ≤ c && c ≤ '9' then some (c.toNat - 48)
  else if 'a' ≤ c && c ≤ 'f' then some (c.toNat - 87)
  else if 'A' ≤ c && c ≤ 'F' then some (c.toNat - 55)
  else none

def charOf? (n : Nat) : Option Char :=
  if n.isValidChar then some (Char.ofNat n) else none

/-- Exactly `count` hexadecimal digits. -/
def hexFixed? (m : Mode) (value : Nat) : Nat → List Char → Option (Nat × List Char)
  | 0, cs => some (value, cs)
  | _ + 1, [] => none
  | count + 1, c :: cs => do
    let d ← hexDigit? c
    hexFixed? m (value * 16 + d) count (skip m cs)

/-- Hexadecimal digits up to a closing brace, one at least. -/
def hexBraced? (m : Mode) (value : Option Nat) : Nat → List Char → Option (Nat × List Char)
  | 0, _ => none
  | n + 1, cs =>
    match skip m cs with
    | [] => none
    | '\x7d' :: rest => value.map fun v => (v, skip m rest)
    | c :: rest => do
      let d ← hexDigit? c
      hexBraced? m (some (value.getD 0 * 16 + d)) n rest

def hex? (m : Mode) (count : Nat) (cs : List Char) : Option (Char × List Char) := do
  let (value, rest) ← match skip m cs with
    | '\x7b' :: rest => hexBraced? m none (rest.length + 1) rest
    | cs => hexFixed? m 0 count cs
  (charOf? value).map fun c => (c, rest)

def countDigits (m : Mode) (value : Option Nat) : Nat → List Char → Option Nat × List Char
  | 0, cs => (value, cs)
  | n + 1, cs =>
    match cs with
    | c :: rest =>
      if isDigit c then countDigits m (some (value.getD 0 * 10 + (c.toNat - 48))) n (skip m rest)
      else (value, cs)
    | [] => (value, [])

/-- A count with blanks around it, which fits into 32 bits. -/
def count? (m : Mode) (cs : List Char) : Option (Nat × List Char) :=
  let cs := cs.dropWhile isBlank
  match countDigits m none cs.length cs with
  | (some n, rest) => if n < 0x100000000 then some (n, skip m (rest.dropWhile isBlank)) else none
  | (none, _) => none

/-! ## Escapes -/

/-- What stands behind a backslash. -/
inductive Escape where
  | char (c : Char)
  | ranges (rs : Ranges)
  | anchor (a : Anchor)

/-- The character that a letter behind a backslash stands for, or a mark that stands for itself. -/
def escapedChar? : Char → Option Char
  | 'a' => some '\x07'
  | 'f' => some '\x0c'
  | 't' => some '\t'
  | 'n' => some '\n'
  | 'r' => some '\r'
  | 'v' => some '\x0b'
  | c => if c.toNat < 128 && !isLetter c && !isDigit c && c != '<' && c != '>' then some c else none

def namedAnchor? : String → Option Anchor
  | "start" => some .wordStart
  | "end" => some .wordEnd
  | "start-half" => some .noWordBefore
  | "end-half" => some .noWordAfter
  | _ => none

/-- The letters of a name in braces, up to the closing one. -/
def braceName? (m : Mode) (name : List Char) : Nat → List Char → Option (String × List Char)
  | 0, _ => none
  | n + 1, cs =>
    match cs with
    | '\x7d' :: rest => some (String.ofList name.reverse, rest)
    | c :: rest => if isLetter c || c == '-' then braceName? m (c :: name) n (skip m rest) else none
    | [] => none

/-- The place behind `\b`: the edge of a word, or the one that a name in braces says. -/
def edge? (m : Mode) (cs : List Char) : Option (Anchor × List Char) :=
  match cs with
  | '\x7b' :: rest =>
    match skip m rest with
    | [] => none
    | c :: inside =>
      if isLetter c || c == '-' then do
        let (name, rest) ← braceName? m [] (inside.length + 2) (c :: inside)
        (namedAnchor? name).map fun a => (a, rest)
      else some (.wordEdge, cs)
  | cs => some (.wordEdge, cs)

def escape? (m : Mode) (cs : List Char) : Option (Escape × List Char) :=
  match cs with
  | [] => none
  | 'x' :: rest => (hex? m 2 rest).map fun (c, rest) => (.char c, rest)
  | 'u' :: rest => (hex? m 4 rest).map fun (c, rest) => (.char c, rest)
  | 'U' :: rest => (hex? m 8 rest).map fun (c, rest) => (.char c, rest)
  | 'A' :: rest => some (.anchor .textStart, rest)
  | 'z' :: rest => some (.anchor .textEnd, rest)
  | 'b' :: rest => (edge? m rest).map fun (a, rest) => (.anchor a, rest)
  | 'B' :: rest => some (.anchor .insideWord, rest)
  | '<' :: rest => some (.anchor .wordStart, rest)
  | '>' :: rest => some (.anchor .wordEnd, rest)
  | c :: rest =>
    match Ranges.escaped? c with
    | some rs => some (.ranges rs, rest)
    | none => (escapedChar? c).map fun c => (.char c, rest)

/-! ## Classes -/

/-- A class by its name between `[:` and `:]`, or its complement behind `^`. -/
def namedClass? (cs : List Char) : Option (Ranges × List Char) :=
  match cs with
  | '[' :: ':' :: inside =>
    let (negated, inside) := match inside with
      | '^' :: rest => (true, rest)
      | inside => (false, inside)
    match inside.dropWhile (· != ':') with
    | ':' :: ']' :: rest => do
      let rs ← Ranges.named? (String.ofList (inside.takeWhile (· != ':')))
      some (if negated then rs.complement else rs, rest)
    | _ => none
  | _ => none

def classItem? (m : Mode) (cs : List Char) : Option (Escape × List Char) :=
  match cs with
  | '\\' :: rest => escape? m rest
  | c :: rest => some (.char c, rest)
  | [] => none

/-- The ranges of an item that stands alone. -/
def Escape.alone? : Escape → Option Ranges
  | .char c => some [(c, c)]
  | .ranges rs => some rs
  | .anchor _ => none

/-- The items of a class, up to the closing bracket. Two of the same marks `&`, `-` or `~` are kept
for combining classes, which is refused, as is a class inside a class. -/
def classItems? (m : Mode) (found : Ranges) : Nat → List Char → Option (Ranges × List Char)
  | 0, _ => none
  | n + 1, cs =>
    match skip m cs with
    | [] => none
    | ']' :: rest => some (found, rest)
    | '[' :: rest =>
      match namedClass? ('[' :: rest) with
      | some (rs, rest) => classItems? m (found ++ rs) n rest
      | none => none
    | '&' :: '&' :: _ => none
    | '-' :: '-' :: _ => none
    | '~' :: '~' :: _ => none
    | cs => do
      let (low, rest) ← classItem? m cs
      match skip m rest with
      | [] => none
      | '-' :: after =>
        match skip m after with
        | [] => none
        | ']' :: _ => (low.alone?).bind fun rs => classItems? m (found ++ rs) n ('-' :: after)
        | '-' :: _ => (low.alone?).bind fun rs => classItems? m (found ++ rs) n ('-' :: after)
        | after =>
          let (high, rest) ← classItem? m after
          match low, high with
          | .char low, .char high =>
            if high < low then none else classItems? m (found ++ [(low, high)]) n rest
          | _, _ => none
      | rest => (low.alone?).bind fun rs => classItems? m (found ++ rs) n rest

/-- Hyphens at the front of a class, which stand for themselves. -/
def leadingHyphens (m : Mode) (found : Ranges) : Nat → List Char → Ranges × List Char
  | 0, cs => (found, cs)
  | n + 1, cs =>
    match skip m cs with
    | '-' :: rest => leadingHyphens m (('-', '-') :: found) n rest
    | cs => (found, cs)

/-- A class behind its opening bracket. A closing bracket in front stands for itself. -/
def class? (m : Mode) (cs : List Char) : Option (Regex × List Char) := do
  let (negated, cs) := match skip m cs with
    | '^' :: rest => (true, skip m rest)
    | cs => (false, cs)
  let (hyphens, cs) := leadingHyphens m [] (cs.length + 1) cs
  let (found, cs) := match hyphens, cs with
    | [], ']' :: rest => ([(']', ']')], rest)
    | hyphens, cs => (hyphens, cs)
  let (rs, rest) ← classItems? m found (cs.length + 1) cs
  let rs := if m.ignoreCase then rs.foldCase else rs
  some (.set (if negated then rs.complement else rs), rest)

/-! ## Groups and repetitions -/

/-- The mode letters of a group up to a colon or closing parenthesis, which is left. A letter
stands once only, and a hyphen once only and not at the end. -/
def modes? (m : Mode) (off : Bool) (seen : List Char) : List Char → Option (Mode × List Char)
  | [] => none
  | ':' :: rest => if seen.head? == some '-' then none else some (m, ':' :: rest)
  | ')' :: rest => if seen.head? == some '-' then none else some (m, ')' :: rest)
  | '-' :: rest => if off then none else modes? m true ('-' :: seen) rest
  | c :: rest =>
    if seen.contains c then none
    else (m.switch? (!off) c).bind fun m => modes? m off (c :: seen) rest

def inGroupName (first : Bool) (c : Char) : Bool :=
  if first then c == '_' || isLetter c || 128 ≤ c.toNat
  else c == '_' || c == '.' || c == '[' || c == ']' || isLetter c || isDigit c || 128 ≤ c.toNat

def groupName? (cs : List Char) : Option (String × List Char) :=
  let name := cs.takeWhile (· != '>')
  match name, cs.dropWhile (· != '>') with
  | c :: others, '>' :: rest =>
    if inGroupName true c && others.all (inGroupName false) then
      some (String.ofList (c :: others), rest)
    else none
  | _, _ => none

/-- The bounds of a counted repetition behind its opening brace. -/
def counts? (m : Mode) (cs : List Char) : Option (Nat × Option Nat × List Char) := do
  let (least, rest) ← count? m (skip m cs)
  let (most, rest) ← match rest with
    | ',' :: rest =>
      match skip m rest with
      | '\x7d' :: rest => some (none, '\x7d' :: rest)
      | rest => (count? m rest).map fun (most, rest) => (some most, rest)
    | rest => some (some least, rest)
  match rest with
  | '\x7d' :: rest => if most.any (· < least) then none else some (least, most, skip m rest)
  | _ => none

/-- Whether a repetition is greedy, by the question mark behind it. -/
def greed (m : Mode) (cs : List Char) : Bool × List Char :=
  match cs with
  | '?' :: rest => (m.swapGreed, rest)
  | cs => (!m.swapGreed, cs)

/-- What is known while an expression is read: the mode, how many groups there are, and the names
that are taken. -/
structure State where
  mode : Mode
  groups : Nat
  names : List String

/-- How many groups may stand around another, and how deep a tree may be. -/
def maxDepth : Nat := 50

mutual

/-- Alternatives up to a closing parenthesis, which is left, or to the end. `branches` and `row`
hold what has been read, the last first; `inside` is the number of groups around. -/
def branches? (inside : Nat) (branches row : List Regex) (s : State) :
    Nat → List Char → Option (Regex × State × List Char)
  | 0, _ => none
  | n + 1, cs =>
    let finished := choiceOf ((rowOf row.reverse :: branches).reverse)
    let again (least : Nat) (most : Option Nat) (rest : List Char) :
        Option (Regex × State × List Char) :=
      match row with
      | [] => none
      | last :: row =>
        let (greedy, rest) := greed s.mode rest
        branches? inside branches (.repeated last least most greedy :: row) s n rest
    match skip s.mode cs with
    | [] => some (finished, s, [])
    | ')' :: rest => if inside = 0 then none else some (finished, s, ')' :: rest)
    | '|' :: rest => branches? inside (rowOf row.reverse :: branches) [] s n rest
    | '?' :: rest => again 0 (some 1) rest
    | '*' :: rest => again 0 none rest
    | '+' :: rest => again 1 none rest
    | '\x7b' :: rest => do
      let (least, most, rest) ← counts? s.mode rest
      again least most rest
    | '(' :: rest => do
      let (part, s, rest) ← group? inside s n rest
      match rest with
      | ')' :: rest => branches? inside branches (part.toList ++ row) s n rest
      | _ => none
    | cs => do
      let (r, rest) ← term? s.mode cs
      branches? inside branches (r :: row) s n rest

/-- A group behind its opening parenthesis, up to the closing one, which is left. Mode letters
alone make no part of the expression. -/
def group? (inside : Nat) (s : State) : Nat → List Char → Option (Option Regex × State × List Char)
  | 0, _ => none
  | n + 1, cs =>
    let body (s' : State) (make : Regex → Regex) (rest : List Char) :
        Option (Option Regex × State × List Char) := do
      if maxDepth ≤ inside then none
      let (r, after, rest) ← branches? (inside + 1) [] [] s' n rest
      some (some (make r), { after with mode := s.mode }, rest)
    let captured (name : Option String) (rest : List Char) :
        Option (Option Regex × State × List Char) :=
      body { s with groups := s.groups + 1, names := name.toList ++ s.names }
        (.group (s.groups + 1) name) rest
    match skip s.mode cs with
    | '?' :: '=' :: _ | '?' :: '!' :: _ | '?' :: '<' :: '=' :: _ | '?' :: '<' :: '!' :: _ => none
    | '?' :: 'P' :: '<' :: rest | '?' :: '<' :: rest => do
      let (name, rest) ← groupName? rest
      if s.names.contains name then none
      captured (some name) rest
    | '?' :: rest => do
      let (m, after) ← modes? s.mode false [] rest
      match after with
      | ':' :: inner => body { s with mode := m } id inner
      | after =>
        if after.length = rest.length then none else some (none, { s with mode := m }, after)
    | cs => captured none cs

def term? (m : Mode) : List Char → Option (Regex × List Char)
  | '[' :: rest => class? m rest
  | '.' :: rest =>
    let breaks : Ranges := if m.dotAll then [] else
      if m.returns then [('\n', '\n'), ('\r', '\r')] else [('\n', '\n')]
    some (.set breaks.complement, rest)
  | '^' :: rest => some (.anchor (if !m.multiLine then .textStart else
      if m.returns then .returnLineStart else .lineStart), rest)
  | '$' :: rest => some (.anchor (if !m.multiLine then .textEnd else
      if m.returns then .returnLineEnd else .lineEnd), rest)
  | '\\' :: rest => (escape? m rest).map fun (e, rest) =>
    match e with
    | .char c => (single m c, rest)
    | .ranges rs => (.set rs, rest)
    | .anchor a => (.anchor a, rest)
  | c :: rest => some (single m c, rest)
  | [] => none

end

end Reader

/-- How many steps an expression may take when it is written out. -/
def maxExtent : Nat := 300000

def read? (m : Mode) (pattern : String) : Option Regex :=
  let cs := pattern.toList
  match Reader.branches? 0 [] [] ⟨m, 0, []⟩ (2 * cs.length + 2) cs with
  | some (r, _, _) => if r.depth ≤ Reader.maxDepth && r.extent ≤ maxExtent then some r else none
  | none => none

end Sluice.Text.Regex
