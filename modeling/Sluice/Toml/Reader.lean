import Sluice.Toml.Scalar

/-!
# Reading TOML

A document is a sequence of lines: each opens a table, gives a key its value, or says nothing. Only
whether a text is a document and what it says matter here; a text that is none has no value.
-/

namespace Sluice.Toml

/-! ## Blanks and remarks -/

def skipBlanks (cs : List Char) : List Char :=
  cs.dropWhile fun c => c == ' ' || c == '\t'

/-- The text behind the end of a line; the end of the text ends a line too. -/
def lineEnd? : List Char → Option Rest
  | [] => some []
  | '\n' :: rest | '\r' :: '\n' :: rest => some rest
  | _ => none

/-- The text behind a remark. -/
def skipRemark (cs : List Char) : List Char :=
  match cs with
  | '#' :: rest => rest.dropWhile isPlain
  | cs => cs

/-- The text behind the rest of a line that says nothing more. -/
def restOfLine? (cs : List Char) : Option Rest :=
  lineEnd? (skipRemark (skipBlanks cs))

/-- The text behind blanks, remarks and line ends. -/
def skipLines : Nat → List Char → List Char
  | 0, cs => cs
  | fuel + 1, cs =>
    match skipBlanks cs with
    | '#' :: rest => skipLines fuel (rest.dropWhile isPlain)
    | '\n' :: rest | '\r' :: '\n' :: rest => skipLines fuel rest
    | cs => cs

/-! ## Keys -/

/-- What keys without quotes consist of. -/
def isKeyChar (c : Char) : Bool :=
  Text.isLetter c || Text.isDigit c || c == '-' || c == '_'

def keyPart? (cs : List Char) : Option (String × Rest) :=
  match cs with
  | '"' :: rest => (basic rest).map fun (s, rest) => (String.ofList s, rest)
  | '\'' :: rest => (literal rest).map fun (s, rest) => (String.ofList s, rest)
  | cs =>
    match cs.takeWhile isKeyChar with
    | [] => none
    | name => some (String.ofList name, cs.dropWhile isKeyChar)

/-- How deep lists and tables may lie in one another, and how many parts a key may have, with the
value itself counted in. -/
def depthLimit : Nat := 80

/-- A key of at most so many parts: the parts before the last point, the last part, and the text
behind it. -/
def keyUpTo? : Nat → List Char → Option ((List String × String) × Rest)
  | 0, _ => none
  | most + 1, cs => do
    let (part, rest) ← keyPart? (skipBlanks cs)
    match skipBlanks rest with
    | '.' :: rest =>
      let ((path, last), rest) ← keyUpTo? most rest
      some ((part :: path, last), rest)
    | rest => some (([], part), rest)

/-- A key: the parts before the last point, the last part, and the text behind it. -/
def key? (cs : List Char) : Option ((List String × String) × Rest) :=
  keyUpTo? (depthLimit - 1) cs

/-! ## Values -/

mutual

/-- A value; `depth` says how deep lists and tables may still lie in one another. -/
def value? : Nat → Nat → List Char → Option (Toml × Rest)
  | 0, _, _ => none
  | fuel + 1, depth, cs =>
    match cs with
    | '[' :: rest => if depth ≤ 1 then none else items? fuel (depth - 1) rest
    | '{' :: rest =>
      if depth ≤ 1 then none
      else
        match skipBlanks rest with
        | '}' :: rest => some (.table .inline [], rest)
        | rest => pairs? fuel (depth - 1) [] rest
    | '"' :: _ | '\'' :: _ => (string? cs).map fun (s, rest) => (.text (String.ofList s), rest)
    | cs =>
      let n := wordLength cs
      (word? (cs.take n)).map fun v => (v, cs.drop n)

def items? : Nat → Nat → List Char → Option (Toml × Rest)
  | 0, _, _ => none
  | fuel + 1, depth, cs =>
    match skipLines cs.length cs with
    | ']' :: rest => some (.list [], rest)
    | cs => do
      let (v, rest) ← value? fuel depth cs
      match skipLines rest.length rest with
      | ',' :: rest =>
        match ← items? fuel depth rest with
        | (.list vs, rest) => some (.list (v :: vs), rest)
        | _ => none
      | ']' :: rest => some (.list [v], rest)
      | _ => none

def pairs? : Nat → Nat → Entries → List Char → Option (Toml × Rest)
  | 0, _, _, _ => none
  | fuel + 1, depth, entries, cs => do
    let ((path, last), rest) ← key? cs
    match rest with
    | '=' :: rest =>
      let (v, rest) ← value? fuel depth (skipBlanks rest)
      let entries ← assign path last v entries
      match skipBlanks rest with
      | ',' :: rest => pairs? fuel depth entries rest
      | '}' :: rest => some (.table .inline entries, rest)
      | _ => none
    | _ => none

end

/-! ## Documents -/

/-- A header behind its first bracket: whether it is a repeated one, its path and the text behind
the line. -/
def header? (cs : List Char) : Option ((Bool × List String × String) × Rest) := do
  let (repeated, cs) := match cs with
    | '[' :: rest => (true, rest)
    | rest => (false, rest)
  let ((path, last), rest) ← key? cs
  let rest ← match rest, repeated with
    | ']' :: ']' :: rest, true => some rest
    | ']' :: rest, false => some rest
    | _, _ => none
  some ((repeated, path, last), ← restOfLine? rest)

/-- The tables of a document, read line by line. `here` is the path of the table that the last
header has opened. -/
def lines? : Nat → List String → Entries → List Char → Option Entries
  | 0, _, _, _ => none
  | fuel + 1, here, entries, cs =>
    match skipBlanks cs with
    | [] => some entries
    | '[' :: rest => do
      let ((repeated, path, last), rest) ← header? rest
      let entries ← if repeated then openRow path last entries else openTable path last entries
      lines? fuel (path ++ [last]) entries rest
    | cs =>
      match restOfLine? cs with
      | some rest => lines? fuel here entries rest
      | none => do
        let ((path, last), rest) ← key? cs
        match rest with
        | '=' :: rest =>
          let (v, rest) ← value? (2 * rest.length + 2) depthLimit (skipBlanks rest)
          let entries ← assignUnder here path last v entries
          lines? fuel here entries (← restOfLine? rest)
        | _ => none

/-- What a document says; `none` if the text is no document. -/
def read? (text : String) : Option Entries :=
  let cs := match text.toList with
    | '\ufeff' :: rest => rest
    | cs => cs
  lines? (cs.length + 1) [] [] cs

end Sluice.Toml
