import Sluice.Toml.Reader
import Sluice.Value.Writer

/-!
# Writing TOML

Strings and keys as a careful writer would put them down: with as little escaping as possible, and
over several lines where they have several.
-/

namespace Sluice.Toml

/-- What can only be written as an escape. -/
def needsEscape (c : Char) : Bool :=
  c.toNat ≤ 0x1f || c.toNat == 0x7f

/-- A character between double quotes; a line end stays one where there are several lines. -/
def escape (lines : Bool) (c : Char) : List Char :=
  match c with
  | '\x08' => ['\\', 'b']
  | '\t' => ['\\', 't']
  | '\n' => if lines then ['\n'] else ['\\', 'n']
  | '\x0c' => ['\\', 'f']
  | '\r' => ['\\', 'r']
  | '"' => ['\\', '"']
  | '\\' => ['\\', '\\']
  | c =>
    if needsEscape c then
      let digit (n : Nat) : Char := (hexDigit n).toUpper
      ['\\', 'u', '0', '0', digit (c.toNat / 16), digit (c.toNat % 16)]
    else [c]

def longestRun (mark : Char) (cs : List Char) : Nat :=
  (cs.foldl (fun (now, most) c => if c == mark then (now + 1, max most (now + 1)) else (0, most))
    (0, 0)).2

/-- The ways to write a text. -/
inductive Style where
  /-- Between double quotes. -/
  | basic
  /-- Between single quotes, without escapes. -/
  | literal
  /-- Between three double quotes. -/
  | basicLines
  /-- Between three single quotes, without escapes. -/
  | literalLines
deriving DecidableEq

/-- Whether a text can be written in a style as it stands, without an escape. -/
def Style.suits (cs : List Char) (s : Style) : Bool :=
  let controls := cs.any fun c => needsEscape c && c != '\t' && c != '\n'
  !controls && match s with
    | basic => !cs.contains '\\' && !cs.contains '"' && !cs.contains '\n'
    | literal => !cs.contains '\'' && !cs.contains '\n'
    | basicLines => !cs.contains '\\' && longestRun '"' cs < 3
    | literalLines => longestRun '\'' cs < 3

/-- The style of a text: the first one that needs no escape, or else double quotes. -/
def styleOf (cs : List Char) : Style :=
  match [Style.basic, .literal, .basicLines, .literalLines].find? (Style.suits cs) with
  | some s => s
  | none => if cs.contains '\n' then .basicLines else .basic

/-- A text between three double quotes: of three quotes in a row the last one is escaped. -/
def escapeLines (quotes : Nat) : List Char → List Char
  | [] => []
  | c :: cs =>
    if c == '"' && quotes < 2 then c :: escapeLines (quotes + 1) cs
    else escape true c ++ escapeLines 0 cs

def quoteText (s : String) : String :=
  let cs := s.toList
  let opening : List Char := if cs.contains '\n' then ['\n'] else []
  String.ofList <|
    match styleOf cs with
    | .basic => '"' :: cs.flatMap (escape false) ++ ['"']
    | .literal => '\'' :: cs ++ ['\'']
    | .basicLines => ['"', '"', '"'] ++ opening ++ escapeLines 0 cs ++ ['"', '"', '"']
    | .literalLines => ['\'', '\'', '\''] ++ opening ++ cs ++ ['\'', '\'', '\'']

/-- A key, between quotes if it has to be. -/
def quoteKey (s : String) : String :=
  let cs := s.toList
  if !cs.isEmpty && cs.all isKeyChar then s
  else if (cs.contains '"' || cs.contains '\\') && cs.all (fun c => isPlain c && c != '\'') then
    String.ofList (['\''] ++ cs ++ ['\''])
  else String.ofList (['"'] ++ cs.flatMap (escape false) ++ ['"'])

/-- Texts as a list, one a line if there are several. -/
def quoteList : List String → String
  | [] => "[]"
  | [s] => s!"[{quoteText s}]"
  | ss => "[\n" ++ String.join (ss.map fun s => s!"    {quoteText s},\n") ++ "]"

example : quoteText "a'b\"c" = "\"\"\"a'b\"c\"\"\"" := by decide +kernel

example : quoteText "a'b\\c" = "'''a'b\\c'''" := by decide +kernel

end Sluice.Toml
