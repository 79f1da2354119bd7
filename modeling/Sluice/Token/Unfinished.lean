import Sluice.Token.Lexer

/-!
# Lines that go on

While a string or a parenthesis is open, the shell keeps reading lines before it tries to
understand them. `needsMore` decides this in one pass over the characters, without building
tokens.
-/

namespace Sluice.Token

/-- What a pass over the characters knows. -/
structure Scan where
  /-- The quote of the string that is open. -/
  quote : Option Char
  /-- The next character of the string is escaped. -/
  escaped : Bool
  comment : Bool
  /-- A token could start here, so that `#` would open a comment. -/
  fresh : Bool
  /-- The parentheses that are open, the innermost one first. -/
  parens : List Paren

/-- At the start of a text nothing is open. -/
def Scan.start : Scan :=
  ⟨none, false, false, true, []⟩

def Scan.isOpen (s : Scan) : Bool :=
  s.quote.isSome || !s.parens.isEmpty

/-- Outside strings and comments, where templates are skipped. -/
def Scan.isPlain (s : Scan) : Bool :=
  s.quote.isNone && !s.comment

def Scan.step (s : Scan) (c : Char) : Scan :=
  if s.comment then
    if c = '\n' then { s with comment := false, fresh := true } else s
  else
    match s.quote with
    | some quote =>
      if s.escaped then { s with escaped := false }
      else if c = '\\' then { s with escaped := true }
      else if c = quote then { s with quote := none, fresh := true }
      else s
    | none =>
      if c = '"' ∨ c = '\'' then { s with quote := some c, fresh := false }
      else if c = '#' ∧ s.fresh then { s with comment := true, fresh := false }
      else
        let parens := match c with
          | '(' => (if s.fresh then .group else .list) :: s.parens
          | ')' => s.parens.tail
          | _ => s.parens
        { s with
          parens := parens
          fresh := isDelimiter c || (c == ',' && parens.head? == some .list) }

/-- The pass goes over the whole text. -/
def Scan.run (s : Scan) (cs : List Char) : Scan :=
  match h : if s.isPlain then Template.lead? cs else none with
  | some (_, after) =>
    have : after.length < cs.length := by
      split at h
      · exact Template.lead?_length_lt h
      · simp at h
    run { s with fresh := false } after
  | none =>
    match cs with
    | [] => s
    | c :: cs => run (s.step c) cs
termination_by cs.length

end Token

/-- The text ends inside a string or a parenthesis, so another line belongs to it. -/
def needsMore (source : String) : Bool :=
  (Token.Scan.start.run source.toList).isOpen

end Sluice
