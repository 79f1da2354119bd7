/-!
# Regular expressions

The tree of an expression: sets of characters, places, rows, alternatives, repetitions and groups.
`Regex/Reader` reads one from text, `Regex/Machine` finds where it matches. The named classes and
the letters that have two cases are those of ASCII.
-/

namespace Sluice.Text

/-- Characters from the first to the last of every pair. -/
abbrev Ranges := List (Char × Char)

/-- A condition on a place, which takes no character. -/
inductive Anchor where
  | textStart
  | textEnd
  | lineStart
  | lineEnd
  /-- The lines of a text may also end in a carriage return, with or without a line feed. -/
  | returnLineStart
  | returnLineEnd
  | wordEdge
  | insideWord
  | wordStart
  | wordEnd
  | noWordBefore
  | noWordAfter
deriving DecidableEq

inductive Regex where
  | nothing
  | set (ranges : Ranges)
  | anchor (a : Anchor)
  | row (parts : List Regex)
  | choice (branches : List Regex)
  | repeated (body : Regex) (least : Nat) (most : Option Nat) (greedy : Bool)
  | group (number : Nat) (name : Option String) (body : Regex)

instance : Inhabited Regex := ⟨.nothing⟩

/-! ## Sets of characters -/

namespace Ranges

def contains (rs : Ranges) (c : Char) : Bool :=
  rs.any fun (low, high) => low ≤ c && c ≤ high

def lastPoint : Nat := 0x10ffff

/-- The gaps between ranges that begin in ascending order. -/
def gaps (low : Nat) : Ranges → Ranges
  | [] => if low ≤ lastPoint then [(Char.ofNat low, Char.ofNat lastPoint)] else []
  | (first, last) :: rest =>
    let others := gaps (max low (last.toNat + 1)) rest
    if low < first.toNat then (Char.ofNat low, Char.ofNat (first.toNat - 1)) :: others else others

def complement (rs : Ranges) : Ranges :=
  gaps 0 (rs.mergeSort fun a b => a.1 ≤ b.1)

/-- The part of a range from one code point to another, moved by a distance. -/
def shifted (low high : Nat) (move : Nat → Nat) (r : Char × Char) : Ranges :=
  let first := max r.1.toNat low
  let last := min r.2.toNat high
  if first ≤ last then [(Char.ofNat (move first), Char.ofNat (move last))] else []

def foldCase (rs : Ranges) : Ranges :=
  rs ++ rs.flatMap fun r => shifted 65 90 (· + 32) r ++ shifted 97 122 (· - 32) r

def digits : Ranges := [('0', '9')]
def letters : Ranges := [('A', 'Z'), ('a', 'z')]
def wordChars : Ranges := [('0', '9'), ('A', 'Z'), ('_', '_'), ('a', 'z')]
def blanks : Ranges := [('\t', '\r'), (' ', ' ')]

def named? : String → Option Ranges
  | "alnum" => some (digits ++ letters)
  | "alpha" => some letters
  | "ascii" => some [('\x00', '\x7f')]
  | "blank" => some [('\t', '\t'), (' ', ' ')]
  | "cntrl" => some [('\x00', '\x1f'), ('\x7f', '\x7f')]
  | "digit" => some digits
  | "graph" => some [('!', '~')]
  | "lower" => some [('a', 'z')]
  | "print" => some [(' ', '~')]
  | "punct" => some [('!', '/'), (':', '@'), ('[', '\x60'), ('\x7b', '~')]
  | "space" => some blanks
  | "upper" => some [('A', 'Z')]
  | "word" => some wordChars
  | "xdigit" => some [('0', '9'), ('A', 'F'), ('a', 'f')]
  | _ => none

/-- The class that a letter behind a backslash stands for; in upper case it is the complement. -/
def escaped? : Char → Option Ranges
  | 'd' => some digits
  | 's' => some blanks
  | 'w' => some wordChars
  | 'D' => some digits.complement
  | 'S' => some blanks.complement
  | 'W' => some wordChars.complement
  | _ => none

end Ranges

/-! ## Trees -/

namespace Regex

/-- Parts in a row; a single one stands for itself. -/
def rowOf : List Regex → Regex
  | [] => nothing
  | [r] => r
  | rs => row rs

/-- Alternatives; a single one stands for itself. -/
def choiceOf : List Regex → Regex
  | [r] => r
  | rs => choice rs

mutual

def matchesEmpty : Regex → Bool
  | nothing | anchor _ => true
  | set _ => false
  | row parts => allMatchEmpty parts
  | choice branches => anyMatchesEmpty branches
  | repeated body least _ _ => least == 0 || body.matchesEmpty
  | group _ _ body => body.matchesEmpty

/-- Whether all expressions can match without a character. -/
def allMatchEmpty : List Regex → Bool
  | [] => true
  | r :: rs => r.matchesEmpty && allMatchEmpty rs

def anyMatchesEmpty : List Regex → Bool
  | [] => false
  | r :: rs => r.matchesEmpty || anyMatchesEmpty rs

end

mutual

/-- How many expressions stand around the innermost one. -/
def depth : Regex → Nat
  | nothing | anchor _ | set _ => 0
  | row parts | choice parts => depthList parts + 1
  | repeated body _ _ _ | group _ _ body => body.depth + 1

def depthList : List Regex → Nat
  | [] => 0
  | r :: rs => max r.depth (depthList rs)

end

mutual

/-- How many steps it takes to write an expression out without repetitions. -/
def extent : Regex → Nat
  | nothing => 0
  | anchor _ | set _ => 1
  | row parts => extentList parts
  | choice branches => extentList branches + 2
  | repeated body least most _ => (body.extent + 1) * (most.getD (least + 1)) + 1
  | group _ _ body => body.extent + 2

def extentList : List Regex → Nat
  | [] => 0
  | r :: rs => r.extent + extentList rs

end

mutual

def groups : Regex → List (Nat × Option String)
  | nothing | anchor _ | set _ => []
  | row parts | choice parts => groupsOf parts
  | repeated body _ _ _ => body.groups
  | group number name body => (number, name) :: body.groups

def groupsOf : List Regex → List (Nat × Option String)
  | [] => []
  | r :: rs => r.groups ++ groupsOf rs

end

end Regex

end Sluice.Text
