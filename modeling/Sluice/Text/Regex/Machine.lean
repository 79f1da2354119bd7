import Sluice.Text.Regex.Basic

/-!
# Matching regular expressions

An expression is turned into a program of steps, and a search follows the program through a text.
Of all matches at the leftmost place the one wins that comes first when earlier alternatives are
preferred, and more repetitions, or fewer if they are lazy. A step that has been tried at a place
is not tried there again, for what it leads to is known: so a search ends, and a repetition of
something empty stops where it comes round.
-/

namespace Sluice.Text.Regex

/-- A step of a program; steps are named by their position. -/
inductive Instruction where
  | accept
  | take (ranges : Ranges) (next : Nat)
  | look (a : Anchor) (next : Nat)
  /-- Remembers the place under a number. -/
  | mark (slot next : Nat)
  /-- Goes on in several ways, the preferred one first. -/
  | fork (ways : List Nat)
deriving Inhabited

/-- A program and the step that it begins with. -/
structure Program where
  steps : Array Instruction
  start : Nat

/-! ## Writing programs -/

/-- Ways to go on or to leave, in the order that greed asks for. -/
def ways (greedy : Bool) (onward out : Nat) : Instruction :=
  .fork (if greedy then [onward, out] else [out, onward])

/-- Several copies in a row, in front of a step. -/
def copies (write : Nat → Array Instruction → Nat × Array Instruction) :
    Nat → Nat → Array Instruction → Nat × Array Instruction
  | 0, next, p => (next, p)
  | n + 1, next, p =>
    let (start, p) := write next p
    copies write n start p

/-- Several copies inside each other, any of which may be left out. -/
def optionals (write : Nat → Array Instruction → Nat × Array Instruction) (greedy : Bool)
    (out : Nat) : Nat → Nat → Array Instruction → Nat × Array Instruction
  | 0, next, p => (next, p)
  | n + 1, next, p =>
    let (start, p) := write next p
    optionals write greedy out n p.size (p.push (ways greedy start out))

/-- One copy or more. -/
def looped (write : Nat → Array Instruction → Nat × Array Instruction) (greedy : Bool)
    (next : Nat) (p : Array Instruction) : Nat × Array Instruction :=
  let turn := p.size
  let (start, p) := write turn (p.push .accept)
  (start, p.setIfInBounds turn (ways greedy start next))

mutual

/-- Writes an expression in front of a step; gives its own first step. -/
def write : Regex → Nat → Array Instruction → Nat × Array Instruction
  | nothing, next, p => (next, p)
  | set rs, next, p => (p.size, p.push (.take rs next))
  | anchor a, next, p => (p.size, p.push (.look a next))
  | row parts, next, p => writeRow parts next p
  | choice branches, next, p =>
    let (starts, p) := writeAll branches next p
    (p.size, p.push (.fork starts))
  | group number _ body, next, p =>
    let (start, p) := write body p.size (p.push (.mark (2 * number + 1) next))
    (p.size, p.push (.mark (2 * number) start))
  | repeated body least none greedy, next, p =>
    let body' := write body
    if least = 0 then
      if body.matchesEmpty then
        let (start, p) := looped body' greedy next p
        (p.size, p.push (ways greedy start next))
      else
        let turn := p.size
        let (_, p) := looped body' greedy next p
        (turn, p)
    else
      let (start, p) := looped body' greedy next p
      copies body' (least - 1) start p
  | repeated body least (some most) greedy, next, p =>
    let body' := write body
    let (start, p) := optionals body' greedy next (most - least) next p
    copies body' least start p

/-- Writes expressions one in front of the other. -/
def writeRow : List Regex → Nat → Array Instruction → Nat × Array Instruction
  | [], next, p => (next, p)
  | r :: rs, next, p =>
    let (next, p) := writeRow rs next p
    write r next p

def writeAll : List Regex → Nat → Array Instruction → List Nat × Array Instruction
  | [], _, p => ([], p)
  | r :: rs, next, p =>
    let (start, p) := write r next p
    let (starts, p) := writeAll rs next p
    (start :: starts, p)

end

def program (r : Regex) : Program :=
  let (start, steps) := write r 0 #[.accept]
  ⟨steps, start⟩

/-! ## Following programs -/

def isWordChar (c : Char) : Bool :=
  Ranges.wordChars.contains c

/-- Whether a place between two characters meets a condition. -/
def Anchor.holds (before after : Option Char) : Anchor → Bool
  | .textStart => before.isNone
  | .textEnd => after.isNone
  | .lineStart => before.isNone || before == some '\n'
  | .lineEnd => after.isNone || after == some '\n'
  | .returnLineStart =>
    before.isNone || before == some '\n' || (before == some '\r' && after != some '\n')
  | .returnLineEnd =>
    after.isNone || after == some '\r' || (after == some '\n' && before != some '\r')
  | .wordEdge => before.any isWordChar != after.any isWordChar
  | .insideWord => before.any isWordChar == after.any isWordChar
  | .wordStart => !before.any isWordChar && after.any isWordChar
  | .wordEnd => before.any isWordChar && !after.any isWordChar
  | .noWordBefore => !before.any isWordChar
  | .noWordAfter => !after.any isWordChar

def charBefore (text : Array Char) (place : Nat) : Option Char :=
  if place = 0 then none else text[place - 1]?

/-- A step to be tried at a place, with the places remembered on the way, the last one first. -/
structure Attempt where
  step : Nat
  place : Nat
  marks : List (Nat × Nat)

/-- What an attempt leads to, the preferred one first; `none` if it is a match. -/
def Attempt.next (p : Program) (text : Array Char) (a : Attempt) : Option (List Attempt) :=
  match p.steps[a.step]? with
  | none => some []
  | some .accept => none
  | some (.take rs next) =>
    match text[a.place]? with
    | some c => some (if rs.contains c then [⟨next, a.place + 1, a.marks⟩] else [])
    | none => some []
  | some (.look condition next) =>
    some (if Anchor.holds (charBefore text a.place) text[a.place]? condition then
      [{ a with step := next }] else [])
  | some (.mark slot next) => some [⟨next, a.place, (slot, a.place) :: a.marks⟩]
  | some (.fork steps) => some (steps.map fun step => { a with step })

/-- Tries attempts until one is a match, and gives the steps and places that have been tried. -/
def follow (p : Program) (text : Array Char) :
    Nat → Array Bool → List Attempt → Option Attempt × Array Bool
  | 0, tried, _ => (none, tried)
  | _ + 1, tried, [] => (none, tried)
  | n + 1, tried, a :: others =>
    let number := a.step * (text.size + 1) + a.place
    if tried.getD number true then follow p text n tried others
    else
      match a.next p text with
      | none => (some a, tried)
      | some more => follow p text n (tried.setIfInBounds number true) (more ++ others)

/-- How many attempts a search makes at most: every step at every place, and the ways out of it. -/
def Program.effort (p : Program) (length : Nat) : Nat :=
  (p.steps.foldl (fun sum i => match i with
    | .fork steps => sum + steps.length + 1
    | _ => sum + 2) 2) * (length + 1)

/-- A stretch of a text, and the stretches that groups have matched in it, by number. -/
structure Match where
  start : Nat
  stop : Nat
  groups : List (Nat × Nat × Nat)
deriving DecidableEq

/-- The stretch of a group among remembered places. -/
def captured? (marks : List (Nat × Nat)) (number : Nat) : Option (Nat × Nat × Nat) := do
  let start ← marks.find? fun m => m.1 = 2 * number
  let stop ← marks.find? fun m => m.1 = 2 * number + 1
  some (number, start.2, stop.2)

/-- The first match that starts at a place or behind it, `count` places being left. -/
def searchFrom (p : Program) (numbers : List Nat) (text : Array Char) (place : Nat) :
    Nat → Array Bool → Option Match
  | 0, _ => none
  | count + 1, tried =>
    match follow p text (p.effort text.size) tried [⟨p.start, place, []⟩] with
    | (some a, _) => some ⟨place, a.place, numbers.filterMap (captured? a.marks)⟩
    | (none, tried) => searchFrom p numbers text (place + 1) count tried

def search (p : Program) (numbers : List Nat) (text : Array Char) (place : Nat) : Option Match :=
  searchFrom p numbers text place (text.size + 1 - place)
    (Array.replicate (p.steps.size * (text.size + 1)) false)

/-- The matches from a place on, `count` at most; none is empty where the last one stopped. -/
def matchesFrom (p : Program) (numbers : List Nat) (text : Array Char) (last : Option Nat) :
    Nat → Nat → List Match
  | 0, _ => []
  | count + 1, place =>
    match search p numbers text place with
    | none => []
    | some m =>
      if m.stop = m.start && last = some m.stop
      then matchesFrom p numbers text last count (place + 1)
      else m :: matchesFrom p numbers text (some m.stop) count m.stop

def matchAll (r : Regex) (text : String) : List Match :=
  let chars := text.toList.toArray
  matchesFrom (program r) (r.groups.map Prod.fst) chars none (2 * chars.size + 2) 0

end Sluice.Text.Regex
