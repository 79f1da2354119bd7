import Sluice.Text.Search
import Sluice.Text.Width.Basic

/-!
# Box tables

A table is drawn with lines around its cells. Every cell is one line of text that is cut where it
is wider than a column may be, and every column is as wide as its widest cell.
-/

namespace Sluice

/-- A grid of texts under headers. -/
structure Table where
  headers : List String
  rows : List (List String)
deriving DecidableEq

/-- Line breaks and tabs become spaces. -/
def oneLine (text : String) : List Char :=
  text.toList.map fun c => if c = '\n' || c = '\r' || c = '\t' then ' ' else c

/-- The characters at the front that fit into some columns. -/
def clip (room : Nat) : List Char → List Char
  | [] => []
  | c :: cs =>
    let w := (Text.Width.ofChar? c).getD 0
    if room < w then [] else c :: clip (room - w) cs

/-- A text on one line; an ellipsis stands for what does not fit. -/
def fit (max : Nat) (text : String) : String :=
  let cs := oneLine text
  if Text.Width.ofChars cs ≤ max then String.ofList cs
  else String.ofList (clip (max - 1) cs ++ ['…'])

namespace Table

/-- Every cell cut to a width. -/
def fitted (max : Nat) (t : Table) : Table :=
  ⟨t.headers.map (fit max), t.rows.map fun row => row.map (fit max)⟩

/-- Makes columns as wide as the cells of a row need them. -/
def widen : List Nat → List String → List Nat
  | w :: ws, cell :: cells => max w (Text.width cell) :: widen ws cells
  | ws, _ => ws

def widths (t : Table) : List Nat :=
  t.rows.foldl widen (t.headers.map Text.width)

/-- A cell with a margin on both sides, filled up to the width of its column. -/
def padded (width : Nat) (cell : String) : List Char :=
  ' ' :: (cell.toList ++ List.replicate (width - Text.width cell) ' ' ++ [' '])

/-- The cells of a row, one for each column; missing cells are empty. -/
def paddedRow : List Nat → List String → List (List Char)
  | [], _ => []
  | w :: ws, [] => padded w "" :: paddedRow ws []
  | w :: ws, cell :: cells => padded w cell :: paddedRow ws cells

/-- A row of cells between vertical lines. -/
def textLine (widths : List Nat) (cells : List String) : List Char :=
  '│' :: (Text.joinChars ['│'] (paddedRow widths cells) ++ ['│'])

def rule (left mid right : Char) (widths : List Nat) : List Char :=
  left :: (Text.joinChars [mid] (widths.map fun w => List.replicate (w + 2) '─') ++ [right])

def lines (t : Table) : List (List Char) :=
  let ws := t.widths
  rule '┌' '┬' '┐' ws :: textLine ws t.headers :: rule '├' '┼' '┤' ws ::
    (t.rows.map (textLine ws) ++ [rule '└' '┴' '┘' ws])

/-- The drawn table, with no column wider than a maximum of at least one. -/
def draw (t : Table) (maxWidth : Nat) : String :=
  String.ofList (Text.joinChars ['\n'] (t.fitted (max maxWidth 1)).lines)

end Table

end Sluice
