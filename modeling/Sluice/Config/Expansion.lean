import Sluice.Host
import Sluice.Text.Alphanumeric
import Sluice.Text.Search

/-!
# Paths with variables

Paths in settings may start with `~` for the home directory and may name environment variables, as
`$NAME`, as `$` with the name in braces, or so with a default behind `:-` for a variable that is
unset or empty. A path that names a variable that is not set keeps its dollars as they are.
-/

namespace Sluice.Expansion

inductive Piece where
  | text (s : String)
  | plain (name : String)
  /-- In braces, with a default if there is one. -/
  | braced (name : String) (default? : Option String)
deriving DecidableEq

/-- What a variable's name consists of: letters and digits of any script, and underscores. -/
def isNameChar (c : Char) : Bool :=
  Text.isAlphanumeric c || c == '_'

/-- The variable whose name and default stand between braces. -/
def inBraces (inside : List Char) : Piece :=
  match Text.cut? [':', '-'] inside with
  | some (c :: name, default) =>
    .braced (String.ofList (c :: name)) (some (String.ofList default))
  | _ => .braced (String.ofList inside) none

/-- The piece behind a dollar, and what is left after it. -/
def behindDollar (cs : List Char) : Piece × List Char :=
  match cs with
  | '{' :: rest =>
    match Text.cut? ['}'] rest with
    | some (inside, after) => (inBraces inside, after)
    | none => (.text "$\x7b", rest)
  | '$' :: rest => (.text "$", rest)
  | cs =>
    match cs.takeWhile isNameChar with
    | [] => (.text "$", cs)
    | name => (.plain (String.ofList name), cs.dropWhile isNameChar)

theorem length_behindDollar_le (cs : List Char) : (behindDollar cs).2.length ≤ cs.length := by
  unfold behindDollar
  split
  · next rest =>
    split
    · next inside after h =>
      have := Text.cut?_after_length_le h
      simp only [List.length_cons]
      omega
    · exact Nat.le_succ _
  · exact Nat.le_succ _
  · split
    · exact Nat.le_refl _
    · exact (List.dropWhile_sublist _).length_le

def pieces (cs : List Char) : List Piece :=
  match h : cs.dropWhile (· != '$') with
  | [] => [.text (String.ofList cs)]
  | _ :: rest =>
    have : (behindDollar rest).2.length < cs.length := by
      have hle := length_behindDollar_le rest
      have hall := (List.dropWhile_sublist (l := cs) (· != '$')).length_le
      rw [h, List.length_cons] at hall
      omega
    .text (String.ofList (cs.takeWhile (· != '$'))) :: (behindDollar rest).1 ::
      pieces (behindDollar rest).2
termination_by cs.length

/-- The text of a piece; `none` if its variable is not set. -/
def Piece.fill? : Piece → Act host (Option String)
  | .text s => return some s
  | .plain name => Host.ask (.environment name)
  | .braced name default? => do
    match ← Host.ask (.environment name), default? with
    | none, none => return none
    | none, some default | some "", some default => return some default
    | some value, _ => return some value

/-- The text of pieces; `none` if a variable is not set. -/
def fill? : List Piece → Act host (Option String)
  | [] => return some ""
  | p :: ps => do
    match ← p.fill? with
    | none => return none
    | some s => return (← fill? ps).map (s ++ ·)

/-- The path with a `~` at its start replaced, unless it begins another name. -/
def fillHome (path : String) : Act host String := do
  match path.toList with
  | '~' :: rest =>
    if rest.isEmpty || rest.head? == some '/' then
      match ← Host.ask (.environment "HOME") with
      | some home => return home ++ String.ofList rest
      | none => return path
    else return path
  | _ => return path

/-- A path as it is meant. A `~` that comes out of a variable is no home directory. -/
def expand (path : String) : Act host String := do
  let opensHome (s : String) : Bool := s.toList.head? == some '~'
  match ← fill? (pieces path.toList) with
  | none => fillHome path
  | some filled => if opensHome filled && !opensHome path then return filled else fillHome filled

end Sluice.Expansion
