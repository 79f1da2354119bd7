/-!
# TOML documents

The values of TOML and the rules by which headers and keys build tables: every key is given once, a
table is opened by at most one header, and keys with points in them may only extend tables that
such keys have made. Fractions, which no setting can be, are told apart from other values but not
kept; dates and times are kept in their usual writing.
-/

namespace Sluice

/-- How a table came into being. -/
inductive Toml.Origin where
  | header
  /-- A longer header names it in passing. -/
  | implied
  /-- A key with points names it in passing. -/
  | dotted
  /-- Written in braces. -/
  | inline
deriving DecidableEq

inductive Toml where
  | text (s : String)
  | integer (i : Int)
  | fraction
  | boolean (b : Bool)
  /-- A date, a time of the day, or both. -/
  | moment (written : String)
  | list (items : List Toml)
  | table (origin : Toml.Origin) (entries : List (String × Toml))
  /-- Tables under a repeated header. -/
  | tables (rows : List (List (String × Toml)))

namespace Toml

abbrev Entries := List (String × Toml)

/-- Sets a key in place or at the end. -/
def put (key : String) (v : Toml) : Entries → Entries
  | [] => [(key, v)]
  | (k, w) :: rest => if k = key then (key, v) :: rest else (k, w) :: put key v rest

/-- Changes the table at the end of a path, making tables on the way. Of a repeated header the last
table counts. -/
def descend (origin : Origin) (change : Origin → Entries → Option Entries) :
    List String → Origin → Entries → Option Entries
  | [], here, entries => change here entries
  | k :: ks, _, entries =>
    match entries.lookup k with
    | none =>
      (descend origin change ks origin []).map fun inner => put k (.table origin inner) entries
    | some (.table there inner) =>
      if there = .inline ∨ (origin = .dotted ∧ there = .header) then none
      else
        (descend origin change ks there inner).map fun inner => put k (.table there inner) entries
    | some (.tables rows) =>
      match rows.getLast? with
      | none => none
      | some row =>
        (descend origin change ks .header row).map fun row =>
          put k (.tables (rows.dropLast ++ [row])) entries
    | some _ => none

/-- Gives a key behind a path of points its value. -/
def assign (path : List String) (key : String) (v : Toml) : Entries → Option Entries :=
  descend .dotted
    (fun origin entries =>
      if !path.isEmpty && origin != .dotted then none
      else if (entries.lookup key).isSome then none
      else some (put key v entries))
    path .header

def openTable (path : List String) (key : String) : Entries → Option Entries :=
  descend .implied
    (fun _ entries =>
      match entries.lookup key with
      | none => some (put key (.table .header []) entries)
      | some (.table .implied inner) => some (put key (.table .header inner) entries)
      | some _ => none)
    path .header

/-- Opens another table of a repeated header. -/
def openRow (path : List String) (key : String) : Entries → Option Entries :=
  descend .implied
    (fun _ entries =>
      match entries.lookup key with
      | none => some (put key (.tables [[]]) entries)
      | some (.tables rows) => some (put key (.tables (rows ++ [[]])) entries)
      | some _ => none)
    path .header

/-- Gives a key its value in the table that a header has opened. -/
def assignUnder (header path : List String) (key : String) (v : Toml) : Entries → Option Entries :=
  descend .implied (fun _ entries => assign path key v entries) header .header

end Toml

end Sluice
