import Sluice.Query.Results

/-!
# Reaching into data

Keys, positions and slices: how a part is read, and how it is replaced by what a stream gives for
it. The first result counts; a part for which there is none is taken away, and a mapping then
moves its last field into the gap.
-/

namespace Sluice.Query

/-! ## Errors -/

def cannotIndex (d key : Datum) : Trouble :=
  .raised (.str s!"cannot index {d.json} with {key.json}")

def cannotUse (d : Datum) (type : String) : Trouble :=
  .raised (.str s!"cannot use {d.json} as {type}")

def iterable : String := "iterable (array or object)"

def sliceable : String := "rangeable (array or string)"

/-! ## Reading -/

def field? (key : Datum) (fields : List (Datum × Datum)) : Option Datum :=
  (fields.find? fun f => f.1.same key).map Prod.snd

/-- A position counted from the start, or from the end if it is negative. -/
def position? (i : Int) (length : Nat) : Option Nat :=
  let at_ := if i < 0 then i + length else i
  if at_ < 0 || (length : Int) ≤ at_ then none else some at_.toNat

/-- A bound of a slice, kept inside. -/
def bound (i : Int) (length : Nat) : Nat :=
  min (if i < 0 then i + length else i).toNat length

/-- A bound as a datum; null stands for none. -/
def bound? (d : Datum) (none : Nat) (length : Nat) : Except Trouble Nat :=
  match d with
  | .null => .ok none
  | .num (.int i) => .ok (bound i length)
  | d => .error (cannotUse d "integer")

/-- Where a slice starts and how long it is. -/
def span? (start stop : Datum) (length : Nat) : Except Trouble (Nat × Nat) := do
  let start ← bound? start 0 length
  let stop ← bound? stop length length
  .ok (start, stop - start)

namespace Datum

def slice (d start stop : Datum) : Except Trouble Datum :=
  match d with
  | null => .ok null
  | arr xs => do
    let (skip, count) ← span? start stop xs.length
    .ok (arr ((xs.drop skip).take count))
  | str s => do
    let (skip, count) ← span? start stop s.length
    .ok (str (String.ofList ((s.toList.drop skip).take count)))
  | d => .error (cannotUse d sliceable)

/-- The start and the end that a mapping gives for a slice. -/
def sliceKey (start stop : Datum) : Datum :=
  obj [(.str "start", start), (.str "end", stop)]

/-- The positions at which a list begins as a test asks. -/
def positions {α : Type} (begins : List α → Bool) (origin : Nat) : List α → List Datum
  | [] => []
  | x :: xs =>
    if begins (x :: xs) then ofInt origin :: positions begins (origin + 1) xs
    else positions begins (origin + 1) xs

/-- Whether the first list begins with data equal to the second. -/
def beginsWith : List Datum → List Datum → Bool
  | _, [] => true
  | [], _ :: _ => false
  | x :: xs, y :: ys => x.same y && beginsWith xs ys

/-- The positions at which the second list stands in the first; an empty list stands nowhere. -/
def occurrences (xs ys : List Datum) : List Datum :=
  if ys.isEmpty then [] else positions (beginsWith · ys) 0 xs

/-- The part under a key; null where there is none. In a sequence a mapping is a slice, and a
sequence asks for the positions at which it occurs. -/
def index (d key : Datum) : Except Trouble Datum :=
  match d, key with
  | null, _ => .ok null
  | arr xs, num (.int i) => .ok (((position? i xs.length).bind (xs[·]?)).getD null)
  | arr xs, obj bounds => slice (arr xs) ((field? (.str "start") bounds).getD null)
      ((field? (.str "end") bounds).getD null)
  | arr xs, arr ys => .ok (arr (occurrences xs ys))
  | str s, obj bounds => slice (str s) ((field? (.str "start") bounds).getD null)
      ((field? (.str "end") bounds).getD null)
  | obj fields, key => .ok ((field? key fields).getD null)
  | d, key => .error (cannotIndex d key)

/-- The keys of a mapping or the positions of a sequence, in order. -/
def keys : Datum → Except Trouble (List Datum)
  | arr xs => .ok ((List.range xs.length).map fun (i : Nat) => ofInt i)
  | obj fields => .ok (fields.map Prod.fst)
  | d => .error (cannotUse d iterable)

/-- The items of a sequence or the values of a mapping, each with its key. -/
def entries : Datum → Except Trouble (List (Datum × Datum))
  | arr xs => .ok (xs.mapIdx fun (i : Nat) x => (ofInt i, x))
  | obj fields => .ok fields
  | d => .error (cannotUse d iterable)

def has (d key : Datum) : Except Trouble Bool :=
  match d, key with
  | arr xs, num (.int i) => .ok (position? i xs.length).isSome
  | obj fields, key => .ok (field? key fields).isSome
  | d, key => .error (cannotIndex d key)

/-! ## Replacing -/

/-- Sets a key: in its place if it is there, at the end if it is new. -/
def putField (key value : Datum) : List (Datum × Datum) → List (Datum × Datum)
  | [] => [(key, value)]
  | (k, v) :: rest => if k.same key then (k, value) :: rest else (k, v) :: putField key value rest

def dropField (key : Datum) (fields : List (Datum × Datum)) : List (Datum × Datum) :=
  match fields.findIdx? fun f => f.1.same key, fields.getLast? with
  | some i, some last =>
    if i + 1 = fields.length then fields.dropLast else fields.dropLast.set i last
  | _, _ => fields

/-- The fields for which there is a first result, with it. -/
def mapFields (f : Datum → Results Datum) :
    List (Datum × Datum) → Except Trouble (List (Datum × Datum))
  | [] => .ok []
  | (k, v) :: rest =>
    match (f v).first? with
    | .error t => .error t
    | .ok none => mapFields f rest
    | .ok (some y) => (mapFields f rest).map ((k, y) :: ·)

/-- Replaces every item by all of its results, and every field's value by its first one. -/
def mapEach (d : Datum) (f : Datum → Results Datum) : Except Trouble Datum :=
  match d with
  | arr xs => ((Results.ofList xs).bind f).collect.map arr
  | obj fields => (mapFields f fields).map obj
  | d => .error (cannotUse d iterable)

/-- Replaces a slice by the first result for it, which has to be a sequence. -/
def mapSlice (d start stop : Datum) (f : Datum → Results Datum) : Except Trouble Datum :=
  match d with
  | arr xs => do
    let (skip, count) ← span? start stop xs.length
    match ← (f (arr ((xs.drop skip).take count))).first? with
    | none => .ok (arr (xs.take skip ++ xs.drop (skip + count)))
    | some (arr ys) => .ok (arr (xs.take skip ++ ys ++ xs.drop (skip + count)))
    | some d => .error (cannotUse d "array")
  | str s => do
    let cs := s.toList
    let (skip, count) ← span? start stop cs.length
    let around (middle : List Char) :=
      str (String.ofList (cs.take skip ++ middle ++ cs.drop (skip + count)))
    match ← (f (str (String.ofList ((cs.drop skip).take count)))).first? with
    | none => .ok (around [])
    | some (str t) => .ok (around t.toList)
    | some d => .error (cannotUse d "string")
  | d => .error (cannotUse d sliceable)

/-- Replaces the part under a key by the first result for it. -/
def mapIndex (d key : Datum) (f : Datum → Results Datum) : Except Trouble Datum :=
  match d, key with
  | arr xs, obj bounds => mapSlice (arr xs) ((field? (.str "start") bounds).getD null)
      ((field? (.str "end") bounds).getD null) f
  | str s, obj bounds => mapSlice (str s) ((field? (.str "start") bounds).getD null)
      ((field? (.str "end") bounds).getD null) f
  | obj fields, key => do
    match ← (f ((field? key fields).getD null)).first? with
    | some y => .ok (obj (putField key y fields))
    | none => .ok (obj (dropField key fields))
  | arr xs, num (.int i) =>
    match position? i xs.length with
    | none => .error (.raised (.str s!"index {i} out of bounds"))
    | some n => do
      match ← (f (xs.getD n null)).first? with
      | some y => .ok (arr (xs.set n y))
      | none => .ok (arr (xs.eraseIdx n))
  | arr _, key => .error (cannotUse key "integer")
  | d, _ => .error (cannotUse d iterable)

end Datum

/-! ## Moves -/

/-- A way from a datum to its parts. -/
inductive Move where
  | each
  | key (d : Datum)
  | slice (start stop : Datum)
deriving Inhabited

namespace Move

/-- The parts, each with the key that leads to it. -/
def parts (m : Move) (d : Datum) : Results (Datum × Datum) :=
  match m with
  | each =>
    match d.entries with
    | .ok entries => .ofList entries
    | .error t => .fault t
  | key k => .ofExcept ((d.index k).map fun x => (k, x))
  | slice start stop => .ofExcept ((d.slice start stop).map fun x => (Datum.sliceKey start stop, x))

def isBound : Datum → Bool
  | .null | .num (.int _) => true
  | _ => false

/-- Whether a datum has parts there that can be replaced. -/
def fits (m : Move) (d : Datum) : Bool :=
  match m, d with
  | each, .arr _ | each, .obj _ => true
  | key _, .obj _ => true
  | key (.num (.int i)), .arr xs => (position? i xs.length).isSome
  | key (.obj _), .arr _ | key (.obj _), .str _ => true
  | slice start stop, .arr _ | slice start stop, .str _ => isBound start && isBound stop
  | _, _ => false

/-- Replaces the parts by the results for them. -/
def replace (m : Move) (f : Datum → Results Datum) (d : Datum) : Except Trouble Datum :=
  match m with
  | each => d.mapEach f
  | key k => d.mapIndex k f
  | slice start stop => d.mapSlice start stop f

end Move

end Sluice.Query
