import Sluice.Query.Datum

/-!
# Streams of results

A query gives any number of results, each a datum or a fault, and gives them one at a time: the
rest of a stream is computed only when it is asked for, so that the first results of a long stream
are cheap. A fault does not end the stream it stands in; whoever collects results decides what a
fault means. What is known to be the last result is marked as such: a stream that goes on with
what it leads to then keeps nothing behind, however often this is repeated.
-/

namespace Sluice.Query

/-- Why a query has no result at some point. -/
inductive Trouble where
  /-- An error with its message. -/
  | raised (message : Datum)
  /-- A jump out of the label with this number. -/
  | leaving (label : Nat)
  /-- More steps were needed than a query may take. -/
  | exhausted
deriving Inhabited

/-- A stream of results. -/
inductive Results (α : Type) where
  | done
  | last (head : Except Trouble α)
  | next (head : Except Trouble α) (rest : Unit → Results α)

namespace Results

variable {α β : Type}

def one (x : α) : Results α :=
  last (.ok x)

def fault (t : Trouble) : Results α :=
  last (.error t)

def raise (message : String) : Results α :=
  fault (.raised (.str message))

/-- A single result or fault. -/
def ofExcept (r : Except Trouble α) : Results α :=
  last r

/-- The items of a list, one after another. -/
def ofList : List α → Results α
  | [] => done
  | [x] => one x
  | x :: xs => next (.ok x) fun _ => ofList xs

def append (r : Results α) (s : Unit → Results α) : Results α :=
  match r with
  | done => s ()
  | last head => next head s
  | next head rest => next head fun _ => append (rest ()) s

/-- A stream for every result, all in a row; faults stay where they are. -/
def bind (r : Results α) (f : α → Results β) : Results β :=
  match r with
  | done => done
  | last (.ok x) => f x
  | last (.error t) => last (.error t)
  | next (.ok x) rest => append (f x) fun _ => bind (rest ()) f
  | next (.error t) rest => next (.error t) fun _ => bind (rest ()) f

def map (f : α → β) (r : Results α) : Results β :=
  match r with
  | done => done
  | last head => last (head.map f)
  | next head rest => next (head.map f) fun _ => map f (rest ())

/-- The results and faults that a test lets through. -/
def filter (keep : Except Trouble α → Bool) (r : Results α) : Results α :=
  match r with
  | done => done
  | last head => if keep head then last head else done
  | next head rest =>
    if keep head then next head fun _ => filter keep (rest ()) else filter keep (rest ())

/-- The stream up to the first error, and what is to stand in its place. -/
def recover (r : Results α) (f : Datum → Results α) : Results α :=
  match r with
  | done => done
  | last (.error (.raised message)) => f message
  | last head => last head
  | next (.error (.raised message)) _ => f message
  | next head rest => next head fun _ => recover (rest ()) f

/-- The stream up to the first jump out of a label. -/
def untilLeaving (label : Nat) (r : Results α) : Results α :=
  match r with
  | done => done
  | last (.error (.leaving l)) => if l = label then done else last (.error (.leaving l))
  | last head => last head
  | next (.error (.leaving l)) rest =>
    if l = label then done
    else next (.error (.leaving l)) fun _ => untilLeaving label (rest ())
  | next head rest => next head fun _ => untilLeaving label (rest ())

/-- All results behind those in the accumulator, or the first fault. -/
def collectOnto (acc : List α) (r : Results α) : Except Trouble (List α) :=
  match r with
  | done => .ok acc.reverse
  | last (.ok x) => .ok (x :: acc).reverse
  | last (.error t) => .error t
  | next (.ok x) rest => collectOnto (x :: acc) (rest ())
  | next (.error t) _ => .error t

def collect (r : Results α) : Except Trouble (List α) :=
  r.collectOnto []

def first? (r : Results α) : Except Trouble (Option α) :=
  match r with
  | done => .ok none
  | last head => head.map some
  | next head _ => head.map some

/-- The last result behind one that is known, or the first fault. -/
def lastOr (known : Option α) (r : Results α) : Except Trouble (Option α) :=
  match r with
  | done => .ok known
  | last head => head.map some
  | next (.ok x) rest => lastOr (some x) (rest ())
  | next (.error t) _ => .error t

/-- A result for every item, joined from the left: every way to choose a result for each item. -/
def chain (f : β → α → Results β) : List α → β → Results β
  | [], acc => one acc
  | x :: xs, acc => (f acc x).bind (chain f xs)

/-- Carries a state through the results of a stream; a step may go on in several ways. -/
def foldOver (f : β → α → Results β) (r : Results α) (acc : β) : Results β :=
  match r with
  | done => one acc
  | last (.ok x) => f acc x
  | last (.error t) => fault t
  | next (.error t) _ => fault t
  | next (.ok x) rest =>
    match f acc x with
    | done => done
    | last (.ok y) => foldOver f (rest ()) y
    | last (.error t) => fault t
    | ways => bind ways (foldOver f (rest ()))

/-- Carries a state through the results of a stream and shows every state on the way. -/
def scanOver {γ : Type} (f : β → α → Results β) (shown : α → β → Results γ) (r : Results α)
    (acc : β) : Results γ :=
  match r with
  | done => done
  | last (.ok x) => bind (f acc x) (shown x)
  | last (.error t) => fault t
  | next (.error t) _ => fault t
  | next (.ok x) rest =>
    bind (f acc x) fun y => append (shown x y) fun _ => scanOver f shown (rest ()) y

end Results

end Sluice.Query
