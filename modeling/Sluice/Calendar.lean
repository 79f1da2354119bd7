/-!
# Dates and timestamps

Seconds since 1970-01-01 as a date and time in the Gregorian calendar, extended backwards and
forwards without end. `Date.next` is the calendar's definition, one day after another;
`Date.ofDays` reaches the same date directly by counting years from a first of March, so that a
leap day is the last day of its year.
-/

namespace Sluice

/-- A day of the Gregorian calendar. -/
structure Date where
  year : Nat
  month : Nat
  day : Nat
deriving DecidableEq

namespace Date

/-- Every fourth year, except the centuries that are not fourth centuries. -/
def isLeap (year : Nat) : Bool :=
  year % 4 == 0 && (year % 100 != 0 || year % 400 == 0)

def monthLength (year month : Nat) : Nat :=
  match month with
  | 2 => if isLeap year then 29 else 28
  | 4 | 6 | 9 | 11 => 30
  | _ => 31

def next (d : Date) : Date :=
  if d.day < monthLength d.year d.month then { d with day := d.day + 1 }
  else if d.month < 12 then ⟨d.year, d.month + 1, 1⟩
  else ⟨d.year + 1, 1, 1⟩

def epoch : Date := ⟨1970, 1, 1⟩

def stepped : Nat → Date
  | 0 => epoch
  | n + 1 => (stepped n).next

/-- The days from 0000-03-01 to 1970-01-01. -/
def epochDay : Nat := 719468

/-- The date `n` days after the first, by arithmetic. Years are counted from March in cycles of
400, and months by the pattern of 153 days in five. -/
def ofDays (n : Nat) : Date :=
  let z := n + epochDay
  let cycle := z / 146097
  let dayOfCycle := z - cycle * 146097
  let yearOfCycle :=
    (dayOfCycle - dayOfCycle / 1460 + dayOfCycle / 36524 - dayOfCycle / 146096) / 365
  let dayOfYear := dayOfCycle - (365 * yearOfCycle + yearOfCycle / 4 - yearOfCycle / 100)
  let marchMonth := (5 * dayOfYear + 2) / 153
  let day := dayOfYear - (153 * marchMonth + 2) / 5 + 1
  let month := if marchMonth < 10 then marchMonth + 3 else marchMonth - 9
  let year := yearOfCycle + cycle * 400
  ⟨if month ≤ 2 then year + 1 else year, month, day⟩

end Date

structure DateTime where
  date : Date
  hour : Nat
  minute : Nat
  second : Nat
deriving DecidableEq

/-- The date and time that many seconds after the first day began. -/
def DateTime.ofSeconds (n : Nat) : DateTime :=
  let rest := n % 86400
  ⟨Date.ofDays (n / 86400), rest / 3600, rest % 3600 / 60, rest % 60⟩

def padded (width n : Nat) : String :=
  let digits := Nat.toDigits 10 n
  String.ofList (List.replicate (width - digits.length) '0' ++ digits)

/-- The written form `2023-11-14T22:13:20Z`; the year has at least four digits. -/
def DateTime.display (t : DateTime) : String :=
  let day := s!"{padded 4 t.date.year}-{padded 2 t.date.month}-{padded 2 t.date.day}"
  s!"{day}T{padded 2 t.hour}:{padded 2 t.minute}:{padded 2 t.second}Z"

/-- The timestamp of a moment, in seconds since the first day. -/
def timestamp (seconds : Nat) : String :=
  (DateTime.ofSeconds seconds).display

example : timestamp 0 = "1970-01-01T00:00:00Z" := by decide +kernel
example : (DateTime.ofSeconds 951782400).date = ⟨2000, 2, 29⟩ := by decide

end Sluice
