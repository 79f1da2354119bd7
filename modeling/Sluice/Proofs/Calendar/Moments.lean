import Mathlib.Data.List.Lex
import Mathlib.Order.Monotone.Basic
import Sluice.Proofs.Calendar.Days
import Sluice.Proofs.Value.Numerals

/-!
# Timestamps

A timestamp spells the date that the calendar reaches day by day, with the time of the day
(`DateTime.ofSeconds_exact`). The arithmetic behind it stays within numbers of 64 bits:
`Date.ofDays?` goes through the same operations and has no result where one of them would leave
these numbers.

* `Date.ofDays?_eq` : it always has a result, and the date is right;
* `numeral_padded` : how numbers are written;
* `DateTime.ofSeconds_lt` : later moments have later dates and times.
-/

namespace Sluice

/-! ## Numbers of 64 bits -/

namespace Word

/-- A sum that is a number of 64 bits. -/
def add? (a b : Nat) : Option Nat :=
  if a + b < 2 ^ 64 then some (a + b) else none

def mul? (a b : Nat) : Option Nat :=
  if a * b < 2 ^ 64 then some (a * b) else none

def sub? (a b : Nat) : Option Nat :=
  if b ≤ a then some (a - b) else none

theorem add?_eq {a b : Nat} (h : a + b < 2 ^ 64) : add? a b = some (a + b) :=
  if_pos h

theorem mul?_eq {a b : Nat} (h : a * b < 2 ^ 64) : mul? a b = some (a * b) :=
  if_pos h

theorem sub?_eq {a b : Nat} (h : b ≤ a) : sub? a b = some (a - b) :=
  if_pos h

theorem bind_eq {α : Type} {x : Option Nat} {a : Nat} (h : x = some a) (f : Nat → Option α) :
    (x >>= f) = f a := by
  rw [h]
  rfl

end Word

namespace Date

open Word (bind_eq)

/-! The arithmetic of `ofDays`, operation by operation on numbers of 64 bits. -/

def yearOfCycle? (day : Nat) : Option Nat := do
  let days ← Word.sub? day (day / 1460)
  let days ← Word.add? days (day / 36524)
  let days ← Word.sub? days (day / 146096)
  return days / 365

def cycleStart? (year : Nat) : Option Nat := do
  let days ← Word.mul? 365 year
  let days ← Word.add? days (year / 4)
  Word.sub? days (year / 100)

def marchMonth? (day : Nat) : Option Nat := do
  let fifths ← Word.mul? 5 day
  let fifths ← Word.add? fifths 2
  return fifths / 153

def monthStart? (month : Nat) : Option Nat := do
  let fifths ← Word.mul? 153 month
  let fifths ← Word.add? fifths 2
  return fifths / 5

def monthOfMarch? (month : Nat) : Option Nat :=
  if month < 10 then Word.add? month 3 else Word.sub? month 9

def yearOfMarch? (year month : Nat) : Option Nat :=
  if month ≤ 2 then Word.add? year 1 else some year

/-- The date `n` days after the first, if no operation leaves the numbers of 64 bits. -/
def ofDays? (n : Nat) : Option Date := do
  let z ← Word.add? n epochDay
  let past ← Word.mul? (z / 146097) 146097
  let dayOfCycle ← Word.sub? z past
  let yearOfCycle ← yearOfCycle? dayOfCycle
  let years ← Word.mul? (z / 146097) 400
  let year ← Word.add? yearOfCycle years
  let start ← cycleStart? yearOfCycle
  let dayOfYear ← Word.sub? dayOfCycle start
  let marchMonth ← marchMonth? dayOfYear
  let first ← monthStart? marchMonth
  let days ← Word.sub? dayOfYear first
  let day ← Word.add? days 1
  let month ← monthOfMarch? marchMonth
  let year ← yearOfMarch? year month
  return ⟨year, month, day⟩

theorem yearOfCycle?_eq {day : Nat} (h : day < 146097) :
    yearOfCycle? day = some ((day - day / 1460 + day / 36524 - day / 146096) / 365) := by
  have hfourths : Word.sub? day (day / 1460) = some _ := Word.sub?_eq (Nat.div_le_self ..)
  have hcenturies : Word.add? (day - day / 1460) (day / 36524) = some _ := Word.add?_eq (by omega)
  have hcycles : Word.sub? (day - day / 1460 + day / 36524) (day / 146096) = some _ :=
    Word.sub?_eq (by omega)
  unfold yearOfCycle?
  rw [bind_eq hfourths, bind_eq hcenturies, bind_eq hcycles]
  rfl

theorem cycleStart?_eq {year : Nat} (h : year < 400) :
    cycleStart? year = some (cycleStart year) := by
  have hdays : Word.mul? 365 year = some _ := Word.mul?_eq (by omega)
  have hfourths : Word.add? (365 * year) (year / 4) = some _ := Word.add?_eq (by omega)
  have hcenturies : Word.sub? (365 * year + year / 4) (year / 100) = some (cycleStart year) :=
    Word.sub?_eq (by omega)
  unfold cycleStart?
  rw [bind_eq hdays, bind_eq hfourths, hcenturies]

theorem marchMonth?_eq {day : Nat} (h : day ≤ 365) :
    marchMonth? day = some ((5 * day + 2) / 153) := by
  have hfifths : Word.mul? 5 day = some _ := Word.mul?_eq (by omega)
  have hround : Word.add? (5 * day) 2 = some _ := Word.add?_eq (by omega)
  unfold marchMonth?
  rw [bind_eq hfifths, bind_eq hround]
  rfl

theorem monthStart?_eq {month : Nat} (h : month < 12) :
    monthStart? month = some (monthStart month) := by
  have hfifths : Word.mul? 153 month = some _ := Word.mul?_eq (by omega)
  have hround : Word.add? (153 * month) 2 = some _ := Word.add?_eq (by omega)
  unfold monthStart?
  rw [bind_eq hfifths, bind_eq hround]
  rfl

theorem monthOfMarch?_eq {d : Date} (h : d.Valid) :
    monthOfMarch? (marchMonth d.month) = some d.month := by
  have hlt := marchMonth_lt h
  refine Eq.trans ?_ (congrArg some (month_of_march h))
  unfold monthOfMarch?
  split
  · exact Word.add?_eq (by omega)
  · exact Word.sub?_eq (by omega)

theorem yearOfMarch?_eq {d : Date} (h : d.Valid) (hyear : marchYear d.year d.month + 1 < 2 ^ 64) :
    yearOfMarch? (marchYear d.year d.month) d.month = some d.year := by
  refine Eq.trans ?_ (congrArg some (year_of_march h))
  unfold yearOfMarch?
  split
  · exact Word.add?_eq hyear
  · rfl

/-- No operation leaves the numbers of 64 bits, unless the first does. -/
theorem ofDays?_eq {n : Nat} (hfits : n + epochDay < 2 ^ 64) : ofDays? n = some (stepped n) := by
  have h := valid_stepped n
  have hn := number_stepped n
  generalize stepped n = d at h hn
  have hnumber := number_eq_cycles d
  have hyears : d.yearInCycle + marchYear d.year d.month / 400 * 400 = marchYear d.year d.month :=
    Nat.mod_add_div' _ _
  have hlt : d.yearInCycle < 400 := Nat.mod_lt _ (by decide)
  have hz : Word.add? n epochDay = some d.number := by
    rw [Word.add?_eq hfits, hn]
  have hpast : Word.mul? (marchYear d.year d.month / 400) 146097 = some _ :=
    Word.mul?_eq (by omega)
  have hdayOfCycle : Word.sub? d.number (marchYear d.year d.month / 400 * 146097) =
      some d.dayInCycle := by
    rw [Word.sub?_eq (by omega), dayOfCycle_eq]
  have hyearOfCycle : yearOfCycle? d.dayInCycle = some d.yearInCycle := by
    rw [yearOfCycle?_eq h.dayInCycle_lt, yearOfCycle_dayInCycle h]
  have hcycles : Word.mul? (marchYear d.year d.month / 400) 400 = some _ :=
    Word.mul?_eq (by omega)
  have hyear : Word.add? d.yearInCycle (marchYear d.year d.month / 400 * 400) =
      some (marchYear d.year d.month) := by
    rw [Word.add?_eq (by omega), hyears]
  have hdayOfYear : Word.sub? d.dayInCycle (cycleStart d.yearInCycle) = some d.marchDay := by
    have hle : cycleStart d.yearInCycle ≤ d.dayInCycle := Nat.le_add_right ..
    rw [Word.sub?_eq hle, dayOfYear_eq]
  have hmonth : marchMonth? d.marchDay = some (marchMonth d.month) := by
    rw [marchMonth?_eq h.marchDay_le, marchMonth_marchDay h]
  have hdays : Word.sub? d.marchDay (monthStart (marchMonth d.month)) = some (d.day - 1) := by
    rw [marchDay, Word.sub?_eq (Nat.le_add_right ..), Nat.add_sub_cancel_left]
  have hday : Word.add? (d.day - 1) 1 = some d.day := by
    have hday := h.day
    have hlength := (monthLength_bounds d.year d.month).2
    rw [Word.add?_eq (by omega), Nat.sub_add_cancel h.day.1]
  unfold ofDays?
  rw [bind_eq hz, cycle_eq h, bind_eq hpast, bind_eq hdayOfCycle, bind_eq hyearOfCycle,
    bind_eq hcycles, bind_eq hyear, bind_eq (cycleStart?_eq hlt), bind_eq hdayOfYear,
    bind_eq hmonth, bind_eq (monthStart?_eq (marchMonth_lt h)), bind_eq hdays, bind_eq hday,
    bind_eq (monthOfMarch?_eq h), bind_eq (yearOfMarch?_eq h (by omega))]
  rfl

/-! ## The order of days -/

/-- Year, month and day, in the order in which they are compared. -/
def parts (d : Date) : List Nat :=
  [d.year, d.month, d.day]

theorem lt_next (d : Date) : d.parts < d.next.parts := by
  unfold next
  split
  · exact .cons (.cons (.rel (Nat.lt_succ_self d.day)))
  · split
    · exact .cons (.rel (Nat.lt_succ_self d.month))
    · exact .rel (Nat.lt_succ_self d.year)

theorem strictMono_stepped : StrictMono fun n => (stepped n).parts :=
  strictMono_nat_of_lt_succ fun n => lt_next (stepped n)

end Date

/-! ## How numbers are written -/

/-- The decimal digits of a number, with as many zeros in front as a width asks for. -/
structure Numeral (width n : Nat) (cs : List Char) : Prop where
  digits : ∀ c ∈ cs, c.isDigit = true
  value : Nat.ofDigitChars 10 cs 0 = n
  width_le : width ≤ cs.length
  lead : width < cs.length → cs.head? ≠ some '0'

theorem ofDigitChars_zeros (k : Nat) : Nat.ofDigitChars 10 (List.replicate k '0') 0 = 0 := by
  induction k with
  | zero => rfl
  | succ k ih =>
      rw [List.replicate_succ, Nat.ofDigitChars_cons]
      exact ih

theorem numeral_padded {width : Nat} (hwidth : 0 < width) (n : Nat) :
    Numeral width n (padded width n).toList := by
  have hlist : (padded width n).toList =
      List.replicate (width - (Nat.toDigits 10 n).length) '0' ++ Nat.toDigits 10 n :=
    String.toList_ofList
  rw [hlist]
  constructor
  · intro c hc
    rcases List.mem_append.1 hc with hc | hc
    · rw [List.eq_of_mem_replicate hc]
      rfl
    · exact Nat.isDigit_of_mem_toDigits (by decide) (by decide) hc
  · rw [Nat.ofDigitChars_append, ofDigitChars_zeros, Nat.ofDigitChars_ten_toDigits]
  · rw [List.length_append, List.length_replicate]
    omega
  · intro hlong
    rw [List.length_append, List.length_replicate] at hlong
    have hzeros : width - (Nat.toDigits 10 n).length = 0 := by omega
    rw [hzeros, List.replicate_zero, List.nil_append]
    intro hhead
    obtain ⟨cs, hcs⟩ := List.head?_eq_some_iff.1 hhead
    rw [hcs, Value.Reader.toDigits_lead hcs] at hlong
    simp at hlong
    omega

/-! ## Moments -/

namespace DateTime

/-- The date and time of a moment: the date is reached by stepping through the days that have passed
since the first, and the rest is the time of the day. -/
structure Denotes (t : DateTime) (n : Nat) : Prop where
  passed : ∃ days, t.date = Date.stepped days ∧
    n = 86400 * days + (3600 * t.hour + 60 * t.minute + t.second)
  calendar : t.date.Valid
  clock : t.hour < 24 ∧ t.minute < 60 ∧ t.second < 60

/-- The written form of a date and time. -/
inductive Spells (t : DateTime) : List Char → Prop where
  | intro {year month day hour minute second : List Char} (hyear : Numeral 4 t.date.year year)
      (hmonth : Numeral 2 t.date.month month) (hday : Numeral 2 t.date.day day)
      (hhour : Numeral 2 t.hour hour) (hminute : Numeral 2 t.minute minute)
      (hsecond : Numeral 2 t.second second) :
      Spells t (year ++ ['-'] ++ month ++ ['-'] ++ day ++ ['T'] ++ hour ++ [':'] ++ minute ++
        [':'] ++ second ++ ['Z'])

def parts (t : DateTime) : List Nat :=
  t.date.parts ++ [t.hour, t.minute, t.second]

theorem denotes_ofSeconds (n : Nat) : (ofSeconds n).Denotes n := by
  have hdate : (ofSeconds n).date = Date.stepped (n / 86400) := Date.ofDays_eq_stepped _
  refine ⟨⟨n / 86400, hdate, ?_⟩, ?_, ?_⟩
  · show n = 86400 * (n / 86400) +
      (3600 * (n % 86400 / 3600) + 60 * (n % 86400 % 3600 / 60) + n % 86400 % 60)
    omega
  · rw [hdate]
    exact Date.valid_stepped _
  · show n % 86400 / 3600 < 24 ∧ n % 86400 % 3600 / 60 < 60 ∧ n % 86400 % 60 < 60
    omega

theorem spells_display (t : DateTime) : t.Spells t.display.toList := by
  have hdisplay : t.display.toList = (padded 4 t.date.year).toList ++ ['-'] ++
      (padded 2 t.date.month).toList ++ ['-'] ++ (padded 2 t.date.day).toList ++ ['T'] ++
      (padded 2 t.hour).toList ++ [':'] ++ (padded 2 t.minute).toList ++ [':'] ++
      (padded 2 t.second).toList ++ ['Z'] := by
    simp [display, toString]
  rw [hdisplay]
  exact .intro (numeral_padded (by decide) _) (numeral_padded (by decide) _)
    (numeral_padded (by decide) _) (numeral_padded (by decide) _) (numeral_padded (by decide) _)
    (numeral_padded (by decide) _)

/-- Later moments have later dates and times. -/
theorem ofSeconds_lt {m n : Nat} (h : m < n) : (ofSeconds m).parts < (ofSeconds n).parts := by
  rcases Nat.lt_or_ge (m / 86400) (n / 86400) with hlt | hge
  · have hdate : (ofSeconds m).date.parts < (ofSeconds n).date.parts := by
      have hstepped := Date.strictMono_stepped hlt
      dsimp only at hstepped
      rwa [← Date.ofDays_eq_stepped, ← Date.ofDays_eq_stepped] at hstepped
    simp only [parts, Date.parts, List.cons_append, List.nil_append, List.cons_lt_cons_iff,
      List.not_lt_nil, and_false, or_false] at hdate ⊢
    omega
  · -- on one day the times are compared
    have hdays : m / 86400 = n / 86400 :=
      Nat.le_antisymm (Nat.div_le_div_right (Nat.le_of_lt h)) hge
    have hrest : m % 86400 < n % 86400 := by omega
    unfold parts ofSeconds
    rw [hdays]
    refine List.append_left_lt ?_
    generalize m % 86400 = a, n % 86400 = b at hrest
    simp only [List.cons_lt_cons_iff, List.not_lt_nil, and_false, or_false]
    omega

/-- The timestamp of a moment spells the date that the calendar reaches day by day, with the time of
the day. The arithmetic that finds the date stays within numbers of 64 bits, and of two moments the
later one has the later date and time. -/
theorem ofSeconds_exact {n : Nat} (hn : n < 2 ^ 64) :
    (ofSeconds n).Denotes n ∧ (ofSeconds n).Spells (timestamp n).toList ∧
      Date.ofDays? (n / 86400) = some (ofSeconds n).date ∧
      ∀ m < n, (ofSeconds m).parts < (ofSeconds n).parts := by
  refine ⟨denotes_ofSeconds n, spells_display _, ?_, fun m hm => ofSeconds_lt hm⟩
  have hfits : n / 86400 + Date.epochDay < 2 ^ 64 := by
    unfold Date.epochDay
    omega
  rw [Date.ofDays?_eq hfits, ← Date.ofDays_eq_stepped]
  rfl

/-- The last moment that 64 bits can count. -/
theorem ofSeconds_exact_lastWord :
    18446744073709551615 < 2 ^ 64 ∧
      ofSeconds 18446744073709551615 = ⟨⟨584554051223, 11, 9⟩, 7, 0, 15⟩ ∧
      (ofSeconds 18446744073709551615).Denotes 18446744073709551615 ∧
      (ofSeconds 18446744073709551615).Spells (timestamp 18446744073709551615).toList ∧
      Date.ofDays? (18446744073709551615 / 86400) =
        some (ofSeconds 18446744073709551615).date ∧
      ∀ m < 18446744073709551615, (ofSeconds m).parts < (ofSeconds 18446744073709551615).parts :=
  ⟨by decide, by decide, ofSeconds_exact (by decide)⟩

end DateTime

end Sluice
