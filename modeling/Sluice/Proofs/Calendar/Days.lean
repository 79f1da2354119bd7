import Mathlib.Tactic.IntervalCases
import Sluice.Calendar

/-!
# Dates by arithmetic

`Date.next` goes through the calendar day by day. A date also has a number, which counts the days
since the first of March of the year 0; the calendar gives the day after the next number
(`Date.number_next`), and the arithmetic of `Date.ofDays` finds the date with a number
(`Date.ofDays_eq_of_number`). So both arrive at the same date, however many days have passed
(`Date.ofDays_eq_stepped`).
-/

namespace Sluice

namespace Date

/-! ## Days of the calendar -/

/-- A day that the calendar has. Years are counted from 1. -/
structure Valid (d : Date) : Prop where
  year : 0 < d.year
  month : 1 ≤ d.month ∧ d.month ≤ 12
  day : 1 ≤ d.day ∧ d.day ≤ monthLength d.year d.month

theorem isLeap_eq_true_iff {year : Nat} :
    isLeap year = true ↔ 4 ∣ year ∧ (¬ 100 ∣ year ∨ 400 ∣ year) := by
  simp [isLeap, Nat.dvd_iff_mod_eq_zero]

theorem monthLength_february (year : Nat) :
    monthLength year 2 = if isLeap year then 29 else 28 :=
  rfl

theorem monthLength_eq {year month : Nat} (h : month ≠ 2) :
    monthLength year month =
      if month = 4 ∨ month = 6 ∨ month = 9 ∨ month = 11 then 30 else 31 := by
  unfold monthLength
  split
  · exact absurd rfl h
  all_goals simp_all

theorem monthLength_bounds (year month : Nat) :
    1 ≤ monthLength year month ∧ monthLength year month ≤ 31 := by
  by_cases h : month = 2
  · rw [h, monthLength_february]
    split <;> omega
  · rw [monthLength_eq h]
    split <;> omega

theorem Valid.next {d : Date} (h : d.Valid) : d.next.Valid := by
  obtain ⟨hyear, hmonth, hday⟩ := h
  unfold Date.next
  split
  · next hlt => exact ⟨hyear, hmonth, Nat.succ_pos _, hlt⟩
  · split
    · next hlt =>
      exact ⟨hyear, ⟨Nat.succ_pos _, hlt⟩, Nat.le_refl 1, (monthLength_bounds ..).1⟩
    · exact ⟨Nat.succ_pos _, ⟨Nat.le_refl 1, Nat.le_of_ble_eq_true rfl⟩, Nat.le_refl 1,
        (monthLength_bounds ..).1⟩

theorem valid_stepped (n : Nat) : (stepped n).Valid := by
  induction n with
  | zero => exact ⟨by decide, by decide, by decide⟩
  | succ n ih => exact ih.next

/-! ## Numbers of days -/

/-- The days before the first of March of a year. -/
def yearStart (year : Nat) : Nat :=
  365 * year + year / 4 - year / 100 + year / 400

/-- The days of a year from March before a month, counted from March. -/
def monthStart (month : Nat) : Nat :=
  (153 * month + 2) / 5

/-- The year from March that a month lies in; January and February belong to the year before. -/
def marchYear (year month : Nat) : Nat :=
  if month ≤ 2 then year - 1 else year

/-- A month counted from March. -/
def marchMonth (month : Nat) : Nat :=
  if month ≤ 2 then month + 9 else month - 3

/-- The days of a year from March before a date. -/
def marchDay (d : Date) : Nat :=
  monthStart (marchMonth d.month) + (d.day - 1)

/-- The days from 0000-03-01 to a date. -/
def number (d : Date) : Nat :=
  yearStart (marchYear d.year d.month) + d.marchDay

/-- The year from March ends with February, and with a leap day if the year after it is a leap
year. -/
theorem yearStart_succ (year : Nat) :
    yearStart (year + 1) = yearStart year + (337 + monthLength (year + 1) 2) := by
  have hcentury : 100 ∣ year + 1 → 4 ∣ year + 1 := fun h => Nat.dvd_trans (by decide) h
  have hfourth : 400 ∣ year + 1 → 100 ∣ year + 1 := fun h => Nat.dvd_trans (by decide) h
  have hle : year / 100 ≤ year := Nat.div_le_self year 100
  rw [monthLength_february, yearStart, yearStart, Nat.succ_div, Nat.succ_div, Nat.succ_div]
  generalize year / 4 = q, year / 100 = c, year / 400 = e at *
  have hleap : isLeap (year + 1) = true ↔ _ := isLeap_eq_true_iff
  by_cases h4 : 4 ∣ year + 1
  · by_cases h100 : 100 ∣ year + 1
    · by_cases h400 : 400 ∣ year + 1
      · rw [if_pos h4, if_pos h100, if_pos h400, if_pos (hleap.2 ⟨h4, .inr h400⟩)]
        omega
      · rw [if_pos h4, if_pos h100, if_neg h400, if_neg fun h => by simp_all]
        omega
    · rw [if_pos h4, if_neg h100, if_neg (mt hfourth h100), if_pos (hleap.2 ⟨h4, .inl h100⟩)]
      omega
  · have h100 := mt hcentury h4
    rw [if_neg h4, if_neg h100, if_neg (mt hfourth h100), if_neg fun h => h4 (hleap.1 h).1]
    omega

/-- Months are as long as the pattern of 153 days in five months says, all but the last. -/
theorem monthStart_succ {month : Nat} (hlow : 1 ≤ month) (hhigh : month ≤ 12) (hne : month ≠ 2)
    (year : Nat) :
    monthStart (marchMonth month + 1) = monthStart (marchMonth month) + monthLength year month := by
  interval_cases month
  case «2» => exact absurd rfl hne
  all_goals rfl

theorem marchYear_early {month : Nat} (h : month ≤ 2) (year : Nat) :
    marchYear year month = year - 1 :=
  if_pos h

theorem marchYear_late {month : Nat} (h : 2 < month) (year : Nat) : marchYear year month = year :=
  if_neg (Nat.not_le.2 h)

theorem number_first (year month : Nat) :
    number ⟨year, month, 1⟩ = yearStart (marchYear year month) + monthStart (marchMonth month) :=
  rfl

/-- A month is over when its days have passed. -/
theorem number_nextMonth {year month : Nat} (hyear : 0 < year) (hlow : 1 ≤ month)
    (hhigh : month ≤ 12) :
    number (if month < 12 then ⟨year, month + 1, 1⟩ else ⟨year + 1, 1, 1⟩) =
      number ⟨year, month, 1⟩ + monthLength year month := by
  by_cases hfebruary : month = 2
  · subst hfebruary
    have hstart := yearStart_succ (year - 1)
    rw [Nat.sub_add_cancel hyear] at hstart
    rw [if_pos (by decide), number_first, number_first, marchYear_late (by decide),
      marchYear_early (by decide), hstart, Nat.add_assoc _ (monthStart _) (monthLength _ _)]
    rfl
  · have hmonth := monthStart_succ hlow hhigh hfebruary year
    split
    · next hlt =>
      have hsame : marchYear year (month + 1) = marchYear year month := by
        unfold marchYear
        split <;> split <;> omega
      have hnext : marchMonth (month + 1) = marchMonth month + 1 := by
        unfold marchMonth
        split <;> split <;> omega
      rw [number_first, number_first, hsame, hnext, hmonth, Nat.add_assoc]
    · have hdecember : month = 12 := by omega
      subst hdecember
      rw [number_first, number_first, marchYear_early (by decide), marchYear_late (by decide),
        Nat.add_sub_cancel, Nat.add_assoc]
      rfl

/-- Within a month the number grows with the day. -/
theorem number_eq_first {d : Date} (h : 1 ≤ d.day) :
    d.number + 1 = number ⟨d.year, d.month, 1⟩ + d.day := by
  show yearStart (marchYear d.year d.month) + (monthStart (marchMonth d.month) + (d.day - 1)) + 1 =
    yearStart (marchYear d.year d.month) + (monthStart (marchMonth d.month) + 0) + d.day
  omega

/-- The day after has the next number. -/
theorem number_next {d : Date} (h : d.Valid) : d.next.number = d.number + 1 := by
  have hfirst := number_eq_first h.day.1
  have hnext := number_eq_first h.next.day.1
  unfold next at hnext ⊢
  split at hnext
  · next hlt =>
    rw [if_pos hlt]
    dsimp only at hnext
    omega
  · next hend =>
    have hday : d.day = monthLength d.year d.month := Nat.le_antisymm h.day.2 (Nat.not_lt.1 hend)
    rw [if_neg hend, number_nextMonth h.year h.month.1 h.month.2, ← hday, hfirst]

theorem number_stepped (n : Nat) : (stepped n).number = n + epochDay := by
  induction n with
  | zero => rfl
  | succ n ih =>
      show (stepped n).next.number = n + 1 + epochDay
      rw [number_next (valid_stepped n), ih]
      omega

/-! ## The date with a number -/

/-- A day of a month comes before the next month from March begins, were there days enough in
February. -/
theorem Valid.marchDay_lt {d : Date} (h : d.Valid) :
    d.marchDay < monthStart (marchMonth d.month + 1) := by
  obtain ⟨-, ⟨hlow, hhigh⟩, hday, hlast⟩ := h
  unfold marchDay
  by_cases hfebruary : d.month = 2
  · rw [hfebruary, monthLength_february] at hlast
    rw [hfebruary]
    show 337 + (d.day - 1) < 367
    split at hlast <;> omega
  · have hmonth := monthStart_succ hlow hhigh hfebruary d.year
    omega

/-- The days of a year from March. The last of 366 is the leap day of the year that follows. -/
def InMarchYear (year day : Nat) : Prop :=
  day < 365 ∨ day = 365 ∧ isLeap (year + 1) = true

theorem Valid.inMarchYear {d : Date} (h : d.Valid) :
    InMarchYear (marchYear d.year d.month) d.marchDay := by
  by_cases hfebruary : d.month = 2
  · obtain ⟨hyear, -, hday, hlast⟩ := h
    rw [hfebruary, monthLength_february] at hlast
    have hstart : d.marchDay = 337 + (d.day - 1) := by
      rw [marchDay, hfebruary]
      rfl
    have hnext : marchYear d.year d.month + 1 = d.year := by
      rw [hfebruary]
      exact Nat.sub_add_cancel hyear
    rw [InMarchYear, hnext]
    split at hlast
    · next hleap =>
      by_cases hend : d.day = 29
      · exact .inr ⟨by omega, hleap⟩
      · exact .inl (by omega)
    · exact .inl (by omega)
  · -- all other months are over when the last of the year from March begins
    have hle : monthStart (marchMonth d.month + 1) ≤ 337 := by
      obtain ⟨-, ⟨hlow, hhigh⟩, -⟩ := h
      unfold monthStart marchMonth
      split <;> omega
    exact .inl (Nat.lt_of_lt_of_le h.marchDay_lt (Nat.le_trans hle (by decide)))

theorem Valid.marchDay_le {d : Date} (h : d.Valid) : d.marchDay ≤ 365 := by
  rcases h.inMarchYear with hlt | ⟨heq, -⟩
  · exact Nat.le_of_lt hlt
  · exact Nat.le_of_eq heq

/-- The year of a cycle of 400 in which a day lies. The quotients take away the leap days before it;
the one by 146096 is for the last day of all. -/
theorem yearOfCycle_eq {year day : Nat} (hyear : year < 400) (hday : InMarchYear year day)
    {e : Nat} (he : e = 365 * year + year / 4 - year / 100 + day) :
    (e - e / 1460 + e / 36524 - e / 146096) / 365 = year := by
  obtain ⟨c, q, j, rfl, hc, hq, hj⟩ :
      ∃ c q j, year = 100 * c + 4 * q + j ∧ c < 4 ∧ q < 25 ∧ j < 4 :=
    ⟨year / 100, year % 100 / 4, year % 4, by omega, by omega, by omega, by omega⟩
  have hleap : day < 365 ∨ day = 365 ∧ j = 3 ∧ (q < 24 ∨ c = 3) := by
    rcases hday with hlt | ⟨heq, hleap⟩
    · exact .inl hlt
    · rw [isLeap_eq_true_iff] at hleap
      omega
  have hsum : e = 36524 * c + 1461 * q + 365 * j + day := by omega
  have hcentury : e / 36524 = if c = 3 ∧ q = 24 ∧ j = 3 ∧ day = 365 then 4 else c := by
    split <;> omega
  have hcycle : e / 146096 = if c = 3 ∧ q = 24 ∧ j = 3 ∧ day = 365 then 1 else 0 := by
    split <;> omega
  clear he hday
  rw [hcentury, hcycle]
  split
  · omega
  · omega

/-- Months are found by the pattern of 153 days in five. -/
theorem marchMonth_eq {month day : Nat} (hfirst : monthStart month ≤ day)
    (hlast : day < monthStart (month + 1)) : (5 * day + 2) / 153 = month := by
  unfold monthStart at hfirst hlast
  omega

/-- The year of a date in its cycle of 400 years. -/
def yearInCycle (d : Date) : Nat :=
  marchYear d.year d.month % 400

/-- The days of a cycle of 400 years before the first of March of a year. -/
def cycleStart (year : Nat) : Nat :=
  365 * year + year / 4 - year / 100

/-- The day of a date in its cycle of 400 years. -/
def dayInCycle (d : Date) : Nat :=
  cycleStart d.yearInCycle + d.marchDay

/-- Cycles of 400 years have 146097 days each. -/
theorem number_eq_cycles (d : Date) :
    d.number = 146097 * (marchYear d.year d.month / 400) + d.dayInCycle := by
  unfold number dayInCycle yearStart cycleStart yearInCycle
  omega

theorem Valid.inMarchYear_cycle {d : Date} (h : d.Valid) :
    InMarchYear d.yearInCycle d.marchDay := by
  rcases h.inMarchYear with hlt | ⟨heq, hleap⟩
  · exact .inl hlt
  · refine .inr ⟨heq, ?_⟩
    rw [isLeap_eq_true_iff] at hleap ⊢
    unfold yearInCycle
    omega

theorem Valid.dayInCycle_lt {d : Date} (h : d.Valid) : d.dayInCycle < 146097 := by
  have hr : d.yearInCycle < 400 := Nat.mod_lt _ (by decide)
  have hday := h.marchDay_le
  unfold dayInCycle cycleStart
  omega

section Arithmetic

variable {d : Date}

theorem cycle_eq (h : d.Valid) : d.number / 146097 = marchYear d.year d.month / 400 := by
  have hlt := h.dayInCycle_lt
  rw [number_eq_cycles]
  omega

theorem dayOfCycle_eq (d : Date) :
    d.number - marchYear d.year d.month / 400 * 146097 = d.dayInCycle := by
  rw [number_eq_cycles]
  omega

theorem yearOfCycle_dayInCycle (h : d.Valid) :
    (d.dayInCycle - d.dayInCycle / 1460 + d.dayInCycle / 36524 - d.dayInCycle / 146096) / 365 =
      d.yearInCycle :=
  yearOfCycle_eq (Nat.mod_lt _ (by decide)) h.inMarchYear_cycle rfl

theorem dayOfYear_eq (d : Date) : d.dayInCycle - cycleStart d.yearInCycle = d.marchDay :=
  Nat.add_sub_cancel_left ..

theorem marchMonth_marchDay (h : d.Valid) : (5 * d.marchDay + 2) / 153 = marchMonth d.month :=
  marchMonth_eq (Nat.le_add_right _ _) h.marchDay_lt

theorem marchMonth_lt (h : d.Valid) : marchMonth d.month < 12 := by
  obtain ⟨-, ⟨hlow, hhigh⟩, -⟩ := h
  unfold marchMonth
  split <;> omega

theorem month_of_march (h : d.Valid) :
    (if marchMonth d.month < 10 then marchMonth d.month + 3 else marchMonth d.month - 9) =
      d.month := by
  obtain ⟨-, ⟨hlow, hhigh⟩, -⟩ := h
  unfold marchMonth
  split <;> split <;> omega

theorem year_of_march (h : d.Valid) :
    (if d.month ≤ 2 then marchYear d.year d.month + 1 else marchYear d.year d.month) = d.year := by
  have hpos := h.year
  unfold marchYear
  split <;> omega

theorem day_of_march (h : d.Valid) :
    d.marchDay - (153 * marchMonth d.month + 2) / 5 + 1 = d.day := by
  have hday := h.day.1
  unfold marchDay monthStart
  omega

/-- The arithmetic finds the date with a number. -/
theorem ofDays_eq_of_number (h : d.Valid) {n : Nat} (hn : d.number = n + epochDay) :
    ofDays n = d := by
  have hrest : d.dayInCycle - (365 * d.yearInCycle + d.yearInCycle / 4 - d.yearInCycle / 100) =
      d.marchDay := dayOfYear_eq d
  have hyear : d.yearInCycle + marchYear d.year d.month / 400 * 400 = marchYear d.year d.month :=
    Nat.mod_add_div' _ _
  unfold ofDays
  dsimp only
  rw [← hn, cycle_eq h, dayOfCycle_eq, yearOfCycle_dayInCycle h, hrest, marchMonth_marchDay h,
    hyear, month_of_march h, year_of_march h, day_of_march h]

end Arithmetic

/-- The date by arithmetic is the one that the calendar reaches day by day. -/
theorem ofDays_eq_stepped (n : Nat) : ofDays n = stepped n :=
  ofDays_eq_of_number (valid_stepped n) (number_stepped n)

end Date

end Sluice
