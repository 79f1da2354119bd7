import Sluice.Double.Basic

/-!
# The fewest digits that read back

Every finite double is the nearest double to a whole interval of reals, its ends included exactly
when the mantissa is even. `shortest` gives the decimal with the fewest digits inside that
interval and, among those, the one nearest to the double. For each number of digits only the two
neighbours of the double on that decimal grid can be the answer, so both are tested in exact
arithmetic.
-/

namespace Sluice.Double

/-- A decimal `digits · 10 ^ power`. -/
structure Decimal where
  digits : Nat
  power : Int
deriving DecidableEq

/-- The reals that round to a double, as `lo / den` to `hi / den` around `mid / den`. -/
structure Interval where
  lo : Nat
  mid : Nat
  hi : Nat
  den : Nat
  closed : Bool

def interval (d : Double) : Interval :=
  let m := d.mantissa
  let e := d.exponent
  -- Below a power of two the neighbours are twice as dense.
  let below := if d.fractionBits = 0 && 1 < d.exponentBits then 1 else 2
  let up := Nat.pow 2 e.toNat
  ⟨(4 * m - below) * up, 4 * m * up, (4 * m + 2) * up, 4 * Nat.pow 2 (-e).toNat, m % 2 = 0⟩

def Interval.holds (i : Interval) (d : Decimal) : Bool :=
  let x := d.digits * Nat.pow 10 d.power.toNat * i.den
  let s := Nat.pow 10 (-d.power).toNat
  if i.closed then i.lo * s ≤ x && x ≤ i.hi * s else i.lo * s < x && x < i.hi * s

/-- The least `k` with `num / den < 10 ^ k`, found by stepping from an estimate below it. -/
def decimalSize (num den : Nat) : Int :=
  let estimate : Int := ((Nat.log2 num : Int) - Nat.log2 den - 1) * 30103 / 100000
  let below (k : Int) : Bool := num * Nat.pow 10 (-k).toNat < den * Nat.pow 10 k.toNat
  if below estimate then estimate
  else if below (estimate + 1) then estimate + 1
  else estimate + 2

/-- The neighbours of the middle on the grid of multiples of `10 ^ power`, the nearer one first;
of two equally near, the even one. -/
def Interval.neighbours (i : Interval) (power : Int) : Decimal × Decimal :=
  let num := i.mid * Nat.pow 10 (-power).toNat
  let den := i.den * Nat.pow 10 power.toNat
  let q := num / den
  let r := num % den
  let down : Decimal := ⟨q, power⟩
  let up : Decimal := ⟨q + 1, power⟩
  if 2 * r < den || (2 * r = den && q % 2 = 0) then (down, up) else (up, down)

/-- Tries `n` and more digits until a neighbour falls into the interval. -/
def Interval.search (i : Interval) (size : Int) : Nat → Nat → Decimal
  | 0, n => (i.neighbours (size - n)).1
  | fuel + 1, n =>
    let (first, second) := i.neighbours (size - n)
    if i.holds first then first
    else if i.holds second then second
    else i.search size fuel (n + 1)

/-- Moves the zeros at the end of the digits into the power. -/
def Decimal.strip : Nat → Decimal → Decimal
  | 0, d => d
  | fuel + 1, d =>
    if d.digits != 0 && d.digits % 10 = 0 then strip fuel ⟨d.digits / 10, d.power + 1⟩ else d

def shortest (d : Double) : Decimal :=
  let i := d.interval
  -- Seventeen digits always suffice.
  (i.search (decimalSize i.mid i.den) 16 1).strip 17

/-! ## Closed instances -/

example : shortest (ofDecimal false 1 (-1)) = ⟨1, -1⟩ := by decide +kernel
example : shortest (ofDecimal false 5 (-324)) = ⟨5, -324⟩ := by decide +kernel
example : shortest (ofNat 0x10000000000000000) = ⟨18446744073709552, 3⟩ := by decide +kernel
example : shortest (ofRatio false 1 3) = ⟨3333333333333333, -16⟩ := by decide +kernel

end Sluice.Double
