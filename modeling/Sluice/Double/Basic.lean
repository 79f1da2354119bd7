/-!
# Doubles as bits and as rationals

A `Double` is a binary64 number kept as its 64 bits, so that equality is equality of bits and
every conversion is exact arithmetic on `Nat`. A finite double is `mantissa · 2 ^ exponent` with
a sign; `ofRatio` is the nearest double to a rational, a half going to the even neighbour.
-/

namespace Sluice

/-- A binary64 number. -/
structure Double where
  bits : UInt64
deriving DecidableEq, Inhabited

namespace Double

def exponentBits (d : Double) : Nat :=
  (d.bits >>> 52).toNat % 2048

/-- The fifty-two fraction bits. -/
def fractionBits (d : Double) : Nat :=
  d.bits.toNat % 0x10000000000000

def isNegative (d : Double) : Bool :=
  d.bits.toNat / 0x8000000000000000 == 1

def isFinite (d : Double) : Bool :=
  d.exponentBits != 2047

/-- The integer `m` of a finite double `± m · 2 ^ e`. -/
def mantissa (d : Double) : Nat :=
  if d.exponentBits = 0 then d.fractionBits else 0x10000000000000 + d.fractionBits

/-- The power `e` of a finite double `± m · 2 ^ e`. -/
def exponent (d : Double) : Int :=
  if d.exponentBits = 0 then -1074 else (d.exponentBits : Int) - 1075

def ofFields (negative : Bool) (exponentBits fractionBits : Nat) : Double :=
  ⟨UInt64.ofNat ((if negative then 0x8000000000000000 else 0) + exponentBits * 0x10000000000000 +
    fractionBits)⟩

def infinity (negative : Bool) : Double :=
  ofFields negative 2047 0

def zero (negative : Bool) : Double :=
  ofFields negative 0 0

/-- The double nearest to `q · 2 ^ e`, for `q ≤ 2 ^ 53` and `q ≥ 2 ^ 52` unless `e = -1074`. -/
def ofScaled (negative : Bool) (q : Nat) (e : Int) : Double :=
  let (q, e) := if q = 0x20000000000000 then (0x10000000000000, e + 1) else (q, e)
  if q < 0x10000000000000 then ofFields negative 0 q
  else if e > 971 then infinity negative
  else ofFields negative (e + 1075).toNat (q - 0x10000000000000)

/-- `num / den` rounded to an integer, a half going to the even one. -/
def roundDiv (num den : Nat) : Nat :=
  let q := num / den
  let r := num % den
  if 2 * r < den then q else if den < 2 * r then q + 1 else q + q % 2

/-- The double nearest to `± num / den`, for `den > 0`. -/
def ofRatio (negative : Bool) (num den : Nat) : Double :=
  if num = 0 then zero negative
  else
    -- With this exponent the quotient lies between 2 ^ 51 and 2 ^ 53.
    let e₀ : Int := (Nat.log2 num : Int) - Nat.log2 den - 52
    let scaled (e : Int) : Nat × Nat := (num * Nat.pow 2 (-e).toNat, den * Nat.pow 2 e.toNat)
    let e₁ := if (scaled e₀).1 < 0x10000000000000 * (scaled e₀).2 then e₀ - 1 else e₀
    let e := max e₁ (-1074)
    ofScaled negative (roundDiv (scaled e).1 (scaled e).2) e

def ofNat (n : Nat) : Double :=
  ofRatio false n 1

def ofInt (i : Int) : Double :=
  ofRatio (i < 0) i.natAbs 1

/-- The double nearest to `± digits · 10 ^ power`. -/
def ofDecimal (negative : Bool) (digits : Nat) (power : Int) : Double :=
  -- Beyond these bounds the result is known without forming the power.
  let size : Int := (Nat.toDigits 10 digits).length
  if digits = 0 || size + power < -330 then zero negative
  else if size + power > 310 then infinity negative
  else ofRatio negative (digits * Nat.pow 10 power.toNat) (Nat.pow 10 (-power).toNat)

/-- The finite double as a ratio: its absolute value is `num / den`. -/
def ratio (d : Double) : Nat × Nat :=
  (d.mantissa * Nat.pow 2 d.exponent.toNat, Nat.pow 2 (-d.exponent).toNat)

def mul (a b : Double) : Double :=
  ofRatio (a.isNegative != b.isNegative) (a.ratio.1 * b.ratio.1) (a.ratio.2 * b.ratio.2)

/-- The quotient of two finite doubles, rounded; the divisor is not zero. -/
def div (a b : Double) : Double :=
  ofRatio (a.isNegative != b.isNegative) (a.ratio.1 * b.ratio.2) (a.ratio.2 * b.ratio.1)

def neg (d : Double) : Double :=
  ⟨d.bits ^^^ 0x8000000000000000⟩

/-- A finite double that is an integer, as that integer. -/
def toInt? (d : Double) : Option Int :=
  if d.isFinite && d.ratio.1 % d.ratio.2 = 0 then
    let n : Int := (d.ratio.1 / d.ratio.2 : Nat)
    some (if d.isNegative then -n else n)
  else none

def toFloat (d : Double) : Float :=
  Float.ofBits d.bits

/-- The bits of a machine number. -/
def ofFloat (f : Float) : Double :=
  ⟨f.toBits⟩

/-! ## Closed instances -/

example : ofNat 1 = ⟨0x3ff0000000000000⟩ := by decide
example : ofDecimal false 1 (-1) = ⟨0x3fb999999999999a⟩ := by decide
example : ofDecimal false 5 (-324) = ⟨1⟩ := by decide +kernel
example : ofDecimal true 17976931348623157 292 = ⟨0xffefffffffffffff⟩ := by decide +kernel
example : ofDecimal false 18 307 = infinity false := by decide +kernel
example : ofNat 0x20000000000001 = ofNat 0x20000000000000 := by decide

end Double

end Sluice
