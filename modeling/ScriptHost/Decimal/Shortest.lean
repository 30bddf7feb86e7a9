import ScriptHost.Decimal.Binary64

/-!
# The shortest decimal that reads back

A finite nonzero double is the nearest double to every real in an interval
around it.  Among the decimals of that interval the shortest one is chosen,
and among those of equal length the one nearest to the double; of two equally
near ones the greater magnitude wins.

For each digit count the two neighbours of the value on that decimal grid are
tried in exact arithmetic.  If any point of a grid lies in the interval, one
of the value's two neighbours does, so the first grid with a hit is the
shortest one.
-/

namespace ScriptHost.Decimal

/-- The magnitude `digits * 10 ^ exponent`. -/
structure Magnitude where
  /-- The decimal digits read as one number. -/
  digits : Nat
  /-- The power of ten that the last digit counts. -/
  exponent : Int
  deriving DecidableEq, Repr, Inhabited

/-- A positive rational `value / unit` between the two ends, over the same
unit, of the interval of reals that round to it. -/
structure Rounding where
  /-- Numerator of the lower end. -/
  lower : Nat
  /-- Numerator of the value. -/
  value : Nat
  /-- Numerator of the upper end. -/
  upper : Nat
  /-- The common denominator. -/
  unit : Nat
  /-- Whether the two ends belong to the interval. -/
  closed : Bool
  deriving Repr

/-- The interval of a finite nonzero double.  Below a power of two the doubles
lie twice as dense, so the lower end is half as far away there; a tie at an end
goes to the even significand. -/
def roundingOf (x : Binary64) : Rounding :=
  let m := x.significand
  let scale := Nat.pow 2 x.power
  let below := if x.fraction = 0 ∧ 1 < x.exponentField then 1 else 2
  { lower := (4 * m - below) * scale
    value := 4 * m * scale
    upper := (4 * m + 2) * scale
    unit := Nat.pow 2 1076
    closed := m % 2 = 0 }

namespace Rounding

/-- The same interval in units of `10 ^ exponent`. -/
def scaledTo (r : Rounding) (exponent : Int) : Rounding :=
  if 0 ≤ exponent then
    { r with unit := r.unit * Nat.pow 10 exponent.toNat }
  else
    let scale := Nat.pow 10 (-exponent).toNat
    { r with
      lower := r.lower * scale
      value := r.value * scale
      upper := r.upper * scale }

/-- Whether the whole number `n` lies in the interval. -/
def admits (r : Rounding) (n : Nat) : Bool :=
  if r.closed then r.lower ≤ n * r.unit && n * r.unit ≤ r.upper
  else r.lower < n * r.unit && n * r.unit < r.upper

/-- The whole number of the interval next to the value, if there is one. -/
def neighbour? (r : Rounding) : Option Nat :=
  let floor := r.value / r.unit
  match r.admits floor, r.admits (floor + 1) with
  | true, true =>
    if 2 * (r.value % r.unit) < r.unit then some floor else some (floor + 1)
  | true, false => some floor
  | false, true => some (floor + 1)
  | false, false => none

/-- Counts the decimal places before the first digit of a value below one. -/
def leadingZeros (unit : Nat) : Nat → Nat → Nat
  | 0, _ => 0
  | fuel + 1, value =>
    if unit ≤ value * 10 then 0 else leadingZeros unit fuel (value * 10) + 1

/-- The least `p` with the value below `10 ^ p`. -/
def leadingPlace (r : Rounding) : Int :=
  if r.unit ≤ r.value then ((Nat.toDigits 10 (r.value / r.unit)).length : Int)
  else -(leadingZeros r.unit 400 r.value : Int)

/-- The first hit on the grids of more and more digits. -/
def search (r : Rounding) (place : Int) : Nat → Nat → Magnitude
  | 0, count =>
    let exponent := place - count
    ⟨(r.scaledTo exponent).value / (r.scaledTo exponent).unit, exponent⟩
  | more + 1, count =>
    let exponent := place - count
    match (r.scaledTo exponent).neighbour? with
    | some digits => ⟨digits, exponent⟩
    | none => search r place more (count + 1)

end Rounding

namespace Magnitude

/-- Drops up to the given number of zeros at the end of the digits. -/
def dropZeros : Nat → Magnitude → Magnitude
  | 0, d => d
  | fuel + 1, d =>
    if d.digits ≠ 0 ∧ d.digits % 10 = 0 then
      dropZeros fuel ⟨d.digits / 10, d.exponent + 1⟩
    else d

/-- The shortest decimal magnitude that reads back as the given double, zero
for the zeros.  Seventeen digits tell any two doubles apart. -/
def ofBinary64 (x : Binary64) : Magnitude :=
  if x.isZero then ⟨0, 0⟩
  else
    let r := roundingOf x
    (r.search r.leadingPlace 17 1).dropZeros 20

end Magnitude

end ScriptHost.Decimal
