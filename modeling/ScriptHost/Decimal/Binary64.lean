/-!
# Binary floating-point words

A double is kept as its 64-bit IEEE 754 word, so that the sign of a zero and
the payload of a NaN survive storage.  Comparison follows the standard: a NaN
differs from everything, and the two zeros are equal.
-/

namespace ScriptHost.Decimal

/-- A double as its 64-bit word. -/
structure Binary64 where
  /-- Sign, eleven exponent bits and fifty-two fraction bits. -/
  bits : UInt64
  deriving DecidableEq, Repr, Inhabited

namespace Binary64

def isNegative (x : Binary64) : Bool :=
  Nat.pow 2 63 ≤ x.bits.toNat

def exponentField (x : Binary64) : Nat :=
  x.bits.toNat / Nat.pow 2 52 % Nat.pow 2 11

def fraction (x : Binary64) : Nat :=
  x.bits.toNat % Nat.pow 2 52

def isNaN (x : Binary64) : Bool :=
  x.exponentField == 2047 && x.fraction != 0

def isInfinite (x : Binary64) : Bool :=
  x.exponentField == 2047 && x.fraction == 0

def isZero (x : Binary64) : Bool :=
  x.exponentField == 0 && x.fraction == 0

/-- The integer `m` of a finite magnitude `m * 2 ^ (power - 1074)`. -/
def significand (x : Binary64) : Nat :=
  if x.exponentField = 0 then x.fraction else Nat.pow 2 52 + x.fraction

/-- The number `power` of a finite magnitude `m * 2 ^ (power - 1074)`. -/
def power (x : Binary64) : Nat :=
  x.exponentField - 1

/-- Equality of the standard: no NaN equals anything, and zeros are equal
whatever their sign. -/
def ieeeEq (x y : Binary64) : Bool :=
  !x.isNaN && !y.isNaN && (x.bits == y.bits || (x.isZero && y.isZero))

end Binary64

end ScriptHost.Decimal
