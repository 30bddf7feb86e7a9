import ScriptHost.Decimal.Shortest

/-!
# Written doubles

Doubles are shown in two notations.  The plain one is always positional and
has a point only where digits follow it.  The detailed one keeps at least one
digit after the point and turns to powers of ten outside a middle range.
-/

namespace ScriptHost.Decimal

/-- The digits of a natural number. -/
def digitText (n : Nat) : String :=
  String.ofList (Nat.toDigits 10 n)

/-- A text of zeros. -/
def zeros (count : Nat) : String :=
  String.ofList (List.replicate count '0')

namespace Magnitude

/-- Digits before and after the decimal point, all zeros written out. -/
def positionalParts (d : Magnitude) : String × String :=
  let digits := digitText d.digits
  if 0 ≤ d.exponent then
    (if d.digits = 0 then "0" else digits ++ zeros d.exponent.toNat, "")
  else
    let places := (-d.exponent).toNat
    let cs := digits.toList
    if places < cs.length then
      (String.ofList (cs.take (cs.length - places)),
        String.ofList (cs.drop (cs.length - places)))
    else ("0", zeros (places - cs.length) ++ digits)

/-- Positional notation; the point is left out before an empty fraction. -/
def positional (d : Magnitude) : String :=
  let parts := d.positionalParts
  if parts.2 = "" then parts.1 else parts.1 ++ "." ++ parts.2

/-- Positional notation with at least one digit after the point. -/
def pointed (d : Magnitude) : String :=
  let parts := d.positionalParts
  parts.1 ++ "." ++ (if parts.2 = "" then "0" else parts.2)

/-- One digit before the point, and a power of ten. -/
def scientific (d : Magnitude) : String :=
  let digits := (digitText d.digits).toList
  let power := d.exponent + ((digits.length : Int) - 1)
  let mantissa :=
    match digits with
    | [] => ""
    | [digit] => String.singleton digit
    | digit :: rest => String.singleton digit ++ "." ++ String.ofList rest
  mantissa ++ "e" ++ toString power

/-- Whether the magnitude is zero, or at least a ten-thousandth and below ten
to the sixteenth. -/
def isMiddling (d : Magnitude) : Bool :=
  let power := d.exponent + ((digitText d.digits).length : Int)
  d.digits == 0 || (-3 ≤ power && power ≤ 16)

end Magnitude

namespace Binary64

/-- A double whose finite magnitudes are written by the given notation. -/
def written (notate : Magnitude → String) (x : Binary64) : String :=
  if x.isNaN then "NaN"
  else
    (if x.isNegative then "-" else "") ++
      (if x.isInfinite then "inf" else notate (Magnitude.ofBinary64 x))

/-- Plain notation: `1`, `-0`, `0.0000001`, `inf`, `NaN`. -/
def plain (x : Binary64) : String :=
  x.written Magnitude.positional

/-- Detailed notation: `1.0`, `-0.0`, `1e-5`, `inf`, `NaN`. -/
def detailed (x : Binary64) : String :=
  x.written fun d => if d.isMiddling then d.pointed else d.scientific

end Binary64

end ScriptHost.Decimal
