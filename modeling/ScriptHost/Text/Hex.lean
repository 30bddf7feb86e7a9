/-!
# Hexadecimal numbers

Numbers are written without leading zeros or padded to a fixed width, and
read back digit by digit.
-/

namespace ScriptHost.Text

/-- Lower-case hexadecimal digits without leading zeros. -/
def hex (n : Nat) : String :=
  String.ofList (Nat.toDigits 16 n)

/-- Lower-case hexadecimal digits, filled with zeros up to `width`. -/
def hexOfWidth (width n : Nat) : String :=
  let digits := Nat.toDigits 16 n
  String.ofList (List.replicate (width - digits.length) '0' ++ digits)

/-- Upper-case hexadecimal digits, filled with zeros up to `width`. -/
def upperHexOfWidth (width n : Nat) : String :=
  String.ofList ((hexOfWidth width n).toList.map Char.toUpper)

/-- The value of one hexadecimal digit. -/
def hexDigit? (c : Char) : Option Nat :=
  if '0' ≤ c ∧ c ≤ '9' then some (c.toNat - '0'.toNat)
  else if 'a' ≤ c ∧ c ≤ 'f' then some (c.toNat - 'a'.toNat + 10)
  else if 'A' ≤ c ∧ c ≤ 'F' then some (c.toNat - 'A'.toNat + 10)
  else none

/-- The number written by a non-empty row of hexadecimal digits. -/
def ofHex? (text : String) : Option Nat :=
  match text.toList with
  | [] => none
  | digits => digits.foldlM (fun n c => (hexDigit? c).map (16 * n + ·)) 0

end ScriptHost.Text
