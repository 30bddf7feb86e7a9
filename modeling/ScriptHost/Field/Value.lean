import ScriptHost.Decimal.Written
import ScriptHost.Field.Kind
import ScriptHost.Text.Quoted
import ScriptHost.Text.Record

/-!
# Stored values

A field holds a script value.  A value whose variant matches the kind of its
field can be kept as one bare 64-bit word instead, and the word gives the
value back bit for bit.
-/

namespace ScriptHost

open Decimal (Binary64)

/-- A script value as field storage sees it. -/
inductive Value where
  /-- The value of a field nothing was written to. -/
  | undefined
  | null
  | bool (b : Bool)
  /-- A 32-bit signed integer. -/
  | int (n : Int32)
  /-- A 64-bit signed integer. -/
  | long (n : Int64)
  | double (x : Binary64)
  | str (text : String)
  /-- A handle to an object of the script heap. -/
  | ref (handle : UInt64)
  deriving DecidableEq, Repr, Inhabited

namespace Value

/-- The bare word of a value whose variant is that of the kind.  An integer
of 32 bits occupies the low half. -/
def word? : FieldKind → Value → Option UInt64
  | .int, int n => some n.toUInt32.toUInt64
  | .long, long n => some n.toUInt64
  | .double, double x => some x.bits
  | _, _ => none

/-- The value a bare word stands for in a field of the given kind. -/
def ofWord : FieldKind → UInt64 → Value
  | .object, _ => undefined
  | .int, word => int word.toUInt32.toInt32
  | .long, word => long word.toInt64
  | .double, word => double ⟨word⟩

/-- Equality as scripts compare stored values: variants must match, and
floating-point numbers compare by the standard rather than by their bits. -/
def looselyEq : Value → Value → Bool
  | double x, double y => x.ieeeEq y
  | v, w => v == w

/-- The text a value is displayed as. -/
def text : Value → String
  | undefined => "undefined"
  | null => "null"
  | bool b => toString b
  | int n => toString n.toInt
  | long n => toString n.toInt
  | double x => x.plain
  | str s => s
  | ref handle => "[object #" ++ toString handle.toNat ++ "]"

/-- A value with its variant, as instance renderings show it. -/
def detail : Value → String
  | undefined => "Undefined"
  | null => "Null"
  | bool b => Text.taggedText "Bool" (toString b)
  | int n => Text.taggedText "Int" (toString n.toInt)
  | long n => Text.taggedText "Long" (toString n.toInt)
  | double x => Text.taggedText "Double" x.detailed
  | str s => Text.taggedText "Str" (Text.quoted s)
  | ref handle => Text.taggedText "Ref" (toString handle.toNat)

/-- No value has a bare word in an object field. -/
@[simp]
theorem word?_object (value : Value) : value.word? .object = none := by
  cases value <;> rfl

/-- A bare word gives back the value it was made from. -/
theorem ofWord_of_word? {kind : FieldKind} {value : Value} {word : UInt64}
    (hword : value.word? kind = some word) : ofWord kind word = value := by
  cases kind <;> cases value <;>
    simp_all only [word?, Option.some.injEq, reduceCtorEq] <;>
    subst hword <;> simp [ofWord]

end Value

end ScriptHost
