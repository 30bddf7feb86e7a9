/-!
# Field kinds

Every field of a structure has a storage kind, written as one character in a
shape descriptor.
-/

namespace ScriptHost

/-- The storage kind of one field. -/
inductive FieldKind where
  /-- A reference to an object. -/
  | object
  /-- A 32-bit signed integer. -/
  | int
  /-- A 64-bit signed integer. -/
  | long
  /-- A 64-bit floating-point number. -/
  | double
  deriving DecidableEq, Repr, Inhabited

namespace FieldKind

/-- The character that stands for a kind in a descriptor. -/
def token : FieldKind → Char
  | object => 'O'
  | int => 'I'
  | long => 'J'
  | double => 'D'

/-- The kind a descriptor character stands for. -/
def ofToken? (c : Char) : Option FieldKind :=
  if c = 'O' then some object
  else if c = 'I' then some int
  else if c = 'J' then some long
  else if c = 'D' then some double
  else none

/-- Whether values of the kind fit into an unboxed word. -/
def isPrimitive : FieldKind → Bool
  | object => false
  | int | long | double => true

def name : FieldKind → String
  | object => "Object"
  | int => "Int"
  | long => "Long"
  | double => "Double"

@[simp]
theorem ofToken?_token (kind : FieldKind) : ofToken? kind.token = some kind := by
  cases kind <;> rfl

theorem ofToken?_eq_some_iff {c : Char} {kind : FieldKind} :
    ofToken? c = some kind ↔ kind.token = c := by
  constructor
  · intro hkind
    unfold ofToken? at hkind
    grind [token]
  · rintro rfl
    exact ofToken?_token kind

end FieldKind

end ScriptHost
