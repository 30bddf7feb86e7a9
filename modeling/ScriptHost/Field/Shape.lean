import ScriptHost.Field.Kind
import ScriptHost.Text.Quoted

/-!
# Shape descriptors

A shape lists the kinds of a structure's fields in order.  Its descriptor has
one character for each field; reading stops at the first character that is no
kind or stands beyond the permitted number of fields.
-/

namespace ScriptHost

/-- The kinds of a structure's fields, in order. -/
structure Shape where
  kinds : List FieldKind
  deriving DecidableEq, Repr, Inhabited

/-- What is wrong with a descriptor. -/
inductive ShapeFault where
  /-- There is a character after the permitted number of fields. -/
  | tooManyFields (limit : Nat)
  /-- The character at a position is no kind. -/
  | invalidToken (token : Char) (position : Nat)
  deriving DecidableEq, Repr

def ShapeFault.message : ShapeFault → String
  | tooManyFields limit =>
    s!"descriptor declares more than {limit} fields"
  | invalidToken token position =>
    "invalid field token " ++ Text.quotedChar token ++
      s!" at position {position}"

namespace Shape

/-- The number of fields permitted where nothing else is configured. -/
def defaultLimit : Nat := 256

/-- Reads the kinds of the characters from `position` on.  The limit is
checked before the character itself. -/
def readKinds (limit : Nat) :
    Nat → List Char → Except ShapeFault (List FieldKind)
  | _, [] => .ok []
  | position, token :: rest =>
    if limit ≤ position then .error (.tooManyFields limit)
    else
      match FieldKind.ofToken? token with
      | none => .error (.invalidToken token position)
      | some kind => (readKinds limit (position + 1) rest).map (kind :: ·)

/-- Reads a descriptor of at most `limit` fields. -/
def read (limit : Nat) (descriptor : String) : Except ShapeFault Shape :=
  (readKinds limit 0 descriptor.toList).map Shape.mk

def descriptor (shape : Shape) : String :=
  String.ofList (shape.kinds.map FieldKind.token)

def size (shape : Shape) : Nat :=
  shape.kinds.length

/-- The number of fields whose kind is primitive. -/
def primitiveCount (shape : Shape) : Nat :=
  shape.kinds.countP FieldKind.isPrimitive

end Shape

end ScriptHost
