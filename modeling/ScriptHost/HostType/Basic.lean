import ScriptHost.Text.Hex
import ScriptHost.Text.Quoted
import ScriptHost.Text.Record

/-!
# Host types

A host type is what a dynamic operation is dispatched against.  It has a
number within the registry that created it, a qualified name, a base type,
interfaces and flags.  Numbers and names of different registries may collide,
so a type also carries the serial number of its registry.  A registry may run
out of numbers and give them again, but it never gives a name twice: the serial
number and the name together tell any two types apart.
-/

namespace ScriptHost

/-- The number of a host type within its registry. -/
structure TypeId where
  value : UInt32
  deriving DecidableEq, Repr, Inhabited

namespace TypeId

/-- Eight upper-case hexadecimal digits. -/
def text (id : TypeId) : String :=
  "0x" ++ Text.upperHexOfWidth 8 id.value.toNat

/-- The tagged decimal number. -/
def detail (id : TypeId) : String :=
  Text.taggedText "HostTypeId" (toString id.value.toNat)

end TypeId

/-- The attributes of a host type, one bit each. -/
structure TypeFlags where
  /-- All bits, those without a meaning included. -/
  bits : UInt32
  deriving DecidableEq, Repr, Inhabited

namespace TypeFlags

def none : TypeFlags := ⟨0⟩

def interface : TypeFlags := ⟨0x1⟩

/-- The type cannot be derived from. -/
def final : TypeFlags := ⟨0x2⟩

/-- The type was generated by its registry as a proxy. -/
def generatedProxy : TypeFlags := ⟨0x100⟩

/-- Whether all bits of the second set are in the first. -/
def includes (flags part : TypeFlags) : Bool :=
  flags.bits &&& part.bits == part.bits

/-- The bits of either set. -/
def union (left right : TypeFlags) : TypeFlags :=
  ⟨left.bits ||| right.bits⟩

/-- The bits of the first set that are not in the second. -/
def without (flags part : TypeFlags) : TypeFlags :=
  ⟨flags.bits &&& ~~~part.bits⟩

/-- The attributes that have a name. -/
def named : List (String × TypeFlags) :=
  [("INTERFACE", interface), ("FINAL", final),
    ("GENERATED_PROXY", generatedProxy)]

/-- The named attributes, then the other bits as one number. -/
def text (flags : TypeFlags) : String :=
  let names := (named.filter fun entry => flags.includes entry.2).map (·.1)
  let others := named.foldl (fun rest entry => rest.without entry.2) flags
  if flags.bits = 0 then "0x0"
  else
    " | ".intercalate <|
      names ++
        if others.bits = 0 then [] else ["0x" ++ Text.hex others.bits.toNat]

end TypeFlags

/-- A host type with all its supertypes. -/
structure HostType where
  /-- The serial number of the registry that created the type. -/
  owner : Nat
  /-- The number within that registry. -/
  id : TypeId
  name : String
  base : Option HostType
  /-- The types it directly implements. -/
  interfaces : List HostType
  flags : TypeFlags

namespace HostType

/-- Whether two values stand for one and the same type. -/
def isSame (t u : HostType) : Bool :=
  t.owner == u.owner && t.name == u.name

/-- Whether two types agree in number and name, as types of different
registries may. -/
def looksLike (t u : HostType) : Bool :=
  t.id == u.id && t.name == u.name

def isInterface (t : HostType) : Bool :=
  t.flags.includes .interface

/-- The part of the name before its last point, empty if there is none. -/
def qualifier (t : HostType) : String :=
  match t.name.toList.reverse.dropWhile (· ≠ '.') with
  | [] => ""
  | _ :: rest => String.ofList rest.reverse

/-- The direct supertypes: the base first, then the interfaces. -/
def supertypes (t : HostType) : List HostType :=
  t.base.toList ++ t.interfaces

mutual

/-- Whether the type, or something it derives from, is as wanted.  The search
ends at the first such type. -/
def hasAncestor (wanted : HostType → Bool) : HostType → Bool
  | t@⟨_, _, _, base, interfaces, _⟩ =>
    wanted t || baseHasAncestor wanted base || anyHasAncestor wanted interfaces

/-- The same search from a base type, if there is one. -/
def baseHasAncestor (wanted : HostType → Bool) : Option HostType → Bool
  | none => false
  | some t => hasAncestor wanted t

/-- The same search from each listed type. -/
def anyHasAncestor (wanted : HostType → Bool) : List HostType → Bool
  | [] => false
  | t :: rest => hasAncestor wanted t || anyHasAncestor wanted rest

end

/-- Whether the type, or something it derives from, looks like the other. -/
def isAssignableTo (t u : HostType) : Bool :=
  t.hasAncestor (·.looksLike u)

/-- A type with its labelled fields; of the base only the name is shown. -/
def detail (t : HostType) : String :=
  Text.recordText "HostType"
    [("id", t.id.detail), ("name", Text.quoted t.name),
      ("base", Text.optionText (t.base.map fun base => Text.quoted base.name)),
      ("flags", Text.taggedText "HostTypeFlags" t.flags.text)]

private theorem anyHasAncestor_eq (wanted : HostType → Bool)
    (types : List HostType) :
    anyHasAncestor wanted types = types.any (hasAncestor wanted) := by
  induction types with
  | nil => simp [anyHasAncestor]
  | cons t rest ih => simp [anyHasAncestor, ih]

/-- A type has a wanted ancestor if it is wanted itself or a direct supertype
has one. -/
theorem hasAncestor_eq (wanted : HostType → Bool) (t : HostType) :
    t.hasAncestor wanted =
      (wanted t || t.supertypes.any (hasAncestor wanted)) := by
  obtain ⟨owner, id, name, base, interfaces, flags⟩ := t
  cases base <;>
    simp [hasAncestor, baseHasAncestor, anyHasAncestor_eq, supertypes,
      Bool.or_assoc]

end HostType

end ScriptHost
