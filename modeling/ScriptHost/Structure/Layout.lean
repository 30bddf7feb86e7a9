import ScriptHost.Action
import ScriptHost.Field.Shape
import ScriptHost.Namespace.Boundary
import ScriptHost.Structure.Mode

/-!
# Structure layouts

A layout assigns storage to the fields of a shape.  Every field has an object
slot at its own position.  In the dual mode the primitive fields also have a
bare word each, numbered in field order without gaps.

A generated layout is an object with an identity of its own: two layouts of
the same name and shape are still two layouts.  The identity is a stamp, made
of the number of whoever generates and a running number given by it.
-/

namespace ScriptHost

/-- Where one field is stored. -/
structure FieldSlot where
  kind : FieldKind
  /-- The index of its bare word, if it has one. -/
  word : Option Nat
  /-- The index of its object slot. -/
  object : Nat
  deriving DecidableEq, Repr

namespace FieldSlot

/-- Whether fields of a kind have a bare word in a mode. -/
def hasWord (mode : FieldMode) (kind : FieldKind) : Bool :=
  mode == .dual && kind.isPrimitive

/-- The slots of the given kinds, with the first word and object index. -/
def planFrom (mode : FieldMode) : Nat → Nat → List FieldKind → List FieldSlot
  | _, _, [] => []
  | word, object, kind :: kinds =>
    if hasWord mode kind then
      ⟨kind, some word, object⟩ :: planFrom mode (word + 1) (object + 1) kinds
    else
      ⟨kind, none, object⟩ :: planFrom mode word (object + 1) kinds

/-- The slots of a shape, in field order. -/
def plan (mode : FieldMode) (shape : Shape) : List FieldSlot :=
  planFrom mode 0 0 shape.kinds

end FieldSlot

/-- The identity of a generated layout. -/
structure Stamp where
  /-- The number of whoever generated the layout. -/
  origin : Nat
  /-- The running number it was given there. -/
  serial : Nat
  deriving DecidableEq, Repr, Inhabited

/-- A generated layout. -/
structure Layout where
  stamp : Stamp
  name : String
  shape : Shape
  mode : FieldMode
  slots : List FieldSlot
  home : Handle
  deriving DecidableEq, Repr

namespace Layout

/-- Whether two values stand for one and the same layout. -/
def isSame (left right : Layout) : Bool :=
  left.stamp == right.stamp

def fieldCount (layout : Layout) : Nat :=
  layout.slots.length

/-- Where a field is stored. -/
def slot? (layout : Layout) (index : Nat) : Option FieldSlot :=
  layout.slots[index]?

/-- The number of bare words of an instance. -/
def wordCount (layout : Layout) : Nat :=
  layout.slots.countP (·.word.isSome)

/-- The number of object slots of an instance. -/
def objectCount (layout : Layout) : Nat :=
  layout.slots.length

/-- The runtime packages that layouts of a mode refer to. -/
def requiredPackages : FieldMode → List String
  | .dual => [scriptsPackage, runtimePackage]
  | .single => [scriptsPackage]

/-- Checks that a boundary permits what layouts of a mode refer to. -/
def checkBoundary (mode : FieldMode) (boundary : Boundary) :
    Except GenerationFault Unit :=
  if !boundary.runtimeReads then .error .unreadableLayouts
  else
    match (requiredPackages mode).find? (!boundary.canAddress ·) with
    | some package => .error (.unreadablePackage package boundary.home)
    | none => .ok ()

/-- Generates the layout of a descriptor.  Faults of the descriptor are
reported under the name of the layout. -/
def generate (stamp : Stamp) (mode : FieldMode) (maxFields : Nat)
    (name descriptor : String) (boundary : Boundary) : Except Fault Layout :=
  match checkBoundary mode boundary with
  | .error fault => .error (.layoutGeneration name fault)
  | .ok () =>
    match Shape.read maxFields descriptor with
    | .error fault => .error (.layoutGeneration name (.shape fault))
    | .ok shape =>
      .ok ⟨stamp, name, shape, mode, FieldSlot.plan mode shape, boundary.home⟩

def detail (layout : Layout) : String :=
  Text.recordText "GeneratedLayout"
    [("name", Text.quoted layout.name), ("mode", layout.mode.detail),
      ("fields", toString layout.fieldCount),
      ("primitive_slots", toString layout.wordCount)]

end Layout

end ScriptHost
