import ScriptHost.Field.Value
import ScriptHost.Structure.Layout

/-!
# Instances of a layout

An instance stores the values of one object.  A primitive field with a bare
word keeps a value of its own kind there and leaves its object slot empty; any
other value goes into the object slot, and a mark says that the word does not
count.
-/

namespace ScriptHost

/-- The stored values of one object. -/
structure Instance where
  layout : Layout
  /-- The bare words. -/
  words : Array UInt64
  /-- For each word, whether the object slot counts instead. -/
  boxed : Array Bool
  objects : Array Value
  deriving DecidableEq, Repr

namespace Instance

/-- A fresh instance, all of whose fields are undefined. -/
def new (layout : Layout) : Instance where
  layout := layout
  words := Array.replicate layout.wordCount 0
  boxed := Array.replicate layout.wordCount true
  objects := Array.replicate layout.objectCount .undefined

/-- Where a field is stored, or the fault of an index outside the layout. -/
def slot (self : Instance) (index : Nat) : Except Fault FieldSlot :=
  match self.layout.slot? index with
  | some slot => .ok slot
  | none => .error (.fieldOutOfRange index self.layout.fieldCount)

/-- The index of the word that currently holds the value of a slot. -/
def liveWord? (self : Instance) (slot : FieldSlot) : Option Nat :=
  match slot.word with
  | some word => if self.boxed.getD word true then none else some word
  | none => none

/-- The value stored in a slot. -/
def read (self : Instance) (slot : FieldSlot) : Value :=
  match self.liveWord? slot with
  | some word => Value.ofWord slot.kind (self.words.getD word 0)
  | none => self.objects.getD slot.object .undefined

/-- Keeps a value as a bare word and empties the object slot. -/
def storeWord (self : Instance) (slot : FieldSlot) (word : Nat)
    (bits : UInt64) : Instance :=
  { self with
    words := self.words.setIfInBounds word bits
    boxed := self.boxed.setIfInBounds word false
    objects := self.objects.setIfInBounds slot.object .undefined }

/-- Keeps a value in the object slot and marks the word, if there is one, as
not counting. -/
def storeObject (self : Instance) (slot : FieldSlot) (value : Value) :
    Instance :=
  { self with
    boxed :=
      match slot.word with
      | some word => self.boxed.setIfInBounds word true
      | none => self.boxed
    objects := self.objects.setIfInBounds slot.object value }

/-- Stores a value in a slot. -/
def write (self : Instance) (slot : FieldSlot) (value : Value) : Instance :=
  match slot.word, value.word? slot.kind with
  | some word, some bits => self.storeWord slot word bits
  | _, _ => self.storeObject slot value

/-- The value of a field. -/
def get (self : Instance) (index : Nat) : Except Fault Value :=
  (self.slot index).map self.read

/-- The instance after a value is written to a field. -/
def set (self : Instance) (index : Nat) (value : Value) :
    Except Fault Instance :=
  (self.slot index).map (self.write · value)

/-- Whether a field is currently kept as a bare word. -/
def isUnboxed (self : Instance) (index : Nat) : Bool :=
  match self.layout.slot? index with
  | some slot => (self.liveWord? slot).isSome
  | none => false

/-- An instance with its labelled fields, bare words as unsigned numbers. -/
def detail (self : Instance) : String :=
  Text.recordText "LayoutInstance"
    [("layout", self.layout.detail),
      ("primitives",
        Text.listText (self.words.toList.map fun word => toString word.toNat)),
      ("boxed", Text.listText (self.boxed.toList.map fun mark => toString mark)),
      ("objects", Text.listText (self.objects.toList.map Value.detail))]

end Instance

end ScriptHost
