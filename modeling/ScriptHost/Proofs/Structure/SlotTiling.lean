import ScriptHost.Proofs.Field.Descriptor
import ScriptHost.Proofs.Structure.Copies

/-!
# Slots tile the storage

Every bare word and every object slot of an instance belongs to exactly one
field, and the fields use no others.  The accesses to fields are therefore
safe: they come out the same if each of them is made to break off at an index
that lies beyond the array it is used on.
-/

namespace ScriptHost

/-! ## Accesses that break off beyond an array -/

/-- An array with one place replaced, if there is such a place. -/
def replace? {α : Type} (items : Array α) (index : Nat) (item : α) :
    Option (Array α) :=
  if index < items.size then some (items.setIfInBounds index item) else none

namespace Instance

/-- Reads a slot, and breaks off at an index beyond an array. -/
def strictRead (held : Instance) (slot : FieldSlot) : Option Value :=
  match slot.word with
  | none => held.objects[slot.object]?
  | some word => do
    let mark ← held.boxed[word]?
    -- A word that does not count is not looked up at all.
    if mark then held.objects[slot.object]?
    else
      let bits ← held.words[word]?
      return Value.ofWord slot.kind bits

/-- Writes a slot, and breaks off at an index beyond an array. -/
def strictWrite (held : Instance) (slot : FieldSlot) (value : Value) :
    Option Instance :=
  match slot.word, value.word? slot.kind with
  | some word, some bits => do
    let words ← replace? held.words word bits
    let boxed ← replace? held.boxed word false
    let objects ← replace? held.objects slot.object .undefined
    return { held with words, boxed, objects }
  | some word, none => do
    let boxed ← replace? held.boxed word true
    let objects ← replace? held.objects slot.object value
    return { held with boxed, objects }
  | none, _ => do
    let objects ← replace? held.objects slot.object value
    return { held with objects }

/-- Makes an access to a field, unless the access breaks off.  An index beyond
the fields is a fault, as it always is. -/
def strictly {α : Type} (held : Instance) (index : Nat)
    (access : FieldSlot → Option α) : Option (Except Fault α) :=
  match held.slot index with
  | .ok slot => (access slot).map .ok
  | .error fault => some (.error fault)

def strictGet (held : Instance) (index : Nat) : Option (Except Fault Value) :=
  held.strictly index held.strictRead

def strictSet (held : Instance) (index : Nat) (value : Value) :
    Option (Except Fault Instance) :=
  held.strictly index (held.strictWrite · value)

def strictUnboxed (held : Instance) (index : Nat) : Option Bool :=
  match (held.layout.slot? index).bind (·.word) with
  | some word => held.boxed[word]?.map (!·)
  | none => some false

variable {held : Instance} {slot : FieldSlot} {values : List Value}

theorem strictRead_of_fits (hfits : held.Fits slot) :
    held.strictRead slot = some (held.read slot) := by
  have hobject := hfits.object_lt
  cases hword : slot.word with
  | none => simp [strictRead, read, liveWord?, hword, hobject]
  | some word =>
      obtain ⟨hwords, hboxed⟩ := hfits.word_lt word hword
      cases hmark : held.boxed[word] <;>
        simp [strictRead, read, liveWord?, hword, hobject, hwords, hboxed,
          hmark]

theorem strictWrite_of_fits (hfits : held.Fits slot) (value : Value) :
    held.strictWrite slot value = some (held.write slot value) := by
  have hobject := hfits.object_lt
  cases hword : slot.word with
  | none => simp [strictWrite, write, storeObject, hword, replace?, hobject]
  | some word =>
      obtain ⟨hwords, hboxed⟩ := hfits.word_lt word hword
      cases hbits : value.word? slot.kind with
      | none =>
          simp [strictWrite, write, storeObject, hword, hbits, replace?,
            hboxed, hobject]
      | some bits =>
          simp [strictWrite, write, storeWord, hword, hbits, replace?, hwords,
            hboxed, hobject]

/-- An access that does not break off at slots whose storage lies within the
arrays does not break off at any index. -/
theorem Holds.strictly_eq (hholds : held.Holds values) {α : Type}
    {access : FieldSlot → α} {strict : FieldSlot → Option α}
    (hstrict : ∀ slot, held.Fits slot → strict slot = some (access slot))
    (index : Nat) :
    held.strictly index strict = some ((held.slot index).map access) := by
  rw [strictly, Instance.slot]
  cases hslot : held.layout.slot? index with
  | none => rfl
  | some slot =>
      simp only [hstrict slot (hholds.fits hslot)]
      rfl

theorem Holds.strictGet_eq (hholds : held.Holds values) (index : Nat) :
    held.strictGet index = some (held.get index) :=
  hholds.strictly_eq (fun _ hfits => strictRead_of_fits hfits) index

theorem Holds.strictSet_eq (hholds : held.Holds values) (index : Nat)
    (value : Value) :
    held.strictSet index value = some (held.set index value) :=
  hholds.strictly_eq (fun _ hfits => strictWrite_of_fits hfits value) index

theorem Holds.strictUnboxed_eq (hholds : held.Holds values) (index : Nat) :
    held.strictUnboxed index = some (held.isUnboxed index) := by
  rw [strictUnboxed, isUnboxed]
  cases hslot : held.layout.slot? index with
  | none => rfl
  | some slot =>
      cases hword : slot.word with
      | none => simp [liveWord?, hword]
      | some word =>
          have hboxed := ((hholds.fits hslot).word_lt word hword).2
          cases hmark : held.boxed[word] <;>
            simp [liveWord?, hword, hboxed, hmark]

end Instance

/-! ## Each place has one field -/

namespace Layout

variable {layout : Layout}

theorem Planned.existsUnique_of_word (hplanned : layout.Planned) {word : Nat}
    (hword : word < layout.wordCount) :
    ∃! index, ∃ slot, layout.slot? index = some slot ∧
      slot.word = some word := by
  obtain ⟨index, slot, hslot, hof⟩ := hplanned.exists_of_word_lt hword
  refine ⟨index, ⟨slot, hslot, hof⟩, ?_⟩
  rintro other ⟨otherSlot, hother, hotherOf⟩
  exact hplanned.index_eq_of_word_eq hother hslot hotherOf hof

theorem Planned.existsUnique_of_object (hplanned : layout.Planned)
    {object : Nat} (hobject : object < layout.objectCount) :
    ∃! index, ∃ slot, layout.slot? index = some slot ∧
      slot.object = object := by
  have hslot : layout.slot? object = some (layout.slots[object]) :=
    List.getElem?_eq_getElem hobject
  refine ⟨object, ⟨_, hslot, (hplanned.slot?_eq_some hslot).2.1⟩, ?_⟩
  rintro index ⟨slot, hindex, rfl⟩
  exact (hplanned.slot?_eq_some hindex).2.1.symm

/-- Every field has the kind that its character stands for and the object slot
of its own position. -/
theorem Planned.map_slot? (hplanned : layout.Planned) {descriptor : String}
    (hshape : layout.shape.descriptor = descriptor) (index : Nat) :
    (layout.slot? index).map (fun slot => (slot.kind.token, slot.object)) =
      descriptor.toList[index]?.map fun token => (token, index) := by
  rw [hplanned.slot?_eq, ← hshape, Shape.descriptor, String.toList_ofList,
    List.getElem?_map, Option.map_map, Option.map_map]
  rfl

end Layout

/-- The slots of a layout tile the storage of its instances.  The fields follow
the characters of the descriptor, each with the object slot of its own
position; in the dual mode the primitive ones have the bare words 0, 1, 2 and
so on in field order, and no other field has one.  There are as many words as
the descriptor has primitive fields, or none in the single mode, and as many
object slots as fields, and each of them belongs to exactly one field.  So no
access to a field breaks off at an index beyond an array, whatever was written
to the object before and however often it was copied. -/
theorem slot_plan_tiles_storage {stamp : Stamp} {mode : FieldMode}
    {maxFields : Nat} {name descriptor : String} {boundary : Boundary}
    {layout : Layout}
    (hlayout : Layout.generate stamp mode maxFields name descriptor boundary =
      .ok layout) :
    (∀ index,
      (layout.slot? index).map (fun slot => (slot.kind.token, slot.object)) =
        descriptor.toList[index]?.map fun token => (token, index)) ∧
    layout.slots.filterMap (·.word) = List.range layout.wordCount ∧
    (∀ slot ∈ layout.slots, slot.word.isSome = true ↔
      mode = .dual ∧ slot.kind.isPrimitive = true) ∧
    Shape.ofDescriptor maxFields descriptor = .ok layout.shape ∧
    layout.shape.primitiveCount =
      descriptor.toList.countP (· ∈ ['I', 'J', 'D']) ∧
    (mode = .dual → layout.wordCount = layout.shape.primitiveCount) ∧
    (mode = .single → layout.wordCount = 0) ∧
    layout.objectCount = descriptor.length ∧
    layout.fieldCount = descriptor.length ∧
    (∀ word < layout.wordCount, ∃! index, ∃ slot,
      layout.slot? index = some slot ∧ slot.word = some word) ∧
    (∀ object < layout.objectCount, ∃! index, ∃ slot,
      layout.slot? index = some slot ∧ slot.object = object) ∧
    ∀ calls, ∀ held ∈ layout.objectsAfter calls, ∀ index,
      held.strictGet index = some (held.get index) ∧
      (∀ value, held.strictSet index value = some (held.set index value)) ∧
      held.strictUnboxed index = some (held.isUnboxed index) := by
  obtain ⟨hplanned, hmode, hshape⟩ := Layout.planned_of_generate hlayout
  have hread := Layout.read_of_generate hlayout
  have hcount : layout.fieldCount = descriptor.length :=
    hplanned.fieldCount_eq.trans (Shape.size_eq_length hshape)
  subst hmode
  refine ⟨hplanned.map_slot? hshape, hplanned.filterMap_word,
    fun _ => hplanned.isSome_word_iff, Shape.ofDescriptor_eq_ok_iff.mpr hread,
    Shape.primitiveCount_eq_countP hshape, hplanned.wordCount_of_dual,
    hplanned.wordCount_of_single, hcount, hcount,
    fun _ => hplanned.existsUnique_of_word,
    fun _ => hplanned.existsUnique_of_object, ?_⟩
  intro calls held hheld index
  obtain ⟨which, hwhich⟩ := List.mem_iff_getElem?.mp hheld
  obtain ⟨_, _, _, hholds⟩ := hplanned.exists_history hwhich
  exact ⟨hholds.strictGet_eq index, hholds.strictSet_eq index,
    hholds.strictUnboxed_eq index⟩

/-- The primitive fields of the mixed layout have the words 0 and 1, and a
number written to the copy of an object is read from the first. -/
theorem number_read_from_word_of_copy :
    mixedLayout.slots.filterMap (·.word) = [0, 1] ∧
      ∃ copied ∈ mixedLayout.objectsAfter [.copy 0, .set 1 1 (.int (-7))],
        copied.strictUnboxed 1 = some true ∧
          copied.strictGet 1 = some (.ok (.int (-7))) := by
  obtain ⟨_, hwords, _, _, _, _, _, _, _, _, _, hstrict⟩ :=
    slot_plan_tiles_storage mixedLayout_generated
  have hcopied : (mixedLayout.objectsAfter
      [.copy 0, .set 1 1 (.int (-7))])[1]? = some _ := rfl
  have hmem := List.mem_of_getElem? hcopied
  obtain ⟨hget, _, hunboxed⟩ := hstrict _ _ hmem 1
  exact ⟨hwords, _, hmem, hunboxed, hget⟩

end ScriptHost
