import ScriptHost.Proofs.Structure.SlotPlan
import ScriptHost.Structure.Instance

/-!
# Field storage as a plain array

An instance keeps its values in three arrays, and a mark decides for each word
whether it counts.  Seen through its fields it is nevertheless one array of
values: a write changes the field it is meant for and no other, in whichever
mode the layout was planned.
-/

namespace ScriptHost

/-- The kind that the variant of a value belongs to, if it has a bare word. -/
def Value.kind? : Value → Option FieldKind
  | int _ => some .int
  | long _ => some .long
  | double _ => some .double
  | _ => none

theorem Value.isSome_word?_iff {kind : FieldKind} {value : Value} :
    (value.word? kind).isSome = true ↔ value.kind? = some kind := by
  cases kind <;> cases value <;> simp [word?, kind?]

namespace Instance

/-! ## One slot -/

/-- The storage of a slot lies within the arrays. -/
structure Fits (held : Instance) (slot : FieldSlot) : Prop where
  object_lt : slot.object < held.objects.size
  word_lt : ∀ word, slot.word = some word →
    word < held.words.size ∧ word < held.boxed.size

/-- Two slots share no storage. -/
structure Apart (slot other : FieldSlot) : Prop where
  object_ne : slot.object ≠ other.object
  word_ne : ∀ word otherWord, slot.word = some word →
    other.word = some otherWord → word ≠ otherWord

variable {held : Instance} {slot other : FieldSlot}

/-- After a write the word counts if and only if the value has one. -/
theorem liveWord?_write (hfits : held.Fits slot) (value : Value) :
    (held.write slot value).liveWord? slot =
      if (value.word? slot.kind).isSome then slot.word else none := by
  cases hword : slot.word with
  | none => simp [liveWord?, hword]
  | some word =>
      have hin := (hfits.word_lt word hword).2
      cases hbits : value.word? slot.kind with
      | none => simp [write, storeObject, liveWord?, hword, hbits, hin]
      | some bits => simp [write, storeWord, liveWord?, hword, hbits, hin]

/-- A slot holds what was last written to it. -/
theorem read_write (hfits : held.Fits slot) (value : Value) :
    (held.write slot value).read slot = value := by
  rw [read, liveWord?_write hfits]
  have hobject := hfits.object_lt
  cases hbits : value.word? slot.kind with
  | none => simp [write, storeObject, hbits, hobject]
  | some bits =>
      cases hword : slot.word with
      | none => simp [write, storeObject, hword, hobject]
      | some word =>
          have hin := (hfits.word_lt word hword).1
          simp only [Option.isSome_some, if_true, write, hword, hbits,
            storeWord]
          rw [Array.getD_eq_getD_getElem?,
            Array.getElem?_setIfInBounds_self_of_lt hin, Option.getD_some]
          exact Value.ofWord_of_word? hbits

theorem liveWord?_write_of_apart (hapart : Apart slot other) (value : Value) :
    (held.write slot value).liveWord? other = held.liveWord? other := by
  cases hother : other.word with
  | none => simp [liveWord?, hother]
  | some otherWord =>
      cases hword : slot.word with
      | none => simp [write, storeObject, liveWord?, hword, hother]
      | some word =>
          have hne := hapart.word_ne word otherWord hword hother
          cases hbits : value.word? slot.kind with
          | none =>
              simp [write, storeObject, liveWord?, hword, hother, hbits, hne]
          | some bits =>
              simp [write, storeWord, liveWord?, hword, hother, hbits, hne]

/-- A write leaves every slot that shares no storage as it was. -/
theorem read_write_of_apart (hapart : Apart slot other) (value : Value) :
    (held.write slot value).read other = held.read other := by
  rw [read, read, liveWord?_write_of_apart hapart]
  have hobject := hapart.object_ne
  cases hlive : held.liveWord? other with
  | none =>
      cases hword : slot.word with
      | none => simp [write, storeObject, hword, hobject]
      | some word =>
          cases hbits : value.word? slot.kind with
          | none => simp [write, storeObject, hword, hbits, hobject]
          | some bits => simp [write, storeWord, hword, hbits, hobject]
  | some live =>
      have hlive : other.word = some live := by
        unfold liveWord? at hlive
        split at hlive
        next word hword =>
          split at hlive
          · cases hlive
          · exact hword.trans hlive
        next => cases hlive
      cases hword : slot.word with
      | none => simp [write, storeObject, hword]
      | some word =>
          have hne := hapart.word_ne word live hword hlive
          cases hbits : value.word? slot.kind with
          | none => simp [write, storeObject, hword, hbits]
          | some bits => simp [write, storeWord, hword, hbits, hne]

@[simp]
theorem layout_write (held : Instance) (slot : FieldSlot) (value : Value) :
    (held.write slot value).layout = held.layout := by
  unfold write
  split <;> rfl

theorem size_write (held : Instance) (slot : FieldSlot) (value : Value) :
    (held.write slot value).words.size = held.words.size ∧
      (held.write slot value).boxed.size = held.boxed.size ∧
      (held.write slot value).objects.size = held.objects.size := by
  unfold write
  split
  · simp [storeWord]
  · cases hword : slot.word <;> simp [storeObject, hword]

private theorem getD_replicate_self {α : Type} (count index : Nat)
    (value : α) : (Array.replicate count value).getD index value = value := by
  rw [Array.getD_eq_getD_getElem?, Array.getElem?_replicate]
  split <;> rfl

/-- No word of a fresh instance counts. -/
theorem liveWord?_new (layout : Layout) (slot : FieldSlot) :
    (new layout).liveWord? slot = none := by
  cases hword : slot.word with
  | none => simp [liveWord?, hword]
  | some word => simp only [liveWord?, hword, new, getD_replicate_self, if_true]

theorem read_new (layout : Layout) (slot : FieldSlot) :
    (new layout).read slot = .undefined := by
  rw [read, liveWord?_new]
  exact getD_replicate_self layout.objectCount slot.object Value.undefined

/-! ## All fields -/

/-- The instance holds the listed values in its fields. -/
structure Holds (held : Instance) (values : List Value) : Prop where
  planned : held.layout.Planned
  length_eq : values.length = held.layout.fieldCount
  words_size : held.words.size = held.layout.wordCount
  boxed_size : held.boxed.size = held.layout.wordCount
  objects_size : held.objects.size = held.layout.objectCount
  reads : ∀ index slot, held.layout.slot? index = some slot →
    values[index]? = some (held.read slot)
  live : ∀ index slot, held.layout.slot? index = some slot →
    held.liveWord? slot =
      if ((held.read slot).word? slot.kind).isSome then slot.word else none

variable {values : List Value}

theorem Holds.fits (hholds : held.Holds values) {index : Nat}
    (hslot : held.layout.slot? index = some slot) : held.Fits slot where
  object_lt := by
    rw [(hholds.planned.slot?_eq_some hslot).2.1, hholds.objects_size]
    exact Layout.slot?_lt hslot
  word_lt := by
    intro word hword
    rw [hholds.words_size, hholds.boxed_size]
    have hlt := hholds.planned.word_lt hslot hword
    exact ⟨hlt, hlt⟩

theorem Holds.apart (hholds : held.Holds values) {index otherIndex : Nat}
    (hslot : held.layout.slot? index = some slot)
    (hother : held.layout.slot? otherIndex = some other)
    (hne : index ≠ otherIndex) : Apart slot other where
  object_ne := by
    rw [(hholds.planned.slot?_eq_some hslot).2.1,
      (hholds.planned.slot?_eq_some hother).2.1]
    exact hne
  word_ne := by
    rintro word _ hword hotherWord rfl
    exact hne (hholds.planned.index_eq_of_word_eq hslot hother hword hotherWord)

/-- Two fields are one and the same or share no storage. -/
theorem Holds.same_or_apart (hholds : held.Holds values)
    {index otherIndex : Nat} (hslot : held.layout.slot? index = some slot)
    (hother : held.layout.slot? otherIndex = some other) :
    (index = otherIndex ∧ slot = other) ∨
      (index ≠ otherIndex ∧ Apart slot other) := by
  by_cases heq : index = otherIndex
  · subst heq
    exact Or.inl ⟨rfl, Option.some.inj (hslot.symm.trans hother)⟩
  · exact Or.inr ⟨heq, hholds.apart hslot hother heq⟩

/-- A fresh instance holds undefined values only. -/
theorem holds_new {layout : Layout} (hplanned : layout.Planned) :
    (new layout).Holds (List.replicate layout.fieldCount .undefined) where
  planned := hplanned
  length_eq := List.length_replicate
  words_size := Array.size_replicate
  boxed_size := Array.size_replicate
  objects_size := Array.size_replicate
  reads := by
    intro index slot hslot
    have hlt : index < layout.fieldCount := Layout.slot?_lt hslot
    rw [read_new, List.getElem?_replicate, if_pos hlt]
  live := by
    intro index slot _
    rw [read_new, liveWord?_new]
    cases slot.kind <;> rfl

/-- Writing a field writes the value of that position. -/
theorem Holds.write (hholds : held.Holds values) {index : Nat}
    (hslot : held.layout.slot? index = some slot) (value : Value) :
    (held.write slot value).Holds (values.set index value) := by
  have hfits := hholds.fits hslot
  have hread := read_write hfits value
  obtain ⟨hwords, hboxed, hobjects⟩ := size_write held slot value
  refine {
    planned := ?_
    length_eq := ?_
    words_size := ?_
    boxed_size := ?_
    objects_size := ?_
    reads := ?_
    live := ?_ }
  · rw [layout_write]
    exact hholds.planned
  · rw [List.length_set, layout_write]
    exact hholds.length_eq
  · rw [hwords, layout_write]
    exact hholds.words_size
  · rw [hboxed, layout_write]
    exact hholds.boxed_size
  · rw [hobjects, layout_write]
    exact hholds.objects_size
  · intro otherIndex other hother
    rw [layout_write] at hother
    obtain ⟨rfl, rfl⟩ | ⟨hne, hapart⟩ := hholds.same_or_apart hslot hother
    · rw [hread, List.getElem?_set_self]
      rw [hholds.length_eq]
      exact Layout.slot?_lt hslot
    · rw [read_write_of_apart hapart, List.getElem?_set_ne hne]
      exact hholds.reads otherIndex other hother
  · intro otherIndex other hother
    rw [layout_write] at hother
    obtain ⟨rfl, rfl⟩ | ⟨_, hapart⟩ := hholds.same_or_apart hslot hother
    · rw [hread]
      exact liveWord?_write hfits value
    · rw [read_write_of_apart hapart, liveWord?_write_of_apart hapart]
      exact hholds.live otherIndex other hother

end Instance

end ScriptHost
