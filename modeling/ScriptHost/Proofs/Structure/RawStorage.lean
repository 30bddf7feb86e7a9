import Mathlib.Data.List.Induction
import ScriptHost.Proofs.Structure.Copies

/-!
# The arrays of an instance

Reading a field cannot tell what a word that does not count is, nor what lies
in the object slot of a field that is kept as a bare word.  Yet both are
settled: a word is the one last written in the kind of its field, whatever
else was written later, and an object slot never keeps a value that its field
no longer has.
-/

namespace ScriptHost

/-! ## The last word -/

/-- The bare word that was last written to a field of a kind.  Writes of other
values do not count. -/
def lastWord? (kind : FieldKind) (history : List FieldCall) (index : Nat) :
    Option UInt64 :=
  history.reverse.findSome? fun call =>
    (call.written? index).bind (Value.word? kind)

theorem lastWord?_concat (kind : FieldKind) (history : List FieldCall)
    (call : FieldCall) (index : Nat) :
    lastWord? kind (history ++ [call]) index =
      ((call.written? index).bind (Value.word? kind)).or
        (lastWord? kind history index) := by
  rw [lastWord?, List.reverse_append, List.findSome?_append]
  exact congrArg (·.or (lastWord? kind history index)) List.findSome?_singleton

/-- The words of narrow integers leave the upper half empty. -/
theorem Value.word?_int_lt {value : Value} {word : UInt64}
    (hword : value.word? .int = some word) : word.toNat < UInt32.size := by
  cases value with
  | int n =>
      rw [← Option.some.inj hword, UInt32.toNat_toUInt64]
      exact n.toUInt32.toNat_lt
  | undefined | null | bool | long | double | str | ref => cases hword

theorem lastWord?_int_lt (history : List FieldCall) (index : Nat) :
    ((lastWord? .int history index).getD 0).toNat < UInt32.size := by
  cases hlast : lastWord? .int history index with
  | none => decide
  | some word =>
      obtain ⟨call, _, hcall⟩ := List.exists_of_findSome?_eq_some hlast
      obtain ⟨value, _, hword⟩ := Option.bind_eq_some_iff.mp hcall
      exact Value.word?_int_lt hword

namespace Instance

variable {held : Instance} {slot other : FieldSlot} {word : Nat}

/-! ## What a write does to the arrays -/

theorem words_write_of_word?_eq_none {value : Value}
    (hvalue : value.word? slot.kind = none) :
    (held.write slot value).words = held.words := by
  rw [write, hvalue]
  cases slot.word <;> rfl

theorem getElem?_words_write (hfits : held.Fits slot)
    (hword : slot.word = some word) (value : Value) :
    (held.write slot value).words[word]? =
      (value.word? slot.kind).or held.words[word]? := by
  cases hbits : value.word? slot.kind with
  | none => rw [words_write_of_word?_eq_none hbits, Option.none_or]
  | some bits =>
      have hin := (hfits.word_lt word hword).1
      simp [write, storeWord, hword, hbits, hin]

theorem getElem?_words_write_of_apart (hapart : Apart slot other)
    (hother : other.word = some word) (value : Value) :
    (held.write slot value).words[word]? = held.words[word]? := by
  cases hbits : value.word? slot.kind with
  | none => rw [words_write_of_word?_eq_none hbits]
  | some bits =>
      cases hword : slot.word with
      | none => simp [write, storeObject, hword]
      | some mine =>
          have hne := hapart.word_ne mine word hword hother
          simp [write, storeWord, hword, hbits, hne]

/-- A value that is kept as a bare word empties the object slot. -/
theorem getElem?_objects_write_of_live (hfits : held.Fits slot) {value : Value}
    (hlive : (held.write slot value).liveWord? slot = some word) :
    (held.write slot value).objects[slot.object]? = some .undefined := by
  rw [liveWord?_write hfits] at hlive
  have hobject := hfits.object_lt
  cases hbits : value.word? slot.kind with
  | none => simp [hbits] at hlive
  | some bits =>
      rw [hbits] at hlive
      have hword : slot.word = some word := hlive
      simp [write, storeWord, hword, hbits, hobject]

theorem getElem?_objects_write_of_apart (hapart : Apart slot other)
    (value : Value) :
    (held.write slot value).objects[other.object]? =
      held.objects[other.object]? := by
  have hne := hapart.object_ne
  cases hword : slot.word with
  | none => simp [write, storeObject, hword, hne]
  | some mine =>
      cases hbits : value.word? slot.kind with
      | none => simp [write, storeObject, hword, hbits, hne]
      | some bits => simp [write, storeWord, hword, hbits, hne]

/-! ## What holds of the arrays at every moment -/

/-- Every word is the last one of its field, and no object slot keeps anything
beside a word that counts. -/
structure Tidy (held : Instance) (history : List FieldCall) : Prop where
  word_eq : ∀ index slot word, held.layout.slot? index = some slot →
    slot.word = some word →
    held.words[word]? = some ((lastWord? slot.kind history index).getD 0)
  object_eq : ∀ index slot word, held.layout.slot? index = some slot →
    held.liveWord? slot = some word →
    held.objects[slot.object]? = some .undefined

theorem tidy_new {layout : Layout} (hplanned : layout.Planned) :
    (new layout).Tidy [] where
  word_eq index slot word hslot hword := by
    exact Array.getElem?_replicate.trans
      (if_pos (hplanned.word_lt hslot hword))
  object_eq index slot word _ hlive := by
    rw [liveWord?_new] at hlive
    cases hlive

variable {values : List Value} {history : List FieldCall}

/-- A call that writes nothing to any field keeps the arrays tidy. -/
theorem Tidy.concat (htidy : held.Tidy history) {call : FieldCall}
    (hcall : ∀ index slot, held.layout.slot? index = some slot →
      call.written? index = none) :
    held.Tidy (history ++ [call]) where
  word_eq index slot word hslot hword := by
    rw [lastWord?_concat, hcall index slot hslot]
    exact htidy.word_eq index slot word hslot hword
  object_eq := htidy.object_eq

theorem Tidy.write (htidy : held.Tidy history) (hholds : held.Holds values)
    {index : Nat} (hslot : held.layout.slot? index = some slot)
    (value : Value) :
    (held.write slot value).Tidy (history ++ [.set index value]) where
  word_eq otherIndex other word hother hword := by
    rw [layout_write] at hother
    rw [lastWord?_concat, FieldCall.written?]
    have hbefore := htidy.word_eq otherIndex other word hother hword
    obtain ⟨rfl, rfl⟩ | ⟨hne, hapart⟩ := hholds.same_or_apart hslot hother
    · rw [getElem?_words_write (hholds.fits hslot) hword, hbefore, if_pos rfl]
      cases hbits : value.word? slot.kind <;> simp [hbits]
    · rw [getElem?_words_write_of_apart hapart hword, if_neg hne]
      exact hbefore
  object_eq otherIndex other word hother hlive := by
    rw [layout_write] at hother
    obtain ⟨rfl, rfl⟩ | ⟨_, hapart⟩ := hholds.same_or_apart hslot hother
    · exact getElem?_objects_write_of_live (hholds.fits hslot) hlive
    · rw [liveWord?_write_of_apart hapart] at hlive
      rw [getElem?_objects_write_of_apart hapart]
      exact htidy.object_eq otherIndex other word hother hlive

/-- Whatever is done to a field, the arrays stay tidy. -/
theorem Tidy.perform (htidy : held.Tidy history) (hholds : held.Holds values)
    (call : FieldCall) :
    (call.perform held).state.Tidy (history ++ [call]) := by
  cases call with
  | get index => exact htidy.concat fun _ _ _ => rfl
  | set index value =>
      simp only [FieldCall.perform, set, Instance.slot]
      cases hslot : held.layout.slot? index with
      | some slot => exact htidy.write hholds hslot value
      | none =>
          apply htidy.concat
          intro other found hfound
          apply if_neg
          rintro rfl
          rw [hslot] at hfound
          cases hfound

theorem tidy_after {layout : Layout} (hplanned : layout.Planned)
    (history : List FieldCall) :
    ((new layout).after history).Tidy history := by
  -- From the end: the last word of a field is the one the last call wrote, or
  -- else the one it had before that call.
  induction history using List.reverseRecOn with
  | nil => exact tidy_new hplanned
  | append_singleton history call ih =>
      have hholds := (holds_new hplanned).after history
      rw [after, List.foldl_append]
      exact ih.perform hholds call

/-! ## Reading the arrays -/

variable {index : Nat} {bits : UInt64}

theorem get_of_slot? (hslot : held.layout.slot? index = some slot) :
    held.get index = .ok (held.read slot) := by
  rw [get, Instance.slot, hslot]
  rfl

theorem set_of_slot? (hslot : held.layout.slot? index = some slot)
    (value : Value) : held.set index value = .ok (held.write slot value) := by
  rw [set, Instance.slot, hslot]
  rfl

theorem liveWord?_of_unmarked (hword : slot.word = some word)
    (hmark : held.boxed[word]? = some false) :
    held.liveWord? slot = some word := by
  simp [liveWord?, hword, Array.getD_eq_getD_getElem?, hmark]

theorem read_of_live (hlive : held.liveWord? slot = some word)
    (hbits : held.words[word]? = some bits) :
    held.read slot = Value.ofWord slot.kind bits := by
  simp [read, hlive, Array.getD_eq_getD_getElem?, hbits]

/-- A word that counts stands for the value last written to its field. -/
theorem Holds.lastWritten?_of_live {count : Nat}
    (hholds : held.Holds
      (arrayAfter (List.replicate count .undefined) history))
    (hcount : index < count) (hslot : held.layout.slot? index = some slot)
    (hlive : held.liveWord? slot = some word) :
    lastWritten? history index = some (held.read slot) := by
  have hmatches : ((held.read slot).word? slot.kind).isSome = true := by
    by_contra hnot
    have hnone := hholds.live index slot hslot
    rw [hlive, if_neg hnot] at hnone
    cases hnone
  have hlast := (getElem?_fresh_of_kind_iff hcount history).mp
    ⟨hholds.reads index slot hslot, Value.isSome_word?_iff.mp hmatches⟩
  exact hlast.1

/-- An object slot that is not empty holds the value of its field. -/
theorem Tidy.eq_undefined_or_get_eq (htidy : held.Tidy history)
    (hholds : held.Holds values) {value : Value}
    (hvalue : held.objects[index]? = some value) :
    value = .undefined ∨ held.get index = .ok value := by
  have hlt : index < held.layout.slots.length := by
    have hin := (Array.getElem?_eq_some_iff.mp hvalue).1
    rw [hholds.objects_size] at hin
    exact hin
  have hslot : held.layout.slot? index = some held.layout.slots[index] :=
    List.getElem?_eq_getElem hlt
  have hobject := (hholds.planned.slot?_eq_some hslot).2.1
  cases hlive : held.liveWord? held.layout.slots[index] with
  | some word =>
      left
      have hempty := htidy.object_eq index _ word hslot hlive
      rw [hobject, hvalue] at hempty
      exact Option.some.inj hempty
  | none =>
      right
      rw [get_of_slot? hslot]
      simp [read, hlive, hobject, Array.getD_eq_getD_getElem?, hvalue]

end Instance

/-- The arrays of an object follow from what was written to it, also after
copies were made and writes were refused.  They have the lengths that the
layout gives them, which for words and marks is zero in the single mode, and an
object slot that is not empty holds the present value of its field.  In the
dual mode each primitive field has a word.  It is the one last written in the
kind of the field, so that other values leave it as it was, and in a field of
narrow integers its upper half is empty; if it is not marked as not counting,
it stands for the value last written and the object slot is empty. -/
theorem raw_storage_follows_writes {stamp : Stamp} {mode : FieldMode}
    {maxFields : Nat} {name descriptor : String} {boundary : Boundary}
    {layout : Layout}
    (hlayout : Layout.generate stamp mode maxFields name descriptor boundary =
      .ok layout)
    {calls : List ObjectCall} {which : Nat} {held : Instance}
    (hheld : (layout.objectsAfter calls)[which]? = some held) :
    held.words.size = layout.wordCount ∧
    held.boxed.size = layout.wordCount ∧
    held.objects.size = layout.objectCount ∧
    (mode = .single → held.words = #[] ∧ held.boxed = #[]) ∧
    (∀ index value, held.objects[index]? = some value →
      value = .undefined ∨ held.get index = .ok value) ∧
    ∃ history, (historiesAfter calls)[which]? = some history ∧
      ∀ index slot, layout.slot? index = some slot → mode = .dual →
        slot.kind.isPrimitive = true →
        ∃ word bits, slot.word = some word ∧
          held.words[word]? = some bits ∧
          bits = (lastWord? slot.kind history index).getD 0 ∧
          (held.boxed[word]? = some false →
            held.objects[slot.object]? = some .undefined ∧
            lastWritten? history index =
              some (Value.ofWord slot.kind bits)) ∧
          (slot.kind = .int → bits.toNat < UInt32.size) ∧
          ∀ value, value.kind? ≠ some slot.kind →
            ∃ next, held.set index value = .ok next ∧
              next.words[word]? = some bits := by
  obtain ⟨hplanned, hmode, _⟩ := Layout.planned_of_generate hlayout
  subst hmode
  obtain ⟨history, hhistory, hafter, hholds⟩ := hplanned.exists_history hheld
  have htidy : held.Tidy history :=
    hafter ▸ Instance.tidy_after hplanned history
  have hof : held.layout = layout := by
    rw [← hafter, Instance.layout_after]
    rfl
  subst hof
  refine ⟨hholds.words_size, hholds.boxed_size, hholds.objects_size, ?_,
    fun index value => htidy.eq_undefined_or_get_eq hholds, history, hhistory,
    ?_⟩
  · intro hsingle
    have hnone := hplanned.wordCount_of_single hsingle
    exact ⟨Array.size_eq_zero_iff.mp (hholds.words_size.trans hnone),
      Array.size_eq_zero_iff.mp (hholds.boxed_size.trans hnone)⟩
  · intro index slot hslot hdual hprimitive
    obtain ⟨word, hword⟩ := Option.isSome_iff_exists.mp
      ((hplanned.isSome_word_iff (List.mem_of_getElem? hslot)).mpr
        ⟨hdual, hprimitive⟩)
    have hbits := htidy.word_eq index slot word hslot hword
    refine ⟨word, _, hword, hbits, rfl, ?_, ?_, ?_⟩
    · intro hmark
      have hlive := Instance.liveWord?_of_unmarked hword hmark
      refine ⟨htidy.object_eq index slot word hslot hlive, ?_⟩
      rw [← Instance.read_of_live hlive hbits]
      exact hholds.lastWritten?_of_live (Layout.slot?_lt hslot) hslot hlive
    · intro hint
      rw [hint]
      exact lastWord?_int_lt history index
    · intro value hvalue
      have hother : value.word? slot.kind = none := by
        rw [← Option.not_isSome_iff_eq_none, Value.isSome_word?_iff]
        exact hvalue
      refine ⟨_, Instance.set_of_slot? hslot value, ?_⟩
      rw [Instance.words_write_of_word?_eq_none hother]
      exact hbits

/-- A number, a copy of the object, and a text in place of the number. -/
def textAfterNumber : List ObjectCall :=
  [.set 0 1 (.int (-7)), .copy 0, .set 0 1 (.str "seven")]

/-- The word of a number stays behind, without counting, when a text takes its
place.  In the copy that was made before the word counts, and nothing lies in
the object slot beside it. -/
theorem word_left_behind_by_text :
    ∃ written copied,
      mixedLayout.objectsAfter textAfterNumber = [written, copied] ∧
      written.get 1 = .ok (.str "seven") ∧
      written.words[0]? = some 4294967289 ∧
      copied.get 1 = .ok (.int (-7)) ∧
      copied.boxed[0]? = some false ∧
      copied.objects[1]? = some .undefined := by
  have hwritten : (mixedLayout.objectsAfter textAfterNumber)[0]? =
      some _ := rfl
  have hcopied : (mixedLayout.objectsAfter textAfterNumber)[1]? =
      some _ := rfl
  have hslot : mixedLayout.slot? 1 = some ⟨.int, some 0, 1⟩ := rfl
  obtain ⟨_, _, _, _, _, _, hhistory, hfields⟩ :=
    raw_storage_follows_writes mixedLayout_generated hwritten
  obtain ⟨_, _, hword, hbits, rfl, _⟩ := hfields 1 _ hslot rfl rfl
  cases hword
  cases hhistory
  obtain ⟨_, _, _, _, _, _, _, hcopiedFields⟩ :=
    raw_storage_follows_writes mixedLayout_generated hcopied
  obtain ⟨_, _, hcopiedWord, _, _, hunmarked, _⟩ :=
    hcopiedFields 1 _ hslot rfl rfl
  cases hcopiedWord
  exact ⟨_, _, rfl, rfl, hbits, rfl, rfl, (hunmarked rfl).1⟩

end ScriptHost
