import ScriptHost.Proofs.Structure.Synthesizer

/-!
# The slots of a layout

Every field has the object slot of its own position.  The fields with a bare
word have the words 0, 1, 2 and so on in field order, so no storage index is
shared and none lies outside an instance.
-/

namespace ScriptHost

namespace FieldSlot

/-- The number of fields before a position that have a bare word. -/
def wordsBefore (mode : FieldMode) (kinds : List FieldKind) (index : Nat) :
    Nat :=
  (kinds.take index).countP (hasWord mode)

theorem getElem?_planFrom (mode : FieldMode) (word object : Nat)
    (kinds : List FieldKind) (index : Nat) :
    (planFrom mode word object kinds)[index]? =
      kinds[index]?.map fun kind =>
        ⟨kind,
          if hasWord mode kind then some (word + wordsBefore mode kinds index)
          else none,
          object + index⟩ := by
  induction kinds generalizing word object index with
  | nil => rfl
  | cons first rest ih =>
      cases index with
      | zero =>
          rw [planFrom]
          split <;> simp_all [wordsBefore]
      | succ index =>
          have hobject : object + 1 + index = object + (index + 1) := by omega
          rw [planFrom]
          by_cases hfirst : hasWord mode first = true
          · have hword : word + 1 + wordsBefore mode rest index =
                word + wordsBefore mode (first :: rest) (index + 1) := by
              simp only [wordsBefore, List.take_succ_cons,
                List.countP_cons_of_pos hfirst]
              omega
            rw [if_pos hfirst, List.getElem?_cons_succ,
              List.getElem?_cons_succ, ih, hword, hobject]
          · have hword : wordsBefore mode rest index =
                wordsBefore mode (first :: rest) (index + 1) := by
              simp only [wordsBefore, List.take_succ_cons,
                List.countP_cons_of_neg hfirst]
            rw [if_neg hfirst, List.getElem?_cons_succ,
              List.getElem?_cons_succ, ih, hword, hobject]

/-- The slot at a position says the kind of the field, its word if it has one,
and the position itself. -/
theorem getElem?_plan (mode : FieldMode) (shape : Shape) (index : Nat) :
    (plan mode shape)[index]? =
      shape.kinds[index]?.map fun kind =>
        ⟨kind,
          if hasWord mode kind then some (wordsBefore mode shape.kinds index)
          else none,
          index⟩ := by
  rw [plan, getElem?_planFrom]
  simp only [Nat.zero_add]

theorem length_planFrom (mode : FieldMode) (word object : Nat)
    (kinds : List FieldKind) :
    (planFrom mode word object kinds).length = kinds.length := by
  induction kinds generalizing word object with
  | nil => rfl
  | cons kind rest ih =>
      rw [planFrom]
      split <;> rw [List.length_cons, List.length_cons, ih]

theorem countP_planFrom (mode : FieldMode) (word object : Nat)
    (kinds : List FieldKind) :
    (planFrom mode word object kinds).countP (·.word.isSome) =
      kinds.countP (hasWord mode) := by
  induction kinds generalizing word object with
  | nil => rfl
  | cons kind rest ih =>
      rw [planFrom]
      split
      next hword =>
        rw [List.countP_cons_of_pos rfl, List.countP_cons_of_pos hword, ih]
      next hword =>
        rw [List.countP_cons_of_neg Bool.false_ne_true,
          List.countP_cons_of_neg hword, ih]

/-- The bare words of the slots are numbered on without gaps. -/
theorem filterMap_word_planFrom (mode : FieldMode) (word object : Nat)
    (kinds : List FieldKind) :
    (planFrom mode word object kinds).filterMap (·.word) =
      List.range' word (kinds.countP (hasWord mode)) := by
  induction kinds generalizing word object with
  | nil => rfl
  | cons kind rest ih =>
      rw [planFrom]
      split
      next hword =>
        simp only [List.filterMap_cons, List.countP_cons_of_pos hword, ih,
          List.range'_succ]
      next hword =>
        simp only [List.filterMap_cons, List.countP_cons_of_neg hword, ih]

/-- A field with a bare word raises the count for all later fields. -/
theorem wordsBefore_lt {mode : FieldMode} {kinds : List FieldKind}
    {index later : Nat} {kind : FieldKind} (hkind : kinds[index]? = some kind)
    (hword : hasWord mode kind = true) (hlater : index < later) :
    wordsBefore mode kinds index < wordsBefore mode kinds later := by
  have hstep : wordsBefore mode kinds (index + 1) =
      wordsBefore mode kinds index + 1 := by
    simp only [wordsBefore, List.take_add_one, hkind, Option.toList_some,
      List.countP_append, List.countP_cons_of_pos hword, List.countP_nil]
  have hmono : wordsBefore mode kinds (index + 1) ≤
      wordsBefore mode kinds later :=
    (List.take_sublist_take_left hlater).countP_le
  omega

theorem wordsBefore_le (mode : FieldMode) (kinds : List FieldKind)
    (index : Nat) : wordsBefore mode kinds index ≤ kinds.countP (hasWord mode) :=
  (List.take_sublist index kinds).countP_le

end FieldSlot

namespace Layout

def Planned (layout : Layout) : Prop :=
  layout.slots = FieldSlot.plan layout.mode layout.shape

theorem planned_of_generate {stamp : Stamp} {mode : FieldMode}
    {maxFields : Nat} {name descriptor : String} {boundary : Boundary}
    {layout : Layout}
    (hlayout : generate stamp mode maxFields name descriptor boundary =
      .ok layout) :
    layout.Planned ∧ layout.mode = mode ∧
      layout.shape.descriptor = descriptor := by
  obtain ⟨_, shape, hread, rfl⟩ := generate_eq_ok_iff.mp hlayout
  exact ⟨rfl, rfl, Shape.descriptor_of_read hread⟩

theorem read_of_generate {stamp : Stamp} {mode : FieldMode}
    {maxFields : Nat} {name descriptor : String} {boundary : Boundary}
    {layout : Layout}
    (hlayout : generate stamp mode maxFields name descriptor boundary =
      .ok layout) :
    Shape.read maxFields descriptor = .ok layout.shape := by
  obtain ⟨_, shape, hread, rfl⟩ := generate_eq_ok_iff.mp hlayout
  exact hread

variable {layout : Layout}

theorem Planned.slot?_eq (hplanned : layout.Planned) (index : Nat) :
    layout.slot? index =
      layout.shape.kinds[index]?.map fun kind =>
        ⟨kind,
          if FieldSlot.hasWord layout.mode kind then
            some (FieldSlot.wordsBefore layout.mode layout.shape.kinds index)
          else none,
          index⟩ := by
  rw [slot?, hplanned, FieldSlot.getElem?_plan]

theorem Planned.fieldCount_eq (hplanned : layout.Planned) :
    layout.fieldCount = layout.shape.size := by
  rw [fieldCount, hplanned]
  exact FieldSlot.length_planFrom layout.mode 0 0 layout.shape.kinds

theorem Planned.wordCount_eq (hplanned : layout.Planned) :
    layout.wordCount =
      layout.shape.kinds.countP (FieldSlot.hasWord layout.mode) := by
  rw [wordCount, hplanned]
  exact FieldSlot.countP_planFrom layout.mode 0 0 layout.shape.kinds

/-- A slot of the layout, with all that it says. -/
theorem Planned.slot?_eq_some (hplanned : layout.Planned) {index : Nat}
    {slot : FieldSlot} (hslot : layout.slot? index = some slot) :
    layout.shape.kinds[index]? = some slot.kind ∧ slot.object = index ∧
      slot.word =
        if FieldSlot.hasWord layout.mode slot.kind then
          some (FieldSlot.wordsBefore layout.mode layout.shape.kinds index)
        else none := by
  rw [hplanned.slot?_eq, Option.map_eq_some_iff] at hslot
  obtain ⟨kind, hkind, rfl⟩ := hslot
  exact ⟨hkind, rfl, rfl⟩

theorem Planned.word_eq_some (hplanned : layout.Planned) {index word : Nat}
    {slot : FieldSlot} (hslot : layout.slot? index = some slot)
    (hword : slot.word = some word) :
    layout.shape.kinds[index]? = some slot.kind ∧
      FieldSlot.hasWord layout.mode slot.kind = true ∧
      word = FieldSlot.wordsBefore layout.mode layout.shape.kinds index := by
  obtain ⟨hkind, _, hplan⟩ := hplanned.slot?_eq_some hslot
  rw [hword] at hplan
  split at hplan
  next hhas => exact ⟨hkind, hhas, Option.some.inj hplan⟩
  next => cases hplan

/-- No two fields share a bare word. -/
theorem Planned.index_eq_of_word_eq (hplanned : layout.Planned)
    {index other word : Nat} {slot otherSlot : FieldSlot}
    (hslot : layout.slot? index = some slot)
    (hother : layout.slot? other = some otherSlot)
    (hword : slot.word = some word) (hotherWord : otherSlot.word = some word) :
    index = other := by
  obtain ⟨hkind, hhas, rfl⟩ := hplanned.word_eq_some hslot hword
  obtain ⟨hotherKind, hotherHas, hcount⟩ :=
    hplanned.word_eq_some hother hotherWord
  rcases Nat.lt_trichotomy index other with hlt | heq | hgt
  · have := FieldSlot.wordsBefore_lt hkind hhas hlt
    omega
  · exact heq
  · have := FieldSlot.wordsBefore_lt hotherKind hotherHas hgt
    omega

/-- Every bare word lies within an instance. -/
theorem Planned.word_lt (hplanned : layout.Planned) {index word : Nat}
    {slot : FieldSlot} (hslot : layout.slot? index = some slot)
    (hword : slot.word = some word) : word < layout.wordCount := by
  obtain ⟨hkind, hhas, rfl⟩ := hplanned.word_eq_some hslot hword
  have hlt := FieldSlot.wordsBefore_lt hkind hhas (Nat.lt_add_one index)
  have hle := FieldSlot.wordsBefore_le layout.mode layout.shape.kinds
    (index + 1)
  rw [hplanned.wordCount_eq]
  omega

theorem Planned.filterMap_word (hplanned : layout.Planned) :
    layout.slots.filterMap (·.word) = List.range layout.wordCount := by
  rw [hplanned.wordCount_eq, hplanned, List.range_eq_range']
  exact FieldSlot.filterMap_word_planFrom layout.mode 0 0 layout.shape.kinds

/-- Every bare word of an instance belongs to a field. -/
theorem Planned.exists_of_word_lt (hplanned : layout.Planned) {word : Nat}
    (hword : word < layout.wordCount) :
    ∃ index slot, layout.slot? index = some slot ∧ slot.word = some word := by
  have hmem : word ∈ layout.slots.filterMap (·.word) := by
    rw [hplanned.filterMap_word]
    exact List.mem_range.mpr hword
  obtain ⟨slot, hslot, hof⟩ := List.mem_filterMap.mp hmem
  obtain ⟨index, hindex⟩ := List.mem_iff_getElem?.mp hslot
  exact ⟨index, slot, hindex, hof⟩

/-- The fields with a bare word are the primitive ones of the dual mode. -/
theorem Planned.isSome_word_iff (hplanned : layout.Planned) {slot : FieldSlot}
    (hslot : slot ∈ layout.slots) :
    slot.word.isSome = true ↔
      layout.mode = .dual ∧ slot.kind.isPrimitive = true := by
  obtain ⟨index, hindex⟩ := List.mem_iff_getElem?.mp hslot
  rw [(hplanned.slot?_eq_some hindex).2.2]
  simp [FieldSlot.hasWord]

theorem Planned.wordCount_of_dual (hplanned : layout.Planned)
    (hmode : layout.mode = .dual) :
    layout.wordCount = layout.shape.primitiveCount := by
  rw [hplanned.wordCount_eq, hmode, Shape.primitiveCount]
  rfl

theorem Planned.wordCount_of_single (hplanned : layout.Planned)
    (hmode : layout.mode = .single) : layout.wordCount = 0 := by
  rw [hplanned.wordCount_eq, hmode, List.countP_eq_zero]
  intro kind _
  exact Bool.false_ne_true

theorem slot?_lt {index : Nat} {slot : FieldSlot}
    (hslot : layout.slot? index = some slot) : index < layout.fieldCount :=
  (List.getElem?_eq_some_iff.mp hslot).1

end Layout

end ScriptHost
